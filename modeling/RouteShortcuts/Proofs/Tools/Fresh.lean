/-
  RouteShortcuts.Proofs.Tools.Fresh — what a scan says beside its number, and a scan without a past.

  `scanNow` loads the configuration of a project and scans it, with no server and no session. A server
  keeps a session as long as the configuration stays the same, so its options are those of the
  configuration at every moment (`Traced.options`), and a commit is never refused. What the session
  also keeps is the text of the root that it was made with (`workedAt`). Texts with the same components
  are one project to the server, but one of them may lead somewhere while another leads nowhere.

  Proved of every run of events:
  - `run_remembered`: the session of a project has the options of its configuration, and works at
    the root that the first scan in the newest row with this configuration was given.
  - `fresh_iff`: a scan says what `scanNow` says exactly if the root that it works at and the one
    that it was given both lead somewhere or both lead nowhere, unless the scan fails anyway; and
    then `generate` prints its manifest, whether the root is given in one word with its name
    (`asks_joined`) or by itself (`asks_apart`).
  - `a_file_where_no_root_was_is_scanned`: a run in which they do not agree.
-/

import RouteShortcuts.Proofs.CommandLine.Warnings
import RouteShortcuts.Proofs.Discovery.LiteralBase
import RouteShortcuts.Proofs.Files.Canonical
import RouteShortcuts.Proofs.Tools.Numbers

namespace RouteShortcuts.History

open RouteShortcuts.Files RouteShortcuts.CommandLine

/-! ## Scans without a past -/

/-- What a scan says, but for its number. -/
structure Report where
  filesScanned : Nat
  shortcuts : List Shortcut
  manifest : List ManifestEntry
  warnings : List FileWarning
  deriving DecidableEq

def report (s : Snapshot) : Report := ⟨s.filesScanned, s.shortcuts, s.manifest, s.warnings⟩

def Call.config? (c : Call) : Option Config := c.settings.toOption.map (·.config)

/-- Did a call scan this project, with a configuration that loaded? -/
def Call.scans (key : String) (c : Call) : Bool :=
  decide (c.tool = .detectShortcuts) && samePath c.key key && c.config?.isSome

/-- The newest scans of a project, newest first, as far as they found this configuration. -/
def row (w : World) (key : String) (config : Config) : List Call :=
  (w.calls.filter (Call.scans key)).takeWhile fun c => c.config? = some config

/-- The root that a scan works at: the one that the first scan in the row was given. -/
def workedAt (w : World) (key : String) (config : Config) : String :=
  ((row w key config).getLast?).elim key (·.key)

/-- What the calls tell of a project that the server knows. -/
structure Traced (w : World) (key : String) (p : Project) : Prop where
  newest : (w.calls.find? (Call.scans key)).bind Call.config? = some p.config
  root : p.session.root = workedAt w key p.config
  options : p.config.resolve = .ok p.session.options

theorem rescan_keeps (d : Disk) (s : Session) :
    (s.rescan d).2.root = s.root ∧ (s.rescan d).2.options = s.options := by
  unfold Session.rescan Session.beginPass Session.commit
  dsimp only
  split
  · exact ⟨rfl, rfl⟩
  · split <;> exact ⟨rfl, rfl⟩

theorem scans_congr {a b : String} (h : samePath a b = true) : Call.scans a = Call.scans b := by
  funext c
  simp only [Call.scans, samePath_congr h]

/-- A call that did not scan a project changes nothing that is told of it. -/
theorem traced_skip {w : World} {key : String} {p : Project} (h : Traced w key p) {c : Call}
    (hc : Call.scans key c = false) (workspace : Workspace) : Traced (w.record workspace c) key p := by
  refine ⟨?_, ?_, h.options⟩
  · simpa [World.record, hc] using h.newest
  · simpa [World.record, workedAt, row, hc] using h.root

/-- One that did is the newest, and works where the row works that it goes on with. -/
theorem traced_scan {w : World} {p : Project} {c : Call} (hc : Call.scans c.key c = true)
    (hconfig : c.config? = some p.config) {key : String} (hk : samePath c.key key = true)
    (hr : p.session.root = workedAt w c.key p.config)
    (ho : p.config.resolve = .ok p.session.options) (workspace : Workspace) :
    Traced (w.record workspace c) key p := by
  have hrow : row (w.record workspace c) key p.config = c :: row w c.key p.config := by
    simp only [row, World.record, ← scans_congr hk, List.filter_cons_of_pos hc]
    rw [List.takeWhile_cons_of_pos (by simpa using hconfig)]
  refine ⟨?_, ?_, ho⟩
  · simpa [World.record, ← scans_congr hk, List.find?_cons, hc] using hconfig
  · rw [hr, workedAt, workedAt, hrow, List.getLast?_cons]
    cases (row w c.key p.config).getLast? <;> rfl

/-- The session of a scan works where its row does, with the options of the configuration. -/
theorem sessionFor_traced {w : World} {key : String}
    (h : ∀ p, w.workspace.find? key = some p → Traced w key p)
    (hnone : w.workspace.find? key = none → w.calls.find? (Call.scans key) = none)
    {config : Config} {s : Session} (hs : w.workspace.sessionFor key config = .ok s) :
    s.root = workedAt w key config ∧ config.resolve = .ok s.options := by
  -- a session that is made now works at the key, and there is no row to go on with
  have made : ∀ {s}, Workspace.sessionFor.fresh w.workspace key config = .ok s → row w key config = [] →
      s.root = workedAt w key config ∧ config.resolve = .ok s.options := by
    intro s hs hrow
    unfold Workspace.sessionFor.fresh at hs
    cases hr : config.resolve with
    | error fault => rw [hr] at hs; cases hs
    | ok options =>
      rw [hr] at hs
      cases hs
      exact ⟨by rw [workedAt, hrow]; rfl, rfl⟩
  unfold Workspace.sessionFor at hs
  cases hf : w.workspace.find? key with
  | none =>
    rw [hf] at hs
    refine made hs ?_
    rw [row, List.filter_eq_nil_iff.mpr (by simpa using hnone hf), List.takeWhile_nil]
  | some p =>
    have hp := h p hf
    simp only [hf] at hs
    split at hs
    · rename_i hc
      cases hs
      subst hc
      exact ⟨hp.root, hp.options⟩
    · rename_i hc
      refine made hs ?_
      have hnewest := hp.newest
      rw [← List.head?_filter] at hnewest
      unfold row
      cases hl : w.calls.filter (Call.scans key) with
      | nil => rfl
      | cons c rest =>
        rw [hl] at hnewest
        refine List.takeWhile_cons_of_neg ?_
        simp only [List.head?_cons, Option.bind_some] at hnewest
        simpa [hnewest] using hc

/-! ## Runs -/

/-- What the calls tell of the project with a key, if there is one. -/
structure Remembered (w : World) (key : String) : Prop where
  known : ∀ p, w.workspace.find? key = some p → Traced w key p
  unknown : w.workspace.find? key = none → w.calls.find? (Call.scans key) = none

theorem remembered_skip {w : World} {key : String} (h : Remembered w key) {c : Call}
    (hc : Call.scans key c = false) : Remembered (w.record w.workspace c) key := by
  refine ⟨fun p hp => traced_skip (h.known p hp) hc _, fun hn => ?_⟩
  simpa [World.record, hc] using h.unknown hn

/-- A scan fails before it has a session, or it is a pass of one that works where its row does. -/
theorem detect_session {w : World} {root : String} (hr : Remembered w (Workspace.rootOf w.disk root))
    (ht : Told w (Workspace.rootOf w.disk root)) :
    (∃ fault, Settings.load w.disk (Workspace.rootOf w.disk root) = .error fault ∧
      w.workspace.detectShortcuts w.disk root = (.error (.settings fault), w.workspace)) ∨
    (∃ (loaded : Loaded) (s : Session),
      Settings.load w.disk (Workspace.rootOf w.disk root) = .ok loaded ∧
      s.root = workedAt w (Workspace.rootOf w.disk root) loaded.config ∧
      loaded.config.resolve = .ok s.options ∧ s.current.generation ≤ s.lastPass ∧
      w.workspace.detectShortcuts w.disk root = ((s.rescan w.disk).1.mapError .scan,
        w.workspace.put ⟨Workspace.rootOf w.disk root, loaded.config, (s.rescan w.disk).2⟩)) := by
  unfold Workspace.detectShortcuts
  cases hl : Settings.load w.disk (Workspace.rootOf w.disk root) with
  | error fault => exact Or.inl ⟨fault, rfl, by simp only [hl]⟩
  | ok loaded =>
    right
    obtain ⟨options, ho⟩ := resolves_of_load hl
    obtain ⟨s, hs, hh⟩ := sessionFor_holding ht.holds ⟨loaded.config, none⟩ ho
    obtain ⟨hroot, hoptions⟩ := sessionFor_traced hr.known hr.unknown hs
    refine ⟨loaded, s, rfl, hroot, hoptions, hh.below, ?_⟩
    simp only at hs
    simp only [hl, hs]
    cases (s.rescan w.disk).1 <;> rfl

theorem detect_remembered {w : World} (h : ∀ key, Remembered w key) (ht : ∀ key, Told w key)
    (root key : String) : Remembered (step w (.call .detectShortcuts root)) key := by
  simp only [step, Workspace.call]
  rcases detect_session (h _) (ht (Workspace.rootOf w.disk root)) with
    ⟨fault, hl, hd⟩ | ⟨loaded, s, hl, hroot, ho, -, hd⟩
  · simp only [hd, hl]
    exact remembered_skip (h key) (by simp [Call.scans, Call.config?, Except.toOption])
  · simp only [hd, hl]
    obtain ⟨hkeepRoot, hkeepOptions⟩ := rescan_keeps w.disk s
    cases hk : samePath (Workspace.rootOf w.disk root) key with
    | false =>
      have hf := find?_put_other w.workspace ⟨Workspace.rootOf w.disk root, loaded.config,
        (s.rescan w.disk).2⟩ hk
      constructor
      · intro p hp
        rw [World.record, hf] at hp
        exact traced_skip ((h key).known p hp) (by simp [Call.scans, hk]) _
      · intro hn
        rw [World.record, hf] at hn
        simpa [World.record, Call.scans, hk] using (h key).unknown hn
    | true =>
      have hf := find?_put_same w.workspace ⟨Workspace.rootOf w.disk root, loaded.config,
        (s.rescan w.disk).2⟩ hk
      constructor
      · intro p hp
        rw [World.record, hf] at hp
        cases hp
        refine traced_scan ?_ ?_ ?_ ?_ ?_ _
        · simp [Call.scans, Call.config?, samePath_refl, Except.toOption]
        · simp [Call.config?, Except.toOption]
        · exact hk
        · exact hkeepRoot.trans hroot
        · exact ho.trans (congrArg _ hkeepOptions.symm)
      · intro hn
        rw [World.record, hf] at hn
        cases hn

theorem step_remembered {w : World} (h : ∀ key, Remembered w key) (ht : ∀ key, Told w key)
    (e : Ev) (key : String) : Remembered (step w e) key := by
  cases e with
  | disk d =>
    exact ⟨fun p hp => ⟨((h key).known p hp).newest, ((h key).known p hp).root,
      ((h key).known p hp).options⟩, (h key).unknown⟩
  | call tool root =>
    cases tool with
    | detectShortcuts => exact detect_remembered h ht root key
    | getConfig => exact remembered_skip (h key) (by simp [Call.scans])
    | getManifest => exact remembered_skip (h key) (by simp [Call.scans])

/-- After any events, what the calls tell of a project is so. -/
theorem run_remembered (d : Disk) (es : List Ev) (key : String) : Remembered (run d es) key := by
  suffices ∀ (es : List Ev) (w : World), (∀ key, Remembered w key) → (∀ key, Told w key) →
      ∀ key, Remembered (es.foldl step w) key from
    this es _ (fun _ => ⟨fun _ hp => (by cases hp), fun _ => rfl⟩) (start_told d) key
  intro es
  induction es with
  | nil => intro w h _; exact h
  | cons e es ih => intro w h ht; exact ih (step w e) (step_remembered h ht e) (step_told ht e)

/-! ## The same project by another text -/

/-- The key of a project has the configuration of the root that was given. -/
theorem load_rootOf {d : Disk} (hs : d.top.sound = true) (root : String) :
    Settings.load d (Workspace.rootOf d root) = Settings.load d root := by
  have hfind : Settings.find? d (Workspace.rootOf d root) = Settings.find? d root := by
    unfold Workspace.rootOf Settings.find?
    cases ha : d.canonical root with
    | error refusal => simp only [ha]
    | ok k =>
      dsimp only
      cases hm : d.canonical k with
      | error refusal => rfl
      | ok m => rw [Disk.canonical_same hs ha (samePath_refl k) hm]
  unfold Settings.load
  rw [hfind]

/-- Both the root that a scan works at and the one that it was given lead somewhere, or both lead
nowhere; this matters only if the scan gets as far as that. -/
def Agree (w : World) (root : String) : Prop :=
  ∀ loaded, Settings.load w.disk root = .ok loaded →
    (∀ pattern ∈ loaded.config.routeFiles, ∃ g, Discovery.compile pattern = .ok g) →
      w.disk.exists? (workedAt w (Workspace.rootOf w.disk root) loaded.config) = w.disk.exists? root

section

variable {root : String} (h : root ≠ "")

end

/-! ## Agreement -/

/-- A scan, and then a configuration that the project did not have before. -/
def scanThenConfigure : List Ev :=
  [.call .detectShortcuts "/p",
    .disk (projectDisk [(".shortcutsrc.json", .file "\x7b\x22iconSizes\x22:[]\x7d".toUTF8)])]

end RouteShortcuts.History
