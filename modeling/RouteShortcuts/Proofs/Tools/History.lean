/-
  RouteShortcuts.Proofs.Tools.History — what has happened to a server, and what it holds of it.

  Between calls the disk may become any other (`disk`); a call of a tool (`call`) works on the disk
  as it is then. `calls` records every call, newest first, with the key of its project (the root by
  which the server knows it), the configuration that the project had, and the answer.

  A call for a scan whose project has a configuration begins a pass: an `Attempt`. The attempts with
  one key are the history of one project. Attempts in a row that found one configuration share a
  session; the first that finds another one replaces the session. The new session starts its numbers
  from the number of the result that the old one held, which is 0 if it held none (`begun`), and it
  holds nothing itself (`held`).

  Proved of every run of events (`run_told`): what the server holds for a key is told by the attempts
  with that key, and every scan that succeeds carries the number that they tell.
-/

import RouteShortcuts.Proofs.Files.Path
import RouteShortcuts.Tools

namespace RouteShortcuts.History

open RouteShortcuts.Files
open RouteShortcuts.Json (Value)

/-! ## Runs -/

structure Call where
  tool : Tool
  key : String
  settings : Except SettingsFault Loaded
  answer : Except ToolFault Value

structure World where
  disk : Disk
  workspace : Workspace := {}
  /-- Newest first. -/
  calls : List Call := []

inductive Ev where
  | disk (d : Disk)
  | call (tool : Tool) (root : String)

/-- After a call that left the server with `workspace`. -/
def World.record (w : World) (workspace : Workspace) (c : Call) : World :=
  { w with workspace, calls := c :: w.calls }

def step (w : World) : Ev → World
  | .disk d => { w with disk := d }
  | .call tool root =>
    let key := Workspace.rootOf w.disk root
    let (answer, workspace) := w.workspace.call w.disk tool root
    w.record workspace ⟨tool, key, Settings.load w.disk key, answer⟩

/-- A server that has just started, and then some events. -/
def run (d : Disk) (es : List Ev) : World := es.foldl step { disk := d }

/-! ## The history of a project -/

/-- A call that began a pass: the configuration that it found, and what it answered if it succeeded. -/
structure Attempt where
  config : Config
  reply : Option Value

def attemptOf? (key : String) (c : Call) : Option Attempt :=
  if c.tool = .detectShortcuts ∧ samePath c.key key then
    c.settings.toOption.map fun loaded => ⟨loaded.config, c.answer.toOption⟩
  else none

/-- The attempts with a key, newest first. -/
def attempts (key : String) (w : World) : List Attempt := w.calls.filterMap (attemptOf? key)

/-- The number that an answer carries. -/
def number (v : Value) : Nat :=
  match v.get? "generation" with
  | some (.number (.whole n)) => n.toNat
  | _ => 0

/-- Does an attempt find the configuration of the one before it? -/
def goesOn (a : Attempt) : List Attempt → Bool
  | [] => false
  | b :: _ => decide (a.config = b.config)

/-- The answer whose result is held after some attempts. -/
def held : List Attempt → Option Value
  | [] => none
  | a :: past =>
    match a.reply with
    | some v => some v
    | none => if goesOn a past then held past else none

def heldNumber (past : List Attempt) : Nat := ((held past).map number).getD 0

/-- The number of the newest pass. -/
def begun : List Attempt → Nat
  | [] => 0
  | a :: past => (if goesOn a past then begun past else heldNumber past) + 1

/-- Every attempt that succeeded carries the number of its pass. -/
def Numbered : List Attempt → Prop
  | [] => True
  | a :: past => (∀ v, a.reply = some v → number v = begun (a :: past)) ∧ Numbered past

/-! ## Keys -/

theorem find?_put_same (w : Workspace) (p : Project) {key : String} (h : samePath p.root key = true) :
    (w.put p).find? key = some p := by
  simp [Workspace.find?, Workspace.put, h]

theorem find?_put_other (w : Workspace) (p : Project) {key : String} (h : samePath p.root key = false) :
    (w.put p).find? key = w.find? key := by
  simp only [Workspace.find?, Workspace.put, List.find?_cons, h, List.find?_filter]
  congr 1
  funext q
  by_cases hq : samePath q.root p.root = true
  · have : samePath q.root key = false := by
      rw [← h, Bool.eq_iff_iff, samePath_iff, samePath_iff, samePath_iff.mp hq]
    simp [hq, this]
  · simp [hq]

/-! ## One pass of a session -/

/-- A session that began `n` passes and holds the result of `held`. -/
structure Holding (s : Session) (n : Nat) (held : Option Value) : Prop where
  passes : s.lastPass = n
  below : s.current.generation ≤ s.lastPass
  result : held = if s.current.generation = 0 then none else some s.current.toValue
  empty : s.current.generation = 0 → s.current = {}

theorem Holding.heldNumber {s : Session} {n : Nat} {held : Option Value} (h : Holding s n held) :
    (held.map number).getD 0 = s.current.generation := by
  rw [h.result]
  split
  · rename_i h0; simp [h0]
  · rfl

/-- A rescan uses up a number. If it fails what is held stays; if not, its result is held. -/
theorem rescan_holding {s : Session} {n : Nat} {held : Option Value} (h : Holding s n held) (d : Disk) :
    (∃ fault after, s.rescan d = (.error fault, after) ∧ Holding after (n + 1) held) ∨
      (∃ result after, s.rescan d = (.ok result, after) ∧ result.generation = n + 1 ∧
        Holding after (n + 1) (some result.toValue)) := by
  have hb := h.below
  have hp := h.passes
  unfold Session.rescan
  simp only [Session.beginPass]
  cases Scan.project d s.options s.root with
  | error fault =>
    exact Or.inl ⟨fault, _, rfl, congrArg (· + 1) hp, Nat.le_succ_of_le hb, h.result, h.empty⟩
  | ok outcome =>
    right
    -- the new number is above that of every result that may be held, so the commit is never refused
    have hc : ¬ s.lastPass + 1 ≤ s.current.generation := by omega
    refine ⟨Session.snapshot s (s.lastPass + 1) outcome,
      { s with lastPass := s.lastPass + 1, current := Session.snapshot s (s.lastPass + 1) outcome },
        ?_, ?_, ?_⟩
    · simp [Session.commit, Session.snapshot, hc]
    · exact congrArg (· + 1) hp
    · exact ⟨congrArg (· + 1) hp, Nat.le_refl _, rfl, fun h0 => by cases h0⟩

/-! ## The session of a call -/

/-- What the server knows of a project after some attempts. -/
structure Known (p : Project) (past : List Attempt) : Prop where
  config : past.head?.map (·.config) = some p.config
  holding : Holding p.session (begun past) (held past)

structure Holds (w : Workspace) (key : String) (past : List Attempt) : Prop where
  known : ∀ p, w.find? key = some p → Known p past
  unknown : w.find? key = none → past = []

theorem goesOn_iff {a : Attempt} {past : List Attempt} :
    goesOn a past = true ↔ past.head?.map (·.config) = some a.config := by
  cases past with
  | nil => simp [goesOn]
  | cons b past => simp [goesOn, eq_comm]

theorem default_resolves : ∃ options, ({} : Config).resolve = .ok options := by
  have h : ({} : Config).resolve.toOption.isSome = true := by decide +kernel
  cases hr : ({} : Config).resolve with
  | ok options => exact ⟨options, rfl⟩
  | error fault => rw [hr] at h; cases h

/-- A configuration that loads has an export pattern. -/
theorem resolves_of_load {d : Disk} {directory : String} {loaded : Loaded}
    (h : Settings.load d directory = .ok loaded) : ∃ options, loaded.config.resolve = .ok options := by
  unfold Settings.load at h
  split at h
  · cases h; exact default_resolves
  · split at h
    · cases h
    · split at h
      · cases h
      · rename_i config _
        split at h
        · cases h
        · rename_i pattern hp
          cases h
          simp only [Config.resolve, hp]
          exact ⟨_, rfl⟩

/-- The session of a call: that of the attempts before it, or one that starts from what they hold. -/
theorem sessionFor_holding {w : Workspace} {key : String} {past : List Attempt} (h : Holds w key past)
    (a : Attempt) {options : Options} (hr : a.config.resolve = .ok options) :
    ∃ s, w.sessionFor key a.config = .ok s ∧
      Holding s (if goesOn a past then begun past else heldNumber past)
      (if goesOn a past then held past else none) := by
  have fresh : goesOn a past = false → w.generation key = heldNumber past →
      Workspace.sessionFor.fresh w key a.config =
        .ok (({ root := key, options } : Session).startingAfter (heldNumber past)) ∧
      Holding (({ root := key, options } : Session).startingAfter (heldNumber past))
        (if goesOn a past then begun past else heldNumber past)
            (if goesOn a past then held past else none) := by
    intro hg hn
    refine ⟨?_, ?_⟩
    · simp only [Workspace.sessionFor.fresh, hr, hn]; rfl
    · simp only [hg]; exact ⟨rfl, Nat.zero_le _, rfl, fun _ => rfl⟩
  unfold Workspace.sessionFor
  cases hf : w.find? key with
  | none =>
    have hn := h.unknown hf
    subst hn
    exact ⟨_, fresh rfl (by simp [Workspace.generation, hf, heldNumber, held])⟩
  | some p =>
    have hk := h.known p hf
    have hg : goesOn a past = true ↔ p.config = a.config := by
      rw [goesOn_iff, hk.config]; exact Option.some_inj
    by_cases hc : p.config = a.config
    · simp only [hc, if_true, hg.mpr hc]
      exact ⟨p.session, rfl, hk.holding⟩
    · simp only [hc, if_false]
      refine ⟨_, fresh (by simpa [hc] using hg) ?_⟩
      simp only [Workspace.generation, hf]
      exact hk.holding.heldNumber.symm

/-! ## Calls -/

theorem holds_put_other {w : Workspace} {p : Project} {key : String} {past : List Attempt}
    (h : Holds w key past) (hk : samePath p.root key = false) : Holds (w.put p) key past :=
  ⟨by rw [find?_put_other w p hk]; exact h.known, by rw [find?_put_other w p hk]; exact h.unknown⟩

theorem holds_put_same {w : Workspace} {p : Project} {key : String} {past : List Attempt}
    (hk : samePath p.root key = true) (h : Known p past) : Holds (w.put p) key past := by
  refine ⟨fun q hq => ?_, fun hn => ?_⟩
  · rw [find?_put_same w p hk] at hq; cases hq; exact h
  · rw [find?_put_same w p hk] at hn; cases hn

/-- A scan fails before it has a session, or it is an attempt that does what the history tells. -/
theorem detect_cases {d : Disk} {w : Workspace} {root : String} {past : List Attempt}
    (h : Holds w (Workspace.rootOf d root) past) :
    (∃ fault, Settings.load d (Workspace.rootOf d root) = .error fault ∧
      w.detectShortcuts d root = (.error (.settings fault), w)) ∨
    (∃ loaded p reply, Settings.load d (Workspace.rootOf d root) = .ok loaded ∧
      w.detectShortcuts d root = (reply, w.put p) ∧ p.root = Workspace.rootOf d root ∧
      Known p (⟨loaded.config, (reply.map Snapshot.toValue).toOption⟩ :: past) ∧
      ∀ r, reply = .ok r → r.generation = begun (⟨loaded.config, some r.toValue⟩ :: past)) := by
  unfold Workspace.detectShortcuts
  cases hl : Settings.load d (Workspace.rootOf d root) with
  | error fault => exact Or.inl ⟨fault, rfl, by simp only [hl]⟩
  | ok loaded =>
    right
    obtain ⟨options, ho⟩ := resolves_of_load hl
    obtain ⟨s, hs, hh⟩ := sessionFor_holding h ⟨loaded.config, none⟩ ho
    simp only at hs
    rcases rescan_holding hh d with ⟨fault, after, hr, ha⟩ | ⟨result, after, hr, hg, ha⟩
    · refine ⟨loaded, ⟨Workspace.rootOf d root, loaded.config, after⟩, .error (.scan fault),
        rfl, ?_, rfl, ?_, ?_⟩
      · simp only [hl, hs, hr]
      · exact ⟨rfl, ha⟩
      · intro r hr; cases hr
    · refine ⟨loaded, ⟨Workspace.rootOf d root, loaded.config, after⟩, .ok result, rfl, ?_, rfl, ?_, ?_⟩
      · simp only [hl, hs, hr]
      · exact ⟨rfl, ha⟩
      · intro r hr; cases hr; exact hg

/-- What the attempts with a key tell is so. -/
structure Told (w : World) (key : String) : Prop where
  holds : Holds w.workspace key (attempts key w)
  numbered : Numbered (attempts key w)

theorem attempts_record (key : String) (w : World) (workspace : Workspace) (c : Call) :
    attempts key (w.record workspace c) = (attemptOf? key c).toList ++ attempts key w := by
  simp only [attempts, World.record, List.filterMap_cons]
  cases attemptOf? key c <;> rfl

theorem attempts_congr {a b : String} (h : samePath a b = true) (w : World) :
    attempts a w = attempts b w := by
  unfold attempts
  congr 1
  funext c
  simp only [attemptOf?, samePath_congr h]

theorem told_skip {w : World} {key : String} (h : Told w key) {c : Call}
    (hc : attemptOf? key c = none) : Told (w.record w.workspace c) key := by
  refine ⟨?_, ?_⟩ <;> rw [attempts_record, hc]
  · exact h.holds
  · exact h.numbered

theorem told_other {w : World} {key : String} (h : Told w key) {c : Call} (hc : attemptOf? key c = none)
    {p : Project} (hp : samePath p.root key = false) : Told (w.record (w.workspace.put p) c) key := by
  refine ⟨?_, ?_⟩ <;> rw [attempts_record, hc]
  · exact holds_put_other h.holds hp
  · exact h.numbered

theorem told_attempt {w : World} {key : String} (h : Told w key) {c : Call} {a : Attempt}
    (hc : attemptOf? key c = some a) {p : Project} (hp : samePath p.root key = true)
    (hk : Known p (a :: attempts key w))
    (hn : ∀ v, a.reply = some v → number v = begun (a :: attempts key w)) :
    Told (w.record (w.workspace.put p) c) key := by
  refine ⟨?_, ?_⟩ <;> rw [attempts_record, hc]
  · exact holds_put_same hp hk
  · exact ⟨hn, h.numbered⟩

theorem detect_told {w : World} (h : ∀ key, Told w key) (root key : String) :
    Told (step w (.call .detectShortcuts root)) key := by
  have hk := h (Workspace.rootOf w.disk root)
  simp only [step, Workspace.call]
  rcases detect_cases hk.holds with ⟨fault, hl, hd⟩ | ⟨loaded, p, reply, hl, hd, hp, hknown, hnum⟩
  · simp only [hd, hl]
    exact told_skip (h key) (by simp [attemptOf?, Except.toOption])
  · simp only [hd, hl]
    cases hs : samePath p.root key with
    | false => exact told_other (h key) (by simp [attemptOf?, ← hp, hs]) hs
    | true =>
      rw [← hp, attempts_congr hs w] at hknown hnum
      refine told_attempt (h key) (by simp [attemptOf?, ← hp, hs, Except.toOption]) hs hknown ?_
      intro v hv
      cases reply with
      | error fault => cases hv
      | ok r => cases hv; exact hnum r rfl

theorem step_told {w : World} (h : ∀ key, Told w key) (e : Ev) (key : String) :
    Told (step w e) key := by
  cases e with
  | disk d => exact ⟨(h key).holds, (h key).numbered⟩
  | call tool root =>
    cases tool with
    | detectShortcuts => exact detect_told h root key
    | getConfig => exact told_skip (h key) (by simp [attemptOf?])
    | getManifest => exact told_skip (h key) (by simp [attemptOf?])

theorem start_told (d : Disk) (key : String) : Told { disk := d } key :=
  ⟨⟨fun _ hp => (by cases hp), fun _ => rfl⟩, trivial⟩

/-- After any events, what the attempts with a key tell is so. -/
theorem run_told (d : Disk) (es : List Ev) (key : String) : Told (run d es) key := by
  suffices ∀ (es : List Ev) (w : World), (∀ key, Told w key) → ∀ key, Told (es.foldl step w) key from
    this es _ (start_told d) key
  intro es
  induction es with
  | nil => intro w h; exact h
  | cons e es ih => intro w h; exact ih (step w e) (step_told h e)

end RouteShortcuts.History
