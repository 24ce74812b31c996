/-
  RouteShortcuts.Proofs.Tools.Shown — the configuration that is shown, and the options of a scan.

  `get_config` shows the configuration of a project as it was loaded; a scan goes by the options that
  follow from it. The two are loaded by different texts for the root, which lead to one configuration.
  Whatever the server did before, a scan of the project is a pass of one session (`RunsWith`), and its
  options are those that follow from the configuration that is shown.

  An empty icon path or function name is shown as it is, but stands for the default. So what is
  shown are the options (`Shows`) exactly if neither is empty (`shows_iff`).

  Proved of every run of events:
  - `shown_config_iff`: the configuration is not shown exactly if a scan fails for its
    configuration, and with the same fault; else the scan has options, and they are what is shown
    exactly if no text is empty.
  - `an_empty_function_name_is_shown`: a run in which they are not.
-/

import RouteShortcuts.Proofs.Tools.Fresh

namespace RouteShortcuts

/-! ## Options -/

/-- The settings of a configuration are the options. -/
structure Shows (c : Config) (o : Options) : Prop where
  routeFiles : c.routeFiles = o.routeFiles
  defaultIcon : c.defaultIcon = o.defaultIcon
  iconSizes : c.iconSizes = o.iconSizes
  functionName : c.functionName = o.functionName
  routeExportPattern : SearchPattern.compile c.routeExportPattern = .ok o.routeExportPattern

theorem orDefault_eq_iff {value fallback : String} (h : fallback ≠ "") :
    value = orDefault value fallback ↔ value ≠ "" := by
  unfold orDefault
  by_cases hv : value = ""
  · rw [if_pos hv, hv]
    exact iff_of_false h.symm (fun hne => hne rfl)
  · rw [if_neg hv]
    exact iff_of_true rfl hv

/-- The options that follow from a configuration, one by one. -/
theorem resolve_ok {c : Config} {o : Options} (h : c.resolve = .ok o) :
    SearchPattern.compile c.routeExportPattern = .ok o.routeExportPattern ∧
      o = ⟨c.routeFiles, orDefault c.defaultIcon ({} : Config).defaultIcon, c.iconSizes,
        orDefault c.functionName ({} : Config).functionName, o.routeExportPattern⟩ := by
  unfold Config.resolve Config.exportPattern at h
  cases hp : SearchPattern.compile c.routeExportPattern with
  | error fault =>
    rw [hp] at h
    cases h
  | ok pattern =>
    rw [hp] at h
    cases h
    exact ⟨rfl, rfl⟩

/-- A configuration is its own options exactly if no text of it is empty that has a default. -/
theorem shows_iff {c : Config} {o : Options} (h : c.resolve = .ok o) :
    Shows c o ↔ c.defaultIcon ≠ "" ∧ c.functionName ≠ "" := by
  obtain ⟨hpattern, ho⟩ := resolve_ok h
  have hicon : c.defaultIcon = o.defaultIcon ↔ c.defaultIcon ≠ "" := by
    rw [ho]
    exact orDefault_eq_iff (by decide)
  have hname : c.functionName = o.functionName ↔ c.functionName ≠ "" := by
    rw [ho]
    exact orDefault_eq_iff (by decide)
  constructor
  · intro hs
    exact ⟨hicon.mp hs.defaultIcon, hname.mp hs.functionName⟩
  · rintro ⟨hi, hn⟩
    exact ⟨by rw [ho], hicon.mpr hi, by rw [ho], hname.mpr hn, hpattern⟩

namespace History

open RouteShortcuts.Files
open RouteShortcuts.Json (Value)

/-! ## Scans -/

/-- Does a call fail for the configuration of its project? -/
def ofConfig : ToolFault → Bool
  | .settings _ | .config _ => true
  | .scan _ => false

/-- A scan of a project is a pass of a session with these options. -/
def RunsWith (w : World) (root : String) (o : Options) : Prop :=
  ∃ (config : Config) (s : Session), s.options = o ∧
    w.workspace.detectShortcuts w.disk root = ((s.rescan w.disk).1.mapError .scan,
      w.workspace.put ⟨Workspace.rootOf w.disk root, config, (s.rescan w.disk).2⟩)

/-- The session that is left says which options they were. -/
theorem runsWith_unique {w : World} {root : String} {o o' : Options} (h : RunsWith w root o)
    (h' : RunsWith w root o') : o = o' := by
  obtain ⟨config, s, rfl, hd⟩ := h
  obtain ⟨config', s', rfl, hd'⟩ := h'
  have hput := (Prod.mk.inj (hd.symm.trans hd')).2
  have hprojects := congrArg Workspace.projects hput
  simp only [Workspace.put, List.cons.injEq, Project.mk.injEq] at hprojects
  rw [← (rescan_keeps w.disk s).2, ← (rescan_keeps w.disk s').2, hprojects.1.2.2]

theorem getConfig_call (w : World) (root : String) : (w.workspace.call w.disk .getConfig root).1 =
    match Settings.load w.disk root with
    | .ok loaded => .ok (Workspace.configValue loaded)
    | .error fault => .error (.settings fault) := by
  unfold Workspace.call Workspace.getConfig
  cases Settings.load w.disk root <;> rfl

theorem detect_call (w : World) (root : String) : (w.workspace.call w.disk .detectShortcuts root).1 =
    (w.workspace.detectShortcuts w.disk root).1.map Snapshot.toValue := by
  unfold Workspace.call
  dsimp only

/-- A scan that has options fails for the files alone. -/
theorem RunsWith.scan_fault {w : World} {root : String} {o : Options} (h : RunsWith w root o)
    {fault : ToolFault} (hf : (w.workspace.call w.disk .detectShortcuts root).1 = .error fault) :
    ofConfig fault = false := by
  obtain ⟨config, s, -, hd⟩ := h
  rw [detect_call, hd] at hf
  cases hr : (s.rescan w.disk).1 with
  | ok snapshot =>
    rw [hr] at hf
    cases hf
  | error fault' =>
    rw [hr] at hf
    cases hf
    rfl

/-- The configuration that the project has decides: a scan fails for it, or has the options that
follow from it. -/
theorem scan_follows {w : World} {root : String} (hr : Remembered w (Workspace.rootOf w.disk root))
    (ht : Told w (Workspace.rootOf w.disk root)) (hs : w.disk.top.sound = true) :
    (∃ fault, Settings.load w.disk root = .error fault ∧
      (w.workspace.call w.disk .detectShortcuts root).1 = .error (.settings fault)) ∨
    ∃ loaded o, Settings.load w.disk root = .ok loaded ∧ loaded.config.resolve = .ok o ∧
      RunsWith w root o := by
  have hsession := detect_session hr ht
  rw [load_rootOf hs] at hsession
  rcases hsession with ⟨fault, hl, hd⟩ | ⟨loaded, s, hl, -, ho, -, hd⟩
  · exact Or.inl ⟨fault, hl, by rw [detect_call, hd]; rfl⟩
  · exact Or.inr ⟨loaded, s.options, hl, ho, loaded.config, s, rfl, hd⟩

/-- Whatever happened before: the configuration of a project is not shown exactly if a scan of it
fails for its configuration, with the same fault. If it is shown, a scan has options, and the
settings that are shown are these options exactly if the icon path and the function name are not
empty. -/
theorem shown_config_iff (d : Disk) (es : List Ev) (root : String)
    (hs : (run d es).disk.top.sound = true) :
    let w := run d es
    let shown := (w.workspace.call w.disk .getConfig root).1
    (∀ fault, shown = .error fault ↔
      ofConfig fault = true ∧ (w.workspace.call w.disk .detectShortcuts root).1 = .error fault) ∧
    ∀ loaded, Settings.load w.disk root = .ok loaded →
      shown = .ok (Workspace.configValue loaded) ∧ (∃ o, RunsWith w root o) ∧
        ∀ o, RunsWith w root o → (Shows loaded.config o ↔ loaded.config.defaultIcon ≠ "" ∧
            loaded.config.functionName ≠ "") := by
  intro w shown
  have hshown : shown = _ := getConfig_call w root
  rw [hshown]
  rcases scan_follows (run_remembered d es (Workspace.rootOf w.disk root)) (run_told d es _) hs with
    ⟨fault, hl, hd⟩ | ⟨loaded, o, hl, ho, hruns⟩
  · rw [hl, hd]
    refine ⟨fun f => ?_, fun loaded h => by cases h⟩
    constructor
    · intro h
      cases h
      exact ⟨rfl, rfl⟩
    · rintro ⟨-, h⟩
      cases h
      rfl
  · rw [hl]
    refine ⟨fun f => ?_, ?_⟩
    · refine iff_of_false (fun h => by cases h) ?_
      rintro ⟨hf, hd⟩
      rw [hruns.scan_fault hd] at hf
      cases hf
    · intro loaded' h
      cases h
      refine ⟨rfl, ⟨o, hruns⟩, fun o' h => ?_⟩
      rw [runsWith_unique h hruns]
      exact shows_iff ho

/-- After a scan with another configuration, the new one is shown and scanned with. -/
theorem a_new_configuration_is_shown :
    ∃ o, RunsWith (run (projectDisk []) scanThenConfigure) "/p" o ∧ Shows { iconSizes := [] } o := by
  have hs : (run (projectDisk []) scanThenConfigure).disk.top.sound = true := by decide +kernel
  have hload : (Settings.load (run (projectDisk []) scanThenConfigure).disk "/p").toOption =
      some ⟨{ iconSizes := [] }, true⟩ := by
    decide +kernel
  cases hl : Settings.load (run (projectDisk []) scanThenConfigure).disk "/p" with
  | error fault =>
    rw [hl] at hload
    cases hload
  | ok loaded =>
    rw [hl] at hload
    cases hload
    obtain ⟨-, ⟨o, ho⟩, hshows⟩ := (shown_config_iff (projectDisk []) scanThenConfigure "/p" hs).2 _ hl
    exact ⟨o, ho, (hshows o ho).mpr (by decide)⟩

/-- A project whose configuration has an empty function name. -/
def namelessDisk : Disk :=
  projectDisk [(".shortcutsrc.json", .file "\x7b\x22functionName\x22:\x22\x22\x7d".toUTF8)]

/-- The empty name is shown, and a scan goes by the default. -/
theorem an_empty_function_name_is_shown :
    (Workspace.getConfig namelessDisk "/p").toOption.map (·.config.functionName) = some "" ∧
      ((({} : Workspace).detectShortcuts namelessDisk "/p").2.find? "/p").map
        (·.session.options.functionName) = some "createShortcutRoute" := by
  decide +kernel

end History
end RouteShortcuts
