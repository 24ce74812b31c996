/-
  RouteShortcuts.Proofs.CommandLine.Priority — what the arguments, the configuration and the
  defaults have to say.

  A text is to be the first of the given, the configured and the default one that is not empty
  (`preferred`). But a given text takes the place of the configured one before anyone asks whether
  it is empty, so an empty one makes the run fall through to the default (`Skips`).

  Proved: `priority_iff`, for every configuration that is loaded and all arguments: the run has
  options; its patterns, icon sizes and export pattern are always those with priority, and its texts
  are exactly if no empty argument skips a text of the configuration.
  `an_empty_argument_skips_the_configuration` is a project where both do.
-/

import RouteShortcuts.CommandLine.Run
import RouteShortcuts.Proofs.Tools.Shown

namespace RouteShortcuts.CommandLine

open RouteShortcuts.Files

/-! ## Texts -/

/-- The given text if there is one that is not empty, else the configured one, else the default. -/
def preferred (given : Option String) (configured fallback : String) : String :=
  orDefault (given.getD "") (orDefault configured fallback)

/-- An empty text is given in the place of a configured one, which is neither empty nor the default. -/
def Skips (given : Option String) (configured fallback : String) : Prop :=
  given = some "" ∧ configured ≠ "" ∧ configured ≠ fallback

instance (given : Option String)
    (configured fallback : String) : Decidable (Skips given configured fallback) :=
  inferInstanceAs (Decidable (_ ∧ _))

theorem orDefault_empty (fallback : String) : orDefault "" fallback = fallback := if_pos rfl

theorem orDefault_text {text : String} (h : text ≠ "") (fallback : String) :
    orDefault text fallback = text := if_neg h

/-- The text that is used is the preferred one, unless the given one skips the configured one. -/
theorem used_iff {given : Option String} {configured fallback : String} :
    orDefault (given.getD configured) fallback = preferred given configured fallback ↔
    ¬ Skips given configured fallback := by
  cases given with
  | none => simp [preferred, Skips, orDefault_empty]
  | some text =>
    by_cases htext : text = ""
    · subst htext
      by_cases hconfigured : configured = ""
      · simp [preferred, Skips, orDefault_empty, hconfigured]
      · simp [preferred, Skips, orDefault_empty, orDefault_text, hconfigured, eq_comm]
    · simp [preferred, Skips, orDefault_text htext, htext]

/-! ## Options -/

/-- The function name and the icon that have priority. -/
structure Prioritized (a : ScanArguments) (c : Config) (o : Options) : Prop where
  functionName : o.functionName = preferred a.functionName c.functionName ({} : Config).functionName
  defaultIcon : o.defaultIcon = preferred a.defaultIcon c.defaultIcon ({} : Config).defaultIcon

/-- Given patterns go before those of the configuration, which has the only word on the rest. -/
structure Configured (a : ScanArguments) (c : Config) (o : Options) : Prop where
  routeFiles : o.routeFiles = if a.routeFiles = [] then c.routeFiles else a.routeFiles
  iconSizes : o.iconSizes = c.iconSizes
  routeExportPattern : c.exportPattern = .ok o.routeExportPattern

theorem resolve_of_pattern {c : Config} {pattern : SearchPattern} (h : c.exportPattern = .ok pattern) :
    c.resolve = .ok ⟨c.routeFiles, orDefault c.defaultIcon ({} : Config).defaultIcon, c.iconSizes,
      orDefault c.functionName ({} : Config).functionName, pattern⟩ := by
  rw [Config.resolve, h]
  rfl

/-- The options of a run are those of the configuration with what the arguments say. -/
theorem options_of_load {d : Disk} {a : ScanArguments} {loaded : Loaded}
    (h : Settings.load d a.rootPath = .ok loaded) {o : Options}
    (ho : (a.override loaded.config).resolve = .ok o) : (a.options d).2 = .ok o := by
  unfold ScanArguments.options
  rw [h]
  dsimp only
  rw [ho]

/-- The options of a run whose configuration is loaded. They have the documented priority exactly if
neither the function name nor the icon is given as an empty text that skips one of the
configuration. -/
theorem priority_iff {d : Disk} {a : ScanArguments} {loaded : Loaded}
    (h : Settings.load d a.rootPath = .ok loaded) :
    ∃ o, (a.options d).2 = .ok o ∧ Configured a loaded.config o ∧
      (Prioritized a loaded.config o ↔
        ¬ Skips a.functionName loaded.config.functionName ({} : Config).functionName ∧
        ¬ Skips a.defaultIcon loaded.config.defaultIcon ({} : Config).defaultIcon) := by
  obtain ⟨o, ho⟩ := History.resolves_of_load h
  have hpattern : loaded.config.exportPattern = .ok o.routeExportPattern := by
    rw [Config.exportPattern, (resolve_ok ho).1]
  refine ⟨_, options_of_load h (resolve_of_pattern (c := a.override loaded.config) hpattern),
    ⟨?_, rfl, hpattern⟩, ?_⟩
  · simp [ScanArguments.override]
  · rw [← used_iff, ← used_iff]
    exact ⟨fun hp => ⟨hp.functionName, hp.defaultIcon⟩, fun hp => ⟨hp.1, hp.2⟩⟩

/-- A project that sets both texts. -/
def textsDisk : Disk :=
  { top := .directory [(Settings.fileName,
    .file "\x7b\"functionName\": \"f\", \"defaultIcon\": \"/i.png\"\x7d".toUTF8)] }

theorem loaded_texts :
    Settings.load textsDisk "." = .ok ⟨{ functionName := "f", defaultIcon := "/i.png" }, true⟩ := by
  have h : (Settings.load textsDisk ".").toOption =
    some ⟨{ functionName := "f", defaultIcon := "/i.png" }, true⟩ := by decide +kernel
  cases hl : Settings.load textsDisk "." with
  | error fault =>
    rw [hl] at h
    cases h
  | ok loaded =>
    rw [hl] at h
    exact congrArg _ (Option.some.inj h)

/-- A name that is given goes before the configured one, and the configured icon before the default. -/
theorem a_given_name_has_priority :
    ∃ o, (ScanArguments.options textsDisk { functionName := some "g" }).2 = .ok o ∧
    o.functionName = "g" ∧ o.defaultIcon = "/i.png" := by
  obtain ⟨o, ho, -, hpriority⟩ := priority_iff (a := { functionName := some "g" }) loaded_texts
  obtain ⟨hname, hicon⟩ := hpriority.mpr ⟨by decide, by decide⟩
  exact ⟨o, ho, hname, hicon⟩

/-- With empty arguments the run goes by the defaults, though the configuration has texts of its own. -/
theorem an_empty_argument_skips_the_configuration :
    Invocation.ofArguments ["scan", "--function-name", "", "--default-icon", ""] =
      .ok (.scan { functionName := some "", defaultIcon := some "" }) ∧
    (Settings.load textsDisk ".").toOption =
      some ⟨{ functionName := "f", defaultIcon := "/i.png" }, true⟩ ∧
    (ScanArguments.options textsDisk { functionName := some "", defaultIcon := some "" }).2.toOption.map
      (fun o => (o.functionName, o.defaultIcon)) =
        some ("createShortcutRoute", "/icons/icon-192.png") := by
  decide +kernel

end RouteShortcuts.CommandLine
