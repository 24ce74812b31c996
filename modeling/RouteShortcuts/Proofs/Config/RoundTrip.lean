/-
  RouteShortcuts.Proofs.Config.RoundTrip — the text of a configuration says what the configuration is.

  A configuration is written with all its settings, each by name, and lists as lists. So nothing
  that the reader treats in a way of its own is ever met again: no default, and no pattern that
  stands alone for a list. Each setting is read to what it was (`reads_routeFiles`, `takes_string`,
  `takes_strings`), the settings one after another fill a draft (`folds_settings`), and the full
  draft is the configuration.

  Proved: `config_survives_its_text`, for every configuration and every text of one.
-/

import RouteShortcuts.Config
import RouteShortcuts.Proofs.Json.RoundTrip

namespace RouteShortcuts.Config

open RouteShortcuts.Json

theorem ofName?_name (k : Key) : Key.ofName? k.name = some k := by
  cases k <;> rfl

/-! ## Values -/

/-- A list of patterns is taken as it is, the empty pattern and the empty list too. -/
theorem routeFilesOf_strings (patterns : List String) :
    routeFilesOf (Value.strings patterns) = .ok patterns := by
  have hall : (Value.strings patterns).asList Value.asString = .ok patterns :=
    asList_map (f := Value.string) (fun _ => rfl) patterns
  unfold Value.strings at hall ⊢
  simp only [routeFilesOf, hall]

theorem fits_strings (depth : Nat) (texts : List String) : (Value.strings texts).Fits (depth + 1) := by
  intro v hv
  obtain ⟨text, -, rfl⟩ := List.mem_map.mp hv
  cases depth <;> exact trivial

/-! ## Settings -/

section
variable {d d' : Draft} {k : Key} {level : Nat}

/-- A setting that was not read yet, after its name. -/
theorem takes_readMember {cs t : List Char} (hnew : d.has k = false)
    (h : Takes (d.readValue k) cs t d') : Takes (d.readMember k.name) (':' :: cs) t d' := by
  unfold Draft.readMember
  rw [ofName?_name]
  simp only [hnew]
  exact (takes_colon cs).bind h

theorem takes_string_value (text : String) (t : List Char) :
    Takes Reader.string (' ' :: ((Value.string text).prettyChars level ++ t)) t text :=
  Takes.after_blanks (takes_string text t) blanks_blank

theorem takes_strings_value (texts : List String) (t : List Char) :
    Takes (Reader.list Reader.string) (' ' :: ((Value.strings texts).prettyChars level ++ t)) t texts :=
  Takes.after_blanks (takes_strings level texts t) blanks_blank

theorem takes_patterns (patterns : List String) (t : List Char) :
    Takes (d.readValue .routeFiles) (' ' :: ((Value.strings patterns).prettyChars level ++ t)) t
      { d with routeFiles := some patterns } := by
  have hvalue := takes_value (fits_strings 125 patterns) level t
  refine (hvalue.value_after_blanks blanks_blank).bind ?_
  rw [routeFilesOf_strings]
  exact takes_pure _ t

end

/-- The settings of a configuration, read one after another. -/
theorem folds_settings (c : Config) (level : Nat) :
    ∃ d : Draft, d.finish = c ∧ Folds Draft.readMember (Value.prettyChars level) {}
      [("routeFiles", Value.strings c.routeFiles), ("defaultIcon", .string c.defaultIcon),
       ("iconSizes", Value.strings c.iconSizes), ("functionName", .string c.functionName),
       ("routeExportPattern", .string c.routeExportPattern)] d := by
  refine ⟨⟨some c.routeFiles, some c.defaultIcon, some c.iconSizes, some c.functionName,
    some c.routeExportPattern⟩, rfl, ?_⟩
  refine Folds.cons (fun t => takes_readMember (k := .routeFiles) rfl (takes_patterns _ t)) ?_
  refine Folds.cons (fun t => takes_readMember (k := .defaultIcon) rfl (takes_string_value _ t).map) ?_
  refine Folds.cons (fun t => takes_readMember (k := .iconSizes) rfl (takes_strings_value _ t).map) ?_
  refine Folds.cons (fun t => takes_readMember (k := .functionName) rfl (takes_string_value _ t).map) ?_
  refine Folds.cons
    (fun t => takes_readMember (k := .routeExportPattern) rfl (takes_string_value _ t).map) ?_
  exact Folds.nil _

theorem takes_config (c : Config) (t : List Char) :
    Takes reader (c.toValue.prettyChars 0 ++ t) t c := by
  obtain ⟨d, hd, hfolds⟩ := folds_settings c 1
  obtain ⟨inside, hprinted, hinside⟩ := takes_object 0 t hfolds
  unfold toValue
  rw [hprinted, ← hd]
  exact (takes_token rfl _).bind ((takes_drop _ _).bind hinside.map)

theorem read_text (c : Config) : read c.text = .ok c := by
  have hc := takes_config c []
  rw [List.append_nil] at hc
  exact Takes.readAll (by rwa [text, Value.pretty, String.toList_ofList]) blanks_nil

/-- The end of a line after the text says nothing. -/
theorem read_line (c : Config) : read (c.text ++ "\n") = .ok c := by
  have hc := takes_config c (newLine 0)
  exact Takes.readAll (by rwa [text, Value.pretty, String.toList_append, String.toList_ofList])
    (blanks_newLine 0)

/-- What a text says is printed again, and read again. -/
def reread (written : String) : Except Fault Config := do
  read (← read written).text

/-- A configuration is what its text says. So a text that says a configuration may be printed anew:
it says the same, and has the same options or the same fault. -/
theorem config_survives_its_text :
    (∀ c : Config, read c.text = .ok c ∧ read (c.text ++ "\n") = .ok c) ∧
      ∀ written, reread written = read written ∧
        (reread written).map resolve = (read written).map resolve := by
  refine ⟨fun c => ⟨read_text c, read_line c⟩, fun written => ?_⟩
  have hsame : reread written = read written := by
    unfold reread
    cases read written with
    | error fault => rfl
    | ok c =>
      simp only [bind, Except.bind]
      exact read_text c
  exact ⟨hsame, congrArg (Except.map resolve) hsame⟩

/-- An empty pattern that stands alone means the default; it is never printed so. -/
example : routeFilesOf (.string "") = .ok ({} : Config).routeFiles ∧
    routeFilesOf (Value.strings [""]) = .ok [""] :=
  ⟨rfl, rfl⟩

end RouteShortcuts.Config
