/-
  RouteShortcuts.Proofs.Scan.Isolation — a broken file costs one warning and nothing else.

  A file is passed over for one of four reasons (`Broken`): the system does not give its content,
  the content is no text, or the text is no script, be it for a fault that stops the reader or for
  one that it notes and reads on. In the last case there is a module, with all that the file
  declares, and it is not looked at. Any other file is searched (`Sound`, `broken_or_sound`).

  Files are searched one after another and each adds what it gives by itself, so an outcome is put
  together from those of the parts of a list (`files_append`).

  Proved: `faults_are_isolated`, for every disk and all lists of paths, whatever comes before a
  broken file and after it, and be it in the list more than once.
-/

import RouteShortcuts.Proofs.Scan.Accounts

namespace RouteShortcuts

open RouteShortcuts.Files

/-! ## Reading a source text -/

namespace Script

/-- How the reading of a source text ends: with the fault that stops it, or with a module and a
state that holds the first fault that was noted. -/
def reading (path code : String) : EStateM.Result Fault State Module :=
  let text := dropMark code.toList
  let dialect := Dialect.ofPath path
  let first := Lexed.first text
  Grammar.wholeModule (Grammar.rules (Grammar.fuelFor text.length))
    { dialect, cur := first, flags := { ambient := dialect.ambient }, noted := first.faults.head? }

/-- A fault with its place in a source text. -/
def located (code : String) (fault : Fault) : SourceFault :=
  ⟨fault.cause, Text.Position.ofOffset (dropMark code.toList) fault.offset⟩

/-- A source text is refused for the fault that stops the reader, or else for the first one that it
noted. -/
theorem parseSource_eq (path code : String) : parseSource path code = match reading path code with
    | .error fault _ => .error (located code fault)
    | .ok module state => match state.noted with
      | some fault => .error (located code fault)
      | none => .ok module := by
  unfold parseSource Module.parse Reader.run
  dsimp only
  rw [← reading]
  cases reading path code with
  | error fault state => rfl
  | ok module state =>
    dsimp only
    cases state.noted <;> rfl

end Script

namespace Scan

/-! ## One file -/

/-- A file that is passed over, and why. -/
inductive Broken (d : Disk) (path : String) : SourceProblem → Prop
  | unreadable {refusal : Refusal} : d.read path = .error refusal → Broken d path (.unreadable refusal)
  /-- Its octets are no UTF-8. -/
  | undecodable {content : ByteArray} : d.read path = .ok content → ¬ content.IsValidUTF8 →
      Broken d path (.unreadable .notText)
  /-- A fault stops the reader. -/
  | stopped {code : String} {fault : Script.Fault} {state : Script.State} : d.readText path = .ok code →
      Script.reading path code = .error fault state →
        Broken d path (.unparsable (Script.located code fault))
  /-- The reader comes to the end, but it has noted a fault on the way. -/
  | noted {code : String} {module : Script.Module} {state : Script.State} {fault : Script.Fault} :
      d.readText path = .ok code → Script.reading path code = .ok module state →
        state.noted = some fault →
      Broken d path (.unparsable (Script.located code fault))

/-- A file whose text is read as a module without a fault. -/
def Sound (d : Disk) (path : String) (module : Script.Module) : Prop :=
  ∃ code state, d.readText path = .ok code ∧ Script.reading path code = .ok module state ∧
    state.noted = none

section

variable {d : Disk} {options : Options} {path : String}

theorem file_of_broken {problem : SourceProblem} (h : Broken d path problem) :
    file d options path = .error problem := by
  cases h with
  | unreadable hread => simp [file, Disk.readText, hread, bind, Except.bind]
  | undecodable hread hbad =>
    have htext : d.readText path = .error .notText := by
      simp [Disk.readText, hread, bind, Except.bind, String.fromUTF8?, hbad, throw, throwThe,
        MonadExceptOf.throw]
    simp only [file, htext]
  | stopped htext hstop =>
    simp only [file, htext, shortcutsOf, Script.parseSource_eq, hstop, Except.map]
  | noted htext hread hnoted =>
    simp only [file, htext, shortcutsOf, Script.parseSource_eq, hread, hnoted, Except.map]

theorem file_of_sound {module : Script.Module} (h : Sound d path module) :
    file d options path = .ok (Declaration.collect (rule options) path module) := by
  obtain ⟨code, state, htext, hread, hnone⟩ := h
  simp only [file, htext, shortcutsOf, Script.parseSource_eq, hread, hnone, Except.map]

theorem broken_or_sound (d : Disk) (path : String) :
    (∃ problem, Broken d path problem) ∨ ∃ module, Sound d path module := by
  cases hread : d.read path with
  | error refusal => exact Or.inl ⟨_, .unreadable hread⟩
  | ok content =>
    by_cases hvalid : content.IsValidUTF8
    · have htext : d.readText path = .ok (String.fromUTF8 content hvalid) := by
        simp [Disk.readText, hread, bind, Except.bind, String.fromUTF8?, hvalid, pure, Except.pure]
      cases hscript : Script.reading path (String.fromUTF8 content hvalid) with
      | error fault state => exact Or.inl ⟨_, .stopped htext hscript⟩
      | ok module state =>
        cases hnoted : state.noted with
        | some fault => exact Or.inl ⟨_, .noted htext hscript hnoted⟩
        | none => exact Or.inr ⟨module, _, state, htext, hscript, hnoted⟩
    · exact Or.inl ⟨_, .undecodable hread hvalid⟩

/-! ## Lists of files -/

theorem files_append (xs ys : List String) : files d options (xs ++ ys) =
    ⟨(files d options xs).filesScanned + (files d options ys).filesScanned,
      (files d options xs).shortcuts ++ (files d options ys).shortcuts,
      (files d options xs).warnings ++ (files d options ys).warnings⟩ := by
  simp only [files_eq, List.length_append, List.flatMap_append]

/-- One more file, anywhere in a list. -/
theorem files_insert (xs ys : List String) (path : String) : files d options (xs ++ path :: ys) =
    ⟨(files d options (xs ++ ys)).filesScanned + 1,
      (files d options xs).shortcuts ++ found d options path ++ (files d options ys).shortcuts,
      (files d options xs).warnings ++ complaints d options path ++ (files d options ys).warnings⟩ := by
  simp only [files_eq, List.length_append, List.length_cons, List.flatMap_append, List.flatMap_cons,
    List.append_assoc, Nat.add_assoc]

end

/-- What the parts of a list give adds up, and a broken file adds one warning in its place and no
shortcut. A file that is not broken adds what it declares, and no warning. -/
theorem faults_are_isolated (d : Disk) (options : Options) (xs ys : List String) :
    files d options (xs ++ ys) =
      ⟨(files d options xs).filesScanned + (files d options ys).filesScanned,
        (files d options xs).shortcuts ++ (files d options ys).shortcuts,
        (files d options xs).warnings ++ (files d options ys).warnings⟩ ∧
    (∀ path problem, Broken d path problem → files d options (xs ++ path :: ys) =
      ⟨(files d options (xs ++ ys)).filesScanned + 1, (files d options (xs ++ ys)).shortcuts,
        (files d options xs).warnings ++ problem.warning path :: (files d options ys).warnings⟩) ∧
    ∀ path, (¬ ∃ problem, Broken d path problem) → ∃ module, Sound d path module ∧
      files d options (xs ++ path :: ys) =
        ⟨(files d options (xs ++ ys)).filesScanned + 1,
          (files d options xs).shortcuts ++ Declaration.collect (rule options) path module ++
            (files d options ys).shortcuts,
          (files d options (xs ++ ys)).warnings⟩ := by
  refine ⟨files_append xs ys, ?_, ?_⟩
  · intro path problem hbroken
    have hfile : file d options path = .error problem := file_of_broken hbroken
    have hfound : found d options path = [] := by simp only [found, hfile]
    have hcomplaints : complaints d options path = [problem.warning path] := by
      simp only [complaints, hfile]
    rw [files_insert, hfound, hcomplaints, files_append, List.append_nil, List.append_assoc,
      List.singleton_append]
  · intro path hwhole
    obtain ⟨module, hsound⟩ := (broken_or_sound d path).resolve_left hwhole
    have hfile : file d options path = .ok (Declaration.collect (rule options) path module) :=
      file_of_sound hsound
    have hfound : found d options path = Declaration.collect (rule options) path module := by
      simp only [found, hfile]
    have hcomplaints : complaints d options path = [] := by simp only [complaints, hfile]
    refine ⟨module, hsound, ?_⟩
    rw [files_insert, hfound, hcomplaints, files_append, List.append_nil]

/-- A declaration, and behind it a number that is noted and read on from. -/
def legacyText : String :=
  "export const aRoute = createShortcutRoute(\"/a\", \x7b name: \"A\" \x7d);\nvar n = 010;"

/-- A file with this text, beside one that declares a shortcut. -/
def legacyDisk : Disk where
  top := .directory
    [("cart.js", .file
      "export const cartRoute = createShortcutRoute(\"/cart\", \x7b name: \"Cart\" \x7d);".toUTF8),
      ("legacy.js", .file legacyText.toUTF8)]

theorem legacy_broken :
    Broken legacyDisk "/legacy.js"
      (.unparsable (Script.located legacyText ⟨.legacyOctalNumber, 72⟩)) := by
  have htext : (legacyDisk.readText "/legacy.js").toOption = some legacyText := by decide +kernel
  have hends : (match Script.reading "/legacy.js" legacyText with
      | .ok _ state => state.noted
      | .error _ _ => none) = some ⟨.legacyOctalNumber, 72⟩ := by decide +kernel
  cases hread : legacyDisk.readText "/legacy.js" with
  | error refusal =>
    rw [hread] at htext
    cases htext
  | ok code =>
    rw [hread] at htext
    cases htext
    cases hscript : Script.reading "/legacy.js" legacyText with
    | error fault state =>
      rw [hscript] at hends
      cases hends
    | ok module state =>
      rw [hscript] at hends
      exact .noted hread hscript hends

def legacyWarning : FileWarning := ⟨"/legacy.js", "Failed to parse /legacy.js: " ++
  "Legacy octal literals are not available when targeting ECMAScript 5 and higher (line 2, column 9)"⟩

theorem a_noted_fault_costs_the_declarations : ∃ options problem,
    ({ routeExportPattern := "a" } : Config).resolve = .ok options ∧
    Broken legacyDisk "/legacy.js" problem ∧
      files legacyDisk options ["/cart.js", "/legacy.js"] =
        ⟨2, [⟨"/cart", { name := "Cart" }, "/cart.js"⟩], [legacyWarning]⟩ := by
  have hcart : (({ routeExportPattern := "a" } : Config).resolve.toOption.map
    (files legacyDisk · ["/cart.js"])) =
      some ⟨1, [⟨"/cart", { name := "Cart" }, "/cart.js"⟩], []⟩ := by decide +kernel
  have hwarning : SourceProblem.warning "/legacy.js"
      (.unparsable (Script.located legacyText ⟨.legacyOctalNumber, 72⟩)) =
      legacyWarning := by decide +kernel
  cases hresolve : ({ routeExportPattern := "a" } : Config).resolve with
  | error fault =>
    rw [hresolve] at hcart
    cases hcart
  | ok options =>
    rw [hresolve] at hcart
    have halone : files legacyDisk options ["/cart.js"] =
        ⟨1, [⟨"/cart", { name := "Cart" }, "/cart.js"⟩], []⟩ :=
      Option.some.inj hcart
    have hboth := (faults_are_isolated legacyDisk options ["/cart.js"] []).2.1 _ _ legacy_broken
    rw [List.append_nil, hwarning, halone] at hboth
    exact ⟨options, _, rfl, legacy_broken, hboth⟩

end Scan
end RouteShortcuts
