/-
  RouteShortcuts.Proofs.Scan.Accounts — what a scan says of each file that it lists.

  A listed file is read, parsed and searched. The first step that fails makes a warning of it, and
  only a file that goes through all of them gives shortcuts (`Reported`). No file is listed twice
  (`nodup_files`), so what a scan says of one file can be told from the rest by the file's path
  (`filter_flatMap_of_nodup`).

  Proved: the outcome of a scan is the one that accounts for every listed file (`project_iff`), with one
  warning or with its shortcuts, file after file in the order of the list.
-/

import Mathlib.Data.List.Basic
import RouteShortcuts.Proofs.Discovery.LiteralBase
import RouteShortcuts.Proofs.Declaration.Meaning

namespace RouteShortcuts

open RouteShortcuts.Files

/-! ## The listing -/

theorem Discovery.nodup_filesOfPatterns {d : Disk} {root : String} {patterns : List String} :
    ∀ {before listed : List String}, before.Nodup →
      filesOfPatterns d root before patterns = .ok listed → listed.Nodup := by
  induction patterns with
  | nil =>
    intro before listed hb h
    cases h
    exact hb
  | cons pattern patterns ih =>
    intro before listed hb h
    unfold filesOfPatterns at h
    split at h
    · exact ih (nodup_addNew hb) h
    · cases h

theorem Discovery.nodup_files {d : Disk} {root : String} {patterns listed : List String}
    (h : files d root patterns = .ok listed) : listed.Nodup := by
  cases hr : d.canonical root with
  | ok top =>
    rw [files_eq hr] at h
    exact nodup_filesOfPatterns List.nodup_nil h
  | error refusal =>
    rw [files_no_root hr] at h
    cases h

/-- What a list of groups has of one group, if no group comes twice. -/
theorem filter_flatMap_of_nodup {α : Type} {key : α → String} {group : String → List α}
    (hkey : ∀ path, ∀ a ∈ group path, key a = path) {paths : List String}
    (hnodup : paths.Nodup) {path : String} (hpath : path ∈ paths) :
    (paths.flatMap group).filter (key · == path) = group path := by
  have hown : (group path).filter (key · == path) = group path :=
    List.filter_eq_self.mpr fun a ha => beq_iff_eq.mpr (hkey path a ha)
  have hother : ∀ p, p ≠ path → (group p).filter (key · == path) = [] := by
    intro p hp
    rw [List.filter_eq_nil_iff]
    intro a ha
    rwa [hkey p a ha, beq_iff_eq]
  induction paths with
  | nil => cases hpath
  | cons p paths ih =>
    obtain ⟨hnew, hnodup⟩ := List.nodup_cons.mp hnodup
    rw [List.flatMap_cons, List.filter_append]
    by_cases hp : p = path
    · subst hp
      have hrest : (paths.flatMap group).filter (key · == p) = [] := by
        rw [List.filter_flatMap, List.flatMap_eq_nil_iff]
        intro q hq
        exact hother q (fun e => hnew (e ▸ hq))
      rw [hown, hrest, List.append_nil]
    · rw [hother p hp, List.nil_append]
      exact ih hnodup ((List.mem_cons.mp hpath).resolve_left (Ne.symm hp))

/-! ## One file -/

namespace Scan

/-- What there is to say of one file: its shortcuts, or one warning. -/
inductive Reported (d : Disk) (options : Options) (path : String) :
    List Shortcut → List FileWarning → Prop
  | searched {code : String} {shortcuts : List Shortcut} : d.readText path = .ok code →
      shortcutsOf options path code = .ok shortcuts → Reported d options path shortcuts []
  | unreadable {refusal : Refusal} : d.readText path = .error refusal →
      Reported d options path [] [⟨path, "Failed to read " ++ path ++ ": " ++ refusal.message⟩]
  | unparsable {code : String} {fault : Script.SourceFault} : d.readText path = .ok code →
      shortcutsOf options path code = .error fault →
      Reported d options path [] [⟨path, "Failed to parse " ++ path ++ ": " ++ fault.message⟩]

section

variable {d : Disk} {options : Options}

/-- A file is said one thing of. -/
theorem Reported.unique {path : String} {ss ss' : List Shortcut} {ws ws' : List FileWarning}
    (h : Reported d options path ss ws) (h' : Reported d options path ss' ws') :
    ss = ss' ∧ ws = ws' := by
  cases h <;> cases h' <;> grind

/-- The shortcuts that a file gives; none if it is passed over. -/
def found (d : Disk) (options : Options) (path : String) : List Shortcut :=
  match file d options path with
  | .ok shortcuts => shortcuts
  | .error _ => []

def complaints (d : Disk) (options : Options) (path : String) : List FileWarning :=
  match file d options path with
  | .ok _ => []
  | .error problem => [problem.warning path]

theorem reported_file (d : Disk) (options : Options) (path : String) :
    Reported d options path (found d options path) (complaints d options path) := by
  unfold found complaints file
  cases hread : d.readText path with
  | error refusal => exact .unreadable hread
  | ok code =>
    cases hs : shortcutsOf options path code with
    | error fault =>
      simp only [hs]
      exact .unparsable hread hs
    | ok shortcuts =>
      simp only [hs]
      exact .searched hread hs

/-- A declaration is found in the file that is searched. -/
theorem file_of_ofDeclarator {rule : Declaration.Rule} {path : String}
    {declarator : Script.Declarator} {s : Shortcut}
    (h : Declaration.ofDeclarator rule path declarator = some s) : s.file = path := by
  unfold Declaration.ofDeclarator at h
  repeat' split at h
  all_goals cases h
  rfl

/-- A shortcut that is said of a file was declared in it. -/
theorem Reported.declarator {path : String} {ss : List Shortcut} {ws : List FileWarning}
    (h : Reported d options path ss ws) :
    ∀ s ∈ ss, ∃ declarator, Declaration.ofDeclarator (rule options) path declarator = some s := by
  intro s hs
  cases h with
  | @searched code _ _ hss =>
    unfold shortcutsOf at hss
    cases hp : Script.parseSource path code with
    | error fault =>
      rw [hp] at hss
      cases hss
    | ok module =>
      rw [hp] at hss
      cases hss
      obtain ⟨declarator, -, hd⟩ := List.mem_filterMap.mp hs
      exact ⟨declarator, hd⟩
  | unreadable | unparsable => cases hs

theorem Reported.shortcut_file {path : String} {ss : List Shortcut} {ws : List FileWarning}
    (h : Reported d options path ss ws) : ∀ s ∈ ss, s.file = path := by
  intro s hs
  obtain ⟨declarator, hd⟩ := h.declarator s hs
  exact file_of_ofDeclarator hd

theorem Reported.warning_file {path : String} {ss : List Shortcut} {ws : List FileWarning}
    (h : Reported d options path ss ws) : ∀ w ∈ ws, w.file = path := by
  intro w hw
  cases h with
  | searched => cases hw
  | unreadable | unparsable => rw [List.mem_singleton.mp hw]

/-- A file with a warning has no shortcuts. -/
theorem Reported.apart {path : String} {ss : List Shortcut} {ws : List FileWarning}
    (h : Reported d options path ss ws) {w : FileWarning} (hw : w ∈ ws) : ss = [] := by
  cases h with
  | searched => cases hw
  | unreadable | unparsable => rfl

end

/-! ## The loop over the files -/

section

variable {d : Disk} {options : Options}

/-- One more file adds what it gives, behind what was there. -/
theorem addFile_eq (o : Outcome) (path : String) : addFile d options o path =
    ⟨o.filesScanned + 1, o.shortcuts ++ found d options path,
      o.warnings ++ complaints d options path⟩ := by
  unfold addFile found complaints
  split <;> simp only [List.append_nil, *]

theorem foldl_addFile (paths : List String) : ∀ o : Outcome, paths.foldl (addFile d options) o =
    ⟨o.filesScanned + paths.length, o.shortcuts ++ paths.flatMap (found d options),
      o.warnings ++ paths.flatMap (complaints d options)⟩ := by
  induction paths with
  | nil =>
    intro o
    simp only [List.foldl_nil, List.length_nil, Nat.add_zero, List.flatMap_nil, List.append_nil]
  | cons path paths ih =>
    intro o
    rw [List.foldl_cons, addFile_eq, ih]
    simp only [List.length_cons, List.flatMap_cons, List.append_assoc, Nat.add_assoc, Nat.add_comm 1]

/-- What all files give, file after file. -/
theorem files_eq (paths : List String) : files d options paths =
    ⟨paths.length, paths.flatMap (found d options), paths.flatMap (complaints d options)⟩ := by
  unfold files
  rw [foldl_addFile]
  simp only [Nat.zero_add, List.nil_append]

/-- The files with a warning, in the order of the list. -/
theorem complaints_sublist (paths : List String) :
    ((paths.flatMap (complaints d options)).map (·.file)).Sublist paths := by
  induction paths with
  | nil => exact List.Sublist.slnil
  | cons path paths ih =>
    rw [List.flatMap_cons, List.map_append]
    have h := reported_file d options path
    generalize found d options path = ss, complaints d options path = ws at h ⊢
    cases h with
    | searched => exact ih.cons path
    | unreadable | unparsable => exact ih.cons_cons path

end

end Scan

/-! ## The outcome -/

def Outcome.shortcutsIn (o : Outcome) (path : String) : List Shortcut :=
  o.shortcuts.filter (·.file == path)

def Outcome.warningsAbout (o : Outcome) (path : String) : List FileWarning :=
  o.warnings.filter (·.file == path)

namespace Scan

/-- An outcome that accounts for every file of a list. -/
structure Accounted (d : Disk) (options : Options) (listed : List String) (o : Outcome) : Prop where
  counted : o.filesScanned = listed.length
  /-- Of each file either one warning or its shortcuts. -/
  reported : ∀ path ∈ listed, Reported d options path (o.shortcutsIn path) (o.warningsAbout path)
  shortcuts_ordered : o.shortcuts = listed.flatMap o.shortcutsIn
  warnings_ordered : o.warnings = listed.flatMap o.warningsAbout
  /-- In each file the shortcuts come as its exported variables declare them. -/
  declared : ∀ path ∈ listed, ∀ code module, d.readText path = .ok code →
    Script.parseSource path code = .ok module →
    Declaration.Gives options path module (o.shortcutsIn path)
  distinct : (o.warnings.map (·.file)).Nodup
  apart : ∀ w ∈ o.warnings, ∀ s ∈ o.shortcuts, w.file ≠ s.file
  said : ∀ w ∈ o.warnings, ("Failed to read " ++ w.file ++ ": ").toList <+: w.message.toList ∨
    ("Failed to parse " ++ w.file ++ ": ").toList <+: w.message.toList

section

variable {d : Disk} {options : Options} {listed : List String}

theorem prefix_message (failure path reason : String) :
    (failure ++ path ++ ": ").toList <+: (failure ++ path ++ ": " ++ reason).toList := by
  conv => rhs; rw [String.toList_append]
  exact List.prefix_append _ _

theorem Reported.said {path : String} {ss : List Shortcut} {ws : List FileWarning}
    (h : Reported d options path ss ws) :
    ∀ w ∈ ws, ("Failed to read " ++ w.file ++ ": ").toList <+: w.message.toList ∨
      ("Failed to parse " ++ w.file ++ ": ").toList <+: w.message.toList := by
  intro w hw
  cases h with
  | searched => cases hw
  | unreadable =>
    rw [List.mem_singleton.mp hw]
    exact Or.inl (prefix_message _ _ _)
  | unparsable =>
    rw [List.mem_singleton.mp hw]
    exact Or.inr (prefix_message _ _ _)

theorem shortcutsIn_files (hn : listed.Nodup) {path : String} (h : path ∈ listed) :
    (files d options listed).shortcutsIn path = found d options path := by
  rw [files_eq]
  exact filter_flatMap_of_nodup (fun p => (reported_file d options p).shortcut_file) hn h

theorem warningsAbout_files (hn : listed.Nodup) {path : String} (h : path ∈ listed) :
    (files d options listed).warningsAbout path = complaints d options path := by
  rw [files_eq]
  exact filter_flatMap_of_nodup (fun p => (reported_file d options p).warning_file) hn h

/-- A search of different files accounts for all of them. -/
theorem accounted_files (hn : listed.Nodup) : Accounted d options listed (files d options listed) := by
  have hshortcuts : ∀ path ∈ listed, (files d options listed).shortcutsIn path = found d options path :=
    fun path hp => shortcutsIn_files hn hp
  have hwarnings : ∀ path ∈ listed, (files d options listed).warningsAbout path =
      complaints d options path :=
    fun path hp => warningsAbout_files hn hp
  refine ⟨by rw [files_eq], ?_, ?_, ?_, ?_, ?_, ?_, ?_⟩
  · intro path hp
    rw [hshortcuts path hp, hwarnings path hp]
    exact reported_file d options path
  · conv => lhs; rw [files_eq]
    exact (List.flatMap_congr hshortcuts).symm
  · conv => lhs; rw [files_eq]
    exact (List.flatMap_congr hwarnings).symm
  · intro path hp code module hread hparse
    have hfound : shortcutsOf options path code =
        .ok (Declaration.collect (rule options) path module) := by
      simp only [shortcutsOf, hparse, Except.map]
    rw [hshortcuts path hp, ((reported_file d options path).unique (.searched hread hfound)).1]
    exact Declaration.gives_collect module
  · rw [files_eq]
    exact (complaints_sublist listed).nodup hn
  · intro w hw s hs e
    rw [files_eq] at hw hs
    obtain ⟨p, -, hw⟩ := List.mem_flatMap.mp hw
    obtain ⟨q, -, hs⟩ := List.mem_flatMap.mp hs
    rw [(reported_file d options p).warning_file w hw,
      (reported_file d options q).shortcut_file s hs] at e
    subst e
    rw [(reported_file d options p).apart hw] at hs
    cases hs
  · intro w hw
    rw [files_eq] at hw
    obtain ⟨p, -, hw⟩ := List.mem_flatMap.mp hw
    exact (reported_file d options p).said w hw

/-- Two outcomes that account for the same files are the same. -/
theorem Accounted.unique {o o' : Outcome} (h : Accounted d options listed o)
    (h' : Accounted d options listed o') : o = o' := by
  have hsame := fun path hp => (h.reported path hp).unique (h'.reported path hp)
  have hshortcuts : o.shortcuts = o'.shortcuts := by
    rw [h.shortcuts_ordered, h'.shortcuts_ordered]
    exact List.flatMap_congr fun path hp => (hsame path hp).1
  have hwarnings : o.warnings = o'.warnings := by
    rw [h.warnings_ordered, h'.warnings_ordered]
    exact List.flatMap_congr fun path hp => (hsame path hp).2
  have hcount : o.filesScanned = o'.filesScanned := h.counted.trans h'.counted.symm
  cases o
  cases o'
  simp_all only

end

/-- A scan succeeds exactly if there is a list of files, and its outcome is the one that accounts
for every file of the list: each gives one warning and no shortcut, or no warning and the shortcuts
of its text. -/
theorem project_iff (d : Disk) (options : Options) (root : String) (o : Outcome) :
    project d options root = .ok o ↔
      ∃ listed, Discovery.files d root options.routeFiles = .ok listed ∧
        Accounted d options listed o := by
  unfold project
  cases hl : Discovery.files d root options.routeFiles with
  | error fault => simp only [Except.map, reduceCtorEq, false_and, exists_false]
  | ok listed =>
    have hfiles : Accounted d options listed (files d options listed) :=
      accounted_files (Discovery.nodup_files hl)
    constructor
    · intro h
      cases h
      exact ⟨listed, rfl, hfiles⟩
    · rintro ⟨_, hl', h⟩
      cases hl'
      exact congrArg _ (hfiles.unique h)

end Scan
end RouteShortcuts
