/-
  RouteShortcuts.Proofs.Manifest.Complete — no entry of a manifest lacks what a launcher shows.

  Two stages see to it. The search finds only shortcuts with a path and a name (`Shortcut.Proper`):
  of a key that is given more than once the last literal counts, and if that is empty nothing is
  declared at all. The manifest then fills in what may be missing (`Filled`); a text that was
  declared empty counts as missing.

  Proved:
  - `proper_of_project`: every shortcut of a scan is proper, whichever file it comes from.
  - `completes_entry`, `complete_entries`: proper shortcuts give complete entries, one each, in order.
  - `commit_complete`, `step_complete`, `run_complete`: hence passes that commit what a search found
    leave nothing incomplete behind, in whatever order they overlap.
-/

import RouteShortcuts.Proofs.Scan.Accounts
import RouteShortcuts.Proofs.Session.Passes

namespace RouteShortcuts

open RouteShortcuts.Files

/-! ## What is found -/

/-- A shortcut with a path and a name. -/
structure Shortcut.Proper (s : Shortcut) : Prop where
  path : s.path ≠ ""
  name : s.details.name ≠ ""

theorem Declaration.Declares.proper {options : Options} {file : String}
    {declarator : Script.Declarator} {s : Shortcut} (h : Declares options file declarator s) :
    s.Proper := by
  obtain ⟨_, _, _, _, _, _, _, _, hpath, ⟨_, _, _, _, hsays⟩, _⟩ := h
  exact ⟨hpath.nonempty, hsays.named⟩

namespace Scan

variable {d : Disk} {options : Options}

theorem Reported.proper {path : String} {ss : List Shortcut} {ws : List FileWarning}
    (h : Reported d options path ss ws) : ∀ s ∈ ss, s.Proper := by
  intro s hs
  obtain ⟨declarator, hd⟩ := h.declarator s hs
  exact (Declaration.ofDeclarator_iff.mp hd).proper

/-- Every shortcut that a scan finds has a path and a name. -/
theorem proper_of_project {root : String} {o : Outcome} (h : project d options root = .ok o) :
    ∀ s ∈ o.shortcuts, s.Proper := by
  intro s hs
  obtain ⟨listed, -, hacc⟩ := (project_iff d options root o).mp h
  rw [hacc.shortcuts_ordered] at hs
  obtain ⟨path, hpath, hs⟩ := List.mem_flatMap.mp hs
  exact (hacc.reported path hpath).proper s hs

end Scan

/-! ## What is filled in -/

namespace Manifest

/-- What a field shows: the text that was declared, or `fallback` if there is none or it is empty. -/
inductive Filled (declared : Option String) (fallback : String) : String → Prop
  | declared {s : String} : declared = some s → s ≠ "" → Filled declared fallback s
  | fallback : (∀ s, declared = some s → s = "") → Filled declared fallback fallback

theorem filled_nonEmpty? (declared : Option String) (fallback : String) :
    Filled declared fallback ((nonEmpty? declared).getD fallback) := by
  cases declared with
  | none => exact .fallback (fun s h => by cases h)
  | some s =>
    by_cases h : s = ""
    · simp only [nonEmpty?, h, if_true, Option.getD_none]
      exact .fallback (fun t ht => (Option.some.inj ht).symm)
    · simp only [nonEmpty?, h, if_false, Option.getD_some]
      exact .declared rfl h

theorem Filled.ne_empty {declared : Option String} {fallback s : String}
    (h : Filled declared fallback s) (hf : fallback ≠ "") : s ≠ "" := by
  cases h with
  | declared _ hs => exact hs
  | fallback _ => exact hf

/-- The front of a name: its first 12 characters, or all of them if there are fewer. -/
def front (name : String) : String := String.ofList (name.toList.take (min 12 name.length))

theorem take_shortNameLength (name : String) :
    String.ofList (name.toList.take shortNameLength) = front name := by
  rw [front, ← String.length_toList, ← List.take_eq_take_min]
  rfl

theorem front_ne_empty {name : String} (h : name ≠ "") : front name ≠ "" := by
  intro hfront
  have hchars : name.toList.take (min 12 name.length) = [] := String.ofList_eq_empty_iff.mp hfront
  have hlength : name.length ≠ 0 := fun h0 => h (String.length_eq_zero_iff.mp h0)
  rcases List.take_eq_nil_iff.mp hchars with h0 | hnil
  · omega
  · exact h (String.toList_eq_nil_iff.mp hnil)

theorem goTo_ne_empty (name : String) : "Go to " ++ name ≠ "" := by
  intro h
  have hchars := congrArg String.toList h
  rw [String.toList_append] at hchars
  cases hchars

/-- An entry that shows a shortcut and lacks nothing. -/
structure Completes (s : Shortcut) (e : ManifestEntry) : Prop where
  url : e.url = s.path
  name : e.name = s.details.name
  shortName : Filled s.details.shortName (front s.details.name) e.shortName
  description : Filled s.details.description ("Go to " ++ s.details.name) e.description
  url_said : e.url ≠ ""
  name_said : e.name ≠ ""
  shortName_said : e.shortName ≠ ""
  description_said : e.description ≠ ""

theorem completes_entry (options : Options) {s : Shortcut} (h : s.Proper) :
    Completes s (entry options s) := by
  have hshort : Filled s.details.shortName (front s.details.name) (entry options s).shortName := by
    rw [← take_shortNameLength]
    exact filled_nonEmpty? _ _
  have hdescription : Filled s.details.description ("Go to " ++ s.details.name)
      (entry options s).description :=
    filled_nonEmpty? _ _
  exact ⟨rfl, rfl, hshort, hdescription, h.path, h.name, hshort.ne_empty (front_ne_empty h.name),
    hdescription.ne_empty (goTo_ne_empty _)⟩

/-- Proper shortcuts give one complete entry each, in order. -/
theorem complete_entries (options : Options) {shortcuts : List Shortcut}
    (h : ∀ s ∈ shortcuts, s.Proper) :
    List.Forall₂ Completes shortcuts (entries options shortcuts) := by
  induction shortcuts with
  | nil => exact .nil
  | cons s shortcuts ih =>
    refine .cons (completes_entry options (h s List.mem_cons_self)) (ih ?_)
    intro t ht
    exact h t (List.mem_cons_of_mem s ht)

end Manifest

/-! ## What passes leave behind -/

/-- A result whose manifest has one complete entry for each of its shortcuts, in order. -/
def Snapshot.Complete (s : Snapshot) : Prop := List.Forall₂ Manifest.Completes s.shortcuts s.manifest

/-- A result that a search of the project found, on whatever the disk was like then. -/
def Snapshot.Searched (root : String) (options : Options) (found : Snapshot) : Prop :=
  ∃ (d : Disk) (o : Outcome) (n : Nat),
    Scan.project d options root = .ok o ∧ found = ({ root, options } : Session).snapshot n o

theorem Snapshot.Searched.complete {root : String} {options : Options} {found : Snapshot}
    (h : found.Searched root options) : found.Complete := by
  obtain ⟨d, o, n, ho, rfl⟩ := h
  exact Manifest.complete_entries options (Scan.proper_of_project ho)

/-- A session that holds nothing yet holds nothing incomplete. -/
theorem Snapshot.complete_empty : ({} : Snapshot).Complete := List.Forall₂.nil

namespace Passes

/-- Nothing that a session holds, that was read of it or that a pass committed is incomplete. -/
structure Whole (s : St) : Prop where
  held : s.session.current.Complete
  reads : ∀ r ∈ s.reads, r.Complete
  own : ∀ p ∈ s.passes, ∀ own, p.stage.own? = some own → own.Complete

theorem start_whole (root : String) (options : Options) (n : Nat) : Whole (start root options n) := by
  refine ⟨Snapshot.complete_empty, ?_, ?_⟩
  · intro r hr
    cases hr
  · intro p hp
    cases hp

theorem commit_complete {s : Session} {own : Snapshot} (hs : s.current.Complete) (ho : own.Complete) :
    (s.commit own).2.current.Complete := by
  rcases commit_current s own with ⟨_, h⟩ | ⟨_, h⟩
  · rw [h]
    exact hs
  · rw [h]
    exact ho

/-- A pass that goes on to a stage whose result is complete. -/
theorem Whole.set {s : St} (h : Whole s) (i : Nat) (p : Pass)
    (hp : ∀ own, p.stage.own? = some own → own.Complete) :
    ∀ q ∈ s.passes.set i p, ∀ own, q.stage.own? = some own → own.Complete := by
  intro q hq own ho
  rcases List.mem_or_eq_of_mem_set hq with hq | rfl
  · exact h.own q hq own ho
  · exact hp own ho

theorem Whole.read {s : St} (h : Whole s) : ∀ r ∈ s.reads ++ [s.session.current], r.Complete := by
  intro r hr
  rcases List.mem_append.mp hr with hr | hr
  · exact h.reads r hr
  · rw [List.mem_singleton.mp hr]
    exact h.held

theorem step_complete {s : St} (h : Whole s) {e : Ev}
    (hfound : ∀ i found, e = .commit i found → found.Complete) :
    Whole (step s e) := by
  cases e with
  | begin =>
    refine ⟨h.held, h.reads, ?_⟩
    intro p hp own ho
    rcases List.mem_append.mp hp with hp | hp
    · exact h.own p hp own ho
    · rw [List.mem_singleton.mp hp] at ho
      cases ho
  | fail i =>
    simp only [step]
    split
    · exact ⟨h.held, h.reads, h.set i _ (fun own ho => by cases ho)⟩
    · exact h
  | commit i found =>
    simp only [step]
    split
    · rename_i number _
      -- the number that a result carries is no part of its manifest
      have hown : ({ found with generation := number } : Snapshot).Complete := hfound i found rfl
      exact ⟨commit_complete h.held hown, h.reads, h.set i _ (fun own ho => by cases ho; exact hown)⟩
    · exact h
  | finish i =>
    simp only [step]
    split
    · rename_i number own hp
      have hown : own.Complete := h.own _ (List.mem_of_getElem? hp) own rfl
      exact ⟨h.held, h.read, h.set i _ (fun own' ho => by cases ho; exact hown)⟩
    · exact h
  | read => exact ⟨h.held, h.read, h.own⟩

theorem run_complete {s : St} (h : Whole s) {es : List Ev}
    (hfound : ∀ i found, .commit i found ∈ es → found.Complete) :
    Whole (run s es) := by
  induction es generalizing s with
  | nil => exact h
  | cons e es ih =>
    refine ih (step_complete h ?_) ?_
    · rintro i found rfl
      exact hfound i found List.mem_cons_self
    · intro i found hmem
      exact hfound i found (List.mem_cons_of_mem e hmem)

end Passes

/-- A rescan of a session that holds nothing incomplete returns and leaves nothing incomplete. -/
theorem Session.rescan_complete {s : Session} (h : s.current.Complete) (d : Disk) :
    (s.rescan d).2.current.Complete ∧ ∀ seen, (s.rescan d).1 = .ok seen → seen.Complete := by
  simp only [Session.rescan, Session.beginPass]
  split
  · refine ⟨h, ?_⟩
    intro seen hseen
    cases hseen
  · rename_i o ho
    have hown : (Session.snapshot { s with lastPass := s.lastPass + 1 } (s.lastPass + 1) o).Complete :=
      Manifest.complete_entries s.options (Scan.proper_of_project ho)
    have hheld := Passes.commit_complete (s := { s with lastPass := s.lastPass + 1 }) h hown
    refine ⟨hheld, ?_⟩
    intro seen hseen
    cases hseen
    exact hheld

namespace Manifest

/-- Of every project that can be scanned the manifest has one entry for each shortcut, in order,
that shows its path and its name, a short name and a description, none of them empty. The same holds
of everything that is held, read or committed in a session, in whatever order its passes overlap, if
what they commit was searched for; and of what a rescan returns and leaves. -/
theorem no_entry_is_incomplete (root : String) (options : Options) :
    (∀ (d : Disk) (o : Outcome), Scan.project d options root = .ok o →
      List.Forall₂ Completes o.shortcuts (entries options o.shortcuts)) ∧
    (∀ (n : Nat) (es : List Passes.Ev),
      (∀ i found, .commit i found ∈ es → found.Searched root options) →
      Passes.Whole (Passes.run (Passes.start root options n) es)) ∧
    (∀ (d : Disk) (s : Session), s.current.Complete →
      (s.rescan d).2.current.Complete ∧ ∀ seen, (s.rescan d).1 = .ok seen → seen.Complete) := by
  refine ⟨?_, ?_, ?_⟩
  · intro d o ho
    exact complete_entries options (Scan.proper_of_project ho)
  · intro n es hes
    refine Passes.run_complete (Passes.start_whole root options n) ?_
    intro i found hmem
    exact (hes i found hmem).complete
  · intro d s hs
    exact Session.rescan_complete hs d

/-- A shortcut without a short name, whose description is empty. -/
def sparseText : String :=
  "export const a = f(\"/a\", \x7bname: \"Kitchen tables\", description: \"\"\x7d)"

def sparseDisk : Disk := { top := .directory [("p", .directory [("a.ts", .file sparseText.toUTF8)])] }

def sparseConfig : Config := { routeFiles := ["*.ts"], functionName := "f", routeExportPattern := "a" }

theorem what_is_missing_is_filled_in : ∃ options o, sparseConfig.resolve = .ok options ∧
    Scan.project sparseDisk options "/p" = .ok o ∧
    o.shortcuts = [⟨"/a", { name := "Kitchen tables", description := some "" }, "/p/a.ts"⟩] ∧
    (entries options o.shortcuts).map (fun e => (e.shortName, e.description)) =
      [("Kitchen tabl", "Go to Kitchen tables")] ∧
    List.Forall₂ Completes o.shortcuts (entries options o.shortcuts) ∧
    Passes.Whole (Passes.run (Passes.start "/p" options 0)
      [.begin, .commit 0 (({ root := "/p", options } : Session).snapshot 1 o), .finish 0]) ∧
    (({ root := "/p", options } : Session).rescan sparseDisk).2.current.Complete := by
  have hfound : (sparseConfig.resolve.toOption.bind fun options =>
      (Scan.project sparseDisk options "/p").toOption.map fun o =>
        (o.shortcuts, (entries options o.shortcuts).map fun e => (e.shortName, e.description))) =
      some ([⟨"/a", { name := "Kitchen tables", description := some "" }, "/p/a.ts"⟩],
        [("Kitchen tabl", "Go to Kitchen tables")]) := by decide +kernel
  cases hr : sparseConfig.resolve with
  | error fault =>
    rw [hr] at hfound
    cases hfound
  | ok options =>
    rw [hr] at hfound
    dsimp only [Except.toOption, Option.bind_some] at hfound
    cases hp : Scan.project sparseDisk options "/p" with
    | error fault =>
      rw [hp] at hfound
      cases hfound
    | ok o =>
      rw [hp] at hfound
      obtain ⟨hshortcuts, hshown⟩ := Prod.mk.inj (Option.some.inj hfound)
      obtain ⟨hscan, hpasses, hrescan⟩ := no_entry_is_incomplete "/p" options
      refine ⟨options, o, rfl, hp, hshortcuts, hshown, hscan sparseDisk o hp, hpasses 0 _ ?_,
        (hrescan sparseDisk _ Snapshot.complete_empty).1⟩
      intro i found hmem
      have hcommit : i = 0 ∧ found = ({ root := "/p", options } : Session).snapshot 1 o := by
        simpa using hmem
      exact ⟨sparseDisk, o, 1, hp, hcommit.2⟩

end Manifest

end RouteShortcuts
