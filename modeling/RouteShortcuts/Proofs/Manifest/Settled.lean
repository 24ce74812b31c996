/-
  RouteShortcuts.Proofs.Manifest.Settled — what was filled in once is not filled in again.

  An entry may be declared again with everything that it shows (`Redeclares`). A text that is
  declared empty counts as missing, so the entry comes out as it went in exactly if it has a
  description, and a short name unless it has no name either (`Settled`). What a manifest fills in
  is settled, whatever was declared and whatever the options were. The one text that it leaves empty
  is the short name of a shortcut without a name, and the front of no name is filled in there again.
  Icons are never filled in again: an empty list of them is a list.

  Proved: what becomes of an entry that is declared again (`entry_redeclared_iff`, `settled_entry`);
  hence a manifest stays as it is however often its entries are declared again, and with whatever
  options (`defaults_are_kept`).
-/

import RouteShortcuts.Proofs.Manifest.Complete

namespace RouteShortcuts.Manifest

/-- A declaration of everything that an entry shows. The file makes no difference. -/
inductive Redeclares (e : ManifestEntry) : Shortcut → Prop
  | inFile (file : String) : Redeclares e
      { path := e.url
        details :=
          { name := e.name, shortName := some e.shortName, description := some e.description,
            icons := some e.icons }
        file := file }

/-- Nothing of an entry that counts as missing would be filled in with anything else. -/
structure Settled (e : ManifestEntry) : Prop where
  shortName : e.shortName = "" → e.name = ""
  description : e.description ≠ ""

/-! ## One entry -/

theorem nonEmpty?_getD (text fallback : String) :
    (nonEmpty? (some text)).getD fallback = orDefault text fallback := by
  by_cases h : text = ""
  · simp [nonEmpty?, orDefault, h]
  · simp [nonEmpty?, orDefault, h]

theorem orDefault_kept {text fallback : String} :
    orDefault text fallback = text ↔ (text = "" → fallback = "") := by
  by_cases h : text = ""
  · simp [orDefault, h]
  · simp [orDefault, h]

theorem front_eq_empty {name : String} : front name = "" ↔ name = "" := by
  constructor
  · intro h
    by_contra hname
    exact front_ne_empty hname h
  · rintro rfl
    decide

/-- Declared again, an entry keeps its icons, and its texts unless they are empty. -/
theorem entry_redeclared {e : ManifestEntry} {s : Shortcut} (h : Redeclares e s) (o : Options) :
    entry o s = { e with
      shortName := orDefault e.shortName (front e.name)
      description := orDefault e.description ("Go to " ++ e.name) } := by
  cases h with
  | inFile file =>
    simp only [entry, nonEmpty?_getD, take_shortNameLength, Option.getD_some]

/-- The entries that do not change when they are declared again. -/
theorem entry_redeclared_iff {e : ManifestEntry} {s : Shortcut} (h : Redeclares e s) (o : Options) :
    entry o s = e ↔ Settled e := by
  have hparts : entry o s = e ↔
      orDefault e.shortName (front e.name) = e.shortName ∧
          orDefault e.description ("Go to " ++ e.name) = e.description := by
    rw [entry_redeclared h o]
    cases e
    simp
  rw [hparts, orDefault_kept, orDefault_kept, front_eq_empty]
  constructor
  · rintro ⟨hshort, hdescription⟩
    exact ⟨hshort, fun hempty => goTo_ne_empty _ (hdescription hempty)⟩
  · rintro ⟨hshort, hdescription⟩
    exact ⟨hshort, fun hempty => absurd hempty hdescription⟩

/-- What is filled in needs no filling in, be it of a shortcut without a name. -/
theorem settled_entry (o : Options) (s : Shortcut) : Settled (entry o s) := by
  have hshort : Filled s.details.shortName (front s.details.name) (entry o s).shortName := by
    rw [← take_shortNameLength]
    exact filled_nonEmpty? _ _
  have hdescription : Filled s.details.description ("Go to " ++ s.details.name)
      (entry o s).description :=
    filled_nonEmpty? _ _
  refine ⟨?_, hdescription.ne_empty (goTo_ne_empty _)⟩
  intro hempty
  by_contra hname
  exact hshort.ne_empty (front_ne_empty hname) hempty

/-! ## Manifests -/

/-- A manifest that is settled stays as it is when its entries are declared again. -/
theorem entries_redeclared {es : List ManifestEntry} {shortcuts : List Shortcut}
    (h : List.Forall₂ Redeclares es shortcuts) (hs : ∀ e ∈ es, Settled e) (o : Options) :
    entries o shortcuts = es := by
  induction h with
  | nil => rfl
  | @cons e s es shortcuts he _ ih =>
    have hhead : entry o s = e := (entry_redeclared_iff he o).mpr (hs e List.mem_cons_self)
    have htail : entries o shortcuts = es := ih (fun e' he' => hs e' (List.mem_cons_of_mem e he'))
    show entry o s :: entries o shortcuts = e :: es
    rw [hhead, htail]

theorem settled_entries (o : Options) (shortcuts : List Shortcut) :
    ∀ e ∈ entries o shortcuts, Settled e := by
  intro e he
  obtain ⟨s, -, rfl⟩ := List.mem_map.mp he
  exact settled_entry o s

/-- The manifests that come of a first one when entries are declared again and filled in, time after
time and each time with options of its own. -/
inductive Regenerated (first : List ManifestEntry) : List ManifestEntry → Prop
  | start : Regenerated first first
  | again {es : List ManifestEntry} {shortcuts : List Shortcut} (o : Options) : Regenerated first es →
      List.Forall₂ Redeclares es shortcuts → Regenerated first (entries o shortcuts)

theorem regenerated_eq {first es : List ManifestEntry} (hs : ∀ e ∈ first, Settled e)
    (h : Regenerated first es) : es = first := by
  induction h with
  | start => rfl
  | again o _ hes ih =>
    rw [ih] at hes
    exact entries_redeclared hes hs o

/-- The entries of any shortcuts, with any options, are the same when they are declared again and
filled in with any others; and so they are after any number of times. -/
theorem defaults_are_kept (shortcuts : List Shortcut) (o : Options) :
    (∀ (o' : Options) (again : List Shortcut), List.Forall₂ Redeclares (entries o shortcuts) again →
      entries o' again = entries o shortcuts) ∧
    ∀ es, Regenerated (entries o shortcuts) es → es = entries o shortcuts := by
  have hs : ∀ e ∈ entries o shortcuts, Settled e := settled_entries o shortcuts
  refine ⟨?_, ?_⟩
  · intro o' again h
    exact entries_redeclared h hs o'
  · intro es h
    exact regenerated_eq hs h

/-- A shortcut that says nothing, and two ways to fill it in. -/
def nameless : Shortcut :=
  { path := "", details := { name := "", shortName := some "" }, file := "a.ts" }

def oneSize : Options := ⟨[], "/icon-192.png", ["96x96"], "f", ⟨"", .nothing⟩⟩

def otherSizes : Options := { oneSize with defaultIcon := "/other.png", iconSizes := ["512x512", ""] }

/-- What the first way makes of it, declared again. -/
def namelessAgain : Shortcut :=
  { path := ""
    details :=
      { name := ""
        shortName := some ""
        description := some "Go to "
        icons := some [⟨some "/icon-96.png", some "96x96", some "image/png", none⟩] }
    file := "b.ts" }

theorem a_nameless_shortcut_is_filled_in_once :
    entries otherSizes [namelessAgain] = entries oneSize [nameless] := by
  have hentry : entry oneSize nameless =
      ⟨"", "", "Go to ", "", [⟨some "/icon-96.png", some "96x96", some "image/png", none⟩]⟩ := by
    decide +kernel
  have hagain : Redeclares (entry oneSize nameless) namelessAgain := by
    rw [hentry]
    exact .inFile "b.ts"
  exact (defaults_are_kept [nameless] oneSize).1 otherSizes [namelessAgain] (.cons hagain .nil)

end RouteShortcuts.Manifest
