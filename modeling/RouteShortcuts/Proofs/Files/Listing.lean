/-
  RouteShortcuts.Proofs.Files.Listing — the files of a tree to which something is added.

  A directory is walked by the names of its entries (`files_directory`). So entries that are added
  put their files between the others and change nothing about their order: without what is new, the
  list of a tree is the one that it was, as long as what was there opens as it did (`Drops`,
  `files_drops`).
-/

import Mathlib.Data.List.Sort
import RouteShortcuts.Proofs.Files.Growth
import RouteShortcuts.Proofs.Files.Search

namespace RouteShortcuts.Files

/-! ## Lists without some of their members -/

/-- The second list is the first one without members that are all as in `P`. -/
inductive Drops {α : Type} (P : α → Prop) : List α → List α → Prop
  | nil : Drops P [] []
  | keep {a : α} {as bs : List α} : Drops P as bs → Drops P (a :: as) (a :: bs)
  | drop {a : α} {as bs : List α} : P a → Drops P as bs → Drops P (a :: as) bs

section

variable {α β : Type} {P : α → Prop} {as bs as' bs' : List α}

theorem Drops.refl (P : α → Prop) (as : List α) : Drops P as as := by
  induction as with
  | nil => exact .nil
  | cons a as ih => exact .keep ih

theorem drops_all (h : ∀ a ∈ as, P a) : Drops P as [] := by
  induction as with
  | nil => exact .nil
  | cons a as ih =>
    exact .drop (h a List.mem_cons_self) (ih fun a ha => h a (List.mem_cons_of_mem _ ha))

theorem Drops.append (h : Drops P as bs) (h' : Drops P as' bs') : Drops P (as ++ as') (bs ++ bs') := by
  induction h with
  | nil => exact h'
  | keep _ ih => exact .keep ih
  | drop ha _ ih => exact .drop ha ih

theorem drops_flatMap {f g : β → List α} {l : List β} (h : ∀ b ∈ l, Drops P (f b) (g b)) :
    Drops P (l.flatMap f) (l.flatMap g) := by
  induction l with
  | nil => exact .nil
  | cons b l ih =>
    rw [List.flatMap_cons, List.flatMap_cons]
    exact (h b List.mem_cons_self).append (ih fun b hb => h b (List.mem_cons_of_mem _ hb))

theorem Drops.filter (h : Drops P as bs) (p : α → Bool) : Drops P (as.filter p) (bs.filter p) := by
  induction h with
  | nil => exact .nil
  | @keep a as bs _ ih =>
    rw [List.filter_cons, List.filter_cons]
    split
    · exact .keep ih
    · exact ih
  | @drop a as bs ha _ ih =>
    rw [List.filter_cons]
    split
    · exact .drop ha ih
    · exact ih

theorem drops_filter (p : α → Bool) (as : List α) : Drops (fun a => p a = false) as (as.filter p) := by
  induction as with
  | nil => exact .nil
  | cons a as ih =>
    rw [List.filter_cons]
    split
    · exact .keep ih
    · rename_i hp
      exact .drop (Bool.eq_false_iff.mpr hp) ih

theorem Drops.eq_of_none (h : Drops P as bs) (hno : ∀ a ∈ as, ¬ P a) : as = bs := by
  induction h with
  | nil => rfl
  | keep _ ih => rw [ih fun a ha => hno a (List.mem_cons_of_mem _ ha)]
  | drop ha => exact absurd ha (hno _ List.mem_cons_self)

/-- What is left out adds nothing if it gives nothing. -/
theorem Drops.flatMap_eq (h : Drops P as bs) {f : α → List β} (hf : ∀ a, P a → f a = []) :
    as.flatMap f = bs.flatMap f := by
  induction h with
  | nil => rfl
  | keep _ ih => rw [List.flatMap_cons, List.flatMap_cons, ih]
  | drop ha _ ih => rw [List.flatMap_cons, hf _ ha, ih, List.nil_append]

end

/-! ## Directories by name -/

theorem nodup_names {entries : List (String × Entry)} (hs : Entry.soundAll entries = true) :
    (entries.map Prod.fst).Nodup := by
  induction entries with
  | nil => exact List.nodup_nil
  | cons p rest ih =>
    obtain ⟨n, e⟩ := p
    simp only [Entry.soundAll, Bool.and_eq_true, Option.isNone_iff_eq_none] at hs
    obtain ⟨⟨⟨-, hfresh⟩, -⟩, hrest⟩ := hs
    refine List.nodup_cons.mpr ⟨fun hmem => ?_, ih hrest⟩
    exact mem_sortedNames.mp (List.mem_mergeSort.mpr hmem) hfresh

theorem sortedNames_pairwise (entries : List (String × Entry)) :
    (sortedNames entries).Pairwise (· ≤ ·) := by
  refine (List.pairwise_mergeSort ?_ ?_ _).imp fun h => by simpa using h
  · intro a b c hab hbc
    simp only [decide_eq_true_eq] at hab hbc ⊢
    exact String.le_trans hab hbc
  · intro a b
    simpa using String.le_total a b

/-- A directory to which entries are added has the same names between the new ones. -/
theorem sortedNames_filter {entries entries' : List (String × Entry)}
    (hs : Entry.soundAll entries = true) (hs' : Entry.soundAll entries' = true)
    (hkept : ∀ name, find? name entries ≠ none → find? name entries' ≠ none) :
    sortedNames entries = (sortedNames entries').filter fun name => (find? name entries).isSome := by
  have hnodup : ∀ {entries : List (String × Entry)}, Entry.soundAll entries = true →
      (sortedNames entries).Nodup :=
    fun hs => (List.mergeSort_perm _ _).nodup_iff.mpr (nodup_names hs)
  refine List.Perm.eq_of_pairwise (fun a b _ _ hab hba => String.le_antisymm hab hba)
    (sortedNames_pairwise entries)
    ((sortedNames_pairwise entries').filter _) ?_
  rw [List.perm_ext_iff_of_nodup (hnodup hs) ((hnodup hs').filter _)]
  intro name
  rw [List.mem_filter, mem_sortedNames, mem_sortedNames, Option.isSome_iff_ne_none]
  exact ⟨fun h => ⟨hkept name h, h⟩, fun h => h.2⟩

/-! ## Trees -/

/-- Everything in `e` stands in `e'` too, and is of the same kind. -/
def Keeps (e e' : Entry) : Prop := ∀ l x, e.at? l = some x → ∃ x', e'.at? l = some x' ∧ x'.bare = x.bare

theorem Keeps.bare {e e' : Entry} (h : Keeps e e') : e'.bare = e.bare := by
  obtain ⟨x, hx, hbare⟩ := h [] e rfl
  cases hx
  exact hbare

theorem Keeps.below {entries entries' : List (String × Entry)}
    (h : Keeps (.directory entries) (.directory entries'))
    {name : String} {e : Entry} (he : find? name entries = some e) :
    ∃ e', find? name entries' = some e' ∧ Keeps e e' := by
  have hat : ∀ {entries : List (String × Entry)} {l : Location} {x : Entry},
      (Entry.directory entries).at? (name :: l) = some x ↔ ∃ e, find? name entries = some e ∧
          e.at? l = some x := by
    intro entries l x
    simp only [Entry.at?, Option.bind_eq_some_iff]
  obtain ⟨x, hx, -⟩ := h [name] e (hat.mpr ⟨e, he, rfl⟩)
  obtain ⟨e', he', -⟩ := hat.mp hx
  refine ⟨e', he', fun l x hx => ?_⟩
  obtain ⟨x', hx', hbare⟩ := h (name :: l) x (hat.mpr ⟨e, he, hx⟩)
  obtain ⟨e'', he'', hx''⟩ := hat.mp hx'
  rw [he'] at he''
  cases he''
  exact ⟨x', hx'', hbare⟩

theorem Keeps.name {entries entries' : List (String × Entry)}
    (h : Keeps (.directory entries) (.directory entries')) (name : String)
    (hname : find? name entries ≠ none) : find? name entries' ≠ none := by
  obtain ⟨e, he⟩ := Option.ne_none_iff_exists'.mp hname
  obtain ⟨e', he', -⟩ := h.below he
  rw [he']
  exact Option.some_ne_none e'

/-- The files that are new in a tree all have paths as in `P`. -/
def AddsOnly (P : String → Prop) (path : String) (e e' : Entry) : Prop :=
  ∀ names content, e'.at? names = some (.file content) → e.at? names = none → P (names.foldl join path)

theorem AddsOnly.below {P : String → Prop} {path name : String}
    {entries entries' : List (String × Entry)} {e e' : Entry}
    (h : AddsOnly P path (.directory entries) (.directory entries')) (he : find? name entries = some e)
    (he' : find? name entries' = some e') : AddsOnly P (join path name) e e' := by
  intro names content hnew hnone
  refine h (name :: names) content ?_ ?_
  · simp only [Entry.at?, he', Option.bind_some, hnew]
  · simp only [Entry.at?, he, Option.bind_some, hnone]

/-- Under a new name all files are new. -/
theorem AddsOnly.new {P : String → Prop} {path name : String}
    {entries entries' : List (String × Entry)} {e' : Entry}
    (h : AddsOnly P path (.directory entries) (.directory entries')) (he : find? name entries = none)
    (he' : find? name entries' = some e') (hs' : e'.sound = true)
    {refuses : Location → String → Option Refusal} {place : Location} {x : String}
    (hx : x ∈ e'.files refuses place (join path name)) : P x := by
  obtain ⟨names, content, hfile, -, rfl⟩ := (mem_files hs').mp hx
  refine h (name :: names) content ?_ ?_
  · simp only [Entry.at?, he', Option.bind_some, hfile]
  · simp only [Entry.at?, he, Option.bind_none]

/-- The directories of a tree open as they open for another walk. -/
def OpensAs (refuses refuses' : Location → String → Option Refusal) (place : Location) (path : String)
    (e : Entry) : Prop :=
  ∀ names entries, e.at? names = some (.directory entries) →
    refuses' (place ++ names) (names.foldl join path) = refuses (place ++ names) (names.foldl join path)

theorem OpensAs.below {refuses refuses' : Location → String → Option Refusal} {place : Location}
    {path name : String} {entries : List (String × Entry)} {e : Entry}
    (h : OpensAs refuses refuses' place path (.directory entries)) (he : find? name entries = some e) :
    OpensAs refuses refuses' (place ++ [name]) (join path name) e := by
  intro names below hat
  have hname := h (name :: names) below (at?_cons.mpr ⟨entries, e, rfl, he, hat⟩)
  rwa [List.append_cons] at hname

/-- A directory may be gone through by the names of a larger one: where it has no such name it has no
files. -/
theorem files_by_names {entries entries' : List (String × Entry)}
    (hs : Entry.soundAll entries = true) (hs' : Entry.soundAll entries' = true)
    (hnames : ∀ name, find? name entries ≠ none → find? name entries' ≠ none)
    {refuses : Location → String → Option Refusal} {place : Location} {path : String}
    (hopen : refuses place path = none) :
    (Entry.directory entries).files refuses place path =
      (sortedNames entries').flatMap (filesAt refuses place path entries) := by
  rw [files_directory hs hopen, sortedNames_filter hs hs' hnames]
  refine ((drops_filter _ _).flatMap_eq fun name hname => ?_).symm
  exact filesAt_none (by simpa using hname)

/-- A tree to which something is added lists what it listed, and what is new. -/
theorem files_drops {P : String → Prop} {refuses refuses' : Location → String → Option Refusal}
    {e : Entry} (hs : e.sound = true) :
    ∀ (e' : Entry) (place : Location) (path : String), e'.sound = true → Keeps e e' →
      AddsOnly P path e e' → OpensAs refuses refuses' place path e →
        Drops P (e'.files refuses' place path) (e.files refuses place path) := by
  refine Entry.sound_induct ?_ ?_ ?_ hs
  · intro content e' place path _ hkeeps _ _
    rw [bare_file.mp hkeeps.bare]
    exact .refl P _
  · intro target e' place path _ hkeeps _ _
    rw [bare_link.mp hkeeps.bare]
    exact .refl P _
  · intro entries hs ih e' place path hs' hkeeps hadds hopens
    obtain ⟨entries', rfl⟩ := bare_empty.mp hkeeps.bare
    have hsame : refuses' place path = refuses place path := by simpa using hopens [] entries rfl
    cases hopen : refuses place path with
    | some refusal =>
      rw [files_refused hopen, files_refused (hsame.trans hopen)]
      exact .nil
    | none =>
      rw [files_by_names hs hs' hkeeps.name hopen, files_directory hs' (hsame.trans hopen)]
      refine drops_flatMap fun name hname => ?_
      obtain ⟨e', he'⟩ := mem_sortedNames_iff.mp hname
      obtain ⟨-, hs'⟩ := find?_sound hs' he'
      rw [filesAt_some he']
      cases he : find? name entries with
      | none =>
        rw [filesAt_none he]
        exact drops_all fun x hx => hadds.new he he' hs' hx
      | some e =>
        obtain ⟨x, hx, hbelow⟩ := hkeeps.below he
        rw [he'] at hx
        cases hx
        rw [filesAt_some he]
        exact ih name e he e' _ _ hs' hbelow (hadds.below he he') (hopens.below he)

end RouteShortcuts.Files
