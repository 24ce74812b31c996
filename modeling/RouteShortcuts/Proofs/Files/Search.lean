/-
  RouteShortcuts.Proofs.Files.Search — what a walk down a tree comes to.

  A walk goes down by names as far as it can open the directories on the way (`Opened`). Of everything
  that stands below it makes an item or none (`Entry.item?`), so what it comes to is known from the
  places of the tree alone (`mem_items`): the files on whose way every directory opens, by the paths
  that their names make (`mem_files`), and of the directories that do not open the topmost ones. A
  directory that opens is walked by the names of its entries in their order (`items_directory`).
-/

import Mathlib.Data.List.Basic
import RouteShortcuts.Proofs.Files.Tree

namespace RouteShortcuts.Files

/-! ## Directories by name -/

/-- The names of entries, in their order. -/
def sortedNames (entries : List (String × Entry)) : List String :=
  (entries.map Prod.fst).mergeSort fun a b => decide (a ≤ b)

theorem mem_sortedNames {entries : List (String × Entry)} {name : String} :
    name ∈ sortedNames entries ↔ find? name entries ≠ none := by
  rw [sortedNames, List.mem_mergeSort]
  induction entries with
  | nil => simp [find?]
  | cons p rest ih =>
    obtain ⟨n, e⟩ := p
    by_cases hn : n = name
    · simp [find?, hn]
    · simp [find?, hn, ih, Ne.symm hn]

theorem mem_sortedNames_iff {entries : List (String × Entry)} {name : String} :
    name ∈ sortedNames entries ↔ ∃ e, find? name entries = some e := by
  rw [mem_sortedNames, Option.ne_none_iff_exists']

section

variable {refuses : Location → String → Option Refusal} {place : Location} {path : String}

variable (refuses place path) in
/-- What a walk comes to from the entry with a name, if there is one. -/
def itemsAt (entries : List (String × Entry)) (name : String) : List Item :=
  (find? name entries).elim [] fun e => e.items refuses (place ++ [name]) (join path name)

theorem itemsAt_some {entries : List (String × Entry)} {name : String} {e : Entry}
    (he : find? name entries = some e) : itemsAt refuses place path entries name =
      e.items refuses (place ++ [name]) (join path name) := by
  rw [itemsAt, he, Option.elim_some]

theorem map_itemsOf (entries : List (String × Entry)) :
    (Entry.itemsOf refuses place path entries).map Prod.fst = entries.map Prod.fst := by
  induction entries with
  | nil => rfl
  | cons p rest ih =>
    obtain ⟨n, e⟩ := p
    simp only [Entry.itemsOf, List.map_cons, ih]

theorem itemsOf_mem {p : String × List Item} : ∀ {entries : List (String × Entry)},
    Entry.soundAll entries = true → p ∈ Entry.itemsOf refuses place path entries →
      p.2 = itemsAt refuses place path entries p.1 := by
  intro entries
  induction entries with
  | nil => intro _ hp; cases hp
  | cons q rest ih =>
    obtain ⟨n, e⟩ := q
    intro hs hp
    simp only [Entry.soundAll, Bool.and_eq_true, Option.isNone_iff_eq_none] at hs
    obtain ⟨⟨⟨-, hfresh⟩, -⟩, hrest⟩ := hs
    rw [Entry.itemsOf] at hp
    rcases List.mem_cons.mp hp with rfl | hp
    · simp [itemsAt, find?]
    · -- the names differ, so the first entry does not hide the other one
      have hmem : p.1 ∈ sortedNames rest := by
        rw [sortedNames, List.mem_mergeSort, ← @map_itemsOf refuses place path]
        exact List.mem_map_of_mem hp
      have hne : n ≠ p.1 := by
        rintro rfl
        exact mem_sortedNames.mp hmem hfresh
      rw [ih hrest hp, itemsAt, itemsAt, find?, if_neg hne]

/-- A directory that opens is walked name by name. -/
theorem items_directory {entries : List (String × Entry)} (hs : Entry.soundAll entries = true)
    (hopen : refuses place path = none) : (Entry.directory entries).items refuses place path =
      (sortedNames entries).flatMap (itemsAt refuses place path entries) := by
  have hnames : sortedNames entries =
      ((Entry.itemsOf refuses place path entries).mergeSort fun a b =>
          decide (a.1 ≤ b.1)).map Prod.fst := by
    rw [sortedNames, ← map_itemsOf entries, List.map_mergeSort]
    exact fun _ _ _ _ => rfl
  rw [hnames, List.flatMap_map, Entry.items, hopen]
  refine List.flatMap_congr fun p hp => ?_
  exact itemsOf_mem hs (List.mem_mergeSort.mp hp)

theorem items_refused {entries : List (String × Entry)} {refusal : Refusal}
    (h : refuses place path = some refusal) :
    (Entry.directory entries).items refuses place path = [.skipped ⟨path, refusal⟩] := by
  rw [Entry.items, h]

end

/-! ## The way down -/

/-- Every directory that is left by these names can be opened, the one at `place` by `path`. -/
def Opened (refuses : Location → String → Option Refusal) : Location → String → Location → Prop
  | _, _, [] => True
  | place, path, name :: rest =>
    refuses place path = none ∧ Opened refuses (place ++ [name]) (join path name) rest

/-- What a walk makes of an entry that it comes to, whatever is below. -/
def Entry.item? (refuses : Location → String → Option Refusal) (place : Location) (path : String) :
    Entry → Option Item
  | .file _ => some (.file path)
  | .link _ => none
  | .directory _ => (refuses place path).map fun refusal => .skipped ⟨path, refusal⟩

section

variable {refuses : Location → String → Option Refusal}

theorem Opened.append {a b place : Location} {path : String} : Opened refuses place path (a ++ b) ↔
    Opened refuses place path a ∧ Opened refuses (place ++ a) (a.foldl join path) b := by
  induction a generalizing place path with
  | nil => simp [Opened]
  | cons name a ih => simp [Opened, ih, and_assoc]

/-- Names on whose way every directory opens lead to something that a walk makes this item of. -/
def Entry.ComesTo (refuses : Location → String → Option Refusal) (place : Location) (path : String)
    (e : Entry) (item : Item) : Prop :=
  ∃ names x, e.at? names = some x ∧ Opened refuses place path names ∧
    x.item? refuses (place ++ names) (names.foldl join path) = some item

theorem comesTo_file {content : ByteArray} {place : Location} {path : String} {item : Item} :
    (Entry.file content).ComesTo refuses place path item ↔ item = .file path := by
  constructor
  · intro h
    obtain ⟨names, x, hx, -, hitem⟩ := h
    obtain ⟨rfl, rfl⟩ := at?_file.mp hx
    exact (Option.some.inj hitem).symm
  · intro h
    subst h
    exact ⟨[], _, rfl, trivial, rfl⟩

theorem comesTo_refused {entries : List (String × Entry)} {place : Location} {path : String}
    {refusal : Refusal} (h : refuses place path = some refusal) {item : Item} :
    (Entry.directory entries).ComesTo refuses place path item ↔ item = .skipped ⟨path, refusal⟩ := by
  constructor
  · rintro ⟨names, x, hx, hway, hitem⟩
    cases names with
    | nil =>
      cases hx
      simpa [Entry.item?, h, eq_comm] using hitem
    | cons name names =>
      rw [Opened, h] at hway
      cases hway.1
  · intro hitem
    subst hitem
    exact ⟨[], _, rfl, trivial, by simp [Entry.item?, h]⟩

/-- What opens is no item itself, so the way goes on by a name. -/
theorem comesTo_opened {entries : List (String × Entry)} {place : Location} {path : String}
    (h : refuses place path = none) {item : Item} :
    (Entry.directory entries).ComesTo refuses place path item ↔ ∃ name e,
      find? name entries = some e ∧ e.ComesTo refuses (place ++ [name]) (join path name) item := by
  constructor
  · rintro ⟨names, x, hx, hway, hitem⟩
    cases names with
    | nil =>
      cases hx
      simp [Entry.item?, h] at hitem
    | cons name names =>
      obtain ⟨_, e, hentries, he, hx⟩ := at?_cons.mp hx
      cases hentries
      rw [List.append_cons] at hitem
      exact ⟨name, e, he, names, x, hx, hway.2, hitem⟩
  · rintro ⟨name, e, he, names, x, hx, hway, hitem⟩
    rw [List.append_assoc] at hitem
    exact ⟨name :: names, x, at?_cons.mpr ⟨entries, e, rfl, he, hx⟩, ⟨h, hway⟩, hitem⟩

/-- A walk comes to what stands below by names on whose way every directory opens. -/
theorem mem_items {item : Item} {e : Entry} (hs : e.sound = true) : ∀ (place : Location)
    (path : String), item ∈ e.items refuses place path ↔ e.ComesTo refuses place path item := by
  refine Entry.sound_induct ?_ ?_ ?_ hs
  · intro content place path
    rw [Entry.items, List.mem_singleton, comesTo_file]
  · intro target place path
    simp [Entry.items, Entry.ComesTo, at?_link, Entry.item?]
  · intro entries hs ih place path
    cases hopen : refuses place path with
    | some refusal => rw [items_refused hopen, List.mem_singleton, comesTo_refused hopen]
    | none =>
      rw [items_directory hs hopen, List.mem_flatMap, comesTo_opened hopen]
      constructor
      · rintro ⟨name, hname, hitem⟩
        obtain ⟨e, he⟩ := mem_sortedNames_iff.mp hname
        rw [itemsAt_some he, ih name e he] at hitem
        exact ⟨name, e, he, hitem⟩
      · rintro ⟨name, e, he, hitem⟩
        refine ⟨name, mem_sortedNames_iff.mpr ⟨e, he⟩, ?_⟩
        rwa [itemsAt_some he, ih name e he]

def Entry.files (refuses : Location → String → Option Refusal) (place : Location) (path : String)
    (e : Entry) : List String := (e.items refuses place path).filterMap Item.file?

/-- The files that a walk comes to from the entry with a name. -/
def filesAt (refuses : Location → String → Option Refusal) (place : Location) (path : String)
    (entries : List (String × Entry)) (name : String) : List String :=
  (itemsAt refuses place path entries name).filterMap Item.file?

theorem filesAt_some {place : Location} {path name : String}
    {entries : List (String × Entry)} {e : Entry} (he : find? name entries = some e) :
    filesAt refuses place path entries name =
      e.files refuses (place ++ [name]) (join path name) := by
  rw [filesAt, itemsAt_some he, Entry.files]

theorem filesAt_none {place : Location} {path name : String} {entries : List (String × Entry)}
    (h : find? name entries = none) : filesAt refuses place path entries name = [] := by
  rw [filesAt, itemsAt, h, Option.elim_none, List.filterMap_nil]

theorem files_directory {place : Location} {path : String} {entries : List (String × Entry)}
    (hs : Entry.soundAll entries = true) (hopen : refuses place path = none) :
    (Entry.directory entries).files refuses place path =
      (sortedNames entries).flatMap (filesAt refuses place path entries) := by
  rw [Entry.files, items_directory hs hopen, List.filterMap_flatMap]
  rfl

theorem files_refused {place : Location} {path : String} {entries : List (String × Entry)}
    {refusal : Refusal} (h : refuses place path = some refusal) :
    (Entry.directory entries).files refuses place path = [] := by
  rw [Entry.files, items_refused h]
  rfl

/-- Files are made of files, by their path. -/
theorem item?_file {place : Location} {path x : String} {e : Entry} {item : Item}
    (h : e.item? refuses place path = some item) (hfile : item.file? = some x) :
    ∃ content, e = .file content ∧ x = path := by
  cases e with
  | file content =>
    cases h
    exact ⟨content, rfl, (Option.some.inj hfile).symm⟩
  | link => cases h
  | directory =>
    obtain ⟨refusal, -, rfl⟩ := Option.map_eq_some_iff.mp h
    cases hfile

/-- What is skipped are directories that do not open. -/
theorem item?_skipped {place : Location} {path : String} {s : Skipped} {e : Entry} {item : Item}
    (h : e.item? refuses place path = some item) (hskipped : item.skipped? = some s) :
    ∃ entries, e = .directory entries ∧ s.path = path ∧ refuses place path = some s.refusal := by
  cases e with
  | file content =>
    cases h
    cases hskipped
  | link => cases h
  | directory entries =>
    obtain ⟨refusal, hrefused, rfl⟩ := Option.map_eq_some_iff.mp h
    cases hskipped
    exact ⟨entries, rfl, rfl, hrefused⟩

/-- A walk comes to the files on whose way every directory opens. -/
theorem mem_files {e : Entry} (hs : e.sound = true) {place : Location} {path x : String} :
    x ∈ e.files refuses place path ↔ ∃ names content, e.at? names = some (.file content) ∧
      Opened refuses place path names ∧ x = names.foldl join path := by
  simp only [Entry.files, List.mem_filterMap, mem_items hs, Entry.ComesTo]
  constructor
  · rintro ⟨item, ⟨names, y, hy, hway, hitem⟩, hfile⟩
    obtain ⟨content, rfl, rfl⟩ := item?_file hitem hfile
    exact ⟨names, content, hy, hway, rfl⟩
  · rintro ⟨names, content, hy, hway, rfl⟩
    exact ⟨_, ⟨names, _, hy, hway, rfl⟩, rfl⟩

end

end RouteShortcuts.Files
