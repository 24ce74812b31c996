/-
  RouteShortcuts.Proofs.Files.Path — the texts of places.

  The name of an entry is a text that is neither empty nor `.` or `..` and has no slash (`IsName`). The
  text of a place spells its names: they are the pieces of it (`pieces_path`), no two places have one
  path (`samePath_path`), and joining a name, or taking the front of a path away, does to the text
  what it says of the place (`join_path`, `stripPrefix?_path`).
-/

import Mathlib.Data.List.Induction
import RouteShortcuts.Files.Tree

namespace RouteShortcuts.Files

/-- May a text be the name of an entry? -/
structure IsName (s : String) : Prop where
  nonempty : s ≠ ""
  notHere : s ≠ "."
  notUp : s ≠ ".."
  noSlash : '/' ∉ s.toList

/-! ## Texts with the same components -/

theorem samePath_iff {a b : String} : samePath a b = true ↔ components a = components b := by
  simp [samePath]

theorem samePath_refl (a : String) : samePath a a = true := samePath_iff.mpr rfl

theorem samePath_congr {a b : String} (h : samePath a b = true) (c : String) :
    samePath c a = samePath c b := by
  rw [Bool.eq_iff_iff, samePath_iff, samePath_iff, samePath_iff.mp h]

/-! ## Pieces -/

theorem not_mem_of_mem_splitOn {α : Type} [DecidableEq α] {a : α} :
    ∀ {l piece : List α}, piece ∈ l.splitOn a → a ∉ piece := by
  intro l
  induction l with
  | nil => simp
  | cons x l ih =>
    intro piece h
    rw [List.splitOn_cons_eq_if_modifyHead] at h
    split at h
    · rcases List.mem_cons.mp h with rfl | h
      · simp
      · exact ih h
    · rename_i hx
      cases hl : l.splitOn a with
      | nil => rw [hl] at h; simp at h
      | cons first rest =>
        rw [hl, List.modifyHead_cons] at h
        rcases List.mem_cons.mp h with rfl | h
        · have hf : a ∉ first := ih (by simp [hl])
          have hne : a ≠ x := fun e => hx (by simp [e])
          simp [hf, hne]
        · exact ih (by simp [hl, h])

theorem noSlash_of_mem_pieces {path s : String} (h : s ∈ pieces path) : '/' ∉ s.toList := by
  obtain ⟨piece, hp, rfl⟩ := List.mem_map.mp h
  simpa using not_mem_of_mem_splitOn hp

theorem pieces_ne_nil (path : String) : pieces path ≠ [] := by simp [pieces, List.splitOn_ne_nil]

theorem intercalate_pieces (path : String) : "/".intercalate (pieces path) = path := by
  rw [← String.toList_inj, String.toList_intercalate]
  simp [pieces, List.map_map, Function.comp_def, List.intercalate_splitOn]

theorem pieces_intercalate {names : List String} (h : ∀ s ∈ names, '/' ∉ s.toList) (hne : names ≠ []) :
    pieces ("/".intercalate names) = names := by
  have hsplit : (['/'].intercalate (names.map String.toList)).splitOn '/' = names.map String.toList :=
    List.splitOn_intercalate '/' (by simpa using h) (by simpa using hne)
  rw [pieces, String.toList_intercalate, show "/".toList = ['/'] from rfl, hsplit]
  simp [List.map_map, Function.comp_def]

theorem mem_intercalate {c : Char} {names : List String} (h : c ∈ ("/".intercalate names).toList) :
    c = '/' ∨ ∃ s ∈ names, c ∈ s.toList := by
  induction names with
  | nil => simp at h
  | cons s names ih =>
    by_cases hn : names = []
    · subst hn
      exact Or.inr ⟨s, by simp, by simpa using h⟩
    · rw [String.intercalate_cons_of_ne_nil hn, String.toList_append, String.toList_append,
        List.append_assoc] at h
      rcases List.mem_append.mp h with h | h
      · exact Or.inr ⟨s, by simp, h⟩
      rcases List.mem_append.mp h with h | h
      · exact Or.inl (by simpa using h)
      · rcases ih h with h | ⟨t, ht, h⟩
        · exact Or.inl h
        · exact Or.inr ⟨t, by simp [ht], h⟩

/-- A path is relative if its first piece is not empty. -/
theorem isAbsolute_of_pieces {path : String} (h : ∀ s ∈ pieces path, s ≠ "") :
    isAbsolute path = false := by
  cases hc : path.toList with
  | nil => simp [isAbsolute, hc]
  | cons c rest =>
    by_cases hs : c = '/'
    · refine absurd rfl (h "" ?_)
      simp [pieces, hc, hs, List.splitOn_cons_eq_if_modifyHead]
    · simp [isAbsolute, hc, hs]

/-! ## The path of a place -/

theorem path_eq_intercalate {l : Location} (hne : l ≠ []) : l.path = "/".intercalate ("" :: l) := by
  rw [String.intercalate_cons_of_ne_nil hne]
  simp [Location.path]

theorem pieces_path {l : Location} (h : ∀ s ∈ l, '/' ∉ s.toList) (hne : l ≠ []) :
    pieces l.path = "" :: l := by
  rw [path_eq_intercalate hne, pieces_intercalate (by simpa using h) (by simp)]

theorem mem_path {c : Char} {l : Location} (h : c ∈ l.path.toList) :
    c = '/' ∨ ∃ s ∈ l, c ∈ s.toList := by
  simp only [Location.path, String.toList_append, List.mem_append] at h
  rcases h with h | h
  · exact Or.inl (by simpa using h)
  · exact mem_intercalate h

theorem isAbsolute_path (l : Location) : isAbsolute l.path = true := by
  simp [isAbsolute, Location.path]

theorem component?_name {s : String} (h : IsName s) : component? s = some (.name s) := by
  simp [component?, h.nonempty, h.notHere, h.notUp]

theorem filterMap_component?_names {l : List String} (h : ∀ s ∈ l, IsName s) :
    l.filterMap component? = l.map Component.name := by
  induction l with
  | nil => rfl
  | cons s l ih =>
    rw [List.filterMap_cons_some (component?_name (h s (by simp))), ih fun t ht => h t (by simp [ht])]
    rfl

theorem components_path {l : Location} (h : ∀ s ∈ l, IsName s) :
    components l.path = .top :: l.map .name := by
  simp only [components, isAbsolute_path, if_true]
  cases l with
  | nil => rfl
  | cons s l =>
    rw [pieces_path (fun t ht => (h t ht).noSlash) (by simp), List.filterMap_cons_none (by rfl),
      filterMap_component?_names h]

theorem samePath_path {a b : Location} (ha : ∀ s ∈ a, IsName s) (hb : ∀ s ∈ b, IsName s) :
    samePath a.path b.path = true ↔ a = b := by
  have hinj : Function.Injective Component.name := fun s t e => by cases e; rfl
  simp [samePath, components_path ha, components_path hb, List.map_inj_right hinj]

theorem dropComponents_names (rest : List String) :
    ∀ {l : List String}, (∀ s ∈ l, IsName s) → dropComponents (l.map .name)
      (l ++ rest) = some rest := by
  intro l
  induction l with
  | nil => intro _; cases rest <;> rfl
  | cons s l ih =>
    intro h
    simp only [List.map_cons, List.cons_append, dropComponents,
      component?_name (h s (by simp)), if_true]
    exact ih fun t ht => h t (by simp [ht])

theorem trimFront_names {l : List String} (h : ∀ s ∈ l, IsName s) : trimFront l = l := by
  cases l with
  | nil => rfl
  | cons s l => simp [trimFront, component?_name (h s (by simp))]

/-- What follows the path of a place in that of a place below it. -/
theorem stripPrefix?_path {a b : Location} (h : ∀ s ∈ a ++ b, IsName s) :
    stripPrefix? a.path (Location.path (a ++ b)) = some ("/".intercalate b) := by
  have ha : ∀ s ∈ a, IsName s := fun s hs => h s (by simp [hs])
  have hb : ∀ s ∈ b, IsName s := fun s hs => h s (by simp [hs])
  have htrim : (trimFront (trimFront b).reverse).reverse = b := by
    rw [trimFront_names hb, trimFront_names fun s hs => hb s (by simpa using hs), List.reverse_reverse]
  simp only [stripPrefix?, isAbsolute_path, components_path ha, Bool.and_self, if_true,
    List.drop_succ_cons, List.drop_zero]
  by_cases hab : a ++ b = []
  · obtain ⟨rfl, rfl⟩ := List.append_eq_nil_iff.mp hab
    rfl
  · rw [pieces_path (fun s hs => (h s hs).noSlash) hab]
    cases a with
    | nil =>
      have hskip : trimFront ("" :: b) = trimFront b := rfl
      simp only [List.map_nil, dropComponents, List.nil_append, Option.map_some, hskip, htrim]
    | cons s a =>
      have hskip : dropComponents ((s :: a).map .name) ("" :: (s :: a ++ b)) =
          dropComponents ((s :: a).map .name) (s :: a ++ b) := rfl
      rw [hskip, dropComponents_names b ha, Option.map_some, htrim]

/-! ## Joining -/

theorem isAbsolute_name {name : String} (h : '/' ∉ name.toList) : isAbsolute name = false := by
  cases hc : name.toList with
  | nil => simp [isAbsolute, hc]
  | cons c rest =>
    have hne : c ≠ '/' := fun e => h (by simp [hc, e])
    simp [isAbsolute, hc, hne]

theorem pieces_name {name : String} (h : '/' ∉ name.toList) : pieces name = [name] := by
  have hone : pieces ("/".intercalate [name]) = [name] :=
    pieces_intercalate (by simpa using h) (by simp)
  rwa [String.intercalate_singleton] at hone

theorem intercalate_concat {l : List String} (hne : l ≠ []) (name : String) :
    "/".intercalate (l ++ [name]) = "/".intercalate l ++ "/" ++ name := by
  rw [String.intercalate_append_of_ne_nil hne (by simp), String.intercalate_singleton]

theorem intercalate_ends (l : List String) (name : String) :
    ∃ front, "/".intercalate (l ++ [name]) = front ++ name := by
  by_cases hl : l = []
  · exact ⟨"", by simp [hl]⟩
  · exact ⟨_, intercalate_concat hl name⟩

/-- A text that ends with a name does not end with a slash. -/
theorem getLast?_append_name (front : String) {name : String} (hn : IsName name) :
    (front ++ name).toList.getLast? ≠ some '/' := by
  have hne : name.toList ≠ [] := by simpa using hn.nonempty
  rw [String.toList_append, List.getLast?_append, List.getLast?_eq_some_getLast hne]
  exact fun e => hn.noSlash (Option.some.inj e ▸ List.getLast_mem hne)

theorem intercalate_pieces_append {l : List String} (hne : l ≠ []) (text : String) :
    "/".intercalate (l ++ pieces text) = "/".intercalate l ++ "/" ++ text := by
  rw [String.intercalate_append_of_ne_nil hne (pieces_ne_nil text), intercalate_pieces]

theorem join_intercalate (l : List String) {last text : String} (hl : IsName last)
    (ht : isAbsolute text = false) :
    join ("/".intercalate (l ++ [last])) text = "/".intercalate (l ++ [last] ++ pieces text) := by
  rw [intercalate_pieces_append (by simp : l ++ [last] ≠ [])]
  obtain ⟨front, hf⟩ := intercalate_ends l last
  have hne : front ++ last ≠ "" := fun e => hl.nonempty (String.append_eq_empty_iff.mp e).2
  rw [hf, join, if_neg (by simp [ht, hne]), if_neg (getLast?_append_name front hl)]

theorem join_path {l : Location} (h : ∀ s ∈ l, IsName s) {text : String}
    (ht : isAbsolute text = false) : join l.path text = Location.path (l ++ pieces text) := by
  cases l using List.reverseRecOn with
  | nil => simp [join, ht, Location.path, intercalate_pieces]
  | append_singleton l last =>
    rw [path_eq_intercalate (by simp), path_eq_intercalate (by simp)]
    exact join_intercalate ("" :: l) (h last (by simp)) ht

/-- Names joined to nothing. -/
theorem foldl_join_empty {names : List String} (h : ∀ s ∈ names, IsName s) :
    names.foldl join "" = "/".intercalate names := by
  induction names using List.reverseRecOn with
  | nil => rfl
  | append_singleton names name ih =>
    rw [List.foldl_append, ih fun s hs => h s (by simp [hs])]
    have hn : IsName name := h name (by simp)
    cases names using List.reverseRecOn with
    | nil => simp [join]
    | append_singleton names last =>
      have := join_intercalate names (h last (by simp)) (isAbsolute_name hn.noSlash)
      rwa [pieces_name hn.noSlash] at this

end RouteShortcuts.Files
