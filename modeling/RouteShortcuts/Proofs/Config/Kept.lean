/-
  RouteShortcuts.Proofs.Config.Kept — a configuration that stays while files are added.

  The search for a configuration goes up from the place of the root, one directory after another
  (`mem_upward`), and asks in each of them for two names (`Settings.signs`). What is added under other
  names is not seen by it, unless it makes a link with one of these names lead somewhere.

  Proved: if neither happens, the configuration of a root that is there is the same as before
  (`load_kept`).
-/

import RouteShortcuts.Proofs.Files.Way
import RouteShortcuts.Settings

namespace RouteShortcuts

open RouteShortcuts.Files

namespace Settings

/-- The names that the search asks for. -/
def signs : List String := [fileName, ".git"]

/-! ## The directories of a search -/

theorem parent?_path {l : Location} {name : String} (h : ∀ s ∈ l ++ [name], IsName s) :
    parent? (Location.path (l ++ [name])) = some l.path := by
  have hl : ∀ s ∈ l, IsName s := fun s hs => h s (List.mem_append_left _ hs)
  have hname : IsName name := h name (by simp)
  have hlast : trimFront (pieces (Location.path (l ++ [name]))).reverse =
      name :: (l.reverse ++ [""]) := by
    rw [pieces_path (fun s hs => (h s hs).noSlash) (by simp)]
    simp [trimFront, component?_name hname]
  rw [parent?, hlast]
  simp only [isAbsolute_path, if_true]
  cases l using List.reverseRecOn with
  | nil => decide
  | append_singleton l last =>
    have hfront : trimFront ((l ++ [last]).reverse ++ [""]) = (l ++ [last]).reverse ++ [""] := by
      simp [trimFront, component?_name (hl last (by simp))]
    rw [hfront, path_eq_intercalate (by simp)]
    simp

/-- Each of the directories is a place, at or above the first. -/
theorem mem_upward {directory : String} :
    ∀ {n : Nat} {l : Location}, (∀ s ∈ l, IsName s) → directory ∈ upward l.path n →
    ∃ place : Location, directory = place.path ∧ ∀ s ∈ place, IsName s := by
  intro n
  induction n with
  | zero => exact fun {l} hl h => ⟨l, List.mem_singleton.mp h, hl⟩
  | succ n ih =>
    intro l hl h
    cases l using List.reverseRecOn with
    | nil =>
      have htop : parent? (Location.path []) = none := by decide
      rw [upward, htop] at h
      exact ⟨[], List.mem_singleton.mp h, hl⟩
    | append_singleton l last =>
      rw [upward, parent?_path hl] at h
      rcases List.mem_cons.mp h with rfl | h
      · exact ⟨_, rfl, hl⟩
      · exact ih (fun s hs => hl s (List.mem_append_left _ hs)) h

theorem search_congr {d d' : Disk} {directories : List String}
    (h : ∀ directory ∈ directories, ∀ name ∈ signs, d'.exists? (join directory name) =
      d.exists? (join directory name)) :
    search d' directories = search d directories := by
  induction directories with
  | nil => rfl
  | cons directory above ih =>
    rw [search, search, h directory List.mem_cons_self fileName (by decide),
      h directory List.mem_cons_self ".git" (by decide), ih fun directory hd =>
      h directory (List.mem_cons_of_mem _ hd)]

theorem exists_of_search {d : Disk} {directories : List String} {path : String}
    (h : search d directories = some path) : d.exists? path = true := by
  induction directories with
  | nil => cases h
  | cons directory above ih =>
    rw [search] at h
    split at h
    · rename_i hexists
      cases h
      exact hexists
    · split at h
      · cases h
      · exact ih h

/-! ## The configuration -/

section

variable {New : String → Entry → Prop} {d d' : Disk} {root : String}

theorem find?_kept (h : Grows New d d') (hs : d.top.sound = true) (hNew : LinkFree New)
    (hlinks : LinksStay signs d d') (hsigns : ∀ name ∈ signs, ∀ e, ¬ New name e)
    (hroot : d.exists? root = true) : find? d' root = find? d root := by
  obtain ⟨place, e, hl⟩ := Disk.exists?_lookup.mp hroot
  have hcanonical : d.canonical root = .ok place.path := Disk.canonical_ok.mpr ⟨place, e, hl, rfl⟩
  unfold find?
  rw [h.canonical hroot, hcanonical]
  refine search_congr fun directory hdirectory name hsign => ?_
  obtain ⟨l, rfl, hnames⟩ := mem_upward (at?_names hs (Disk.lookup_at? hl)) hdirectory
  have hname : IsName name := by
    have hall : ∀ s ∈ signs, isEntryName s = true := by decide
    exact isName_of_isEntryName (hall name hsign)
  have hall : ∀ s ∈ l ++ [name], IsName s := by simpa [or_imp, forall_and, hname] using hnames
  have hpath : pieces (join l.path name) = ("" :: l) ++ [name] := by
    rw [join_path hnames (isAbsolute_name hname.noSlash), pieces_name hname.noSlash,
      pieces_path (fun s hs => (hall s hs).noSlash) (by simp), List.cons_append]
  refine h.exists_sign hNew hlinks (isAbsolute_join (isAbsolute_path l) name) hpath ?_ hname hsign
    (hsigns name hsign)
  rw [hpath]
  intro hup
  rcases List.mem_cons.mp hup with hup | hup
  · exact absurd hup (by decide)
  · exact (hall ".." hup).notUp rfl

theorem load_kept (h : Grows New d d') (hs : d.top.sound = true) (hNew : LinkFree New)
    (hlinks : LinksStay signs d d') (hsigns : ∀ name ∈ signs, ∀ e, ¬ New name e)
    (hroot : d.exists? root = true) : load d' root = load d root := by
  unfold load
  rw [find?_kept h hs hNew hlinks hsigns hroot]
  cases hfound : find? d root with
  | none => rfl
  | some path =>
    obtain ⟨place, e, hl⟩ := Disk.exists?_lookup.mp (exists_of_search hfound)
    simp only [h.readText hl]

end

end Settings
end RouteShortcuts
