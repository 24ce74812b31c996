/-
  RouteShortcuts.Proofs.Files.Named — looking up one name in a place.

  The path of a place, and a name behind it, leads from the place by that name (`lookup_name`):
  nothing on the way is a link, so only the last name can be one. If nothing has the name, the path
  leads nowhere; if what has it is no link, the path leads there unless it is too long.
-/

import RouteShortcuts.Proofs.Files.Writing

namespace RouteShortcuts.Files.Disk

section

variable {d : Disk} {l : Location} {x : Entry} {name : String} (hs : d.top.sound = true)
    (hl : d.top.at? l = some x)
  (hlink : ∀ target, x ≠ .link target) (hname : isEntryName name = true)

include hs hl hname

theorem names_named : ∀ s ∈ l ++ [name], IsName s := by
  intro s hmem
  rcases List.mem_append.mp hmem with hmem | hmem
  · exact at?_names hs hl s hmem
  · exact List.mem_singleton.mp hmem ▸ isName_of_isEntryName hname

/-- The system takes the path, unless it is too long. -/
theorem taken_named : Taken (Location.path (l ++ [name])) ↔
    (Location.path (l ++ [name])).utf8ByteSize ≤ pathLimit := by
  refine ⟨Taken.short, fun hshort => ⟨fun hnul => ?_, by simp [Location.path], hshort⟩⟩
  rcases mem_path hnul with h | ⟨s, hmem, h⟩
  · cases h
  rcases List.mem_append.mp hmem with hmem | hmem
  · exact isEntryName_noNul ((at?_sound hs hl).1 s hmem) h
  · exact isEntryName_noNul (List.mem_singleton.mp hmem ▸ hname) h

include hlink

/-- The path of a place and a name leads from the place by the name. -/
theorem lookup_name {place : Location} {e : Entry} :
    d.lookup true (Location.path (l ++ [name])) = .ok (place, e) ↔
    (Location.path (l ++ [name])).utf8ByteSize ≤ pathLimit ∧
      walk d.top true linkLimit l [name] = .ok (.present place e) := by
  have hslash : ∀ s ∈ l ++ [name], '/' ∉ s.toList := fun s hmem =>
    (names_named hs hl hname s hmem).noSlash
  rw [lookup_iff, start, isAbsolute_path, if_pos rfl, taken_named hs hl hname,
    pieces_path hslash (by simp)]
  have hwalk : walk d.top true linkLimit [] ("" :: (l ++ [name])) =
      walk d.top true linkLimit l [name] := by
    change walkNames d.top true (walk d.top true 39) [] ("" :: (l ++ [name])) =
      walkNames d.top true (walk d.top true 39) l [name]
    have hpass : walkNames d.top true (walk d.top true 39) [] (l ++ [name]) =
        walkNames d.top true (walk d.top true 39) ([] ++ l) [name] :=
          walkNames_append hlink [name] rfl hs hl
    rw [List.nil_append] at hpass
    rcases walkNames_top true (walk d.top true 39) (l ++ [name]) with ⟨-, hw⟩ | ⟨htop, hw⟩
    · rw [hw, hpass]
    · -- where the top is no directory, nothing stands below it
      rw [hw]
      cases l with
      | cons first l =>
        obtain ⟨entries, -, he, -⟩ := at?_cons.mp hl
        exact absurd he (htop entries)
      | nil =>
        cases hl
        cases htop' : d.top with
        | directory entries => exact absurd htop' (htop entries)
        | file | link => simp [walkNames, Entry.at?]
  rw [hwalk]

/-- A name that nothing has leads nowhere. -/
theorem lookup_name_none (hnone : d.top.at? (l ++ [name]) = none) :
    d.exists? (Location.path (l ++ [name])) = false := by
  refine Bool.eq_false_iff.mpr fun hexists => ?_
  obtain ⟨place, e, he⟩ := exists?_lookup.mp hexists
  obtain ⟨-, hw⟩ := (lookup_name hs hl hlink hname).mp he
  obtain ⟨entries, turn, hd, ht, hgo⟩ := walkNames_cons_iff.mp hw
  have hfree : find? name entries = none := by rw [← at?_name hd, hnone]
  have hn : IsName name := isName_of_isEntryName hname
  cases ht with
  | blank h => exact h.elim hn.nonempty hn.notHere
  | up h => exact hn.notUp h
  | down _ hf | link _ hf =>
    rw [hfree] at hf
    cases hf
  | free => cases hgo.2

/-- A name that is not that of a link leads to the entry that has it. -/
theorem lookup_name_some {found : Entry} (hfound : d.top.at? (l ++ [name]) = some found)
    (hno : ∀ target, found ≠ .link target) {place : Location} {e : Entry} :
    d.lookup true (Location.path (l ++ [name])) = .ok (place, e) ↔
      (Location.path (l ++ [name])).utf8ByteSize ≤ pathLimit ∧ place = l ++ [name] ∧ e = found := by
  rw [lookup_name hs hl hlink hname]
  refine and_congr_right fun _ => ?_
  have hbelow : x.at? [name] = some found := by rw [← hfound, at?_append, hl, Option.bind_some]
  have hpass : walkNames d.top true (walk d.top true 39) l ([name] ++ []) =
      walkNames d.top true (walk d.top true 39) (l ++ [name]) [] :=
        walkNames_append hno [] hl (at?_sound hs hl).2 hbelow
  have hwalk : walk d.top true linkLimit l [name] = .ok (.present (l ++ [name]) found) := by
    change walkNames d.top true (walk d.top true 39) l ([name] ++ []) = _
    rw [hpass, walkNames, hfound]
  rw [hwalk, Except.ok.injEq, Target.present.injEq, eq_comm, @eq_comm _ found]

end

end RouteShortcuts.Files.Disk
