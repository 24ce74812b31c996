/-
  RouteShortcuts.Proofs.Files.Added — file systems to which only files are added.

  Nothing stands below a file, so a way that comes to a new one ends there, and every other way is
  an old one, steps up and links or not (`Grows.way_files`). So a path that leads somewhere leads
  where it led, or to a new file (`Grows.lookup_files`), and links do not lead to anything old that
  they did not lead to (`linksStay_files`).
-/

import RouteShortcuts.Proofs.Files.Way

namespace RouteShortcuts.Files

open Disk

/-- Only files are new. -/
def FilesOnly (New : String → Entry → Prop) : Prop :=
  ∀ name e, New name e → ∃ content, e = .file content

theorem FilesOnly.linkFree {New : String → Entry → Prop} (h : FilesOnly New) : LinkFree New := by
  intro name target hnew
  obtain ⟨content, he⟩ := h name _ hnew
  cases he

section

variable {New : String → Entry → Prop} {d d' : Disk} {follow : Bool} {k : Nat}
    {dir place : Location} {names : List String}

theorem at?_prefix_isSome {top : Entry} {a b : Location} (h : (top.at? (a ++ b)).isSome = true) :
    (top.at? a).isSome = true := by
  rw [at?_append] at h
  cases hx : top.at? a with
  | none =>
    rw [hx] at h
    cases h
  | some x => rfl

/-- A way from something old is an old one, or ends at a new file. -/
theorem Grows.way_files (h : Grows New d d') (hNew : FilesOnly New)
    (hway : Way d'.top follow k dir names place) :
    (d.top.at? dir).isSome = true → Way d.top follow k dir names place ∨ d.top.at? place = none := by
  have hlink : ∀ {dir p target entries entries'}, d.top.at? dir = some (.directory entries) →
      d'.top.at? dir = some (.directory entries') → Turns dir entries' p (.link dir p target) →
      Turns dir entries p (.link dir p target) := by
    intro dir p target entries entries' hd hd' ht
    cases ht with
    | link hn hf =>
      rw [← at?_name hd'] at hf
      refine .link hn ?_
      rw [← at?_name hd]
      exact h.link_old hNew.linkFree hf
  induction hway with
  | here => exact fun hdir => Or.inl (.here hdir)
  | @on k dir dir' place entries' p rest hd' ht hway ih =>
    intro hdir
    obtain ⟨entries, hd⟩ := h.directory_back hd' hdir
    cases ht with
    | blank hb => exact (ih hdir).imp_left fun hway => .on hd (.blank hb) hway
    | up hp =>
      have habove : (d.top.at? dir.dropLast).isSome = true := by
        rcases List.eq_nil_or_concat dir with rfl | ⟨front, last, rfl⟩
        · exact hdir
        · rw [List.concat_eq_append, List.dropLast_concat]
          rw [List.concat_eq_append] at hdir
          exact at?_prefix_isSome hdir
      exact (ih habove).imp_left fun hway => .on hd (.up hp) hway
    | @down below hn hf hno =>
      rw [← at?_name hd'] at hf
      cases hold : d.top.at? (dir ++ [p]) with
      | none =>
        -- a new file, and the way ends there
        obtain ⟨_, _, -, hnew⟩ := h.fresh hf hold
        obtain ⟨content, hbare⟩ := hNew _ _ hnew
        obtain rfl := bare_file.mp hbare
        cases hway with
        | here => exact Or.inr hold
        | on hd | link hd | stop _ hd =>
          rw [hf] at hd
          cases hd
      | some old =>
        obtain ⟨below', hf', hbare⟩ := h.kept hold
        rw [hf] at hf'
        cases hf'
        refine (ih (by rw [hold]; rfl)).imp_left fun hway =>
          .on hd (.down hn (by rw [← at?_name hd, hold]) ?_) hway
        rintro target rfl
        exact hno target (bare_link.mp hbare)
  | @link k dir place entries' p target rest hd' ht hlast hway ih =>
    intro hdir
    obtain ⟨entries, hd⟩ := h.directory_back hd' hdir
    have hstart : (d.top.at? (if isAbsolute target then [] else dir)).isSome = true := by
      split
      · rfl
      · exact hdir
    exact (ih hstart).imp_left fun hway => .link hd (hlink hd hd' ht) hlast hway
  | stop hno hd' ht =>
    intro hdir
    obtain ⟨entries, hd⟩ := h.directory_back hd' hdir
    exact Or.inl (.stop hno hd (hlink hd hd' ht))

/-- A path leads where it led, or to a new file. -/
theorem Grows.lookup_files (h : Grows New d d') (hNew : FilesOnly New)
    (hworking : (d.top.at? d.working).isSome = true)
    {path : String} {e' : Entry} (hl : d'.lookup follow path = .ok (place, e')) :
    (∃ e, d.lookup follow path = .ok (place, e)) ∨ d.top.at? place = none := by
  obtain ⟨htaken, hwalk⟩ := lookup_iff.mp hl
  have hstart : d'.start path = d.start path := by rw [start, start, h.working]
  have hthere : (d.top.at? (d.start path)).isSome = true := by
    unfold start
    split
    · rfl
    · exact hworking
  rw [hstart] at hwalk
  obtain ⟨k, hk, hway⟩ := way_of_walk hwalk
  refine (h.way_files hNew hway hthere).imp_left fun hway => ?_
  obtain ⟨e, he⟩ := Option.isSome_iff_exists.mp hway.present
  exact ⟨e, lookup_iff.mpr ⟨htaken, walk_of_way hway he hk⟩⟩

/-- A link leads where it led, or to a new file. -/
theorem linksStay_files (h : Grows New d d') (hNew : FilesOnly New) : LinksStay [] d d' := by
  rintro dir name place ⟨⟨target, ht⟩, e, hwalk⟩
  have hold : d.top.at? (dir ++ [name]) = some (.link target) := h.link_old hNew.linkFree ht
  obtain ⟨k, hk, hway⟩ := way_of_walk hwalk
  rcases h.way_files hNew hway (at?_prefix_isSome (by rw [hold]; rfl)) with hway | hnone
  · obtain ⟨e, he⟩ := Option.isSome_iff_exists.mp hway.present
    exact Or.inl ⟨⟨target, hold⟩, e, walk_of_way hway he hk⟩
  · exact Or.inr ⟨List.not_mem_nil, hnone⟩

end

end RouteShortcuts.Files
