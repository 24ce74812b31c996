/-
  RouteShortcuts.Proofs.Files.Writing — what was written is read.

  Writing puts a file at one place and leaves everything else of its kind: files, links and
  directories stand where they stood, and nothing new stands anywhere else (`at?_put_same`,
  `at?_put_other`). So a walk that came to the place before comes to the new file now, over the same
  links (`walk_written`). A slash at the end, of the path or of a link on the way, would ask for a
  directory; but then nothing is written.

  Proved: after a write that succeeds the path leads to the file, with its whole content (`read_write`).
-/

import RouteShortcuts.Proofs.Files.Spelling

namespace RouteShortcuts.Files

/-! ## A file in a tree -/

/-- An entry without what is in it, if it is a directory. -/
def Entry.bare : Entry → Entry
  | .directory _ => .directory []
  | e => e

theorem find?_put_same (name : String) (e : Entry) (entries : List (String × Entry)) :
    find? name (put name e entries) = some e := by
  induction entries with
  | nil => simp only [put, find?, if_true]
  | cons p rest ih =>
    obtain ⟨n, old⟩ := p
    by_cases hn : n = name
    · simp only [put, hn, if_true, find?]
    · simp only [put, hn, if_false, find?]
      exact ih

theorem find?_put_other {name other : String} (h : other ≠ name) (e : Entry)
    (entries : List (String × Entry)) : find? other (put name e entries) = find? other entries := by
  induction entries with
  | nil => simp only [put, find?, if_neg (Ne.symm h)]
  | cons p rest ih =>
    obtain ⟨n, old⟩ := p
    by_cases hn : n = name
    · subst hn
      simp only [put, if_true, find?, if_neg (Ne.symm h)]
    · simp only [put, hn, if_false, find?, ih]

/-- A place for a file: a name in a directory, free or that of a file. -/
structure Room (top : Entry) (dir : Location) (name : String) : Prop where
  directory : ∃ entries, top.at? dir = some (.directory entries)
  file : ∀ e, top.at? (dir ++ [name]) = some e → ∃ content, e = .file content

section

variable {top : Entry} {dir : Location} {name : String}

theorem at?_name {entries : List (String × Entry)}
    (h : top.at? dir = some (.directory entries)) (name : String) :
    top.at? (dir ++ [name]) = find? name entries := by
  rw [at?_append, h]
  simp only [Option.bind_some, Entry.at?]
  cases find? name entries <;> rfl

/-- A name that is free in a directory. -/
def Vacant (top : Entry) (dir : Location) (name : String) : Prop :=
  ∃ entries, top.at? dir = some (.directory entries) ∧ find? name entries = none

theorem Vacant.absent (h : Vacant top dir name) : top.at? (dir ++ [name]) = none := by
  obtain ⟨entries, hd, hf⟩ := h
  rw [at?_name hd, hf]

theorem Vacant.room (h : Vacant top dir name) : Room top dir name := by
  refine ⟨?_, fun e he => ?_⟩
  · obtain ⟨entries, hd, -⟩ := h
    exact ⟨entries, hd⟩
  · rw [h.absent] at he
    cases he

/-- A change below a directory is a change of one of its entries. -/
theorem Room.below {first : String} {dir : Location} (h : Room top (first :: dir) name) :
    ∃ entries below,
    top = .directory entries ∧ find? first entries = some below ∧ Room below dir name ∧
      ∀ change, top.update change (first :: dir) =
        .directory (put first (below.update change dir) entries) := by
  obtain ⟨inner, hd⟩ := h.directory
  obtain ⟨entries, below, rfl, hf, hb⟩ := at?_cons.mp hd
  refine ⟨entries, below, rfl, hf, ⟨⟨inner, hb⟩, ?_⟩, ?_⟩
  · intro e he
    exact h.file e (at?_cons.mpr ⟨entries, below, rfl, hf, he⟩)
  · intro change
    simp only [Entry.update, hf]

theorem at?_put_same (e : Entry) : ∀ {dir : Location} {top : Entry}, Room top dir name →
    (top.update (put name e) dir).at? (dir ++ [name]) = some e := by
  intro dir
  induction dir with
  | nil =>
    intro top h
    obtain ⟨entries, hd⟩ := h.directory
    cases hd
    simp only [Entry.update, List.nil_append, Entry.at?, find?_put_same, Option.bind_some]
  | cons first dir ih =>
    intro top h
    obtain ⟨entries, below, rfl, hf, hroom, hupdate⟩ := h.below
    rw [hupdate]
    simp only [List.cons_append, Entry.at?, find?_put_same, Option.bind_some]
    exact ih hroom

/-- Everything else is of the kind that it was, if nothing stands below what is put there. -/
theorem at?_put_other {e : Entry} (hleaf : ∀ n rest, e.at? (n :: rest) = none) :
    ∀ {dir : Location} {top : Entry},
    Room top dir name → ∀ {place : Location}, place ≠ dir ++ [name] →
      ((top.update (put name e) dir).at? place).map Entry.bare = (top.at? place).map Entry.bare := by
  intro dir
  induction dir with
  | nil =>
    intro top h place hne
    obtain ⟨entries, hd⟩ := h.directory
    cases hd
    cases place with
    | nil => rfl
    | cons n rest =>
      simp only [Entry.update, Entry.at?]
      by_cases hn : n = name
      · subst hn
        -- nothing stands below what is put there, and nothing stood there
        obtain ⟨r, rest, rfl⟩ := List.exists_cons_of_ne_nil (l := rest) (by rintro rfl; exact hne rfl)
        rw [find?_put_same, Option.bind_some, hleaf]
        cases hf : find? n entries with
        | none => rfl
        | some old =>
          obtain ⟨before, rfl⟩ :=
            h.file old (by simp only [List.nil_append, Entry.at?, hf, Option.bind_some])
          rfl
      · rw [find?_put_other hn]
  | cons first dir ih =>
    intro top h place hne
    obtain ⟨entries, below, rfl, hf, hroom, hupdate⟩ := h.below
    rw [hupdate]
    cases place with
    | nil => rfl
    | cons n rest =>
      simp only [Entry.at?]
      by_cases hn : n = first
      · subst hn
        rw [find?_put_same, hf]
        exact ih hroom fun he => hne (by rw [he]; rfl)
      · rw [find?_put_other hn]

end

/-- `new` is `top` with a file at a place. -/
structure Placed (top new : Entry) (place : Location) (content : ByteArray) : Prop where
  file : new.at? place = some (.file content)
  before : ∀ e, top.at? place = some e → ∃ old, e = .file old
  other : ∀ l, l ≠ place → (new.at? l).map Entry.bare = (top.at? l).map Entry.bare

theorem Room.placed {top : Entry} {dir : Location} {name : String} (h : Room top dir name)
    (content : ByteArray) :
    Placed top (top.update (put name (.file content)) dir) (dir ++ [name]) content :=
  ⟨at?_put_same _ h, h.file, fun _ hne => at?_put_other (fun _ _ => rfl) h hne⟩

section

variable {top new : Entry} {place dir : Location} {content : ByteArray}
    {entries : List (String × Entry)}

theorem Placed.directory (h : Placed top new place content)
    (hd : top.at? dir = some (.directory entries)) :
    ∃ entries', new.at? dir = some (.directory entries') := by
  have hne : dir ≠ place := by
    rintro rfl
    obtain ⟨old, ho⟩ := h.before _ hd
    cases ho
  have hsame := h.other dir hne
  rw [hd] at hsame
  obtain ⟨e, he, hbare⟩ := Option.map_eq_some_iff.mp hsame
  cases e with
  | directory entries' => exact ⟨entries', he⟩
  | file | link => cases hbare

/-- A name in a directory stands for what it stood for, if it is not that of the file. -/
theorem Placed.kept (h : Placed top new place content) (hd : top.at? dir = some (.directory entries))
    {entries' : List (String × Entry)} (hd' : new.at? dir = some (.directory entries'))
    {name : String} {below : Entry} (hf : find? name entries = some below)
    (hne : dir ++ [name] ≠ place) :
    ∃ below', find? name entries' = some below' ∧ below'.bare = below.bare := by
  have hsame := h.other _ hne
  rw [at?_name hd', at?_name hd, hf] at hsame
  exact Option.map_eq_some_iff.mp hsame

end

/-- The place that a target tells of. -/
def Target.place : Target → Location
  | .present at_ _ => at_
  | .absent dir name => dir ++ [name]

namespace Disk

section

variable {top new : Entry} {jump jump' : Location → List String → Except Refusal Target}

/-! ## Walks to where a file is written -/

/-- A walk that is given more to go on comes to the same. -/
theorem walkNames_mono {follow : Bool} {t : Target}
    (hj : ∀ dir names, jump dir names = .ok t → jump' dir names = .ok t) :
    ∀ {ps : List String} {dir : Location}, walkNames top follow jump dir ps = .ok t →
      walkNames top follow jump' dir ps = .ok t := by
  intro ps
  induction ps with
  | nil =>
    intro dir h
    rw [walkNames] at h ⊢
    exact h
  | cons p ps ih =>
    intro dir h
    obtain ⟨entries, turn, hd, ht, hgo⟩ := walkNames_cons_iff.mp h
    refine walkNames_cons_iff.mpr ⟨entries, turn, hd, ht, ?_⟩
    cases turn with
    | on dir' => exact ih hgo
    | link dir' name target =>
      simp only [Turn.Leads] at hgo ⊢
      split at hgo
      · rename_i hlast
        rw [if_pos hlast]
        exact hgo
      · rename_i hlast
        rw [if_neg hlast]
        exact hj _ _ hgo
    | free dir' name => exact hgo

/-- A file is written only where its path leads, and nowhere if a slash asks for a directory. -/
theorem walkToWrite_ok {t : Target} : ∀ {links : Nat} {dir : Location} {names : List String},
    walkToWrite top links dir names = .ok t → names.getLast? ≠ some "" ∧
    walk top true links dir names = .ok t := by
  intro links
  induction links with
  | zero =>
    intro dir names h
    rw [walkToWrite] at h
    split at h
    · split at h <;> cases h
    · rename_i hlast
      exact ⟨hlast, h⟩
  | succ links ih =>
    intro dir names h
    rw [walkToWrite] at h
    split at h
    · split at h <;> cases h
    · rename_i hlast
      exact ⟨hlast, walkNames_mono (fun _ _ h => (ih h).2) h⟩

/-- Where a path leads to a name that is free, the name is free. -/
theorem walkNames_vacant {follow : Bool} {at_ : Location} {name : String}
    (hj : ∀ dir names, jump dir names = .ok (.absent at_ name) → Vacant top at_ name) :
    ∀ {ps : List String} {dir : Location}, walkNames top follow jump dir ps =
      .ok (.absent at_ name) → Vacant top at_ name := by
  intro ps
  induction ps with
  | nil =>
    intro dir h
    rw [walkNames] at h
    split at h <;> cases h
  | cons p ps ih =>
    intro dir h
    obtain ⟨entries, turn, hd, ht, hgo⟩ := walkNames_cons_iff.mp h
    cases ht with
    | blank | up | down => exact ih hgo
    | link =>
      simp only [Turn.Leads] at hgo
      split at hgo
      · cases hgo
      · exact hj _ _ hgo
    | free _ hf =>
      cases hgo.2
      exact ⟨entries, hd, hf⟩

theorem walk_vacant {follow : Bool} {at_ : Location} {name : String} :
    ∀ {links : Nat} {dir : Location} {names : List String},
    walk top follow links dir names = .ok (.absent at_ name) → Vacant top at_ name := by
  intro links
  induction links with
  | zero => exact walkNames_vacant fun _ _ h => by cases h
  | succ links ih => exact walkNames_vacant fun _ _ h => ih h

/-- In the place of a file there is room for one. -/
theorem room_of_file {at_ : Location} {name : String} {old : ByteArray}
    (h : top.at? (at_ ++ [name]) = some (.file old)) :
    Room top at_ name := by
  obtain ⟨e, hd, he⟩ := Option.bind_eq_some_iff.mp ((at?_append top at_ [name]).symm.trans h)
  obtain ⟨entries, below, rfl, -, -⟩ := at?_cons.mp he
  refine ⟨⟨entries, hd⟩, ?_⟩
  intro e he
  rw [h] at he
  cases he
  exact ⟨old, rfl⟩

/-- With the file in its place, a walk that came there comes to it. -/
theorem walkNames_placed {place : Location} {content : ByteArray}
    (hp : Placed top new place content) {t : Target}
    (ht : t.place = place)
    (hj : ∀ dir names, jump dir names = .ok t →
      jump' dir names = .ok (.present place (.file content))) :
    ∀ {ps : List String} {dir : Location}, ps.getLast? ≠ some "" →
      walkNames top true jump dir ps = .ok t →
      walkNames new true jump' dir ps = .ok (.present place (.file content)) := by
  intro ps
  induction ps with
  | nil =>
    intro dir _ h
    rw [walkNames] at h
    split at h
    · cases h
      obtain rfl : dir = place := ht
      simp only [walkNames, hp.file]
    · cases h
  | cons p ps ih =>
    intro dir hlast h
    have hrest : ps.getLast? ≠ some "" := by
      intro hps
      exact hlast (by rw [List.getLast?_cons, hps]; rfl)
    obtain ⟨entries, turn, hd, hturn, hgo⟩ := walkNames_cons_iff.mp h
    obtain ⟨entries', hd'⟩ := hp.directory hd
    -- at the place itself the walk ends
    have hend : Nameable p → dir ++ [p] = place → ps = [] →
        walkNames new true jump' dir (p :: ps) = .ok (.present place (.file content)) := by
      rintro hname rfl rfl
      refine walkNames_cons_iff.mpr
        ⟨entries', _, hd', .down hname ((at?_name hd' p).symm.trans hp.file) (by simp), ?_⟩
      simp only [Turn.Leads, walkNames, hp.file]
    cases hturn with
    | blank hblank => exact walkNames_cons_iff.mpr ⟨entries', _, hd', .blank hblank, ih hrest hgo⟩
    | up hup => exact walkNames_cons_iff.mpr ⟨entries', _, hd', .up hup, ih hrest hgo⟩
    | @down below hname hf hno =>
      by_cases hplace : dir ++ [p] = place
      · refine hend hname hplace ?_
        by_contra hne
        obtain ⟨inner, hin⟩ := directory_of_walkNames hne hgo
        rw [hplace] at hin
        obtain ⟨old, ho⟩ := hp.before _ hin
        cases ho
      · obtain ⟨below', hf', hbare⟩ := hp.kept hd hd' hf hplace
        refine walkNames_cons_iff.mpr ⟨entries', _, hd', .down hname hf' ?_, ih hrest hgo⟩
        rintro target rfl
        cases below with
        | link target' => exact hno target' rfl
        | file | directory => cases hbare
    | @link target hname hf =>
      have hplace : dir ++ [p] ≠ place := by
        rintro rfl
        obtain ⟨old, ho⟩ := hp.before _ ((at?_name hd p).trans hf)
        cases ho
      obtain ⟨below', hf', hbare⟩ := hp.kept hd hd' hf hplace
      cases below' with
      | link target' =>
        cases hbare
        rw [leads_link fun _ => rfl] at hgo
        exact walkNames_cons_iff.mpr ⟨entries', _, hd', .link hname hf',
          (leads_link fun _ => rfl).mpr (hj _ _ hgo)⟩
      | file | directory => cases hbare
    | free hname hf =>
      obtain ⟨hall, rfl⟩ := hgo
      refine hend hname ht ?_
      by_contra hne
      have hmem := List.getLast_mem hne
      have hempty := beq_iff_eq.mp (List.all_eq_true.mp hall _ hmem)
      exact hrest (by rw [List.getLast?_eq_some_getLast hne, hempty])

theorem walk_placed {place : Location} {content : ByteArray}
    (hp : Placed top new place content) {t : Target}
    (ht : t.place = place) : ∀ {links : Nat} {dir : Location} {names : List String},
      walkToWrite top links dir names = .ok t →
      walk new true links dir names = .ok (.present place (.file content)) := by
  intro links
  induction links with
  | zero =>
    intro dir names h
    obtain ⟨hlast, h⟩ := walkToWrite_ok h
    exact walkNames_placed hp ht (fun _ _ h => by cases h) hlast h
  | succ links ih =>
    intro dir names h
    have hlast := (walkToWrite_ok h).1
    rw [walkToWrite, if_neg hlast] at h
    exact walkNames_placed hp ht (fun _ _ h => ih h) hlast h

end

/-! ## Writing and reading -/

/-- A write that succeeds puts the file where the path leads. -/
theorem write_ok {d d' : Disk} {path : String} {content : ByteArray}
    (h : d.write path content = .ok d') :
    ∃ t dir name, d.along path (walkToWrite d.top linkLimit) = .ok t ∧ t.place = dir ++ [name] ∧
      Room d.top dir name ∧ d' = d.change dir (put name (.file content)) := by
  unfold write at h
  cases ht : d.along path (walkToWrite d.top linkLimit) with
  | error r =>
    rw [ht] at h
    cases h
  | ok t =>
    rw [ht] at h
    have hwalk := (walkToWrite_ok (along_ok.mp ht).2).2
    cases t with
    | absent dir name =>
      cases h
      exact ⟨_, dir, name, rfl, rfl, (walk_vacant hwalk).room, rfl⟩
    | present at_ e =>
      have hat : d.top.at? at_ = some e := walk_at? hwalk
      cases e with
      | directory entries => cases h
      | link target => exact absurd rfl (walk_not_link (pieces_ne_nil path) hwalk target)
      | file old =>
        rcases List.eq_nil_or_concat at_ with rfl | ⟨dir, name, rfl⟩
        · cases h
        · rw [List.concat_eq_append] at h hat ht
          simp only [bind, Except.bind, List.getLast?_concat, List.dropLast_concat] at h
          cases h
          exact ⟨_, dir, name, rfl, by simp [Target.place], room_of_file hat, rfl⟩

/-- What was written to a path is read from it. -/
theorem read_write {d d' : Disk} {path : String} {content : ByteArray}
    (h : d.write path content = .ok d') : d'.read path = .ok content := by
  obtain ⟨t, dir, name, ht, hplace, hroom, rfl⟩ := write_ok h
  obtain ⟨htaken, hwalk⟩ := along_ok.mp ht
  have hlook : (d.change dir (put name (.file content))).lookup true path =
      .ok (dir ++ [name], .file content) :=
    lookup_iff.mpr ⟨htaken, walk_placed (hroom.placed content) hplace hwalk⟩
  simp only [read, hlook]

end Disk
end RouteShortcuts.Files
