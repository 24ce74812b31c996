/-
  RouteShortcuts.Proofs.Files.Reordered — trees whose directories are kept in another order.

  A directory is a list of entries, so one tree can be kept in many ways (`Reordered`). None of them
  can be told apart by its places: the same stands at each, apart from the order in which a
  directory holds its entries (`Alike`, `Reordered.alike`). A walk asks for nothing else, so every
  path leads to the same place, and where it leads nowhere it fails for the same reason
  (`target_alike`, `canonical_alike`).
-/

import RouteShortcuts.Proofs.Files.Growth

namespace RouteShortcuts.Files

/-! ## Another order -/

/-- The same tree, with the entries of some of its directories in another order. -/
inductive Entry.Reordered : Entry → Entry → Prop
  | refl (e : Entry) : Reordered e e
  | here {entries entries' : List (String × Entry)} : entries.Perm entries' →
    Reordered (.directory entries) (.directory entries')
  | inside {name : String} {e e' : Entry} (front back : List (String × Entry)) : Reordered e e' →
      Reordered (.directory (front ++ (name, e) :: back)) (.directory (front ++ (name, e') :: back))
  | trans {e e' e'' : Entry} : Reordered e e' → Reordered e' e'' → Reordered e e''

/-- The same stands at every place, but for the order and the number of entries in a directory. -/
def Entry.Alike (e e' : Entry) : Prop :=
  ∀ l : Location, (e.at? l).map Entry.bare = (e'.at? l).map Entry.bare

theorem find?_eq_none {name : String} {entries : List (String × Entry)} :
    find? name entries = none ↔ name ∉ entries.map Prod.fst := by
  induction entries with
  | nil => simp [find?]
  | cons p rest ih =>
    obtain ⟨n, e⟩ := p
    by_cases hn : n = name
    · simp [find?, hn]
    · simp only [find?, hn, if_false, ih, List.map_cons, List.mem_cons, Ne.symm hn, false_or]

/-- A sound directory has no name twice, and each of its entries is sound. -/
theorem soundAll_iff {entries : List (String × Entry)} : Entry.soundAll entries = true ↔
    (entries.map Prod.fst).Nodup ∧ ∀ p ∈ entries, isEntryName p.1 = true ∧ p.2.sound = true := by
  induction entries with
  | nil => simp [Entry.soundAll]
  | cons p rest ih =>
    obtain ⟨n, e⟩ := p
    simp only [Entry.soundAll, Bool.and_eq_true, Option.isNone_iff_eq_none, find?_eq_none, ih,
      List.map_cons, List.nodup_cons, List.mem_cons, forall_eq_or_imp]
    tauto

/-- Without a name twice, the entry with a name is the one that stands there. -/
theorem find?_eq_some {name : String} {e : Entry} {entries : List (String × Entry)}
    (h : (entries.map Prod.fst).Nodup) : find? name entries = some e ↔ (name, e) ∈ entries := by
  induction entries with
  | nil => simp [find?]
  | cons p rest ih =>
    obtain ⟨n, e'⟩ := p
    obtain ⟨hfresh, hrest⟩ := List.nodup_cons.mp h
    by_cases hn : n = name
    · subst hn
      have hno : (n, e) ∉ rest := fun hmem => hfresh (List.mem_map.mpr ⟨(n, e), hmem, rfl⟩)
      simp [find?, hno, eq_comm]
    · simp [find?, hn, ih hrest, Ne.symm hn]

theorem find?_perm {entries entries' : List (String × Entry)} (h : (entries.map Prod.fst).Nodup)
    (hperm : entries.Perm entries') (name : String) : find? name entries = find? name entries' := by
  have h' : (entries'.map Prod.fst).Nodup := (hperm.map Prod.fst).nodup_iff.mp h
  refine Option.ext fun e => ?_
  rw [find?_eq_some h, find?_eq_some h', hperm.mem_iff]

theorem Entry.Reordered.sound {e e' : Entry} (h : Entry.Reordered e e') :
    e.sound = true → e'.sound = true := by
  induction h with
  | refl => exact id
  | here hperm =>
    intro hs
    obtain ⟨hnodup, hall⟩ := soundAll_iff.mp hs
    exact soundAll_iff.mpr ⟨(hperm.map Prod.fst).nodup_iff.mp hnodup, fun p hp =>
      hall p (hperm.mem_iff.mpr hp)⟩
  | @inside name e e' front back _ ih =>
    intro hs
    obtain ⟨hnodup, hall⟩ := soundAll_iff.mp hs
    refine soundAll_iff.mpr ⟨by simpa using hnodup, fun p hp => ?_⟩
    have hold := hall (name, e) (by simp)
    rcases List.mem_append.mp hp with hp | hp
    · exact hall p (List.mem_append_left _ hp)
    rcases List.mem_cons.mp hp with rfl | hp
    · exact ⟨hold.1, ih hold.2⟩
    · exact hall p (List.mem_append_right _ (List.mem_cons_of_mem _ hp))
  | trans _ _ ih ih' => exact fun hs => ih' (ih hs)

/-! ## The same at every place -/

theorem Entry.Alike.at? {e e' : Entry} (h : Entry.Alike e e') (l : Location) :
    (e.at? l = none ∧ e'.at? l = none) ∨
    ∃ x x', e.at? l = some x ∧ e'.at? l = some x' ∧ SameKind x x' := by
  have hl := h l
  cases hx : e.at? l with
  | none =>
    rw [hx, Option.map_none, eq_comm, Option.map_eq_none_iff] at hl
    exact Or.inl ⟨rfl, hl⟩
  | some x =>
    rw [hx, Option.map_some, eq_comm, Option.map_eq_some_iff] at hl
    obtain ⟨x', hx', hbare⟩ := hl
    exact Or.inr ⟨x, x', rfl, hx', sameKind_iff.mpr hbare.symm⟩

theorem alike_directory {entries entries' : List (String × Entry)}
    (h : ∀ name, Option.Rel Entry.Alike (find? name entries) (find? name entries')) :
    Entry.Alike (.directory entries) (.directory entries') := by
  intro l
  cases l with
  | nil => rfl
  | cons name rest =>
    simp only [Entry.at?]
    have hname := h name
    generalize find? name entries = o at hname
    generalize find? name entries' = o' at hname
    cases hname with
    | none => rfl
    | some halike => exact halike rest

theorem alike_option (o : Option Entry) : Option.Rel Entry.Alike o o := by
  cases o with
  | none => exact .none
  | some e => exact .some fun _ => rfl

/-- In any order, the same stands at every place of a tree. -/
theorem Entry.Reordered.alike {e e' : Entry} (h : Entry.Reordered e e') :
    e.sound = true → Entry.Alike e e' := by
  induction h with
  | refl => exact fun _ _ => rfl
  | here hperm =>
    intro hs
    refine alike_directory fun name => ?_
    rw [find?_perm (soundAll_iff.mp hs).1 hperm]
    exact alike_option _
  | @inside name e e' front back _ ih =>
    intro hs
    have hbelow : Entry.Alike e e' := ih ((soundAll_iff.mp hs).2 (name, e) (by simp)).2
    refine alike_directory fun other => ?_
    clear hs
    induction front with
    | nil =>
      simp only [List.nil_append, find?]
      split
      · exact .some hbelow
      · exact alike_option _
    | cons p front ih =>
      obtain ⟨n, first⟩ := p
      simp only [List.cons_append, find?]
      split
      · exact alike_option _
      · exact ih
  | trans h _ ih ih' => exact fun hs l => (ih hs l).trans (ih' (h.sound hs) l)

/-! ## The same way for every path -/

/-- Where a path leads, without what is in the directory there. -/
def Target.bare : Target → Target
  | .present place e => .present place e.bare
  | .absent dir name => .absent dir name

namespace Disk

section

variable {top top' : Entry} {follow : Bool}
    {jump jump' : Location → List String → Except Refusal Target}

theorem walkNames_alike (h : Entry.Alike top top')
    (hj : ∀ dir names, (jump dir names).map Target.bare = (jump' dir names).map Target.bare) :
    ∀ {names : List String} {dir : Location},
      (walkNames top follow jump dir names).map Target.bare =
        (walkNames top' follow jump' dir names).map Target.bare := by
  intro names
  induction names with
  | nil =>
    intro dir
    rcases h.at? dir with ⟨hd, hd'⟩ | ⟨e, e', hd, hd', hkind⟩
    · simp only [walkNames, hd, hd', Except.map]
    · simp only [walkNames, hd, hd', Except.map, Target.bare, sameKind_iff.mp hkind]
  | cons name rest ih =>
    intro dir
    rcases h.at? dir with ⟨hd, hd'⟩ | ⟨e, e', hd, hd', hkind⟩
    · simp only [walkNames, hd, hd', Except.map]
    cases hkind with
    | file | link => simp only [walkNames, hd, hd', Except.map]
    | directory entries entries' =>
      have hname := h.at? (dir ++ [name])
      rw [at?_name hd, at?_name hd'] at hname
      simp only [walkNames, hd, hd']
      split
      · exact ih
      split
      · exact ih
      split
      · rfl
      rcases hname with ⟨hf, hf'⟩ | ⟨below, below', hf, hf', hkind⟩
      · rw [hf, hf']
      rw [hf, hf']
      cases hkind with
      | link target =>
        dsimp only
        split
        · rfl
        · exact hj _ _
      | file | directory => exact ih

theorem walk_alike (h : Entry.Alike top top') : ∀ {links : Nat} {dir : Location} {names : List String},
    (walk top follow links dir names).map Target.bare =
      (walk top' follow links dir names).map Target.bare := by
  intro links
  induction links with
  | zero => exact walkNames_alike h fun _ _ => rfl
  | succ links ih => exact walkNames_alike h fun _ _ => ih

end

section

variable {d d' : Disk} (h : Entry.Alike d.top d'.top) (hw : d'.working = d.working)

include h hw

theorem target_alike (follow : Bool) (path : String) :
    (d.target follow path).map Target.bare = (d'.target follow path).map Target.bare := by
  have hstart : d'.start path = d.start path := by rw [start, start, hw]
  simp only [target, along, hstart]
  split
  · rfl
  split
  · rfl
  split
  · rfl
  exact walk_alike h

/-- A path leads to the same place, or fails for the same reason. -/
theorem lookup_alike (follow : Bool) (path : String) :
    (d.lookup follow path).map (fun found => (found.1, found.2.bare)) =
      (d'.lookup follow path).map fun found => (found.1, found.2.bare) := by
  have hsame := target_alike h hw follow path
  simp only [lookup]
  generalize d.target follow path = t at hsame
  generalize d'.target follow path = t' at hsame
  rcases t with r | (_ | _) <;> rcases t' with r' | (_ | _) <;> simp_all [Except.map, Target.bare]

theorem canonical_alike (path : String) : d.canonical path = d'.canonical path := by
  have hsame := congrArg (Except.map fun found => found.1.path) (lookup_alike h hw true path)
  have hmap : ∀ r : Except Refusal (Location × Entry),
      (r.map fun found => (found.1, found.2.bare)).map (fun found => found.1.path) =
          r.map fun found => found.1.path := by
    intro r
    cases r <;> rfl
  rw [hmap, hmap] at hsame
  exact hsame

/-- What a path leads to is of the same kind. -/
theorem lookup_alike_ok {follow : Bool} {path : String} {place : Location} {e : Entry}
    (hl : d.lookup follow path = .ok (place, e)) :
    ∃ e', d'.lookup follow path = .ok (place, e') ∧ SameKind e e' := by
  have hsame := lookup_alike h hw follow path
  rw [hl] at hsame
  cases hl' : d'.lookup follow path with
  | error r =>
    rw [hl'] at hsame
    cases hsame
  | ok found =>
    obtain ⟨place', e'⟩ := found
    rw [hl'] at hsame
    obtain ⟨rfl, hbare⟩ := Prod.mk.inj (Except.ok.inj hsame)
    exact ⟨e', rfl, sameKind_iff.mpr hbare⟩

end

end Disk

end RouteShortcuts.Files
