/-
  RouteShortcuts.Proofs.Files.Canonical — canonical paths.

  The canonical path of what is there spells its place. Another text may have the same components: one
  with slashes or dots that say nothing. In a sound tree such a text leads to the same place or nowhere
  (`canonical_same`); it leads nowhere if it asks for a directory where there is none, or is too long to
  be looked up.
-/

import RouteShortcuts.Proofs.Files.Walk

namespace RouteShortcuts.Files.Disk

section

variable {top : Entry} {jump : Location → List String → Except Refusal Target}

/-! ## Links are followed to their end -/

theorem dropLast_not_link {dir : Location} {entries : List (String × Entry)}
    (h : top.at? dir = some (.directory entries)) (target : String) :
    top.at? dir.dropLast ≠ some (.link target) := by
  intro hl
  rcases List.eq_nil_or_concat dir with rfl | ⟨front, last, rfl⟩
  · rw [List.dropLast_nil, h] at hl
    cases hl
  · rw [List.concat_eq_append, List.dropLast_concat] at hl
    rw [List.concat_eq_append, at?_append, hl] at h
    cases h

theorem walkNames_not_link {place : Location} {e : Entry}
    (hj : ∀ dir names, names ≠ [] → jump dir names = .ok (.present place e) →
      ∀ target, e ≠ .link target) :
    ∀ {names : List String} {dir : Location},
      (names = [] → ∀ target, top.at? dir ≠ some (.link target)) →
      walkNames top true jump dir names = .ok (.present place e) → ∀ target, e ≠ .link target := by
  intro names
  induction names with
  | nil =>
    intro dir hd h target
    simp only [walkNames] at h
    split at h
    · rename_i entry ha
      cases h
      rintro rfl
      exact hd rfl target ha
    · cases h
  | cons name rest ih =>
    intro dir _ h
    obtain ⟨entries, turn, hd, ht, hgo⟩ := walkNames_cons_iff.mp h
    cases ht with
    | blank => exact ih (fun _ target hl => by rw [hd] at hl; cases hl) hgo
    | up => exact ih (fun _ target => dropLast_not_link hd target) hgo
    | down _ hf hno =>
      refine ih (fun _ target hl => hno target ?_) hgo
      rw [at?_append, hd] at hl
      simp only [Option.bind_some, Entry.at?, hf] at hl
      exact Option.some.inj hl
    | link =>
      rw [leads_link fun _ => rfl] at hgo
      exact hj _ _ (by simp [pieces_ne_nil]) hgo
    | free => cases hgo.2

theorem walk_not_link {place : Location} {e : Entry} :
    ∀ {links : Nat} {dir : Location} {names : List String},
    names ≠ [] → walk top true links dir names = .ok (.present place e) →
    ∀ target, e ≠ .link target := by
  intro links
  induction links with
  | zero =>
    exact fun hne h => walkNames_not_link (fun _ _ _ h => by cases h) (fun h0 => absurd h0 hne) h
  | succ links ih =>
    exact fun hne h => walkNames_not_link (fun _ _ hne h => ih hne h) (fun h0 => absurd h0 hne) h

theorem lookup_not_link {d : Disk} {path : String} {place : Location} {e : Entry}
    (h : d.lookup true path = .ok (place, e)) : ∀ target, e ≠ .link target :=
  walk_not_link (pieces_ne_nil path) (lookup_iff.mp h).2

/-! ## Texts that spell a place -/

/-- Pieces that spell the names of a place lead there if they lead anywhere. -/
theorem walkNames_spelled {e : Entry} (hl : ∀ target, e ≠ .link target) :
    ∀ {ps : List String} {names dir : Location}
    {at_ : Entry}, top.at? dir = some at_ → at_.sound = true → at_.at? names = some e →
      ps.filterMap component? = names.map .name →
      ∀ {t : Target}, walkNames top true jump dir ps = .ok t →
        t = .present (dir ++ names) e := by
  intro ps
  induction ps with
  | nil =>
    intro names dir at_ hd _ ha hps t h
    obtain rfl : names = [] := by simpa using hps.symm
    cases ha
    simp only [walkNames, hd] at h
    cases h
    simp
  | cons p ps ih =>
    intro names dir at_ hd hs ha hps t h
    obtain ⟨entries, turn, hd', ht, hgo⟩ := walkNames_cons_iff.mp h
    obtain rfl : at_ = .directory entries := Option.some.inj (hd.symm.trans hd')
    -- a piece that is a name is the next name of the place
    have hnext : Nameable p → ∃ names' below, names = p :: names' ∧ find? p entries = some below ∧
        below.at? names' = some e ∧ ps.filterMap component? = names'.map .name := by
      intro hname
      rw [List.filterMap_cons_some (b := Component.name p)
        (by simp [component?, hname.notBlank, hname.notUp])] at hps
      obtain ⟨name, names', rfl, hp, hrest⟩ := List.map_eq_cons_iff.mp hps.symm
      cases hp
      obtain ⟨_, below, he, hf, hb⟩ := at?_cons.mp ha
      cases he
      exact ⟨names', below, rfl, hf, hb, hrest.symm⟩
    cases ht with
    | blank hblank =>
      rw [List.filterMap_cons_none (by simp [component?, hblank])] at hps
      exact ih hd hs ha hps hgo
    | up hup =>
      -- no name of a place is a step up
      rw [List.filterMap_cons_some (b := Component.up) (by simp [component?, hup])] at hps
      cases names with
      | nil => cases hps
      | cons name names => cases hps
    | down hname _ _ =>
      obtain ⟨names', below, rfl, hf, hb, hrest⟩ := hnext hname
      have hat : top.at? (dir ++ [p]) = some below := by
        rw [at?_append, hd]
        exact at?_cons.mpr ⟨entries, below, rfl, hf, rfl⟩
      have := ih hat (find?_sound hs hf).2 hb hrest hgo
      rwa [List.append_assoc] at this
    | link hname hlink =>
      obtain ⟨names', below, rfl, hf, hb, -⟩ := hnext hname
      rw [hlink] at hf
      cases hf
      obtain ⟨-, rfl⟩ := at?_link.mp hb
      exact absurd rfl (hl _)
    | free hname hfree =>
      obtain ⟨names', below, rfl, hf, -⟩ := hnext hname
      rw [hfree] at hf
      cases hf

end

/-! ## Canonical paths -/

theorem components_top {path : String} {cs : List Component} (h : components path = .top :: cs) :
    isAbsolute path = true ∧ (pieces path).filterMap component? = cs := by
  unfold components at h
  dsimp only at h
  split at h
  · rename_i ha
    exact ⟨ha, (List.cons.inj h).2⟩
  · split at h
    · cases h
    · obtain ⟨_, piece, _, -, -, hp, -⟩ := List.filterMap_eq_cons_iff.mp h
      unfold component? at hp
      split at hp
      · cases hp
      · split at hp <;> cases hp

theorem canonical_ok {d : Disk} {path k : String} :
    d.canonical path = .ok k ↔ ∃ place e, d.lookup true path = .ok (place, e) ∧ k = place.path := by
  unfold canonical
  cases d.lookup true path with
  | ok found => simp [Except.map, Prod.ext_iff, eq_comm]
  | error r => simp [Except.map]

/-- A text with the components of a canonical path has this canonical path or none. -/
theorem canonical_same {d : Disk} (hs : d.top.sound = true) {a k b m : String}
    (ha : d.canonical a = .ok k) (hb : samePath b k = true) (hm : d.canonical b = .ok m) :
    m = k := by
  obtain ⟨place, e, hl, rfl⟩ := canonical_ok.mp ha
  obtain ⟨place', e', hl', rfl⟩ := canonical_ok.mp hm
  have hat : d.top.at? place = some e := lookup_at? hl
  have hc : components b = .top :: place.map .name := by
    rw [← components_path (at?_names hs hat)]
    simpa [samePath] using hb
  obtain ⟨habs, hps⟩ := components_top hc
  obtain ⟨-, hwalk⟩ := lookup_iff.mp hl'
  rw [start, habs, if_pos rfl] at hwalk
  have htop : d.top.at? [] = some d.top := rfl
  cases walkNames_spelled (lookup_not_link hl) htop hs hat hps hwalk
  rfl

theorem exists?_lookup {d : Disk} {path : String} :
    d.exists? path = true ↔ ∃ place e, d.lookup true path = .ok (place, e) := by
  unfold exists?
  cases d.lookup true path with
  | ok found => exact iff_of_true rfl ⟨found.1, found.2, rfl⟩
  | error r => exact iff_of_false (by simp) (by simp)

end RouteShortcuts.Files.Disk
