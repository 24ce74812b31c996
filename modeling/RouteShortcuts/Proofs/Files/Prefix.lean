/-
  RouteShortcuts.Proofs.Files.Prefix — what is left of a path behind another one.

  A path below another one begins with its components, however many blank pieces stand between them.
  What is left is a relative path with the other components (`stripPrefix?_below`). Its text has no
  blank pieces at either end, so it ends with the last name of the path.
-/

import RouteShortcuts.Proofs.Files.Spelling

namespace RouteShortcuts.Files

/-- Components at the front of a path are taken away whatever blank pieces stand between them. -/
theorem dropComponents_append {cs : List Component} {ps : List String} : ∀ {front : List Component},
    ps.filterMap component? = front ++ cs →
      ∃ rest, dropComponents front ps = some rest ∧ rest.filterMap component? = cs ∧ rest ⊆ ps := by
  induction ps with
  | nil =>
    intro front h
    obtain ⟨rfl, rfl⟩ := List.append_eq_nil_iff.mp h.symm
    exact ⟨[], rfl, rfl, List.Subset.refl _⟩
  | cons piece ps ih =>
    intro front h
    cases front with
    | nil => exact ⟨piece :: ps, rfl, h, List.Subset.refl _⟩
    | cons c front =>
      rw [dropComponents]
      cases hp : component? piece with
      | none =>
        rw [List.filterMap_cons_none hp] at h
        obtain ⟨rest, hrest, hcs, hsub⟩ := ih h
        exact ⟨rest, hrest, hcs, List.subset_cons_of_subset _ hsub⟩
      | some c' =>
        rw [List.filterMap_cons_some hp, List.cons_append] at h
        obtain ⟨rfl, hps⟩ := List.cons.inj h
        obtain ⟨rest, hrest, hcs, hsub⟩ := ih hps
        exact ⟨rest, by simp only [if_true, hrest], hcs, List.subset_cons_of_subset _ hsub⟩

theorem trimFront_split (l : List String) :
    ∃ blank, l = blank ++ trimFront l ∧ (∀ p ∈ blank, component? p = none) ∧
    ∀ p, (trimFront l).head? = some p → component? p ≠ none := by
  induction l with
  | nil => exact ⟨[], rfl, by simp, by simp [trimFront]⟩
  | cons first l ih =>
    rw [trimFront]
    split
    · rename_i hblank
      obtain ⟨blank, hl, hall, hhead⟩ := ih
      refine ⟨first :: blank, by rw [List.cons_append, ← hl], ?_, hhead⟩
      exact List.forall_mem_cons.mpr ⟨by simpa using hblank, hall⟩
    · rename_i hsome
      refine ⟨[], rfl, by simp, fun p hp => ?_⟩
      cases hp
      simpa using hsome

theorem pieces_head_of_isAbsolute {path : String} (h : isAbsolute path = true) :
    (pieces path).head? = some "" := by
  obtain ⟨rest, hc⟩ := List.head?_eq_some_iff.mp (beq_iff_eq.mp h)
  simp [pieces, hc, List.splitOn_cons_eq_if_modifyHead]

/-- The same pieces without the blank ones at both ends. -/
structure Trims (ps qs : List String) : Prop where
  mem : qs ⊆ ps
  same : qs.filterMap component? = ps.filterMap component?
  first : ∀ p, qs.head? = some p → component? p ≠ none
  last : ∀ p, qs.getLast? = some p → component? p ≠ none

theorem trims (ps : List String) : Trims ps (trimFront (trimFront ps).reverse).reverse := by
  obtain ⟨front, hps, hfront, hfirst⟩ := trimFront_split ps
  obtain ⟨back, hrev, hback, hlast⟩ := trimFront_split (trimFront ps).reverse
  generalize hqs : (trimFront (trimFront ps).reverse).reverse = qs
  have htrim : trimFront ps = qs ++ back.reverse := by
    rw [← hqs, ← List.reverse_append, ← hrev, List.reverse_reverse]
  have hblank : ∀ {blank : List String}, (∀ p ∈ blank, component? p = none) →
      blank.filterMap component? = [] :=
    fun hall => List.filterMap_eq_nil_iff.mpr hall
  refine ⟨fun p hp => ?_, ?_, fun p hp => hfirst p ?_, fun p hp => hlast p ?_⟩
  · rw [hps, htrim]
    exact List.mem_append_right _ (List.mem_append_left _ hp)
  · have hback : back.reverse.filterMap component? = [] := hblank fun p hp =>
      hback p (List.mem_reverse.mp hp)
    conv => rhs; rw [hps, htrim]
    rw [List.filterMap_append, hblank hfront, List.filterMap_append, hback,
      List.append_nil, List.nil_append]
  · rw [htrim, List.head?_append, hp]
    rfl
  · rw [← List.getLast?_reverse, hqs, hp]

section

variable {ps qs : List String} (h : Trims ps qs)

include h

/-- Their text is a relative path that says what they say. -/
theorem Trims.components (hslash : ∀ p ∈ ps, '/' ∉ p.toList) :
    Files.components ("/".intercalate qs) = ps.filterMap component? := by
  rw [← h.same]
  cases qs with
  | nil => rfl
  | cons p qs =>
    have hpieces : pieces ("/".intercalate (p :: qs)) = p :: qs :=
      pieces_intercalate (fun q hq => hslash q (h.mem hq)) (by simp)
    have hp : p ≠ "" ∧ p ≠ "." := by
      have hp := h.first p rfl
      rwa [Ne, component?_none, not_or] at hp
    have hrel : isAbsolute ("/".intercalate (p :: qs)) = false := by
      refine Bool.eq_false_iff.mpr fun habs => hp.1 ?_
      have hfirst := pieces_head_of_isAbsolute habs
      rw [hpieces] at hfirst
      exact Option.some.inj hfirst
    simp only [Files.components, hrel, hpieces, Bool.false_eq_true, if_false, List.head?_cons,
      Option.some.injEq, hp.2]

/-- It ends with the last name that they say. -/
theorem Trims.ends {cs : List Component} {name : String} (hname : IsName name)
    (hsay : ps.filterMap component? = cs ++ [.name name]) :
    ∃ front, "/".intercalate qs = front ++ name := by
  rw [← h.same] at hsay
  cases qs using List.reverseRecOn with
  | nil => simp at hsay
  | append_singleton qs last =>
    obtain ⟨c, hc⟩ := Option.ne_none_iff_exists'.mp (h.last last (by simp))
    rw [List.filterMap_append, List.filterMap_cons_some hc, List.filterMap_nil] at hsay
    obtain ⟨-, hlast⟩ := List.append_inj' hsay rfl
    obtain rfl := List.singleton_inj.mp hlast
    rw [component?_inj hc (component?_name hname)]
    exact intercalate_ends qs name

end

/-- What follows the components of a path in those of another one is the path from there. Its text
ends with the last name. -/
theorem stripPrefix?_below {base path : String} (hbase : isAbsolute base = true)
    (hpath : isAbsolute path = true) {cs : List Component}
    (h : components path = components base ++ cs) :
    ∃ rest, stripPrefix? base path = some rest ∧ components rest = cs ∧
      ∀ before name, IsName name → cs = before ++ [.name name] → ∃ front, rest = front ++ name := by
  have hpieces : (pieces path).filterMap component? = (components base).drop 1 ++ cs := by
    simp only [components, hbase, hpath, if_true] at h ⊢
    exact (List.cons.inj h).2
  obtain ⟨rest, hrest, hcs, hsub⟩ := dropComponents_append hpieces
  have hstrip : stripPrefix? base path = some ("/".intercalate (trimFront (trimFront rest).reverse).reverse) := by
    simp only [stripPrefix?, hbase, hpath, Bool.and_self, if_true, hrest, Option.map_some]
  refine ⟨_, hstrip, ?_, ?_⟩
  · rw [(trims rest).components fun p hp => noSlash_of_mem_pieces (hsub hp), hcs]
  · rintro before name hname rfl
    exact (trims rest).ends hname hcs

end RouteShortcuts.Files
