/-
  RouteShortcuts.Proofs.Glob.Ending — what a glob that ends with a choice of texts matches.

  Whatever a part takes of a path, it takes from the front, so what may be left is an end of the path
  (`rowRests_suffix`). The last part of a glob leaves nothing, so if that is a choice of texts, the path
  ends with one of them (`ending_of_match`).
-/

import RouteShortcuts.Proofs.Glob.Matching

namespace RouteShortcuts.Glob

/-! ## Ends of a path -/

theorem mem_ends_suffix {x : Octets} : ∀ {path : Octets}, x ∈ ends path → x <:+ path := by
  intro path
  induction path with
  | nil => simp [ends]
  | cons b path ih =>
    intro h
    rcases List.mem_cons.mp h with rfl | h
    · exact List.suffix_rfl
    · exact (ih h).trans (List.suffix_cons b path)

theorem restsInName_suffix {x : Octets} : ∀ {path : Octets}, x ∈ restsInName path → x <:+ path := by
  intro path
  induction path with
  | nil => simp [restsInName]
  | cons b path ih =>
    intro h
    rcases List.mem_cons.mp h with rfl | h
    · exact List.suffix_rfl
    · split at h
      · cases h
      · exact (ih h).trans (List.suffix_cons b path)

theorem restsAfterSlash_suffix {x : Octets} :
    ∀ {path : Octets}, x ∈ restsAfterSlash path → x <:+ path := by
  intro path
  induction path with
  | nil => simp [restsAfterSlash]
  | cons b path ih =>
    intro h
    rw [restsAfterSlash] at h
    split at h
    · rcases List.mem_cons.mp h with rfl | h
      · exact List.suffix_cons b _
      · exact (ih h).trans (List.suffix_cons b path)
    · exact (ih h).trans (List.suffix_cons b path)

mutual

/-- What may be left after a part is an end of the path. -/
theorem rests_suffix : ∀ {t : Token} {path x : Octets}, x ∈ t.rests path → x <:+ path
  | .literal c, path, x, h => by
    rw [rests_literal.mp h]
    exact List.suffix_append _ _
  | .any, [], x, h | .set _ _, [], x, h | .anySuffix, [], x, h | .anyMiddle, [], x, h => by cases h
  | .any, b :: path, x, h | .set _ _, b :: path, x, h => by
    simp only [Token.rests] at h
    split at h
    all_goals simp only [List.mem_singleton, List.not_mem_nil] at h
    all_goals exact h ▸ List.suffix_cons b path
  | .star, path, x, h => restsInName_suffix h
  | .anyPrefix, path, x, h => by
    simp only [Token.rests, mem_distinct] at h
    rcases List.mem_cons.mp h with rfl | h
    · exact List.suffix_rfl
    · exact restsAfterSlash_suffix h
  | .anySuffix, b :: path, x, h => by
    simp only [Token.rests] at h
    split at h
    · exact (mem_ends_suffix h).trans (List.suffix_cons b path)
    · cases h
  | .anyMiddle, b :: path, x, h => by
    simp only [Token.rests] at h
    split at h
    · rw [mem_distinct] at h
      rcases List.mem_cons.mp h with rfl | h
      · exact List.suffix_cons b x
      · exact (restsAfterSlash_suffix h).trans (List.suffix_cons b path)
    · cases h
  | .alternatives branches, path, x, h => by
    simp only [Token.rests] at h
    split at h
    · exact List.mem_singleton.mp h ▸ List.suffix_rfl
    · exact branchRests_suffix (mem_distinct.mp h)

theorem branchRests_suffix : ∀ {branches : List (List Token)} {path x : Octets},
      x ∈ Token.branchRests path branches → x <:+ path
  | [], _, _, h => by cases h
  | branch :: rest, path, x, h => by
    rw [Token.branchRests] at h
    rcases List.mem_append.mp h with h | h
    · split at h
      · cases h
      · exact rowRests_suffix h
    · exact branchRests_suffix h

theorem rowRests_suffix :
    ∀ {parts : List Token} {path x : Octets}, x ∈ Token.rowRests [path] parts → x <:+ path
  | [], path, x, h => List.mem_singleton.mp h ▸ List.suffix_rfl
  | t :: parts, path, x, h => by
    obtain ⟨rest, hr, h⟩ := rowRests_cons.mp h
    exact (rowRests_suffix h).trans (rests_suffix hr)

end

theorem rowRests_append {front back : List Token} {x : Octets} : ∀ {path : Octets},
    x ∈ Token.rowRests [path] (front ++ back) ↔ ∃ rest ∈ Token.rowRests [path] front,
      x ∈ Token.rowRests [rest] back := by
  induction front with
  | nil =>
    intro path
    simp [Token.rowRests]
  | cons t front ih =>
    intro path
    simp only [List.cons_append, rowRests_cons, ih]
    constructor
    · rintro ⟨rest, hr, rest', hr', hx⟩
      exact ⟨rest', ⟨rest, hr, hr'⟩, hx⟩
    · rintro ⟨rest', ⟨rest, hr, hr'⟩, hx⟩
      exact ⟨rest, hr, rest', hr', hx⟩

/-! ## A choice of texts at the end -/

/-- One of these texts. -/
def choice (texts : List String) : Token :=
  .alternatives (texts.map fun text => text.toList.map .literal)

/-- After a choice of texts, not all of them empty, nothing is left of one of them only. -/
theorem rests_choice {texts : List String} (hvoid : (choice texts).isVoid = false) {path : Octets}
    (h : [] ∈ (choice texts).rests path) :
    ∃ text ∈ texts, path = octetsOf text := by
  rw [choice, Token.isVoid] at hvoid
  simp only [choice, Token.rests, hvoid, Bool.false_eq_true, if_false] at h
  rw [mem_distinct] at h
  clear hvoid
  induction texts with
  | nil => cases h
  | cons text texts ih =>
    rw [List.map_cons, Token.branchRests] at h
    rcases List.mem_append.mp h with h | h
    · split at h
      · cases h
      · rw [← List.append_nil (text.toList.map Token.literal)] at h
        obtain ⟨rest, hpath, hnil⟩ := rowRests_text h
        rw [← List.mem_singleton.mp hnil, List.append_nil] at hpath
        exact ⟨text, List.mem_cons_self, by rw [hpath, octetsOf_eq]⟩
    · obtain ⟨text', hmem, htext⟩ := ih h
      exact ⟨text', List.mem_cons_of_mem _ hmem, htext⟩

/-- A path that a glob with a choice of texts at its end matches ends with one of them. -/
theorem ending_of_match {g : Glob} {front : List Token} {texts : List String}
    (hp : g.parts = front ++ [choice texts]) (hvoid : (choice texts).isVoid = false) {path : String}
    (h : g.isMatch path = true) : ∃ text ∈ texts, octetsOf text <:+ octetsOf path := by
  have hne : g.parts ≠ [.anyPrefix] := by
    rw [hp]
    intro he
    obtain ⟨-, hlast⟩ := List.append_inj' (he.trans (List.nil_append _).symm) rfl
    cases hlast
  have hx := isMatch_rests hne h
  rw [hp, rowRests_append] at hx
  obtain ⟨rest, hr, hx⟩ := hx
  obtain ⟨after, ha, hnil⟩ := rowRests_cons.mp hx
  rw [← List.mem_singleton.mp hnil] at ha
  obtain ⟨text, hmem, rfl⟩ := rests_choice hvoid ha
  exact ⟨text, hmem, rowRests_suffix hr⟩

end RouteShortcuts.Glob
