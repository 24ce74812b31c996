/-
  RouteShortcuts.Proofs.Styled.Sequences — a text without its colours.

  A sequence that sets colours is an escape character and a bracket, then parameters, then an `m`.
  `unstyled` takes every such sequence out of a text and leaves all else as it is.

  An ink begins with such sequences and ends with one, and its blanks stand between them. So where
  the text of no piece has an escape character, what is left of a coloured text is the plain one: no
  text is cut and no blank is lost (`unstyled_render`). Such a text never ends the ink that it
  stands in (`keepOn_eq`). A text with an escape character may be part of a sequence itself, so
  nothing is said of it.
-/

import Mathlib.Data.String.Basic
import RouteShortcuts.Styled

namespace RouteShortcuts

/-! ## Taking sequences out -/

namespace Styled

/-- May a character stand among the parameters of a sequence? -/
def isParameter (c : Char) : Bool := c.isDigit || c == ';' || c == ':'

/-- What follows the sequence at the front of a text, if there is one. -/
def afterSequence? : List Char → Option (List Char)
  | '\x1b' :: '[' :: rest =>
    match rest.dropWhile isParameter with
    | 'm' :: after => some after
    | _ => none
  | _ => none

theorem length_afterSequence? {text after : List Char} (h : afterSequence? text = some after) :
    after.length < text.length := by
  unfold afterSequence? at h
  split at h
  · rename_i rest
    split at h
    · rename_i hrest
      have hle : (rest.dropWhile isParameter).length ≤ rest.length :=
        (List.dropWhile_suffix _).length_le
      cases h
      rw [hrest, List.length_cons] at hle
      simp only [List.length_cons]
      omega
    · cases h
  · cases h

/-- The characters of a text that belong to no sequence. -/
def withoutSequences (text : List Char) : List Char :=
  match text with
  | [] => []
  | c :: rest =>
    match h : afterSequence? (c :: rest) with
    | some after =>
      have := length_afterSequence? h
      withoutSequences after
    | none => c :: withoutSequences rest
termination_by text.length
decreasing_by
  · exact this
  · exact Nat.lt_succ_self rest.length

/-- A text without the sequences that set colours. -/
def unstyled (text : String) : String := String.ofList (withoutSequences text.toList)

def sequence (parameters : List Char) : List Char := '\x1b' :: '[' :: (parameters ++ ['m'])

theorem afterSequence?_sequence {parameters : List Char} (h : parameters.all isParameter = true)
    (text : List Char) : afterSequence? (sequence parameters ++ text) = some text := by
  have hdrop : (parameters ++ 'm' :: text).dropWhile isParameter = 'm' :: text := by
    rw [List.dropWhile_append_of_pos (List.all_eq_true.mp h)]
    rfl
  have hsequence : sequence parameters ++ text = '\x1b' :: '[' :: (parameters ++ 'm' :: text) := by
    simp [sequence]
  rw [hsequence, afterSequence?, hdrop]
  rfl

theorem withoutSequences_sequence {parameters : List Char} (h : parameters.all isParameter = true)
    (text : List Char) :
    withoutSequences (sequence parameters ++ text) = withoutSequences text := by
  have hafter := afterSequence?_sequence h text
  have hcons : sequence parameters ++ text = '\x1b' :: ('[' :: (parameters ++ ['m']) ++ text) := rfl
  rw [hcons] at hafter ⊢
  rw [withoutSequences]
  split
  · rename_i hsome
    rw [hafter] at hsome
    cases hsome
    rfl
  · rename_i hnone
    rw [hafter] at hnone
    cases hnone

theorem withoutSequences_cons {c : Char} (h : c ≠ '\x1b') (text : List Char) :
    withoutSequences (c :: text) = c :: withoutSequences text := by
  have hafter : afterSequence? (c :: text) = none := by
    unfold afterSequence?
    split
    · rename_i hcons
      exact absurd (List.cons.inj hcons).1 h
    · rfl
  rw [withoutSequences]
  split
  · rename_i hsome
    rw [hafter] at hsome
    cases hsome
  · rfl

/-- Up to the first escape character a text stays as it is. -/
theorem withoutSequences_append {front : List Char} (h : '\x1b' ∉ front) (text : List Char) :
    withoutSequences (front ++ text) = front ++ withoutSequences text := by
  induction front with
  | nil => rfl
  | cons c front ih =>
    rw [List.mem_cons, not_or] at h
    rw [List.cons_append, withoutSequences_cons (Ne.symm h.1), ih h.2]
    rfl

/-- What does not end as a sequence does is none. -/
example : unstyled "\x1b[1;33mwarning:\x1b[0m \x1b[1" = "warning: \x1b[1" := by decide +kernel

end Styled

/-! ## Texts in an ink -/

open Styled

/-- All inks begin with sequences. -/
theorem Ink.start_sequences (ink : Ink) : ∃ parameters : List (List Char),
    (∀ p ∈ parameters, p.all isParameter = true) ∧ ink.start.toList = parameters.flatMap sequence := by
  cases ink
  case bold => exact ⟨[['1']], by decide, by decide⟩
  case underlined => exact ⟨[['1'], ['4']], by decide, by decide⟩
  case dimmed => exact ⟨[['2']], by decide, by decide⟩
  case cyan => exact ⟨[['3', '6']], by decide, by decide⟩
  case green => exact ⟨[['3', '2']], by decide, by decide⟩
  case yellow => exact ⟨[['3', '3']], by decide, by decide⟩
  case warning => exact ⟨[['1', ';', '3', '3']], by decide, by decide⟩
  case alarm => exact ⟨[['1'], ['3', '1']], by decide, by decide⟩

theorem withoutSequences_start (ink : Ink) (text : List Char) :
    withoutSequences (ink.start.toList ++ text) = withoutSequences text := by
  obtain ⟨parameters, hparameters, hstart⟩ := ink.start_sequences
  rw [hstart]
  clear hstart
  induction parameters with
  | nil => rfl
  | cons p parameters ih =>
    rw [List.flatMap_cons, List.append_assoc,
      withoutSequences_sequence (hparameters p List.mem_cons_self)]
    exact ih fun q hq => hparameters q (List.mem_cons_of_mem p hq)

theorem withoutSequences_inkEnd (text : List Char) :
    withoutSequences (inkEnd.toList ++ text) = withoutSequences text := by
  have hend : inkEnd.toList = sequence ['0'] := by decide
  rw [hend]
  exact withoutSequences_sequence (by decide) text

/-- A text in which the separator cannot even begin is not split. By induction on what is still to
be looked at: the search never gets beyond the first character of the separator. -/
theorem splitOnAux_eq {c : Char} (sep front back : List Char) (h : c ∉ back) :
    String.splitOnAux (String.ofList (front ++ back))
    (String.ofList (c :: sep)) 0 ⟨String.utf8Len front⟩ 0 [] =
      [String.ofList (front ++ back)] := by
  induction back generalizing front with
  | nil =>
    have hend := (String.atEnd_of_valid front []).mpr rfl
    have hall := String.extract_of_valid [] front []
    simp only [List.nil_append, List.append_nil, String.utf8Len_nil, Nat.zero_add] at hend hall ⊢
    rw [String.splitOnAux, if_pos hend]
    exact congrArg (fun s => [s]) hall
  | cons d back ih =>
    rw [List.mem_cons, not_or] at h
    have hend : ¬ String.Pos.Raw.atEnd (String.ofList (front ++ d :: back)) ⟨String.utf8Len front⟩ =
        true := by
      rw [String.atEnd_of_valid]
      exact List.cons_ne_nil d back
    have hget : String.Pos.Raw.get (String.ofList (front ++ d :: back)) ⟨String.utf8Len front⟩ = d :=
      String.get_of_valid front (d :: back)
    have hsep : String.Pos.Raw.get (String.ofList (c :: sep)) 0 = c := String.get_of_valid [] (c :: sep)
    have hne : ¬ (d == c) = true := fun heq => h.1 (beq_iff_eq.mp heq).symm
    have hnext : String.Pos.Raw.next (String.ofList (front ++ d :: back))
        (String.Pos.Raw.unoffsetBy ⟨String.utf8Len front⟩ 0) =
        ⟨String.utf8Len (front ++ [d])⟩ := by
      rw [String.utf8Len_append]
      simpa using String.next_of_valid front d back
    have hback := ih (front ++ [d]) h.2
    rw [List.append_assoc, List.singleton_append] at hback
    rw [String.splitOnAux, if_neg hend, hget, hsep, if_neg hne, hnext]
    exact hback

/-- A text without an escape character never ends an ink. -/
theorem Ink.keepOn_eq (ink : Ink) {text : String} (h : '\x1b' ∉ text.toList) :
    ink.keepOn text = text := by
  have hsplit : text.splitOn inkEnd = [text] := by
    have hend : inkEnd = String.ofList ('\x1b' :: ['[', '0', 'm']) := by decide
    have haux := splitOnAux_eq ['[', '0', 'm'] [] text.toList h
    rw [← hend, List.nil_append, String.ofList_toList] at haux
    rw [String.splitOn, if_neg (by decide)]
    exact haux
  rw [Ink.keepOn, hsplit, String.intercalate_singleton]

/-! ## Pieces -/

theorem padded_noEscape (width : Nat) {text : String} (h : '\x1b' ∉ text.toList) :
    '\x1b' ∉ (padded width text).toList := by
  rw [padded, String.toList_append, List.mem_append, not_or]
  refine ⟨h, ?_⟩
  rw [String.toList_ofList]
  intro hblank
  exact absurd (List.eq_of_mem_replicate hblank) (by decide)

namespace Styled

/-- No piece has an escape character in its text. -/
def Bare (s : Styled) : Prop := ∀ p ∈ s, '\x1b' ∉ p.text.toList

instance (s : Styled) : Decidable s.Bare :=
  inferInstanceAs (Decidable (∀ p ∈ s, '\x1b' ∉ p.text.toList))

@[simp] theorem bare_nil : Bare [] := by
  intro p hp
  cases hp

@[simp] theorem bare_append {s t : Styled} : Bare (s ++ t) ↔ Bare s ∧ Bare t := List.forall_mem_append

@[simp] theorem bare_plain {text : String} :
    Bare (plain text) ↔ '\x1b' ∉ text.toList := List.forall_mem_singleton

@[simp] theorem bare_inked {ink : Ink} {text : String} : Bare (inked ink text) ↔ '\x1b' ∉ text.toList :=
  List.forall_mem_singleton

theorem bare_flatMap {α : Type} {f : α → Styled} {as : List α} (h : ∀ a ∈ as, Bare (f a)) :
    Bare (as.flatMap f) := by
  intro p hp
  obtain ⟨a, ha, hp⟩ := List.mem_flatMap.mp hp
  exact h a ha p hp

theorem withoutSequences_piece {p : Piece} (h : '\x1b' ∉ p.text.toList) (colours : Bool)
    (text : List Char) :
    withoutSequences ((p.render colours).toList ++ text) =
      (p.render false).toList ++ withoutSequences text := by
  obtain ⟨ink, shown, width⟩ := p
  have hbare := padded_noEscape width h
  cases ink with
  | none => exact withoutSequences_append hbare text
  | some ink =>
    cases colours with
    | false => exact withoutSequences_append hbare text
    | true =>
      show withoutSequences ((ink.start ++ padded width (ink.keepOn shown) ++ inkEnd).toList ++ text) =
        (padded width shown).toList ++ withoutSequences text
      rw [ink.keepOn_eq h, String.toList_append, String.toList_append, List.append_assoc,
        List.append_assoc, withoutSequences_start, withoutSequences_append hbare,
        withoutSequences_inkEnd]

theorem render_cons (colours : Bool) (p : Piece) (s : Styled) :
    render colours (p :: s) = p.render colours ++ s.render colours := by
  rw [render, List.map_cons, String.join_cons, render]

theorem withoutSequences_render {s : Styled} (h : s.Bare) (colours : Bool) :
    withoutSequences (s.render colours).toList = (s.render false).toList := by
  induction s with
  | nil =>
    show withoutSequences [] = []
    rw [withoutSequences]
  | cons p s ih =>
    have hs : Bare s := fun q hq => h q (List.mem_cons_of_mem p hq)
    rw [render_cons, render_cons, String.toList_append, String.toList_append,
      withoutSequences_piece (h p List.mem_cons_self), ih hs]

/-- What is left of the coloured text is the plain one. -/
theorem unstyled_render {s : Styled} (h : s.Bare) (colours : Bool) :
    unstyled (s.render colours) = s.render false := by
  rw [unstyled, withoutSequences_render h colours, String.ofList_toList]

end Styled
end RouteShortcuts
