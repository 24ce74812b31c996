/-
  RouteShortcuts.Proofs.Script.Lexing — texts that are read as given tokens.

  `Yields ts l`: the tokens from `l` on are `ts`, and no fault is met on the way to them. `Lexes
  text ts`: wherever `text` stands, its tokens are `ts`. A text is put together from parts, so what
  is proved of a part speaks of any text that may follow: `Writes part ts` puts `ts` in front of the
  tokens of whatever comes after the part. A word goes on as long as it can, so it is a part only
  with the character behind it (`writes_word`).
-/

import RouteShortcuts.Script.Token.Scan
import Mathlib.Data.List.Basic

namespace RouteShortcuts.Script

open RouteShortcuts.Text

/-- The tokens from one on. -/
def Yields : List Token → Lexed → Prop
  | [], l => l.token = .endOfText ∧ l.faults = []
  | t :: ts, l => l.token = t ∧ l.faults = [] ∧ Yields ts (l.next false)

theorem Yields.faults {ts : List Token} {l : Lexed} (h : Yields ts l) : l.faults = [] := by
  cases ts with
  | nil => exact h.2
  | cons t ts => exact h.2.1

/-- The tokens of a text. They are no more than its characters. -/
structure Lexes (text : List Char) (ts : List Token) : Prop where
  yields : ∀ offset newline, Yields ts (Lexed.ofSkipped false (Blank.skip .plain newline offset text))
  length : ts.length ≤ text.length

/-- A part of a text that is read as these tokens, whatever comes after it. -/
def Writes (part : List Char) (ts : List Token) : Prop :=
  ∀ rest more, Lexes rest more → Lexes (part ++ rest) (ts ++ more)

theorem lexes_nil : Lexes [] [] :=
  ⟨fun offset newline => by cases newline <;> exact ⟨rfl, rfl⟩, Nat.le_refl _⟩

theorem Writes.lexes {text : List Char} {ts : List Token} (h : Writes text ts) : Lexes text ts := by
  simpa using h [] [] lexes_nil

theorem writes_nil : Writes [] [] := fun _ _ h => h

theorem Writes.append {a b : List Char} {ts us : List Token} (ha : Writes a ts) (hb : Writes b us) :
    Writes (a ++ b) (ts ++ us) := by
  intro rest more h
  rw [List.append_assoc, List.append_assoc]
  exact ha _ _ (hb _ _ h)

theorem writes_flatMap {α : Type} {l : List α} {part : α → List Char} {tokens : α → List Token}
    (h : ∀ a ∈ l, Writes (part a) (tokens a)) : Writes (l.flatMap part) (l.flatMap tokens) := by
  induction l with
  | nil => exact writes_nil
  | cons a l ih =>
    rw [List.flatMap_cons, List.flatMap_cons]
    exact (h a (by simp)).append (ih fun a ha => h a (by simp [ha]))

/-! ## Single tokens -/

theorem writes_blank {c : Char} (h : isLineEnd c = true ∨ isBlank c = true) : Writes [c] [] := by
  intro rest more hrest
  refine ⟨fun offset newline => ?_, Nat.le_succ_of_le hrest.length⟩
  rw [List.singleton_append, Blank.skip]
  by_cases hend : isLineEnd c = true
  · rw [if_pos hend]
    exact hrest.yields _ _
  · rw [if_neg hend, if_pos (h.resolve_left hend)]
    exact hrest.yields _ _

/-- A token is met where nothing is skipped and no line of a merge begins. -/
theorem lexes_token {c : Char} {tail rest : List Char} {t : Token} {ts : List Token}
    (hblank : isLineEnd c = false ∧ isBlank c = false)
    (hsign : c ∉ ['/', '<', '-', '='] ∨ tail.head? = some ' ')
    (hmerge : c ≠ '<' ∧ c ≠ '>')
    (hscan : ∀ offset, ∃ stop, Token.scan false offset (c :: tail) = ⟨t, stop, rest, []⟩)
    (hlength : rest.length ≤ tail.length) (h : Lexes rest ts) : Lexes (c :: tail) (t :: ts) := by
  have hno : ∀ newline, Blank.sign? newline (c :: tail) = none := by
    intro newline
    unfold Blank.sign?
    split <;> simp_all
  refine ⟨fun offset newline => ?_, ?_⟩
  · have hskip : Blank.skip .plain newline offset (c :: tail) = ⟨offset, c :: tail, newline, []⟩ := by
      simp [Blank.skip, hblank, hno]
    have hconflict : Lexed.isConflict newline (c :: tail) = false := by
      cases newline with
      | false => rfl
      | true =>
        simp [Lexed.isConflict, List.isPrefixOf, hmerge.1.symm, hmerge.2.symm]
    obtain ⟨stop, hs⟩ := hscan offset
    rw [hskip, Lexed.ofSkipped]
    simp only [hconflict, Bool.false_eq_true, if_false, hs]
    exact ⟨rfl, rfl, h.yields _ _⟩
  · simpa using Nat.le_trans h.length hlength

/-- Marks of one character. -/
def marks : List (Char × Mark) :=
  [('(', .parenOpen), (')', .parenClose), ('[', .bracketOpen), (']', .bracketClose),
    ('\x7b', .braceOpen), ('\x7d', .braceClose), (',', .comma), (':', .colon), (';', .semicolon)]

theorem writes_mark {c : Char} {m : Mark} (h : (c, m) ∈ marks) : Writes [c] [.mark m] := by
  intro rest more hrest
  have hscan : ∀ offset, ∃ stop, Token.scan false offset (c :: rest) = ⟨.mark m, stop, rest, []⟩ := by
    intro offset
    simp only [marks, List.mem_cons, Prod.mk.injEq, List.not_mem_nil, or_false] at h
    rcases h with ⟨rfl, rfl⟩ | ⟨rfl, rfl⟩ | ⟨rfl, rfl⟩ | ⟨rfl, rfl⟩ | ⟨rfl, rfl⟩ | ⟨rfl,
      rfl⟩ | ⟨rfl, rfl⟩ | ⟨rfl, rfl⟩ |
      ⟨rfl, rfl⟩ <;> exact ⟨offset + 1, rfl⟩
  have hall : ∀ p ∈ marks, isLineEnd p.1 = false ∧ isBlank p.1 = false ∧
      p.1 ∉ ['/', '<', '-', '='] ∧ p.1 ≠ '<' ∧ p.1 ≠ '>' := by
    decide
  obtain ⟨hend, hblank, hsign, hmerge⟩ := hall _ h
  exact lexes_token ⟨hend, hblank⟩ (Or.inl hsign) hmerge hscan (Nat.le_refl _) hrest

theorem writes_assign : Writes ['=', ' '] [.mark .assign] := by
  intro rest more hrest
  have hblank : Lexes (' ' :: rest) more := writes_blank (Or.inr (by decide)) rest more hrest
  exact lexes_token (by decide) (Or.inr rfl) (by decide) (fun offset => ⟨offset + 1, rfl⟩)
    (Nat.le_refl _) hblank

/-! ## Words -/

def letters : List Char := "abcdefghijklmnopqrstuvwxyzABCDEFGHIJKLMNOPQRSTUVWXYZ_".toList

def digits : List Char := "0123456789".toList

/-- Is a text a word of plain letters and digits? -/
def isWordText (w : List Char) : Bool :=
  w.head?.any letters.contains && w.all fun c => letters.contains c || digits.contains c

theorem isNamePart_of_isWordText {w : List Char} (h : isWordText w = true) :
    ∀ c ∈ w, isNamePart c = true := by
  have hall : (letters ++ digits).all isNamePart = true := by decide +kernel
  intro c hc
  simp only [isWordText, Bool.and_eq_true, List.all_eq_true] at h
  exact List.all_eq_true.mp hall c (by simpa using h.2 c hc)

/-- A letter begins a word and nothing else. -/
theorem letters_begin {c : Char} (h : c ∈ letters) :
    isNameStart c = true ∧ (isLineEnd c = false ∧ isBlank c = false) ∧
    c ∉ ['/', '<', '-', '=', '>'] := by
  have hall : (letters.all fun c => isNameStart c && (!isLineEnd c && !isBlank c) &&
      !(['/', '<', '-', '=', '>'].contains c)) = true := by
    decide +kernel
  obtain ⟨⟨hstart, hblank⟩, hsign⟩ : (isNameStart c = true ∧ isLineEnd c = false ∧ isBlank c = false) ∧
      c ∉ ['/', '<', '-', '=', '>'] := by
    simpa using List.all_eq_true.mp hall c h
  exact ⟨hstart, hblank, hsign⟩

theorem scan_word {first : Char} {tail : List Char} (hw : isWordText (first :: tail) = true)
    (hstart : isNameStart first = true) {c : Char} (hc : isNamePart c = false) (hc' : c ≠ '\\')
    (rest : List Char) (offset : Nat) :
    ∃ stop, Token.scan false offset (first :: (tail ++ c :: rest)) =
      ⟨.word (String.ofList (first :: tail)) false, stop, c :: rest, []⟩ := by
  have hparts := isNamePart_of_isWordText hw
  have htake : (first :: (tail ++ c :: rest)).takeWhile isNamePart = first :: tail := by
    rw [← List.cons_append, List.takeWhile_append_of_pos hparts,
      List.takeWhile_cons_of_neg (by simp [hc]), List.append_nil]
  have hdrop : (first :: (tail ++ c :: rest)).dropWhile isNamePart = c :: rest := by
    rw [← List.cons_append, List.dropWhile_append_of_pos hparts,
      List.dropWhile_cons_of_neg (by simp [hc])]
  refine ⟨offset + (first :: tail).length, ?_⟩
  simp only [Token.scan, hstart, true_or, if_true, Word.scan, htake, hdrop]
  split
  · rename_i heq
    cases heq
    exact absurd rfl hc'
  · rfl

/-- A word, with a character behind it that ends it. -/
theorem writes_word {w : List Char} (hw : isWordText w = true) {c : Char}
    (hc : isNamePart c = false) (hc' : c ≠ '\\') {ts : List Token} (h : Writes [c] ts) :
    Writes (w ++ [c]) (.word (String.ofList w) false :: ts) := by
  intro rest more hrest
  have hrest' : Lexes (c :: rest) (ts ++ more) := h rest more hrest
  obtain ⟨first, tail, rfl, hfirst⟩ : ∃ first tail, w = first :: tail ∧ first ∈ letters := by
    cases w with
    | nil => cases hw
    | cons first tail =>
      exact ⟨first, tail, rfl, by simp only [isWordText, Bool.and_eq_true] at hw; simpa using hw.1⟩
  obtain ⟨hstart, hblank, hnone⟩ := letters_begin hfirst
  have hsign : first ∉ ['/', '<', '-', '='] := fun h => hnone (List.mem_append_left ['>'] h)
  have hmerge : first ≠ '<' ∧ first ≠ '>' :=
    ⟨fun h => hnone (by simp [h]), fun h => hnone (by simp [h])⟩
  have := lexes_token hblank (Or.inl hsign) hmerge (scan_word hw hstart hc hc' rest) (by simp) hrest'
  simpa using this

end RouteShortcuts.Script
