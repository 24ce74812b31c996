/-
  RouteShortcuts.Proofs.Script.Strings — strings as JSON writes them, read as strings of a script.

  JSON leaves it open how a character is written (`Spells`): as itself, unless it is a quote, a
  backslash or a control; by a short escape, if it has one; or by the hexadecimal digits of its
  UTF-16 units, of which a character beyond the basic plane has two. The two line ends U+2028 and
  U+2029 are written as escapes here. Whatever the choice, a script reads such a text as the string
  that it spells (`writes_string`).
-/

import RouteShortcuts.Json.Printer
import RouteShortcuts.Proofs.Script.Lexing

namespace RouteShortcuts.Script

open RouteShortcuts.Text
open RouteShortcuts.Script.Quoted (join)

/-! ## Spellings -/

/-- Characters with an escape of one character. -/
def shortEscapes : List (Char × Char) :=
  [('"', '"'), ('\\', '\\'), ('/', '/'), ('b', '\x08'), ('f', '\x0c'), ('n', '\n'),
    ('r', '\r'), ('t', '\t')]

def hexDigits : List (Char × Nat) :=
  [('0', 0), ('1', 1), ('2', 2), ('3', 3), ('4', 4), ('5', 5), ('6', 6), ('7', 7), ('8', 8),
    ('9', 9), ('a', 10), ('A', 10), ('b', 11), ('B', 11), ('c', 12), ('C', 12), ('d', 13),
    ('D', 13), ('e', 14), ('E', 14), ('f', 15), ('F', 15)]

/-- Four hexadecimal digits and their value. -/
inductive SpellsUnit : List Char → Nat → Prop
  | mk {a b c d : Char} {i j k l : Nat} :
    (a, i) ∈ hexDigits → (b, j) ∈ hexDigits → (c, k) ∈ hexDigits → (d, l) ∈ hexDigits →
      SpellsUnit [a, b, c, d] (((i * 16 + j) * 16 + k) * 16 + l)

/-- The text between the quotes of a string literal of JSON, and the characters that it spells. -/
inductive Spells : List Char → List Char → Prop
  | nil : Spells [] []
  | plain {c : Char} {text said : List Char} : 0x20 ≤ c.toNat → c ∉ ['"', '\\', '\u2028', '\u2029'] →
      Spells text said → Spells (c :: text) (c :: said)
  | short {e c : Char} {text said : List Char} : (e, c) ∈ shortEscapes → Spells text said →
      Spells ('\\' :: e :: text) (c :: said)
  | unit {digits : List Char} {c : Char} {text said : List Char} : SpellsUnit digits c.toNat →
    Spells text said →
      Spells ('\\' :: 'u' :: (digits ++ text)) (c :: said)
  | pair {high low : List Char} {h l : Nat} {c : Char} {text said : List Char} : SpellsUnit high h →
    SpellsUnit low l →
      0xD800 ≤ h ∧ h ≤ 0xDBFF → 0xDC00 ≤ l ∧ l ≤ 0xDFFF →
        c.toNat = 0x10000 + (h - 0xD800) * 0x400 + (l - 0xDC00) →
      Spells text said → Spells ('\\' :: 'u' :: (high ++ '\\' :: 'u' :: (low ++ text))) (c :: said)

/-! ## As JSON writes them -/

/-- A character as JSON writes it, with escapes for the two line ends as well. -/
def jsonChar (c : Char) : List Char :=
  if c = '\u2028' then ['\\', 'u', '2', '0', '2', '8']
  else if c = '\u2029' then ['\\', 'u', '2', '0', '2', '9']
  else Json.escape c

theorem hexPair_digits {n : Nat} (h : n < 0x20) : SpellsUnit (['0', '0'] ++ Json.hexPair n) n := by
  have hdigit : ∀ k < 16, (Nat.digitChar k, k) ∈ hexDigits := by decide
  have hunit := SpellsUnit.mk (a := '0') (b := '0') (i := 0) (j := 0) (by decide) (by decide)
    (hdigit (n / 16) (by omega)) (hdigit (n % 16) (by omega))
  have hvalue : ((0 * 16 + 0) * 16 + n / 16) * 16 + n % 16 = n := by omega
  rwa [hvalue] at hunit

theorem spells_escape {c : Char} (hc : c ∉ ['\u2028', '\u2029']) {text said : List Char}
    (h : Spells text said) : Spells (Json.escape c ++ text) (c :: said) := by
  unfold Json.escape
  split
  case h_8 hquote hbackslash _ _ _ _ _ =>
    split
    · rename_i hlow
      exact .unit (hexPair_digits hlow) h
    · rename_i hlow
      have hplain : c ∉ ['"', '\\', '\u2028', '\u2029'] := by
        simp only [List.mem_cons, not_or] at hc ⊢
        exact ⟨hquote, hbackslash, hc⟩
      exact .plain (by omega) hplain h
  all_goals exact .short (by decide) h

theorem spells_jsonChar (c : Char) {text said : List Char} (h : Spells text said) :
    Spells (jsonChar c ++ text) (c :: said) := by
  have hseparators : SpellsUnit ['2', '0', '2', '8'] '\u2028'.toNat ∧
      SpellsUnit ['2', '0', '2', '9'] '\u2029'.toNat :=
    ⟨.mk (i := 2) (j := 0) (k := 2) (l := 8) (by decide) (by decide) (by decide) (by decide),
      .mk (i := 2) (j := 0) (k := 2) (l := 9) (by decide) (by decide) (by decide) (by decide)⟩
  unfold jsonChar
  split
  · rename_i hc
    exact hc ▸ .unit hseparators.1 h
  · split
    · rename_i hc
      exact hc ▸ .unit hseparators.2 h
    · exact spells_escape (by simp [*]) h

theorem spells_json (said : List Char) : Spells (said.flatMap jsonChar) said := by
  induction said with
  | nil => exact .nil
  | cons c said ih => exact spells_jsonChar c ih

/-! ## Units -/

theorem hexDigits_value {c : Char} {n : Nat} (h : (c, n) ∈ hexDigits) :
    Quoted.isHexDigit c = true ∧ Ranges.hexValue c = n := by
  have hall : ∀ p ∈ hexDigits, Quoted.isHexDigit p.1 = true ∧ Ranges.hexValue p.1 = p.2 := by decide
  exact hall _ h

theorem hexDigits_ne_brace {c : Char} {n : Nat} (h : (c, n) ∈ hexDigits) : c ≠ '\x7b' := by
  have hall : ∀ p ∈ hexDigits, p.1 ≠ '\x7b' := by decide
  exact hall _ h

theorem not_surrogate (c : Char) : ¬ (0xD800 ≤ c.toNat ∧ c.toNat ≤ 0xDFFF) := by
  rcases c.valid with h | h
  · intro hs
    have : c.toNat < 0xD800 := h
    omega
  · intro hs
    have : 0xDFFF < c.toNat := h.1
    omega

theorem join_char (c : Char) (units : List Nat) :
    join (c.toNat :: units) = (join units).map (c :: ·) := by
  have hc := not_surrogate c
  cases units with
  | nil => simp only [join, hc, if_false, Char.ofNat_toNat, Option.map_some]
  | cons b rest =>
    have hpair : ¬ (0xD800 ≤ c.toNat ∧ c.toNat ≤ 0xDBFF ∧ 0xDC00 ≤ b ∧ b ≤ 0xDFFF) := fun h =>
      hc ⟨h.1, by omega⟩
    rw [join, if_neg hpair, if_neg hc, Char.ofNat_toNat]

theorem join_pair {h l : Nat} {c : Char} (hh : 0xD800 ≤ h ∧ h ≤ 0xDBFF) (hl : 0xDC00 ≤ l ∧ l ≤ 0xDFFF)
    (hc : c.toNat = 0x10000 + (h - 0xD800) * 0x400 + (l - 0xDC00)) (units : List Nat) :
    join (h :: l :: units) = (join units).map (c :: ·) := by
  rw [join, if_pos ⟨hh.1, hh.2, hl.1, hl.2⟩, ← hc, Char.ofNat_toNat]

/-! ## Reading -/

/-- A reader between two characters of a string that has met no fault. -/
def between (units : List Nat) : Quoted.Progress := { units }

theorem read_plain {c : Char} (hc : 0x20 ≤ c.toNat) (hc' : c ∉ ['"', '\\']) (units : List Nat)
    (offset : Nat) (rest : List Char) :
    Quoted.read .string '"' (between units) offset (c :: rest) =
      Quoted.read .string '"' (between (c.toNat :: units)) (offset + 1) rest := by
  have hfeed : c ≠ '\n' := by rintro rfl; exact absurd hc (by decide)
  have hreturn : c ≠ '\r' := by rintro rfl; exact absurd hc (by decide)
  simp only [List.mem_cons, not_or] at hc'
  simp [Quoted.read, between, Quoted.Progress.take?, Quoted.Progress.settle, Quoted.Progress.push,
    hc', hfeed, hreturn]

theorem read_escape (units : List Nat) (offset : Nat) (rest : List Char) :
    Quoted.read .string '"' (between units) offset ('\\' :: rest) =
      Quoted.read .string '"' { between units with mode := .escape offset } (offset + 1) rest := by
  simp [Quoted.read, between, Quoted.Progress.take?, Quoted.Progress.settle]

theorem read_short {e c : Char} (h : (e, c) ∈ shortEscapes) (units : List Nat) (offset : Nat)
    (rest : List Char) : Quoted.read .string '"' (between units) offset ('\\' :: e :: rest) =
      Quoted.read .string '"' (between (c.toNat :: units)) (offset + 2) rest := by
  have hescaped : ({ between units with mode := .escape offset } : Quoted.Progress).escaped offset
      e = between (c.toNat :: units) := by
    simp only [shortEscapes, List.mem_cons, Prod.mk.injEq, List.not_mem_nil, or_false] at h
    rcases h with ⟨rfl, rfl⟩ | ⟨rfl, rfl⟩ | ⟨rfl, rfl⟩ | ⟨rfl, rfl⟩ | ⟨rfl, rfl⟩ | ⟨rfl,
      rfl⟩ | ⟨rfl, rfl⟩ | ⟨rfl, rfl⟩ <;> rfl
  rw [read_escape, Quoted.read]
  simp only [Quoted.Progress.take?, hescaped]

theorem read_unit {digits : List Char} {n : Nat} (h : SpellsUnit digits n) (units : List Nat)
    (offset : Nat) (rest : List Char) :
    Quoted.read .string '"' (between units) offset ('\\' :: 'u' :: (digits ++ rest)) =
      Quoted.read .string '"' (between (n :: units)) (offset + 6) rest := by
  obtain ⟨ha, hb, hc, hd⟩ := h
  obtain ⟨hxa, hva⟩ := hexDigits_value ha
  obtain ⟨hxb, hvb⟩ := hexDigits_value hb
  obtain ⟨hxc, hvc⟩ := hexDigits_value hc
  obtain ⟨hxd, hvd⟩ := hexDigits_value hd
  have hbrace := hexDigits_ne_brace ha
  rw [read_escape]
  simp [Quoted.read, Quoted.Progress.take?, Quoted.Progress.escaped, Quoted.Progress.push, between,
    hbrace, hxa, hxb, hxc, hxd, hva, hvb, hvc, hvd]

theorem read_close (units : List Nat) (offset : Nat) (rest : List Char) :
    Quoted.read .string '"' (between units) offset ('"' :: rest) =
      ⟨between units, .closed, offset + 1, rest⟩ := by
  simp [Quoted.read, between, Quoted.Progress.take?, Quoted.Progress.settle]

/-- Wherever it stands, a text is read to the quote behind it, as units that join to these
characters. -/
def ReadsAs (text said : List Char) : Prop :=
  ∀ (units : List Nat) (offset : Nat) (rest : List Char), ∃ more stop, join more = some said ∧
    Quoted.read .string '"' (between units) offset (text ++ '"' :: rest) =
      ⟨between (more.reverse ++ units), .closed, stop, rest⟩

/-- A spelling is read to its closing quote, as units that join to what it spells. -/
theorem read_spells {text said : List Char} (h : Spells text said) : ReadsAs text said := by
  induction h with
  | nil => exact fun units offset rest => ⟨[], offset + 1, rfl, read_close units offset rest⟩
  | @plain c text said hc hc' _ ih =>
    intro units offset rest
    obtain ⟨more, stop, hj, hr⟩ := ih (c.toNat :: units) (offset + 1) rest
    refine ⟨c.toNat :: more, stop, by rw [join_char, hj, Option.map_some], ?_⟩
    have hother : c ∉ ['"', '\\'] := fun hmem => hc' (List.mem_append_left ['\u2028', '\u2029'] hmem)
    rw [List.cons_append, read_plain hc hother, hr]
    simp
  | @short e c text said he _ ih =>
    intro units offset rest
    obtain ⟨more, stop, hj, hr⟩ := ih (c.toNat :: units) (offset + 2) rest
    refine ⟨c.toNat :: more, stop, by rw [join_char, hj, Option.map_some], ?_⟩
    rw [List.cons_append, List.cons_append, read_short he, hr]
    simp
  | @unit digits c text said hd _ ih =>
    intro units offset rest
    obtain ⟨more, stop, hj, hr⟩ := ih (c.toNat :: units) (offset + 6) rest
    refine ⟨c.toNat :: more, stop, by rw [join_char, hj, Option.map_some], ?_⟩
    rw [List.cons_append, List.cons_append, List.append_assoc, read_unit hd, hr]
    simp
  | @pair high low h l c text said hh hl hhr hlr hc _ ih =>
    intro units offset rest
    obtain ⟨more, stop, hj, hr⟩ := ih (l :: h :: units) (offset + 6 + 6) rest
    refine ⟨h :: l :: more, stop, by rw [join_pair hhr hlr hc, hj, Option.map_some], ?_⟩
    simp only [List.cons_append, List.append_assoc]
    rw [read_unit hh, read_unit hl, hr]
    simp

theorem read_char (c : Char) (units : List Nat) (offset : Nat) (rest : List Char) :
    ∃ next, Quoted.read .string '"' (between units) offset (Json.escape c ++ rest) =
      Quoted.read .string '"' (between (c.toNat :: units)) next rest := by
  unfold Json.escape
  split
  case h_8 hquote hbackslash _ _ _ _ _ =>
    split
    · rename_i hlow
      exact ⟨offset + 6, read_unit (hexPair_digits hlow) units offset rest⟩
    · rename_i hlow
      have hplain : c ∉ ['"', '\\'] := by
        simp only [List.mem_cons, List.not_mem_nil, or_false, not_or]
        exact ⟨hquote, hbackslash⟩
      exact ⟨offset + 1, read_plain (by omega) hplain units offset rest⟩
  all_goals exact ⟨offset + 2, read_short (by decide) units offset rest⟩

/-- Text with escapes as a printer of JSON puts them: the two line ends U+2028 and U+2029 stand as
they are. -/
theorem read_printed (said : List Char) : ReadsAs (said.flatMap Json.escape) said := by
  induction said with
  | nil => exact fun units offset rest => ⟨[], offset + 1, rfl, read_close units offset rest⟩
  | cons c said ih =>
    intro units offset rest
    obtain ⟨next, hc⟩ := read_char c units offset (said.flatMap Json.escape ++ '"' :: rest)
    obtain ⟨more, stop, hj, hr⟩ := ih (c.toNat :: units) next rest
    refine ⟨c.toNat :: more, stop, by rw [join_char, hj, Option.map_some], ?_⟩
    rw [List.flatMap_cons, List.append_assoc, hc, hr]
    simp

/-- A text in quotes is read as the string that it is read as. -/
theorem writes_quoted {text : List Char} {s : String} (h : ReadsAs text s.toList) :
    Writes ('"' :: (text ++ ['"'])) [.string (some s)] := by
  intro rest more hrest
  have hscan : ∀ offset, ∃ stop, Token.scan false offset ('"' :: (text ++ '"' :: rest)) =
      ⟨.string (some s), stop, rest, []⟩ := by
    intro offset
    obtain ⟨units, stop, hj, hr⟩ := h [] (offset + 1) rest
    refine ⟨stop, ?_⟩
    have htext : Quoted.textOf (units.reverse ++ []) = some s := by
      simp [Quoted.textOf, hj]
    have hstring : Token.scan false offset ('"' :: (text ++ '"' :: rest)) =
      Quoted.scanString offset '"' (text ++ '"' :: rest) := rfl
    rw [hstring, Quoted.scanString, show ({} : Quoted.Progress) = between [] from rfl, hr]
    simp only [between, htext, if_true, List.reverse_nil]
  have hlength : rest.length ≤ (text ++ '"' :: rest).length := by
    rw [List.length_append, List.length_cons]
    omega
  simpa using lexes_token (by decide) (Or.inl (by decide)) (by decide) hscan hlength hrest

/-- A string literal of JSON is read as the string that it spells. -/
theorem writes_string {text : List Char} {s : String} (h : Spells text s.toList) :
    Writes ('"' :: (text ++ ['"'])) [.string (some s)] := writes_quoted (read_spells h)

theorem writes_quote (s : String) :
    Writes (Json.quote s) [.string (some s)] := writes_quoted (read_printed s.toList)

end RouteShortcuts.Script
