/-
  RouteShortcuts.Proofs.Script.Spelling — texts that are read as given expressions and modules.

  `Denotes text P`: wherever an expression may stand, `text` is read as one as in `P`. Literals and
  calls are put together from texts that denote their parts, with a comma and a blank between them.
  A file whose lines export one constant each is read as these exports, whatever its name is
  (`parseSource_exports`).
-/

import RouteShortcuts.Proofs.Script.Strings
import RouteShortcuts.Proofs.Script.Exports
import RouteShortcuts.Script.Source
import Mathlib.Tactic.Choose

namespace RouteShortcuts.Script

open Grammar

/-- A text that is read as an expression of this kind. -/
def Denotes (text : String) (P : Expr → Prop) : Prop := ∃ ts, Writes text.toList ts ∧ Assigns ts P

theorem Denotes.imp {text : String} {P P' : Expr → Prop} (h : Denotes text P)
    (hP : ∀ e, P e → P' e) : Denotes text P' := by
  obtain ⟨ts, hw, ha⟩ := h
  exact ⟨ts, hw, ha.imp hP⟩

/-! ## Strings -/

/-- A string literal with this text. -/
def IsString (s : String) (e : Expr) : Prop := ∃ pos, e = .string pos (some s)

theorem denotes_string {body s : String} (h : Spells body.toList s.toList) :
    Denotes ("\"" ++ body ++ "\"") (IsString s) := by
  refine ⟨[.string (some s)], ?_, assigns_text s⟩
  simpa using writes_string h

section

variable {β : Type} {parts : List β} {text : β → String} {Q : β → Expr → Prop}

/-! ## Lists -/

theorem writes_separated {tokens : β → List Token}
    (h : ∀ b ∈ parts, Writes (text b).toList (tokens b)) :
    Writes (", ".intercalate (parts.map text)).toList (separated (parts.map tokens)) := by
  have hcomma : Writes [',', ' '] [.mark .comma] :=
    (writes_mark (c := ',') (by decide)).append (writes_blank (c := ' ') (Or.inr (by decide)))
  rw [String.toList_intercalate, List.map_map]
  induction parts with
  | nil => exact writes_nil
  | cons b parts ih =>
    have hb := h b (by simp)
    have ih := ih fun b hb => h b (by simp [hb])
    cases parts with
    | nil => simpa [separated] using hb
    | cons b' parts =>
      have := hb.append (hcomma.append ih)
      simpa [separated, List.intercalate] using this

/-- Each of the parts is written as tokens that are read as it should be. -/
theorem exists_tokens (h : ∀ b ∈ parts, Denotes (text b) (Q b)) :
    ∃ tokens : β → List Token, (∀ b ∈ parts, Writes (text b).toList (tokens b)) ∧ ∀ b ∈ parts,
      Assigns (tokens b) (Q b) := by
  have h' : ∀ b, ∃ ts, b ∈ parts → Writes (text b).toList ts ∧ Assigns ts (Q b) := by
    intro b
    by_cases hb : b ∈ parts
    · obtain ⟨ts, hts⟩ := h b hb
      exact ⟨ts, fun _ => hts⟩
    · exact ⟨[], fun hb' => absurd hb' hb⟩
  choose tokens htokens using h'
  exact ⟨tokens, fun b hb => (htokens b hb).1, fun b hb => (htokens b hb).2⟩

def arrayText (parts : List String) : String := "[" ++ ", ".intercalate parts ++ "]"

theorem denotes_array (h : ∀ b ∈ parts, Denotes (text b) (Q b)) :
    Denotes (arrayText (parts.map text)) fun e => ∃ pos es, e = .array pos es none ∧
      List.Forall₂ Q parts es := by
  obtain ⟨tokens, hwrites, hassigns⟩ := exists_tokens h
  refine ⟨_, ?_, assigns_array hassigns⟩
  have hopen : Writes ['['] [.mark .bracketOpen] := writes_mark (by decide)
  have hclose : Writes [']'] [.mark .bracketClose] := writes_mark (by decide)
  simpa [arrayText] using hopen.append ((writes_separated hwrites).append hclose)

/-! ## Objects -/

/-- A word that may be the key of a property. -/
structure IsKey (k : String) : Prop where
  word : isWordText k.toList = true
  plain : k ∉ accessWords

def objectText (fields : List (String × String)) : String :=
  "\x7b " ++ ", ".intercalate (fields.map fun f => f.1 ++ ": " ++ f.2) ++ " \x7d"

theorem denotes_object {key : β → String} (hkey : ∀ b ∈ parts, IsKey (key b))
    (h : ∀ b ∈ parts, Denotes (text b) (Q b)) :
    Denotes (objectText (parts.map fun b => (key b, text b))) fun e =>
      ∃ pos ps, e = .object pos ps none ∧
        List.Forall₂ (fun b p => GivesKey (key b) (Q b) p) parts ps := by
  obtain ⟨tokens, hwrites, hassigns⟩ := exists_tokens h
  refine ⟨_, ?_, assigns_object (fun b hb => .word (hkey b hb).plain) hassigns⟩
  have hopen : Writes ['\x7b'] [.mark .braceOpen] := writes_mark (by decide)
  have hclose : Writes ['\x7d'] [.mark .braceClose] := writes_mark (by decide)
  have hblank : Writes [' '] [] := writes_blank (Or.inr (by decide))
  have hcolon : Writes [':'] [.mark .colon] := writes_mark (by decide)
  have hfield : ∀ b ∈ parts, Writes (key b ++ ": " ++ text b).toList
      (.word (key b) false :: .mark .colon :: tokens b) := by
    intro b hb
    have hword := writes_word (hkey b hb).word (c := ':') (by decide) (by decide) hcolon
    simpa using hword.append (hblank.append (hwrites b hb))
  have := hopen.append (hblank.append ((writes_separated hfield).append (hblank.append hclose)))
  simpa [objectText, Function.comp_def] using this

/-! ## Calls -/

/-- A name and calls of it, one behind the other. -/
def callsText (f : String) (calls : List (List String)) : String :=
  f ++ String.join (calls.map fun args => "(" ++ ", ".intercalate args ++ ")")

theorem denotes_calls {f : String} (hf : IsName f) (hword : isWordText f.toList = true)
    {args : List β} {calls : List (List β)}
    (h : ∀ args' ∈ args :: calls, ∀ b ∈ args', Denotes (text b) (Q b)) :
    Denotes (callsText f ((args :: calls).map (·.map text))) fun e =>
      ∃ pos as, List.Forall₂ (List.Forall₂ Q) (args :: calls) as ∧
        e = as.foldl .call (.ident pos f) := by
  have hall : ∀ b ∈ (args :: calls).flatten, Denotes (text b) (Q b) := by
    intro b hb
    obtain ⟨args', ha, hb⟩ := List.mem_flatten.mp hb
    exact h args' ha b hb
  obtain ⟨tokens, hwrites, hassigns⟩ := exists_tokens hall
  have hopen : Writes ['('] [.mark .parenOpen] := writes_mark (by decide)
  have hclose : Writes [')'] [.mark .parenClose] := writes_mark (by decide)
  have hargs : ∀ args' ∈ args :: calls,
      Writes (", ".intercalate (args'.map text)).toList (separated (args'.map tokens)) :=
          fun args' ha =>
    writes_separated fun b hb => hwrites b (List.mem_flatten.mpr ⟨args', ha, hb⟩)
  have hcalls : ∀ args' ∈ calls,
      Writes ("(" ++ ", ".intercalate (args'.map text) ++ ")").toList (parens (args'.map tokens)) := by
    intro args' ha
    simpa [parens] using hopen.append ((hargs args' (by simp [ha])).append hclose)
  refine ⟨_, ?_, assigns_calls hf fun args' ha b hb =>
    hassigns b (List.mem_flatten.mpr ⟨args', ha, hb⟩)⟩
  -- a name is only passed together with the parenthesis that ends it
  have hfirst := writes_word hword (c := '(') (by decide) (by decide) hopen
  have := hfirst.append ((hargs args (by simp)).append (hclose.append (writes_flatMap hcalls)))
  simpa [callsText, parens, List.flatMap_map] using this

end

/-! ## Files -/

/-- A line that exports a constant. -/
def exportLine (name value : String) : String := "export const " ++ name ++ " = " ++ value ++ ";\n"

theorem toList_exportLine (name value : String) : (exportLine name value).toList =
    "export const ".toList ++ name.toList ++ " = ".toList ++ value.toList ++ ";\n".toList := by
  show ("export const " ++ name ++ " = " ++ value ++ ";\n").toList = _
  simp only [String.toList_append]

theorem writes_exportLine {name value : String} {ts : List Token}
    (hname : isWordText name.toList = true) (h : Writes value.toList ts) :
    Writes (exportLine name value).toList (exportTokens name ts) := by
  have hblank : Writes [' '] [] := writes_blank (Or.inr (by decide))
  have hsemicolon : Writes [';'] [.mark .semicolon] := writes_mark (by decide)
  have hend : Writes ['\n'] [] := writes_blank (Or.inl (by decide))
  have hword : ∀ w : String, isWordText w.toList = true →
      Writes (w.toList ++ [' ']) [.word w false] := fun w hw =>
    by simpa using writes_word hw (by decide) (by decide) hblank
  have hexport := hword "export" (by decide)
  have hconst := hword "const" (by decide)
  have := hexport.append (hconst.append
    ((hword name hname).append (writes_assign.append (h.append (hsemicolon.append hend)))))
  simpa [toList_exportLine, exportTokens] using this

theorem head?_exportLine (name value : String) : (exportLine name value).toList.head? = some 'e' := by
  have hfirst : "export const ".toList.head? = some 'e' := rfl
  simp only [toList_exportLine, List.head?_append, hfirst, Option.some_or]

theorem dropMark_of_head {text : List Char} (h : text.head? ≠ some '\ufeff') :
    dropMark text = text := by
  unfold dropMark
  split
  · exact absurd rfl h
  · rfl

theorem parseSource_ok {path code : String} {m : Module} (hmark : code.toList.head? ≠ some '\ufeff')
    (h : Module.parse (Dialect.ofPath path) code.toList = .ok m) : parseSource path code = .ok m := by
  unfold parseSource
  simp only [dropMark_of_head hmark, h]

section

variable {β : Type} {lines : List β} {name text : β → String} {P : β → Expr → Prop}

/-- A file of such lines is read as their exports, in order. -/
theorem parseSource_exports (path : String)
    (hname : ∀ b ∈ lines, IsBound (name b) ∧ isWordText (name b).toList = true)
    (hvalue : ∀ b ∈ lines, Denotes (text b) (P b)) :
    ∃ m, parseSource path (String.join (lines.map fun b => exportLine (name b) (text b))) = .ok m ∧
      List.Forall₂ (fun b => Exports (name b) (P b)) lines m := by
  obtain ⟨tokens, hwrites, hassigns⟩ := exists_tokens hvalue
  have hlexes : Lexes (String.join (lines.map fun b => exportLine (name b) (text b))).toList
      (lines.flatMap fun b => exportTokens (name b) (tokens b)) := by
    rw [String.toList_join, List.flatMap_map]
    exact (writes_flatMap fun b hb => writes_exportLine (hname b hb).2 (hwrites b hb)).lexes
  -- the text begins with the word `export`, if with anything
  have hstart : ∀ c, (String.join (lines.map fun b => exportLine (name b) (text b))).toList.head? =
      some c → c = 'e' := by
    intro c hc
    cases lines with
    | nil => simp at hc
    | cons b lines =>
      rw [String.toList_join, List.map_cons, List.flatMap_cons, List.head?_append, head?_exportLine,
        Option.some_or] at hc
      exact (Option.some.inj hc).symm
  obtain ⟨m, hm, hitems⟩ := parse_exports (Dialect.ofPath path) (fun b hb => (hname b hb).1) hassigns
    (fun h => absurd (hstart _ h) (by decide)) hlexes
  exact ⟨m, parseSource_ok (fun h => absurd (hstart _ h) (by decide)) hm, hitems⟩

end

end RouteShortcuts.Script
