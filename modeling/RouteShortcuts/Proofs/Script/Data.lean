/-
  RouteShortcuts.Proofs.Script.Data — data as scripts.

  A value of texts, lists and objects is printed as a text that is also a literal of the script:
  strings stand for strings, lists for arrays, and the keys of objects, which are strings, for keys
  that are strings (`Literal`, `denotes_pretty`). The two line ends that end no string of JSON end
  none here either, so any text may stand in it.

  A file of one list is a module with one statement, which is the list; behind `export default` it
  is what the module exports by default (`parseSource_list`, `parseSource_default`). The newline at
  its end, and not a semicolon, ends the statement.
-/

import Mathlib.Data.List.Forall2
import RouteShortcuts.Proofs.Json.RoundTrip
import RouteShortcuts.Proofs.Script.Spelling

namespace RouteShortcuts.Json

/-- A value of texts, lists and objects. -/
inductive Value.Textual : Value → Prop
  | string (s : String) : Textual (.string s)
  | array {items : List Value} : (∀ v ∈ items, v.Textual) → Textual (.array items)
  | object {members : List (String × Value)} : (∀ m ∈ members, m.2.Textual) → Textual (.object members)

end RouteShortcuts.Json

namespace RouteShortcuts.Script

open Reader Grammar
open RouteShortcuts.Text
open RouteShortcuts.Json (Value spaced newLine memberText quote prettyChars_array prettyChars_object)

mutual

/-- An expression says a value: texts are strings, lists arrays and objects objects. -/
inductive Literal : Value → Expr → Prop
  | string (pos : Nat) (s : String) : Literal (.string s) (.string pos (some s))
  | array (pos : Nat) {items : List Value} {es : List Expr} : List.Forall₂ Literal items es →
      Literal (.array items) (.array pos es none)
  | object (pos : Nat) {members : List (String × Value)} {ps : List Property} :
    List.Forall₂ LiteralMember members ps →
      Literal (.object members) (.object pos ps none)

/-- A property says a member: its key is a string. -/
inductive LiteralMember : String × Value → Property → Prop
  | mk (pos : Nat) (k : String) {v : Value} {e : Expr} : Literal v e →
      LiteralMember (k, v) (.keyValue (.name pos (.string (some k))) e)

end

/-! ## Printed values -/

theorem writes_blanks {cs : List Char} (h : ∀ c ∈ cs, isLineEnd c = true ∨ isBlank c = true) :
    Writes cs [] := by
  induction cs with
  | nil => exact writes_nil
  | cons c cs ih => exact (writes_blank (h c (by simp))).append (ih fun c' hc => h c' (by simp [hc]))

theorem writes_newLine (level : Nat) : Writes (newLine level) [] := by
  refine writes_blanks fun c hc => ?_
  rcases List.mem_cons.mp hc with rfl | hc
  · exact Or.inl rfl
  · rw [List.eq_of_mem_replicate hc]
    exact Or.inr (by decide)

section

variable {α : Type} {part : α → List Char} {tokens : α → List Token} {blanks : List Char}

theorem writes_spaced (hblanks : Writes blanks []) {as : List α}
    (h : ∀ a ∈ as, Writes (part a) (tokens a)) :
    Writes (spaced blanks part as) (separated (as.map tokens)) := by
  have hcomma : Writes [','] [.mark .comma] := writes_mark (by decide)
  cases as with
  | nil => exact writes_nil
  | cons a as =>
    have hmore : Writes (as.flatMap fun b => ',' :: (blanks ++ part b))
        (as.flatMap fun b => .mark .comma :: tokens b) :=
      writes_flatMap fun b hb => hcomma.append (hblanks.append (h b (by simp [hb])))
    have hseparated : separated ((a :: as).map tokens) = tokens a ++ as.flatMap fun b =>
        .mark .comma :: tokens b := by
      clear h hmore
      induction as generalizing a with
      | nil => simp [separated, List.intercalate]
      | cons b as ih =>
        have := ih b
        simp only [separated, List.intercalate, List.map_cons, List.intersperse_cons_cons,
          List.flatten_cons] at this ⊢
        rw [this]
        simp
    rw [hseparated]
    exact (hblanks.append (h a (by simp))).append hmore

end

/-- A text may stand in quotes as it is printed. -/
theorem denotes_quote (s : String) : Denotes (String.ofList (quote s)) (Literal (.string s)) := by
  refine ⟨_, String.toList_ofList ▸ writes_quote s, (assigns_text s).imp ?_⟩
  rintro e ⟨pos, rfl⟩
  exact .string pos s

theorem denotes_list {items : List Value} {level : Nat}
    (h : ∀ v ∈ items, Denotes (String.ofList (v.prettyChars (level + 1))) (Literal v)) :
    ∃ ts, Writes ((Value.array items).prettyChars level) (.mark .bracketOpen :: ts) ∧
      Assigns (.mark .bracketOpen :: ts) (Literal (.array items)) := by
  have hopen : Writes ['['] [.mark .bracketOpen] := writes_mark (by decide)
  have hclose : Writes [']'] [.mark .bracketClose] := writes_mark (by decide)
  obtain ⟨tokens, hwrites, hassigns⟩ := exists_tokens h
  refine ⟨separated (items.map tokens) ++ [.mark .bracketClose], ?_, (assigns_array hassigns).imp ?_⟩
  · cases items with
    | nil => exact hopen.append hclose
    | cons v items =>
      rw [prettyChars_array level (List.cons_ne_nil v items)]
      have hitems := writes_spaced (writes_newLine (level + 1)) fun v hv =>
        String.toList_ofList ▸ hwrites v hv
      exact hopen.append (hitems.append ((writes_newLine level).append hclose))
  · rintro e ⟨pos, es, rfl, hes⟩
    exact .array pos hes

theorem denotes_members {members : List (String × Value)} {level : Nat}
    (h : ∀ m ∈ members, Denotes (String.ofList (m.2.prettyChars (level + 1))) (Literal m.2)) :
    Denotes (String.ofList ((Value.object members).prettyChars level)) (Literal (.object members)) := by
  have hopen : Writes ['\x7b'] [.mark .braceOpen] := writes_mark (by decide)
  have hclose : Writes ['\x7d'] [.mark .braceClose] := writes_mark (by decide)
  have hcolon : Writes [':', ' '] [.mark .colon] :=
    (writes_mark (by decide)).append (writes_blank (Or.inr (by decide)))
  obtain ⟨tokens, hwrites, hassigns⟩ := exists_tokens h
  have hkeys : ∀ m ∈ members, Keys (.string (some m.1)) fun pos => .name pos (.string (some m.1)) :=
    fun m _ => .string _
  refine ⟨_, ?_, (assigns_object hkeys hassigns).imp ?_⟩
  · rw [String.toList_ofList]
    cases members with
    | nil => exact hopen.append hclose
    | cons m members =>
      rw [prettyChars_object level (List.cons_ne_nil m members)]
      have hmember : ∀ m' ∈ m :: members, Writes (memberText (Value.prettyChars (level + 1)) m')
          (.string (some m'.1) :: .mark .colon :: tokens m') := fun m' hm =>
        (writes_quote m'.1).append (hcolon.append (by simpa using hwrites m' hm))
      have hmembers := writes_spaced (writes_newLine (level + 1)) hmember
      exact hopen.append (hmembers.append ((writes_newLine level).append hclose))
  · rintro e ⟨pos, ps, rfl, hps⟩
    refine .object pos (hps.imp ?_)
    rintro ⟨k, v⟩ p ⟨pos, value, rfl, hvalue⟩
    exact .mk pos k hvalue

/-- What is printed of a value is an expression that says it. -/
theorem denotes_pretty {v : Value} (h : v.Textual) :
    ∀ level, Denotes (String.ofList (v.prettyChars level)) (Literal v) := by
  induction h with
  | string s => exact fun _ => denotes_quote s
  | array _ ih =>
    intro level
    obtain ⟨ts, hwrites, hassigns⟩ := denotes_list fun v hv => ih v hv (level + 1)
    exact ⟨_, by rwa [String.toList_ofList], hassigns⟩
  | object _ ih => exact fun level => denotes_members fun m hm => ih m hm (level + 1)

/-! ## Statements -/

theorem lexes_end : Lexes ['\n'] [.endOfText] := by
  have hstop : ∀ offset newline,
      Yields [.endOfText] (Lexed.ofSkipped false (Blank.skip .plain newline offset [])) := by
    intro offset newline
    cases newline <;> exact ⟨rfl, rfl, rfl, rfl⟩
  refine ⟨fun offset newline => ?_, Nat.le_refl _⟩
  exact hstop (offset + 1) true

section

variable {n : Nat} {ts : List Token} {P : Expr → Prop} {s : State}

theorem runs_eatWord {w : String} (h : At (.word w false :: ts) s) {Q : Bool → State → Prop}
    (hQ : ∀ s', At ts s' → Q true s') : Runs (eatWord w) s Q := by
  unfold eatWord
  simp only [runs_bind, runs_isWord, h.token, Token.isWord, BEq.rfl, if_true]
  exact runs_bump h fun s' h' => hQ s' h'

/-- A statement ends where the text does. -/
theorem runs_eatStatementEnd (h : At [.endOfText] s) {Q : Bool → State → Prop} (hQ : Q true s) :
    Runs eatStatementEnd s Q := by
  have hsemicolon : s.cur.token.isMark .semicolon = false := h.token ▸ rfl
  unfold eatStatementEnd atStatementEnd Reader.cur
  simp only [runs_bind, runs_eat_other hsemicolon, Bool.false_eq_true, if_false, runs_get,
    runs_pure, h.token]
  simpa using hQ

theorem item_runs_list (hts : Assigns (.mark .bracketOpen :: ts) P)
    (hP : ∀ e, P e → ∃ pos es, e = .array pos es none)
    (hn : 4 * (ts.length + 1) ≤ n) (h : At (.mark .bracketOpen :: (ts ++ [.endOfText])) s) :
    Runs (item (rules (n + 1))) s fun a s' => (∃ e, a = .expr e ∧ P e) ∧ At [.endOfText] s' := by
  unfold item
  simp only [runs_bind]
  refine (decorators_none rfl (fuel_pos (by omega)) h).imp ?_
  rintro _ s₁ ⟨rfl, h₁⟩
  have himport : s₁.cur.token.isWord "import" = false := h₁.token ▸ rfl
  have hexport : s₁.cur.token.isWord "export" = false := h₁.token ▸ rfl
  simp only [runs_isWord, runs_bind, himport, hexport, Bool.false_eq_true, if_false]
  unfold statementBody expressionStatement expressionIn expression
  simp only [runs_bind, runs_here, runs_token, h₁.token, runs_within, withIn]
  have hcalm : At (.mark .bracketOpen :: (ts ++ [.endOfText]))
      { s₁ with flags := { s₁.flags with allowIn := true } } :=
    ⟨h₁.yields, h₁.ahead, ⟨h₁.calm.inType, h₁.calm.inGenerator, h₁.calm.inField⟩, h₁.noted⟩
  refine (hts.reads n hn).runs .endOfText hcalm fun e s₂ he h₂ => ?_
  have hcomma : s₂.cur.token.isMark .comma = false := h₂.token ▸ rfl
  obtain ⟨pos, es, rfl⟩ := hP e he
  simp only [runs_is, hcomma, Bool.false_eq_true, if_false, runs_pure, runs_bind]
  have h₃ : At [.endOfText] { s₂ with flags := s₁.flags } := ⟨h₂.yields, h₂.ahead, h₁.calm, h₂.noted⟩
  refine runs_eatStatementEnd h₃ ?_
  simp only [if_true, runs_pure]
  exact ⟨⟨_, rfl, he⟩, h₃⟩

/-- A list behind `export default`. -/
theorem exportDefault_runs (hts : Assigns (.mark .bracketOpen :: ts) P) (hn : 4 * (ts.length + 1) ≤ n)
    (h : At (.mark .bracketOpen :: (ts ++ [.endOfText])) s) :
    Runs (exportDefault (rules (n + 1)) false) s fun a s' =>
      (∃ e, a = .exportDefault (.expr e) ∧ P e) ∧ At [.endOfText] s' := by
  have hat : s.cur.token.isMark .at = false := h.token ▸ rfl
  unfold exportDefault
  simp only [runs_bind, runs_here, runs_is, hat, Bool.false_eq_true, if_false]
  simp only [runs_token, h.token]
  unfold exportDefault.defaultExpression expectStatementEnd
  simp only [runs_bind]
  refine (reads_withIn (hts.reads n hn)).runs .endOfText h fun e s₄ he h₄ => ?_
  refine runs_eatStatementEnd h₄ ?_
  simp only [if_true, runs_pure]
  exact ⟨⟨e, rfl, he⟩, h₄⟩

/-- A list that is exported by default. -/
theorem item_runs_default (hts : Assigns (.mark .bracketOpen :: ts) P) (hn : 4 * (ts.length + 1) ≤ n)
    (h : At (.word "export" false :: .word "default" false :: .mark .bracketOpen ::
      (ts ++ [.endOfText])) s) :
    Runs (item (rules (n + 1))) s fun a s' => (∃ e, a = .exportDefault (.expr e) ∧ P e) ∧
    At [.endOfText] s' := by
  unfold item
  simp only [runs_bind]
  refine (decorators_none rfl (fuel_pos (by omega)) h).imp ?_
  rintro _ s₁ ⟨rfl, h₁⟩
  have himport : s₁.cur.token.isWord "import" = false := h₁.token ▸ rfl
  have hexport : s₁.cur.token.isWord "export" = true := h₁.token ▸ rfl
  simp only [runs_isWord, runs_bind, himport, hexport, Bool.false_eq_true, if_false, if_true]
  unfold exportItem
  simp only [runs_bind]
  refine runs_bump h₁ fun s₂ h₂ => ?_
  have hend : (s₂.cur.token == .endOfText) = false := h₂.token ▸ rfl
  have hword : ∀ k, k ≠ "default" → s₂.cur.token.isWord k = false := fun k hk =>
    h₂.token ▸ beq_eq_false_iff_ne.mpr hk.symm
  have hassign : s₂.cur.token.isMark .assign = false := h₂.token ▸ rfl
  simp only [runs_atEnd, hend, Bool.false_eq_true, if_false, runs_bind, runs_here,
    runs_eatWord_other (hword "declare" (by decide))]
  simp only [runs_token, h₂.token, runs_bind]
  refine runs_attempt_none ?_ ?_
  · simp [wordDeclaration?]
  unfold exportRest
  simp only [runs_eatWord_other (hword "import" (by decide)), runs_eat_other hassign,
    runs_eatWord_other (hword "as" (by decide)), runs_eatWord_other (hword "type" (by decide)),
    Bool.false_eq_true, if_false, runs_bind, Bool.not_false, if_true]
  refine runs_eatWord h₂ fun s₃ h₃ => ?_
  simp only [if_true]
  exact exportDefault_runs hts hn h₃

theorem wholeModule_runs_single {P : Stmt → Prop} {t : Token} (ht : t ≠ .endOfText) (h : At (t :: ts) s)
    (hitem : Runs (item (rules (n + 1))) s fun a s' => P a ∧ At [.endOfText] s') (hn : 1 ≤ n) :
    Runs (wholeModule (rules (n + 2))) s fun m s' => (∃ a, m = [a] ∧ P a) ∧ s'.noted = none := by
  obtain ⟨n, rfl⟩ : ∃ m, n = m + 1 := ⟨n - 1, by omega⟩
  have hmore : (s.cur.token == .endOfText) = false := h.token ▸ beq_eq_false_iff_ne.mpr ht
  unfold wholeModule listUntil
  refine runs_repeat ?_
  simp only [runs_bind, runs_atEnd, hmore, Bool.false_eq_true, if_false]
  refine hitem.imp ?_
  rintro a s' ⟨ha, h'⟩
  have hend : (s'.cur.token == .endOfText) = true := beq_iff_eq.mpr h'.token
  simp only [runs_pure, Sum.elim_inl]
  refine runs_repeat ?_
  simp only [runs_bind, runs_atEnd, hend, if_true, runs_pure, Sum.elim_inr]
  exact ⟨⟨a, rfl, ha⟩, h'.noted⟩

end

/-! ## Files -/

section

variable {items : List Value}

theorem array_of_literal {e : Expr} (h : Literal (.array items) e) :
    ∃ pos es, e = .array pos es none := by
  cases h with
  | array pos _ => exact ⟨pos, _, rfl⟩

theorem head?_list (items : List Value) (rest : List Char) :
    ((Value.array items).prettyChars 0 ++ rest).head? = some '[' := by
  cases items <;> simp [Value.prettyChars]

theorem prints_list (h : (Value.array items).Textual) :
    ∃ ts, Writes ((Value.array items).prettyChars 0) (.mark .bracketOpen :: ts) ∧
    Assigns (.mark .bracketOpen :: ts) (Literal (.array items)) := by
  cases h with
  | array h => exact denotes_list fun v hv => denotes_pretty (h v hv) 1

/-- A file that is a list is a module of one statement. -/
theorem parseSource_list (path : String) (h : (Value.array items).Textual) :
    ∃ e, parseSource path ((Value.array items).pretty ++ "\n") = .ok [.expr e] ∧
      Literal (.array items) e := by
  obtain ⟨ts, hwrites, hassigns⟩ := prints_list h
  have htext : ((Value.array items).pretty ++ "\n").toList =
      (Value.array items).prettyChars 0 ++ ['\n'] := by
    rw [String.toList_append, Value.pretty, String.toList_ofList]
    rfl
  have hhead := head?_list items ['\n']
  obtain ⟨m, hm, a, rfl, e, rfl, he⟩ := parse_of_runs (Dialect.ofPath path) (by simp [hhead])
    (hwrites _ _ lexes_end)
    fun n s hn hs => wholeModule_runs_single (by simp) hs
      (item_runs_list hassigns (fun _ => array_of_literal) (by simp at hn; omega) hs) (by omega)
  refine ⟨e, parseSource_ok ?_ (htext ▸ hm), he⟩
  rw [htext, hhead]
  decide

/-- A file that exports a list by default. -/
theorem parseSource_default (path : String) (h : (Value.array items).Textual) :
    ∃ e, parseSource path ("export default " ++ (Value.array items).pretty ++ "\n") =
      .ok [.exportDefault (.expr e)] ∧ Literal (.array items) e := by
  obtain ⟨ts, hwrites, hassigns⟩ := prints_list h
  have htext : ("export default " ++ (Value.array items).pretty ++ "\n").toList =
      "export ".toList ++ ("default ".toList ++ ((Value.array items).prettyChars 0 ++ ['\n'])) := by
    simp [Value.pretty]
  have hblank : Writes [' '] [] := writes_blank (Or.inr (by decide))
  have hexport : Writes "export ".toList [.word "export" false] :=
    writes_word (w := "export".toList) (by decide) (by decide) (by decide) hblank
  have hdefault : Writes "default ".toList [.word "default" false] :=
    writes_word (w := "default".toList) (by decide) (by decide) (by decide) hblank
  have hlexes := hexport _ _ (hdefault _ _ (hwrites _ _ lexes_end))
  obtain ⟨m, hm, a, rfl, e, rfl, he⟩ := parse_of_runs (Dialect.ofPath path) (by simp) hlexes
    fun n s hn hs => wholeModule_runs_single (by simp) hs
      (item_runs_default hassigns (by simp at hn; omega) hs) (by omega)
  refine ⟨e, parseSource_ok ?_ (htext ▸ hm), he⟩
  rw [htext]
  simp

end

end RouteShortcuts.Script
