/-
  RouteShortcuts.Proofs.Script.Exports — modules that export one constant after another.

  A line `export const name = value;` is read as the item it looks like, if `name` is no word with a
  meaning (`IsBound`) and `value` an expression that is read whatever ends it (`Assigns`). A module of
  such lines is read as their items, in order, and the fuel that a text gets is enough
  (`parse_exports`).
-/

import RouteShortcuts.Proofs.Script.Expressions

namespace RouteShortcuts.Script

open Reader Grammar

/-- A name that may be bound. -/
structure IsBound (w : String) : Prop extends IsName w where
  bindable : isReservedBinding w = false

/-- The tokens of `export const name = value;`. -/
def exportTokens (name : String) (value : List Token) : List Token :=
  [.word "export" false, .word "const" false, .word name false, .mark .assign] ++ value ++
    [.mark .semicolon]

/-- The item that exports one constant, with a value of this kind. -/
def Exports (name : String) (P : Expr → Prop) (item : Stmt) : Prop :=
  ∃ pos value, item = .exporting (.vars .constant [.mk (.ident pos name) (some value)]) ∧ P value

section

variable {n : Nat} {w : String} {ts rest : List Token} {P : Expr → Prop} {s : State}

theorem binding_reads {r : Rules} (hw : IsBound w) (ends : Token → Prop) :
    Reads (binding r true) [.word w false] ends fun e => ∃ pos, e = .ident pos w := by
  have hlet : (Token.word w false).isWord "let" = false := beq_eq_false_iff_ne.mpr (hw.ne (by decide))
  intro t rest s ht h
  unfold binding bindingName
  simp only [runs_bind, runs_token, h.token, runs_isWord, hlet, Bool.and_false, Bool.false_eq_true,
    if_false, runs_here]
  refine (name_reads hw.toIsName true ends).runs ht h fun v s' hv h' => ?_
  subst hv
  simp only [hw.bindable, Bool.false_eq_true, if_false, runs_bind, runs_flags, h'.calm.inField,
    Bool.false_and, runs_pure]
  exact ⟨⟨_, rfl⟩, h'⟩

theorem declarator_reads (hw : IsBound w) (hts : Assigns ts P) (hn : 4 * ts.length ≤ n) :
    Reads (declarator (rules (n + 1)) .constant false) (.word w false :: .mark .assign :: ts) Ends
      fun d => ∃ pos e, d = .mk (.ident pos w) (some e) ∧ P e := by
  intro t rest s ht h
  unfold declarator
  simp only [runs_bind, runs_here]
  refine (binding_reads hw fun _ => True).runs trivial h fun e s₁ he h₁ => ?_
  obtain ⟨pos, rfl⟩ := he
  have hno : ∀ m, m ≠ .assign → s₁.cur.token.isMark m = false := fun m hm =>
    h₁.token ▸ beq_eq_false_iff_ne.mpr hm.symm
  simp only [isNameExpr, if_true, runs_bind, runs_eat_other (hno .not (by decide)),
    typeAnnotation?, runs_is, hno .colon (by decide), Bool.false_eq_true, if_false, Bool.false_and,
    runs_pure, runs_isWordOf]
  refine runs_eat h₁ fun s₂ h₂ => ?_
  simp only [if_true, runs_bind]
  refine (hts.reads n hn).runs ht h₂ fun e s₃ he h₃ => ?_
  simp only [runs_pure]
  exact ⟨⟨pos, e, rfl, he⟩, h₃⟩

/-- One constant, and no comma behind it. -/
theorem declarators_reads (hw : IsBound w) (hts : Assigns ts P) (hn : 4 * ts.length + 1 ≤ n)
    (wordStop : Nat) :
    Reads (declarators (rules (n + 1)) .constant false wordStop)
    (.word w false :: .mark .assign :: ts) (· = .mark .semicolon)
      fun ds => ∃ pos e, ds = [.mk (.ident pos w) (some e)] ∧ P e := by
  rintro _ rest s rfl h
  have hsemicolon : s.cur.token.isMark .semicolon = false := h.token ▸ rfl
  unfold declarators
  refine runs_repeat_stop (fuel_pos (by omega)) ?_
  simp only [runs_bind, runs_is, hsemicolon, Bool.false_eq_true, if_false]
  refine (declarator_reads hw hts (by omega)).runs (.mark (by decide)) h fun d s₁ hd h₁ => ?_
  obtain ⟨pos, e, rfl, he⟩ := hd
  have hcomma : s₁.cur.token.isMark .comma = false := h₁.token ▸ rfl
  simp only [runs_eat_other hcomma, Bool.false_eq_true, if_false, runs_pure]
  exact ⟨_, rfl, ⟨pos, e, rfl, he⟩, h₁⟩

/-- The statement that declares one constant. -/
theorem varStatement_runs (hw : IsBound w) (hts : Assigns ts P) (hn : 4 * ts.length + 1 ≤ n)
    (h : At (.word "const" false :: .word w false :: .mark .assign ::
      (ts ++ .mark .semicolon :: rest)) s) :
    Runs (varStatement (rules (n + 1))) s fun a s' =>
      (∃ pos e, a = .vars .constant [.mk (.ident pos w) (some e)] ∧ P e) ∧ At rest s' := by
  unfold varStatement
  simp only [runs_bind, runs_token, h.token, runs_pure, varKind]
  refine runs_bump h fun s₁ h₁ => ?_
  simp only [runs_prevStop]
  refine (reads_withIn (declarators_reads hw hts hn _)).runs rfl h₁ fun ds s₂ hds h₂ => ?_
  obtain ⟨pos, e, rfl, he⟩ := hds
  unfold eatStatementEnd
  simp only [runs_bind]
  refine runs_eat h₂ fun s₃ h₃ => ?_
  simp only [if_true, runs_pure, Bool.not_true, Bool.false_eq_true, if_false]
  exact ⟨⟨pos, e, rfl, he⟩, h₃⟩

/-- No decorators stand in front of a token that begins none. -/
theorem decorators_none {r : Rules} {t : Token} (ht : t.isMark .at = false) (hfuel : 0 < r.fuel)
    (h : At (t :: rest) s) : Runs (decorators r) s fun b s' => b = false ∧ At (t :: rest) s' := by
  have hat : s.cur.token.isMark .at = false := h.token ▸ ht
  unfold decorators listUntil
  rw [runs_bind]
  refine runs_repeat_stop hfuel ?_
  simp only [runs_bind, runs_is, hat, runs_pure, Bool.not_false, if_true]
  exact ⟨_, rfl, rfl, h⟩

theorem exportRest_runs (hw : IsBound w) (hts : Assigns ts P) (hn : 4 * ts.length + 1 ≤ n)
    (h : At (.word "const" false :: .word w false :: .mark .assign ::
      (ts ++ .mark .semicolon :: rest)) s) :
    Runs (exportRest (rules (n + 1)) false) s fun a s' => Exports w P a ∧ At rest s' := by
  have hword : ∀ k, k ≠ "const" → s.cur.token.isWord k = false := fun k hk =>
    h.token ▸ beq_eq_false_iff_ne.mpr hk.symm
  have hmark : ∀ m, s.cur.token.isMark m = false := fun m => h.token ▸ rfl
  have henum : (Token.word w false).isWord "enum" = false := beq_eq_false_iff_ne.mpr (hw.ne (by decide))
  unfold exportRest exportedDeclaration?
  simp only [runs_bind, runs_eatWord_other (hword "type" (by decide)), Bool.not_false, if_true,
    runs_eatWord_other (hword "default" (by decide)), Bool.false_eq_true, if_false,
      runs_here, runs_is, hmark]
  simp only [runs_token, h.token, runs_bind]
  refine runs_peekIsWord_other h henum fun s' h' => ?_
  simp only [Bool.false_eq_true, if_false, runs_bind]
  refine (varStatement_runs hw hts hn h').imp ?_
  rintro a s'' ⟨⟨pos, e, rfl, he⟩, h''⟩
  exact ⟨⟨pos, e, rfl, he⟩, h''⟩

/-- An export of a constant, from its first word on. -/
theorem exportItem_runs (hw : IsBound w) (hts : Assigns ts P) (hn : 4 * ts.length + 1 ≤ n)
    (h : At (exportTokens w ts ++ rest) s) :
    Runs (exportItem (rules (n + 1)) false) s fun a s' => Exports w P a ∧ At rest s' := by
  simp only [exportTokens, List.append_assoc, List.cons_append, List.nil_append] at h
  unfold exportItem
  simp only [runs_bind]
  refine runs_bump h fun s' h' => ?_
  have hend : (s'.cur.token == .endOfText) = false := h'.token ▸ rfl
  have hword : ∀ k, k ≠ "const" → s'.cur.token.isWord k = false := fun k hk =>
    h'.token ▸ beq_eq_false_iff_ne.mpr hk.symm
  have hassign : s'.cur.token.isMark .assign = false := h'.token ▸ rfl
  simp only [runs_atEnd, hend, Bool.false_eq_true, if_false, runs_bind, runs_here,
    runs_eatWord_other (hword "declare" (by decide))]
  simp only [runs_token, h'.token, runs_bind]
  -- no declaration that only types have begins with this word
  refine runs_attempt_none ?_ ?_
  · simp [wordDeclaration?]
  simp only [runs_eatWord_other (hword "import" (by decide)), runs_eat_other hassign,
    runs_eatWord_other (hword "as" (by decide)), Bool.false_eq_true, if_false, runs_bind]
  exact exportRest_runs hw hts hn h'

theorem item_runs (hw : IsBound w) (hts : Assigns ts P) (hn : 4 * ts.length + 1 ≤ n)
    (h : At (exportTokens w ts ++ rest) s) :
    Runs (item (rules (n + 1))) s fun a s' => Exports w P a ∧ At rest s' := by
  have hfuel : 0 < (rules n).fuel := by
    obtain ⟨t, ts, rfl, _⟩ := hts.starts
    simp only [List.length_cons] at hn
    exact fuel_pos (by omega)
  unfold item
  simp only [runs_bind]
  refine (decorators_none rfl hfuel h).imp ?_
  rintro _ s' ⟨rfl, h'⟩
  have himport : s'.cur.token.isWord "import" = false := h'.token ▸ rfl
  have hexport : s'.cur.token.isWord "export" = true := h'.token ▸ rfl
  simp only [runs_isWord, runs_bind, himport, Bool.false_eq_true, if_false, hexport, if_true]
  exact exportItem_runs hw hts hn h'

end

/-! ## Modules -/

section

variable {β : Type} {lines : List β} {name : β → String} {value : β → List Token} {P : β → Expr → Prop}

/-- The items of a module are read one after another. -/
theorem wholeModule_runs {n : Nat} {s : State} (hname : ∀ b ∈ lines, IsBound (name b))
    (hvalue : ∀ b ∈ lines, Assigns (value b) (P b))
    (hn : 4 * (lines.flatMap fun b => exportTokens (name b) (value b)).length < n)
    (h : At (lines.flatMap fun b => exportTokens (name b) (value b)) s) :
    Runs (wholeModule (rules (n + 2))) s fun m s' =>
      List.Forall₂ (fun b => Exports (name b) (P b)) lines m ∧ At [] s' := by
  obtain ⟨hlen, hcount⟩ :=
    length_flatMap_bounds (l := lines) (g := fun b => exportTokens (name b) (value b))
    (by simp [exportTokens])
  have hend : ∀ s, At [] s → Runs atEnd s fun b s' => b = true ∧ At [] s' := by
    intro s h
    simp only [runs_atEnd, h.yields.1, BEq.rfl]
    exact ⟨trivial, h⟩
  refine listUntil_runs hend ?_ ?_ (Nat.lt_succ_of_le (by omega) : lines.length < n + 1)
    (by rwa [List.append_nil])
  · intro b _ rest s h
    simp only [runs_atEnd, h.token]
    exact ⟨rfl, trivial⟩
  · intro b hb rest s h
    have := hlen b hb
    have hvalues : (exportTokens (name b) (value b)).length = (value b).length + 5 := by
      simp [exportTokens]
    exact item_runs (hname b hb) (hvalue b hb) (by omega) h

/-- A text is read as its tokens are. -/
theorem parse_of_runs (dialect : Dialect) {text : List Char} {ts : List Token} {Q : Module → Prop}
    (hscript : text.head? ≠ some '#') (htext : Lexes text ts)
    (h : ∀ n s, 4 * ts.length < n → At ts s →
      Runs (wholeModule (rules (n + 2))) s fun m s' => Q m ∧ s'.noted = none) :
    ∃ m, Module.parse dialect text = .ok m ∧ Q m := by
  have hfirst : Lexed.first text = Lexed.ofSkipped false (Blank.skip .plain true 0 text) := by
    unfold Lexed.first Blank.skipFirst
    split
    · exact absurd rfl hscript
    · rfl
  have hyields := htext.yields 0 true
  rw [← hfirst] at hyields
  have hlength := htext.length
  obtain ⟨n, hn⟩ : ∃ n, fuelFor text.length = n + 2 :=
    ⟨32 * text.length + 254, by simp only [fuelFor]; omega⟩
  have hroom : 4 * ts.length < n := by
    simp only [fuelFor] at hn
    omega
  have hat : At ts
      { dialect, cur := Lexed.first text, flags := { ambient := dialect.ambient },
          noted := (Lexed.first text).faults.head? } :=
    ⟨hyields, Or.inl rfl, ⟨rfl, rfl, rfl⟩, by rw [hyields.faults]; rfl⟩
  have hruns := h n _ hroom hat
  unfold Runs at hruns
  unfold Module.parse Reader.run
  rw [hn]
  dsimp only
  split at hruns
  · rename_i m s' hm
    rw [hm]
    simp only [hruns.2]
    exact ⟨m, rfl, hruns.1⟩
  · exact hruns.elim

/-- A text of such lines is read as their items, in order. -/
theorem parse_exports (dialect : Dialect) {text : List Char} (hname : ∀ b ∈ lines, IsBound (name b))
    (hvalue : ∀ b ∈ lines, Assigns (value b) (P b)) (hscript : text.head? ≠ some '#')
    (htext : Lexes text (lines.flatMap fun b => exportTokens (name b) (value b))) :
    ∃ m, Module.parse dialect text = .ok m ∧ List.Forall₂ (fun b => Exports (name b) (P b)) lines m :=
  parse_of_runs dialect hscript htext fun _ _ hn h =>
    (wholeModule_runs hname hvalue hn h).imp fun _ _ ⟨hitems, hend⟩ => ⟨hitems, hend.noted⟩

end

end RouteShortcuts.Script
