/-
  RouteShortcuts.Proofs.Script.Expressions — literals and calls, as expressions.

  An expression is read through all the levels of operators. Each level leaves an operand as it is, if a
  token comes next that ends every expression (`Ends`). So a rule for an operand lifts to one for
  expressions (`reads_assignment`), and the rules for elements of objects, arrays and arguments are
  rules for expressions again.

  Every level uses up fuel, and there are three of them from an expression to the elements in it; four
  units for every token are enough (`Assigns`).
-/

import RouteShortcuts.Proofs.Script.Runs

namespace RouteShortcuts.Script

open Reader Grammar

/-! ## What may begin and what may end an expression -/

def endMarks : List Mark := [.comma, .parenClose, .braceClose, .bracketClose, .semicolon]

/-- A token that no expression goes on with. -/
inductive Ends : Token → Prop
  | mark {m : Mark} : m ∈ endMarks → Ends (.mark m)
  | endOfText : Ends .endOfText

/-- A name that is none of the words with a meaning at the start of an expression. -/
structure IsName (w : String) : Prop where
  free : isReserved w = false
  notAsync : w ≠ "async"

/-- A token that the operands here begin with. -/
inductive Starts : Token → Prop
  | string (value : Option String) : Starts (.string value)
  | object : Starts (.mark .braceOpen)
  | array : Starts (.mark .bracketOpen)
  | name {w : String} : IsName w → Starts (.word w false)

section

variable {t : Token}

theorem Ends.isMark (h : Ends t) (m : Mark) (hm : m ∉ endMarks) : t.isMark m = false := by
  cases h with
  | mark hn => exact beq_eq_false_iff_ne.mpr fun e => hm (e ▸ hn)
  | endOfText => rfl

theorem Ends.isMarkOf (h : Ends t) (marks : List Mark) (hm : ∀ m ∈ marks, m ∉ endMarks) :
    t.isMarkOf marks = false := by
  cases h with
  | mark hn => exact Bool.eq_false_iff.mpr fun h => hm _ (List.contains_iff_mem.mp h) hn
  | endOfText => rfl

theorem IsName.ne {w k : String} (h : IsName w) (hk : isReserved k = true) : w ≠ k := by
  rintro rfl
  rw [h.free] at hk
  cases hk

theorem Starts.isMark (h : Starts t) {m : Mark} (h₁ : m ≠ .braceOpen) (h₂ : m ≠ .bracketOpen) :
    t.isMark m = false := by
  cases h with
  | object => exact beq_eq_false_iff_ne.mpr h₁.symm
  | array => exact beq_eq_false_iff_ne.mpr h₂.symm
  | _ => rfl

theorem Starts.isWord (h : Starts t) {k : String} (hk : isReserved k = true) : t.isWord k = false := by
  cases h with
  | name hw => exact beq_eq_false_iff_ne.mpr (hw.ne hk)
  | _ => rfl

end

/-! ## Levels -/

/-- An expression that no operator has made, no arrow, and none of the words that stand for an
object. -/
def isOperand (e : Expr) : Bool := !e.isArrow && !isFinished e && !isKeywordObject e

section

variable {s : State} {t : Token} {ts rest : List Token} {P : Expr → Prop}

theorem isOperand_iff {e : Expr} :
    isOperand e = true ↔ (e.isArrow = false ∧ isFinished e = false) ∧ isKeywordObject e = false := by
  simp [isOperand]

/-- The keyword `import` is no operand, so none of the rules for what follows it applies. -/
theorem not_importer {e : Expr} (he : isOperand e = true) : ∀ pos, e = .importer pos → False := by
  rintro pos rfl
  cases he

@[simp] theorem runs_isFreshArrow_other {e : Expr} (h : isOperand e = true) (Q : Bool → State → Prop) :
    Runs (isFreshArrow e) s Q ↔ Q false s := by
  simp [isFreshArrow, (isOperand_iff.mp h).1.1]

theorem Reads.imp {α : Type} {p : Parse α} {ends : Token → Prop} {P P' : α → Prop}
    (h : Reads p ts ends P) (hP : ∀ a, P a → P' a) : Reads p ts ends P' :=
  fun t rest s ht hs => (h t rest s ht hs).imp fun a _ ⟨ha, h'⟩ => ⟨hP a ha, h'⟩

theorem reads_within {α : Type} {p : Parse α} {ends : Token → Prop} {P : α → Prop}
    (change : Flags → Flags) (h : Reads p ts ends P) (hc : ∀ f, Calm f → Calm (change f)) :
    Reads (within change p) ts ends P := by
  intro t rest s ht hs
  rw [runs_within]
  have hs' : At (ts ++ t :: rest) { s with flags := change s.flags } :=
    ⟨hs.yields, hs.ahead, hc _ hs.calm, hs.noted⟩
  refine (h t rest _ ht hs').imp ?_
  rintro a s' ⟨ha, h'⟩
  exact ⟨ha, h'.yields, h'.ahead, hs.calm, h'.noted⟩

theorem reads_withIn {α : Type} {p : Parse α} {ends : Token → Prop} {P : α → Prop}
    (h : Reads p ts ends P) : Reads (withIn p) ts ends P :=
  reads_within _ h fun _ hf => ⟨hf.inType, hf.inGenerator, hf.inField⟩

/-- No operator comes after an operand that ends. -/
theorem operators_stop {r : Rules} {e : Expr} (hfuel : 0 < r.fuel) (ht : Ends t)
    (h : At (t :: rest) s) : Runs (operators r e 0) s fun a s' => a = e ∧ s' = s := by
  unfold operators
  refine runs_repeat_stop hfuel ?_
  have hno : ∀ m ∈ endMarks, binaryMark? m = none := by decide
  cases ht with
  | mark hm => simp [operatorStep, binaryOperator?, h.token, hno _ hm, Token.isWord, -bind_pure_comp]
  | endOfText => simp [operatorStep, binaryOperator?, h.token, Token.isWord, -bind_pure_comp]

/-- No member or call comes after an operand that ends, nor after one whose call is read elsewhere. -/
theorem subscript_stop {r : Rules} {e : Expr} {noCall : Bool} (he : isOperand e = true)
    (ht : Ends t ∨ noCall = true ∧ t = .mark .parenOpen) (h : At (t :: rest) s) :
    Runs (subscript r noCall false e) s fun a s' => a = .inr e ∧ s' = s := by
  have hmark : ∀ m, m ∉ Mark.parenOpen :: endMarks → s.cur.token.isMark m = false := by
    intro m hm
    rw [h.token]
    rcases ht with ht | ⟨_, rfl⟩
    · exact ht.isMark _ fun h => hm (List.mem_cons_of_mem _ h)
    · exact beq_eq_false_iff_ne.mpr fun e => hm (e ▸ List.mem_cons_self)
  have hangle : s.cur.token.isMarkOf [.less, .shiftLeft] = false := by
    rw [h.token]
    rcases ht with ht | ⟨_, rfl⟩
    · exact ht.isMarkOf _ (by decide)
    · rfl
  have hcall : ¬ (noCall = false ∧ s.cur.token.isMark .parenOpen = true) := by
    rintro ⟨rfl, hp⟩
    rcases ht with ht | ⟨hf, _⟩
    · rw [h.token, ht.isMark _ (by decide)] at hp
      cases hp
    · cases hf
  have htemplate : ∀ Q, Runs atTemplate s Q ↔ Q false s := by
    intro Q
    unfold atTemplate
    simp only [runs_bind, runs_token, h.token]
    rcases ht with ht | ⟨_, rfl⟩
    · cases ht <;> rfl
    · rfl
  have hi := not_importer he
  have hb : ∀ pos, e = .base pos → False := by
    rintro pos rfl
    cases he
  simp [subscript, subscriptAfter, hmark .not (by decide), hangle, hmark .questionDot (by decide),
    hmark .bracketOpen (by decide), hcall, hmark .dot (by decide), htemplate]

/-- Tokens that the members of an operand end at: those that end an expression, and the parenthesis
of a call. -/
def EndsMembers (t : Token) : Prop := Ends t ∨ t = .mark .parenOpen

variable {n : Nat} {e : Expr} {first : Token}

/-- An operand without members is read as one with them. -/
theorem reads_members {r : Rules} {p : Parse Expr} (hfuel : 0 < r.fuel) (hfirst : Starts first)
    (hp : Reads p (first :: ts) EndsMembers P) (hP : ∀ e, P e → isOperand e = true) :
    Reads (members r p false) (first :: ts) EndsMembers P := by
  refine reads_within _ ?_ fun f hf => ⟨hf.inType, hf.inGenerator, hf.inField⟩
  intro t rest s ht h
  have hword : ∀ k, isReserved k = true → s.cur.token.isWord k = false := fun k hk =>
    h.token ▸ hfirst.isWord hk
  simp only [runs_bind, runs_here, runs_eatWord_other (hword "new" (by decide)),
    runs_eatWord_other (hword "super" (by decide)), runs_eatWord_other (hword "import" (by decide)),
    Bool.false_eq_true, if_false]
  refine hp.runs ht h fun e s' he h' => ?_
  simp only [runs_isFreshArrow_other (hP e he), Bool.false_eq_true, if_false]
  unfold subscripts
  refine runs_repeat_stop hfuel ((subscript_stop (hP e he) (ht.imp_right fun h => ⟨rfl, h⟩) h').imp ?_)
  rintro a s'' ⟨rfl, rfl⟩
  exact ⟨_, rfl, he, h'⟩

/-- Without a call after it, an operand is read up to calls. -/
theorem reads_leftHandSide (hfirst : Starts first)
    (hp : Reads ((rules n).members false) (first :: ts) EndsMembers P)
    (hP : ∀ e, P e → isOperand e = true) : Reads (leftHandSide (rules n)) (first :: ts) Ends P := by
  intro t rest s ht h
  have hword : ∀ k, isReserved k = true → s.cur.token.isWord k = false := fun k hk =>
    h.token ▸ hfirst.isWord hk
  have hless : s.cur.token.isMark .less = false := h.token ▸ hfirst.isMark (by decide) (by decide)
  unfold leftHandSide
  simp only [runs_bind, runs_here, runs_dialect, runs_is, hless, Bool.and_false,
    runs_eatWord_other (hword "super" (by decide)), runs_eatWord_other (hword "import" (by decide)),
    Bool.false_eq_true, if_false]
  refine hp.runs (Or.inl ht) h fun e s' he h' => ?_
  have hangle : s'.cur.token.isMarkOf [.less, .shiftLeft] = false :=
    h'.token ▸ ht.isMarkOf _ (by decide)
  have hparen : s'.cur.token.isMark .parenOpen = false := h'.token ▸ ht.isMark _ (by decide)
  simp only [runs_isFreshArrow_other (hP e he), runs_bind, runs_isOneOf, runs_is, hangle, hparen,
    runs_pure, Bool.false_eq_true, if_false]
  exact ⟨he, h'⟩

/-- An operand is read with the operators that take one. -/
theorem reads_unary {r : Rules} (hfirst : Starts first)
    (hp : Reads (leftHandSide r) (first :: ts) Ends P)
    (hP : ∀ e, P e → isOperand e = true) : Reads (unary r) (first :: ts) Ends P := by
  intro t rest s ht h
  have hafter : ∀ pos, Runs (unary.updateAfter r pos) s fun e s' => P e ∧ At (t :: rest) s' := by
    intro pos
    unfold unary.updateAfter
    simp only [runs_bind]
    refine hp.runs ht h fun e s' he h' => ?_
    have hmark : s'.cur.token.isMarkOf [.increment, .decrement] = false :=
      h'.token ▸ ht.isMarkOf _ (by decide)
    simp only [(isOperand_iff.mp (hP e he)).1.1, runs_bind, runs_ite, runs_newlineBefore,
      runs_isOneOf, hmark, runs_pure, Bool.false_eq_true, if_false, ite_self]
    exact ⟨he, h'⟩
  unfold unary
  simp only [runs_bind, runs_here, runs_token, h.token]
  cases hfirst with
  | @name w hw =>
    have hop : unaryWord? w = none := by
      have hdelete := hw.ne (k := "delete") (by decide)
      have hvoid := hw.ne (k := "void") (by decide)
      have htypeof := hw.ne (k := "typeof") (by decide)
      unfold unaryWord?
      split <;> simp_all
    have hawait := hw.ne (k := "await") (by decide)
    simp only [hop]
    exact hafter _
  | _ => exact hafter _

theorem fuel_pos (hn : 1 < n) : 0 < (rules n).fuel := by
  obtain ⟨n, rfl⟩ := Nat.exists_eq_succ_of_ne_zero (Nat.ne_of_gt (Nat.lt_of_succ_lt hn))
  exact Nat.lt_of_succ_lt_succ hn

/-- No operator comes after the operand. -/
theorem reads_operation (hp : Reads (unary (rules n)) (first :: ts) Ends P) (hn : 1 < n)
    (hP : ∀ e, P e → isOperand e = true) : Reads (operation (rules (n + 1))) (first :: ts) Ends P := by
  intro t rest s ht h
  unfold operation operation.operand
  simp only [runs_bind]
  refine runs_caught (hp.runs ht h fun e s' he h' => ?_)
  simp only [runs_pure, runs_isFreshArrow_other (hP e he), Bool.false_eq_true, if_false]
  refine (operators_stop (fuel_pos hn) ht h').imp ?_
  rintro a s'' ⟨rfl, rfl⟩
  exact ⟨he, h'⟩

/-- No question mark comes after the operand. -/
theorem reads_conditional {r : Rules} (hp : Reads (operation r) (first :: ts) Ends P)
    (hP : ∀ e, P e → isOperand e = true) : Reads (conditional r) (first :: ts) Ends P := by
  intro t rest s ht h
  unfold conditional
  simp only [runs_bind]
  refine hp.runs ht h fun e s' he h' => ?_
  have hquestion : s'.cur.token.isMark .question = false := h'.token ▸ ht.isMark _ (by decide)
  simp only [runs_isFreshArrow_other (hP e he), runs_bind, runs_eat_other hquestion, runs_pure,
    Bool.false_eq_true, if_false]
  exact ⟨he, h'⟩

/-- Nothing is assigned to the operand. -/
theorem assignmentRest_stop {r : Rules} (ht : Ends t) (h : At (t :: rest) s) :
    Runs (assignmentRest r e) s fun a s' => a = e ∧ s' = s := by
  unfold assignmentRest
  simp only [runs_bind, runs_token, h.token]
  cases ht with
  | mark hm =>
    have hno : ∀ m ∈ endMarks, m ≠ .assign ∧ m.isUpdate = false := by decide
    obtain ⟨hassign, hupdate⟩ := hno _ hm
    simp [hupdate]
  | endOfText => simp

theorem reads_assignmentBase {r : Rules} (hfirst : Starts first)
    (hp : Reads (conditional r) (first :: ts) Ends P)
    (hP : ∀ e, P e → isOperand e = true) : Reads (assignmentBase r) (first :: ts) Ends P := by
  intro t rest s ht h
  have hafter : ∀ start, Runs (conditional r) { s with arrowStart := start } fun e s' =>
      Runs (isFreshArrow e) s' fun arrow s' =>
        Runs
          (if arrow = true then pure e else if isFinished e = true then pure e else assignmentRest r e)
          s'
          fun e s' => P e ∧ At (t :: rest) s' := by
    intro start
    have hstart : At (first :: ts ++ t :: rest) { s with arrowStart := start } :=
      ⟨h.yields, h.ahead, h.calm, h.noted⟩
    refine hp.runs ht hstart fun e s' he h' => ?_
    simp only [runs_isFreshArrow_other (hP e he), (isOperand_iff.mp (hP e he)).1.2,
      Bool.false_eq_true, if_false]
    refine (assignmentRest_stop ht h').imp ?_
    rintro a s'' ⟨rfl, rfl⟩
    exact ⟨he, h'⟩
  unfold assignmentBase
  simp only [runs_bind, runs_flags, runs_isWord, h.calm.inGenerator, Bool.false_and,
    Bool.false_eq_true, if_false, runs_token, h.token]
  cases hfirst <;> simp only [runs_bind, runs_here, runs_modify] <;> exact hafter _

theorem reads_assignment {r : Rules} (hfirst : Starts first)
    (hp : Reads (conditional r) (first :: ts) Ends P)
    (hP : ∀ e, P e → isOperand e = true) : Reads (assignment r) (first :: ts) Ends P := by
  intro t rest s ht h
  have hless : s.cur.token.isMark .less = false := h.token ▸ hfirst.isMark (by decide) (by decide)
  unfold assignment
  simp only [runs_bind, runs_is, hless, Bool.false_eq_true, if_false]
  exact reads_assignmentBase hfirst hp hP t rest s ht h

end

/-! ## Expressions -/

/-- Tokens that are read as an expression of this kind, whatever ends it. -/
structure Assigns (ts : List Token) (P : Expr → Prop) : Prop where
  starts : ∃ t rest, ts = t :: rest ∧ Starts t
  reads : ∀ n, 4 * ts.length ≤ n → Reads (assignment (rules n)) ts Ends P

section

variable {first : Token} {ts : List Token} {P : Expr → Prop}

theorem Assigns.imp {P' : Expr → Prop} (h : Assigns ts P) (hP : ∀ e, P e → P' e) : Assigns ts P' :=
  ⟨h.starts, fun n hn => (h.reads n hn).imp hP⟩

theorem assigns_of_leftHandSide (hfirst : Starts first) (hP : ∀ e, P e → isOperand e = true)
    (hp : ∀ n, 4 * (first :: ts).length ≤ n + 1 → Reads (leftHandSide (rules n)) (first :: ts) Ends P) :
    Assigns (first :: ts) P := by
  refine ⟨⟨first, ts, rfl, hfirst⟩, fun n hn => ?_⟩
  simp only [List.length_cons] at hn hp
  obtain ⟨n, rfl⟩ : ∃ m, n = m + 1 := ⟨n - 1, by omega⟩
  have hunary := reads_unary hfirst (hp n hn) hP
  have hoperation := reads_operation hunary (by omega) hP
  exact reads_assignment hfirst (reads_conditional hoperation hP) hP

theorem assigns_of_primary (hfirst : Starts first) (hP : ∀ e, P e → isOperand e = true)
    (hp : ∀ n, 4 * (first :: ts).length ≤ n + 2 →
      Reads (primary (rules n) (classExpression (rules n))) (first :: ts) EndsMembers P) :
    Assigns (first :: ts) P := by
  refine assigns_of_leftHandSide hfirst hP fun n hn => ?_
  simp only [List.length_cons] at hn hp
  obtain ⟨n, rfl⟩ : ∃ m, n = m + 1 := ⟨n - 1, by omega⟩
  exact reads_leftHandSide hfirst (reads_members (fuel_pos (by omega)) hfirst (hp n hn) hP) hP

/-! ### Texts -/

theorem assigns_text (v : String) :
    Assigns [.string (some v)] fun e => ∃ pos, e = .string pos (some v) := by
  refine assigns_of_primary (.string _) ?_ fun n _ => ?_
  · rintro e ⟨pos, rfl⟩
    rfl
  intro t rest s _ h
  unfold primary
  simp only [runs_bind, runs_here, runs_get, runs_token, h.token]
  refine runs_bump h fun s' h' => ?_
  simp only [runs_pure]
  exact ⟨⟨_, rfl⟩, h'⟩

/-! ### Elements with commas between them -/

theorem length_le_separated {parts : List (List Token)} {p : List Token} (hp : p ∈ parts) :
    p.length ≤ (separated parts).length := by
  induction parts with
  | nil => cases hp
  | cons q parts ih =>
    cases parts with
    | nil =>
      obtain rfl := List.mem_singleton.mp hp
      simp [separated]
    | cons q' parts =>
      rcases List.mem_cons.mp hp with rfl | hp
      · simp [separated, List.intercalate]
      · have := ih hp
        simp only [separated, List.intercalate, List.intersperse_cons_cons, List.flatten_cons,
          List.length_append] at this ⊢
        omega

theorem length_separated (parts : List (List Token)) : parts.length ≤ (separated parts).length + 1 := by
  induction parts with
  | nil => simp
  | cons q parts ih =>
    cases parts with
    | nil => simp
    | cons q' parts =>
      simp only [separated, List.intercalate, List.intersperse_cons_cons, List.flatten_cons,
        List.length_append, List.length_cons] at ih ⊢
      omega

variable {n : Nat} {β : Type} {spell : β → List Token} {Q : β → Expr → Prop}

/-- An expression is read as an argument, or as an element of an array. -/
theorem reads_argument (h : Assigns ts P) (hn : 4 * ts.length ≤ n) :
    Reads (withIn (argument (rules (n + 1)))) ts Ends P := by
  refine reads_withIn ?_
  intro t rest s ht hs
  have hdots : s.cur.token.isMark .dots = false := by
    obtain ⟨first, more, rfl, hfirst⟩ := h.starts
    exact hs.token ▸ hfirst.isMark (by decide) (by decide)
  unfold argument
  simp only [runs_bind, runs_here, runs_eat_other hdots, Bool.false_eq_true, if_false]
  exact h.reads n hn t rest s ht hs

theorem room (parts : List (List Token)) (hn : 4 * (separated parts).length + 2 ≤ n) :
    (∀ p ∈ parts, 4 * p.length ≤ n) ∧ parts.length < n := by
  refine ⟨fun p hp => ?_, ?_⟩
  · have := length_le_separated hp
    omega
  · have := length_separated parts
    omega

/-! ### Arrays -/

theorem arrayLiteral_reads {r : Rules} (ends : Token → Prop) {elements : List β}
    (he : ∀ b ∈ elements, Reads (withIn (argument r)) (spell b) Ends (Q b))
    (hstart : ∀ b ∈ elements, ∃ t ts, spell b = t :: ts ∧ Starts t) (hfuel : elements.length < r.fuel) :
    Reads (arrayLiteral r)
    (.mark .bracketOpen :: (separated (elements.map spell) ++ [.mark .bracketClose])) ends fun e =>
      ∃ pos es, e = .array pos es none ∧ List.Forall₂ Q elements es := by
  have hopen : ∀ b ∈ elements, ∀ {after s}, At (spell b ++ after) s →
      s.cur.token.isMark .bracketClose = false ∧ s.cur.token.isMark .comma = false := by
    intro b hb after s h
    obtain ⟨t, ts, hs, ht⟩ := hstart b hb
    rw [hs] at h
    rw [h.token]
    exact ⟨ht.isMark (by decide) (by decide), ht.isMark (by decide) (by decide)⟩
  intro t rest s _ h
  unfold arrayLiteral
  simp only [runs_bind, runs_here]
  refine runs_bump h fun s₁ h₁ => ?_
  refine (separated_loop spell Q .bracketClose ?stop ?last ?more ?start hfuel
    (by simpa using h₁)).imp ?_
  case stop =>
    intro acc rest s h
    simp only [runs_bind, runs_is, h.token, Token.isMark, BEq.rfl, if_true, runs_pure]
    exact ⟨trivial, h⟩
  case last =>
    intro b hb acc rest s h
    simp only [runs_bind, runs_is, (hopen b hb h).1, runs_here, runs_eat_other (hopen b hb h).2,
      Bool.false_eq_true, if_false]
    refine (he b hb).runs (.mark (by decide)) h fun a s' ha h' => ?_
    simp only [h'.token, Token.isMark, BEq.rfl, if_true, runs_pure]
    exact ⟨⟨a, ha, rfl⟩, h'⟩
  case more =>
    intro b hb acc t rest s ht h
    simp only [runs_bind, runs_is, (hopen b hb h).1, runs_here, runs_eat_other (hopen b hb h).2,
      Bool.false_eq_true, if_false]
    refine (he b hb).runs (.mark (by decide)) h fun a s' ha h' => ?_
    have hclose : s'.cur.token.isMark .bracketClose = false := h'.token ▸ rfl
    simp only [hclose, Bool.false_eq_true, if_false, runs_bind, runs_here]
    refine runs_expect h' fun s'' h'' => ?_
    simp only [runs_is, h''.token, ht, Bool.false_eq_true, if_false, runs_pure]
    exact ⟨⟨a, ha, rfl⟩, h''⟩
  case start =>
    intro b hb
    obtain ⟨t, ts, hs, ht⟩ := hstart b hb
    exact ⟨t, ts, hs, ht.isMark (by decide) (by decide)⟩
  rintro r s₂ ⟨⟨es, hes, rfl⟩, h₂⟩
  simp only [List.reverse_nil, List.nil_append]
  refine runs_expect h₂ fun s₃ h₃ => ?_
  simp only [runs_pure]
  exact ⟨⟨_, es, rfl, hes⟩, h₃⟩

/-- Elements in brackets are read as an array of them. -/
theorem assigns_array {elements : List β} (he : ∀ b ∈ elements, Assigns (spell b) (Q b)) :
    Assigns (.mark .bracketOpen :: (separated (elements.map spell) ++ [.mark .bracketClose])) fun e =>
      ∃ pos es, e = .array pos es none ∧ List.Forall₂ Q elements es := by
  refine assigns_of_primary .array ?_ fun n hn => ?_
  · rintro e ⟨pos, es, rfl, _⟩
    rfl
  simp only [List.length_cons, List.length_append, List.length_nil] at hn
  obtain ⟨n, rfl⟩ : ∃ m, n = m + 1 := ⟨n - 1, by omega⟩
  obtain ⟨hlen, hfuel⟩ := room (n := n) (elements.map spell) (by omega)
  have hliteral := arrayLiteral_reads (r := rules (n + 1)) EndsMembers
    (fun b hb => reads_argument (he b hb) (hlen _ (List.mem_map_of_mem hb)))
      (fun b hb => (he b hb).starts)
    (List.length_map spell ▸ hfuel)
  intro t rest s ht h
  unfold primary
  simp only [runs_bind, runs_here, runs_get, runs_token, h.token]
  exact reads_within (fun f => { f with colonFollows := false }) hliteral
    (fun f hf => ⟨hf.inType, hf.inGenerator, hf.inField⟩) t rest s ht h

/-! ### Objects -/

/-- A token that is read as a key, which also tells where it stands. -/
inductive Keys : Token → (Nat → Key) → Prop
  | word {k : String} : k ∉ accessWords → Keys (.word k false) fun pos => .name pos (.ident k)
  | string (value : Option String) : Keys (.string value) fun pos => .name pos (.string value)

theorem Keys.isMark {t : Token} {key : Nat → Key} (h : Keys t key) (m : Mark) : t.isMark m = false := by
  cases h <;> rfl

theorem Keys.notAccess {t : Token} {key : Nat → Key} (h : Keys t key) :
    t.isWordOf accessWords = false := by
  cases h with
  | word hk => exact Bool.eq_false_iff.mpr fun h => hk (List.contains_iff_mem.mp h)
  | string => rfl

theorem propertyKey_reads {r : Rules} {t : Token} {key : Nat → Key} (hkey : Keys t key)
    (ends : Token → Prop) : Reads (propertyKey r) [t] ends fun k => ∃ pos, k = key pos := by
  refine reads_within _ ?_ fun f hf => ⟨hf.inType, hf.inGenerator, hf.inField⟩
  intro t' rest s _ h
  cases hkey with
  | word | string =>
    simp only [runs_bind, runs_here, runs_token, h.token]
    refine runs_bump h fun s' h' => ?_
    simp only [runs_pure]
    exact ⟨⟨_, rfl⟩, h'⟩

/-- A property is a key and a value. -/
def Gives (key : Nat → Key) (P : Expr → Prop) (p : Property) : Prop :=
  ∃ pos value, p = .keyValue (key pos) value ∧ P value

/-- A property whose key is a plain name. -/
def GivesKey (k : String) (P : Expr → Prop) (p : Property) : Prop :=
  ∃ pos value, p = .keyValue (.name pos (.ident k)) value ∧ P value

theorem property_reads {first : Token} {key : Nat → Key} (hkey : Keys first key) (h : Assigns ts P)
    (hn : 4 * ts.length ≤ n) :
    Reads (property (rules (n + 1))) (first :: .mark .colon :: ts) Ends (Gives key P) := by
  intro t rest s ht hs
  have hmark : ∀ m, s.cur.token.isMark m = false := fun m => hs.token ▸ hkey.isMark m
  have haccess : s.cur.token.isWordOf accessWords = false := hs.token ▸ hkey.notAccess
  unfold property eatAccessWord
  simp only [runs_bind, runs_here, runs_eat_other (hmark _), Bool.false_eq_true, if_false,
    runs_isWordOf, haccess, runs_pure]
  refine (propertyKey_reads hkey fun _ => True).runs trivial hs fun k s' hk h' => ?_
  obtain ⟨pos, rfl⟩ := hk
  simp only [followsKey, runs_bind, runs_token, h'.token, runs_pure, Bool.not_true,
    Bool.false_eq_true, if_false]
  refine runs_eat h' fun s'' h'' => ?_
  simp only [if_true, runs_bind]
  refine (reads_withIn (h.reads n hn)).runs ht h'' fun value s₃ hvalue h₃ => ?_
  simp only [runs_pure]
  exact ⟨⟨pos, value, rfl, hvalue⟩, h₃⟩

theorem objectLiteral_reads {r : Rules} (ends : Token → Prop) {fields : List β}
    {P : β → Property → Prop} (hp : ∀ b ∈ fields, Reads (property r) (spell b) Ends (P b))
    (hstart : ∀ b ∈ fields, ∃ t ts, spell b = t :: ts ∧ t.isMark .braceClose = false)
    (hfuel : fields.length < r.fuel) :
    Reads (objectLiteral r)
    (.mark .braceOpen :: (separated (fields.map spell) ++ [.mark .braceClose])) ends fun e =>
      ∃ pos ps, e = .object pos ps none ∧ List.Forall₂ P fields ps := by
  refine reads_within _ ?_ fun f hf => ⟨hf.inType, hf.inGenerator, hf.inField⟩
  have hends : ∀ t, t = .mark .comma ∨ t = .mark .braceClose → Ends t := by
    rintro t (rfl | rfl) <;> exact .mark (by decide)
  intro t rest s _ h
  simp only [runs_bind, runs_here]
  refine runs_bump h fun s₁ h₁ => ?_
  refine (commaList_runs (by decide) (fun b hb t rest s ht hs =>
    hp b hb t rest s (hends t ht) hs) hstart hfuel
    (by simpa using h₁)).imp ?_
  rintro found s₂ ⟨⟨ps, hps, rfl⟩, h₂⟩
  refine runs_bump h₂ fun s₃ h₃ => ?_
  simp only [runs_pure]
  exact ⟨⟨_, ps, rfl, hps⟩, h₃⟩

/-- Keys with values in braces are read as an object with these properties. -/
theorem assigns_object {first : β → Token} {key : β → Nat → Key} {fields : List β}
    (hkey : ∀ b ∈ fields, Keys (first b) (key b)) (hv : ∀ b ∈ fields, Assigns (spell b) (Q b)) :
    Assigns (.mark .braceOpen :: (separated (fields.map fun b => first b :: .mark .colon :: spell b) ++
        [.mark .braceClose])) fun e =>
      ∃ pos ps, e = .object pos ps none ∧
        List.Forall₂ (fun b p => Gives (key b) (Q b) p) fields ps := by
  refine assigns_of_primary .object ?_ fun n hn => ?_
  · rintro e ⟨pos, ps, rfl, _⟩
    rfl
  simp only [List.length_cons, List.length_append, List.length_nil] at hn
  obtain ⟨n, rfl⟩ : ∃ m, n = m + 1 := ⟨n - 1, by omega⟩
  obtain ⟨hlen, hfuel⟩ :=
    room (n := n) (fields.map fun b => first b :: .mark .colon :: spell b) (by omega)
  have hproperty : ∀ b ∈ fields,
      Reads (property (rules (n + 1))) (first b :: .mark .colon :: spell b) Ends
          (Gives (key b) (Q b)) := by
    intro b hb
    have := hlen _ (List.mem_map_of_mem hb)
    simp only [List.length_cons] at this
    exact property_reads (hkey b hb) (hv b hb) (by omega)
  have hliteral := objectLiteral_reads (r := rules (n + 1)) EndsMembers hproperty
    (fun b hb => ⟨_, _, rfl, (hkey b hb).isMark _⟩) (List.length_map _ ▸ hfuel)
  intro t rest s ht h
  unfold primary
  simp only [runs_bind, runs_here, runs_get, runs_token, h.token]
  exact hliteral t rest s ht h

/-! ### Calls -/

/-- Arguments in parentheses. -/
def parens (parts : List (List Token)) : List Token :=
  .mark .parenOpen :: (separated parts ++ [.mark .parenClose])

theorem arguments_reads {r : Rules} {ends : Token → Prop} {args : List β}
    (ha : ∀ b ∈ args, Reads (withIn (argument r)) (spell b) Ends (Q b))
    (hstart : ∀ b ∈ args, ∃ t ts, spell b = t :: ts ∧ Starts t) (hfuel : args.length < r.fuel) :
    Reads (arguments r) (parens (args.map spell)) ends (List.Forall₂ Q args) := by
  refine reads_within _ ?_ fun f hf => ⟨hf.inType, hf.inGenerator, hf.inField⟩
  have hends : ∀ t, t = .mark .comma ∨ t = .mark .parenClose → Ends t := by
    rintro t (rfl | rfl) <;> exact .mark (by decide)
  have hopen : ∀ b ∈ args, ∃ t ts, spell b = t :: ts ∧ t.isMark .parenClose = false := by
    intro b hb
    obtain ⟨t, ts, hs, ht⟩ := hstart b hb
    exact ⟨t, ts, hs, ht.isMark (by decide) (by decide)⟩
  intro t rest s _ h
  simp only [runs_bind]
  refine runs_expect h fun s₁ h₁ => ?_
  refine (commaList_runs (by decide) (fun b hb t rest s ht hs =>
    ha b hb t rest s (hends t ht) hs) hopen hfuel
    (by simpa using h₁)).imp ?_
  rintro found s₂ ⟨⟨as, has, rfl⟩, h₂⟩
  refine runs_expect h₂ fun s₃ h₃ => ?_
  simp only [runs_pure]
  exact ⟨has, h₃⟩

theorem subscript_call {r : Rules} {e : Expr} {args : List β} {t : Token}
    {rest : List Token} {s : State} (he : isOperand e = true) (hchain : endsInChain e = false)
    (ha : Reads (arguments r) (parens (args.map spell)) (fun _ => True) (List.Forall₂ Q args))
    (h : At (parens (args.map spell) ++ t :: rest) s) :
    Runs (subscript r false false e) s fun a s' =>
      (∃ as, List.Forall₂ Q args as ∧ a = .inl (.call e as)) ∧ At (t :: rest) s' := by
  have hother : ∀ m, m ≠ .parenOpen → s.cur.token.isMark m = false := fun m hm =>
    h.token ▸ beq_eq_false_iff_ne.mpr hm.symm
  have hparen : s.cur.token.isMark .parenOpen = true := h.token ▸ rfl
  have hangle : s.cur.token.isMarkOf [.less, .shiftLeft] = false := h.token ▸ rfl
  have hi := not_importer he
  simp only [subscript, subscriptAfter, pure_bind, runs_bind, runs_ite, runs_here, runs_is,
    runs_isOneOf, runs_newlineBefore, hother .not (by decide), hangle,
    runs_eat_other (hother .questionDot (by decide)), hother .bracketOpen (by decide), hparen,
    Bool.and_false, Bool.false_and, Bool.not_false, Bool.or_true, Bool.and_self, Bool.false_eq_true,
    if_false, if_true, runs_pure]
  refine ha.runs trivial h fun as s' has h' => ?_
  exact ⟨⟨as, has, by simp [callOf, hchain]⟩, h'⟩

/-- A call is followed by another one, or by the end. -/
theorem calls_before (spell : β → List Token) (calls : List (List β)) (t : Token) (rest : List Token) :
    ∃ t' rest', calls.flatMap (fun args => parens (args.map spell)) ++ t :: rest = t' :: rest' := by
  cases calls <;> exact ⟨_, _, rfl⟩

/-- Any number of calls of what stands before them. -/
theorem subscripts_calls {r : Rules} {calls : List (List β)} {t : Token}
    {rest : List Token} (ht : Ends t) (ha : ∀ args ∈ calls,
      Reads (arguments r) (parens (args.map spell)) (fun _ => True) (List.Forall₂ Q args)) :
    ∀ {fuel : Nat} {e : Expr} {s : State}, isOperand e = true → endsInChain e = false →
      calls.length < fuel →
      At (calls.flatMap (fun args => parens (args.map spell)) ++ t :: rest) s →
      Runs (repeatUntil fuel (subscript r false false) e) s fun a s' =>
        (∃ as, List.Forall₂ (List.Forall₂ Q) calls as ∧ a = as.foldl .call e) ∧ At (t :: rest) s' := by
  induction calls with
  | nil =>
    intro fuel e s he _ hfuel h
    refine runs_repeat_stop hfuel ((subscript_stop he (Or.inl ht) h).imp ?_)
    rintro a s' ⟨rfl, rfl⟩
    exact ⟨_, rfl, ⟨[], .nil, rfl⟩, h⟩
  | cons args calls ih =>
    intro fuel e s he hchain hfuel h
    obtain ⟨fuel, rfl⟩ :=
      Nat.exists_eq_succ_of_ne_zero (Nat.ne_of_gt (Nat.lt_of_le_of_lt (Nat.zero_le _) hfuel))
    obtain ⟨t', rest', hrest⟩ := calls_before spell calls t rest
    rw [List.flatMap_cons, List.append_assoc, hrest] at h
    refine runs_repeat ((subscript_call he hchain (ha args (by simp)) h).imp ?_)
    rintro a s' ⟨⟨as, has, rfl⟩, h'⟩
    rw [← hrest] at h'
    refine (ih (fun args h => ha args (by simp [h])) rfl rfl (Nat.lt_of_succ_lt_succ hfuel) h').imp ?_
    rintro a s'' ⟨⟨rest, hrest, rfl⟩, h''⟩
    exact ⟨⟨as :: rest, .cons has hrest, rfl⟩, h''⟩

theorem name_reads {f : String} (hf : IsName f) (yieldAllowed : Bool) (ends : Token → Prop) :
    Reads (name yieldAllowed) [.word f false] ends (· = f) := by
  have hfree := hf.free
  simp only [isReserved, Bool.or_eq_false_iff] at hfree
  obtain ⟨⟨hkeyword, hstrict⟩, hawait⟩ := hfree
  have henum : (f == "enum") = false := beq_eq_false_iff_ne.mpr (hf.ne (by decide))
  have hyield : (f == "yield") = false := beq_eq_false_iff_ne.mpr (hf.ne (by decide))
  intro t rest s _ h
  unfold name
  simp only [runs_bind, runs_token, h.token, hstrict, henum, hawait, hkeyword, hyield,
    Bool.false_and, Bool.or_self, Bool.false_eq_true, if_false]
  refine runs_bump h fun s' h' => ?_
  exact ⟨rfl, h'⟩

theorem nameOrArrow_reads {r : Rules} {f : String} (hf : IsName f) (canBeArrow : Bool) :
    Reads (nameOrArrow r canBeArrow) [.word f false] EndsMembers fun e => ∃ pos, e = .ident pos f := by
  have hasync : (f == "async") = false := beq_eq_false_iff_ne.mpr hf.notAsync
  intro t rest s ht h
  have harrow : t.isMark .arrow = false := by
    rcases ht with ht | rfl
    · exact ht.isMark _ (by decide)
    · rfl
  unfold nameOrArrow
  simp only [runs_bind, runs_here, runs_flags, h.calm.inGenerator, h.calm.inField,
    Bool.not_false, Bool.false_and, Bool.false_eq_true, if_false]
  refine (name_reads hf true EndsMembers).runs ht h fun w s' hw h' => ?_
  subst hw
  cases canBeArrow <;> simp [hasync, h'.token, harrow, h', -bind_pure_comp]

theorem primary_reads_name {r : Rules} {cls : Parse Expr} {f : String} (hf : IsName f) :
    Reads (primary r cls) [.word f false] EndsMembers fun e => ∃ pos, e = .ident pos f := by
  have hne := fun k hk => beq_eq_false_iff_ne.mpr (hf.ne (k := k) hk)
  have hasync : (f == "async") = false := beq_eq_false_iff_ne.mpr hf.notAsync
  have hliteral : ["this", "null", "true", "false"].contains f = false := by
    simp [List.contains_cons, hne "this" (by decide), hne "null" (by decide),
      hne "true" (by decide), hne "false" (by decide), -beq_eq_false_iff_ne, -List.contains_eq_mem]
  intro t rest s ht h
  unfold primary wordExpression
  simp only [runs_bind, runs_here, runs_get, runs_token, h.token, hliteral, hne "function" (by decide),
    hne "class" (by decide), hasync, hf.free, Bool.false_eq_true, if_false]
  exact nameOrArrow_reads hf _ t rest s ht h

theorem isOperand_calls {e : Expr} (he : isOperand e = true) (as : List (List Expr)) :
    isOperand (as.foldl .call e) = true := by
  induction as generalizing e with
  | nil => exact he
  | cons a as ih => exact ih rfl

theorem length_flatMap_bounds {γ : Type} {l : List γ} {g : γ → List Token} (hg : ∀ c ∈ l, g c ≠ []) :
    (∀ c ∈ l, (g c).length ≤ (l.flatMap g).length) ∧ l.length ≤ (l.flatMap g).length := by
  induction l with
  | nil => simp
  | cons c l ih =>
    have ih := ih fun c hc => hg c (by simp [hc])
    have := List.length_pos_iff.mpr (hg c (by simp))
    simp only [List.flatMap_cons, List.length_append, List.length_cons, List.forall_mem_cons]
    refine ⟨⟨by omega, fun c hc => ?_⟩, by omega⟩
    have := ih.1 c hc
    omega

/-- A name with calls behind it, up to where the calls end. -/
theorem leftHandSide_calls {r : Rules} {f : String} (hf : IsName f) {args : List β}
    {calls : List (List β)}
    (hcallee : Reads (r.members false) [.word f false] EndsMembers fun e => ∃ pos, e = .ident pos f)
    (hargs : ∀ args' ∈ args :: calls,
      Reads (arguments r) (parens (args'.map spell)) (fun _ => True) (List.Forall₂ Q args'))
    (hfuel : calls.length < r.fuel) :
    Reads (leftHandSide r)
    (.word f false :: (args :: calls).flatMap fun args => parens (args.map spell)) Ends fun e =>
      ∃ pos as, List.Forall₂ (List.Forall₂ Q) (args :: calls) as ∧
        e = as.foldl .call (.ident pos f) := by
  have hstart : Starts (.word f false) := .name hf
  intro t rest s ht h
  have hword : ∀ k, isReserved k = true → s.cur.token.isWord k = false := fun k hk =>
    h.token ▸ hstart.isWord hk
  have hless : s.cur.token.isMark .less = false := h.token ▸ hstart.isMark (by decide) (by decide)
  unfold leftHandSide
  simp only [runs_bind, runs_here, runs_dialect, runs_is, hless, Bool.and_false,
    Bool.false_eq_true, if_false, runs_eatWord_other (hword "super" (by decide)),
    runs_eatWord_other (hword "import" (by decide))]
  rw [List.flatMap_cons] at h
  refine hcallee.runs (Or.inr rfl) h fun e s₁ he h₁ => ?_
  obtain ⟨pos, rfl⟩ := he
  have hparen : s₁.cur.token.isMark .parenOpen = true := h₁.token ▸ rfl
  have hangle : s₁.cur.token.isMarkOf [.less, .shiftLeft] = false := h₁.token ▸ rfl
  simp only [runs_isFreshArrow_other (e := .ident pos f) rfl, runs_bind, Bool.false_eq_true,
    if_false, runs_isOneOf, hangle, runs_pure, runs_is, hparen, if_true]
  obtain ⟨t', rest', hrest⟩ := calls_before spell calls t rest
  change At (parens (args.map spell) ++ _ ++ t :: rest) s₁ at h₁
  rw [List.append_assoc, hrest] at h₁
  refine (hargs args (by simp)).runs trivial h₁ fun as s₂ has h₂ => ?_
  rw [← hrest] at h₂
  refine (subscripts_calls ht (fun args h => hargs args (by simp [h])) rfl rfl hfuel h₂).imp ?_
  rintro a s₃ ⟨⟨rest, hrest, rfl⟩, h₃⟩
  exact ⟨⟨pos, as :: rest, .cons has hrest, rfl⟩, h₃⟩

/-- A name with calls behind it is read as the call of a call. -/
theorem assigns_calls {f : String} (hf : IsName f) {args : List β} {calls : List (List β)}
    (he : ∀ args' ∈ args :: calls, ∀ b ∈ args', Assigns (spell b) (Q b)) :
    Assigns (.word f false :: (args :: calls).flatMap fun args => parens (args.map spell)) fun e =>
      ∃ pos as, List.Forall₂ (List.Forall₂ Q) (args :: calls) as ∧
        e = as.foldl .call (.ident pos f) := by
  refine assigns_of_leftHandSide (.name hf) ?_ fun n hn => ?_
  · rintro e ⟨pos, as, _, rfl⟩
    exact isOperand_calls rfl as
  simp only [List.length_cons] at hn
  obtain ⟨n, rfl⟩ : ∃ m, n = m + 1 := ⟨n - 1, by omega⟩
  obtain ⟨hlen, hcalls⟩ := length_flatMap_bounds (l := args :: calls)
    (g := fun args => parens (args.map spell)) (by simp [parens])
  rw [List.length_cons] at hcalls
  have hcallee : Reads ((rules (n + 1)).members false) [.word f false] EndsMembers fun e => ∃ pos,
      e = .ident pos f := by
    refine reads_members (fuel_pos (by omega)) (.name hf) (primary_reads_name hf) ?_
    rintro e ⟨pos, rfl⟩
    rfl
  have hargs : ∀ args' ∈ args :: calls,
      Reads (arguments (rules (n + 1))) (parens (args'.map spell)) (fun _ => True)
      (List.Forall₂ Q args') := by
    intro args' h
    have := hlen args' h
    have hparens : (parens (args'.map spell)).length = (separated (args'.map spell)).length + 2 := by
      simp [parens]
    obtain ⟨hlen, hfuel⟩ := room (n := n) (args'.map spell) (by omega)
    exact arguments_reads
      (fun b hb => reads_argument (he args' h b hb) (hlen _ (List.mem_map_of_mem hb)))
      (fun b hb => (he args' h b hb).starts) (List.length_map spell ▸ hfuel)
  exact leftHandSide_calls hf hcallee hargs (by omega : calls.length < n)

end

end RouteShortcuts.Script
