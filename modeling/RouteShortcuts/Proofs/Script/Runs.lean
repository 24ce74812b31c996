/-
  RouteShortcuts.Proofs.Script.Runs — readings that come to their end.

  `Runs p s Q`: from the state `s` the reading `p` does not stop, and `Q` holds of its result and of
  the state that it leaves. `At ts s`: the reader stands in front of the tokens `ts`, has noted no
  fault, and is inside of nothing that changes how they are read. `Reads p ts ends P` says of a rule
  all that its callers need: in front of `ts` and a token that may end it, it passes `ts` and has a
  result as in `P`.

  The steps that the grammar is made of are taken here one by one; the loops over elements with commas
  between them (`separated_loop`) and over items (`listUntil_runs`) by induction on the elements.
-/

import RouteShortcuts.Proofs.Script.Lexing
import RouteShortcuts.Script.Grammar

namespace RouteShortcuts.Script

open Reader Grammar

/-- From `s` the reading `p` ends as `Q` says. -/
def Runs {α : Type} (p : Parse α) (s : State) (Q : α → State → Prop) : Prop :=
  match p s with
  | .ok a t => Q a t
  | .error _ _ => False

/-- Inside of nothing that changes how tokens and names are read. -/
structure Calm (f : Flags) : Prop where
  inType : f.inType = false
  inGenerator : f.inGenerator = false
  inField : f.inField = false

/-- The reader stands in front of these tokens. -/
structure At (ts : List Token) (s : State) : Prop where
  yields : Yields ts s.cur
  ahead : s.ahead = none ∨ s.ahead = some (s.cur.next false)
  calm : Calm s.flags
  noted : s.noted = none

theorem At.token {t : Token} {ts : List Token} {s : State} (h : At (t :: ts) s) :
    s.cur.token = t := h.yields.1

theorem At.next {t : Token} {ts : List Token} {s : State} (h : At (t :: ts) s) :
    Yields ts (s.cur.next false) := h.yields.2.2

theorem At.anglesApart {ts : List Token} {s : State} (h : At ts s) : anglesApart s = false := by
  simp [Reader.anglesApart, h.calm.inType]

section

variable {α β : Type} {s : State} {ts : List Token} {t : Token}

/-! ## Steps -/

@[simp] theorem runs_pure (a : α) (Q : α → State → Prop) : Runs (pure a) s Q ↔ Q a s := Iff.rfl

@[simp] theorem runs_bind (p : Parse α) (f : α → Parse β) (Q : β → State → Prop) :
    Runs (p >>= f) s Q ↔ Runs p s fun a t => Runs (f a) t Q := by
  show (match EStateM.bind p f s with | .ok a t => Q a t | .error _ _ => False) ↔ _
  unfold EStateM.bind Runs
  cases p s <;> rfl

theorem Runs.imp {p : Parse α} {Q Q' : α → State → Prop} (h : Runs p s Q)
    (hQ : ∀ a s', Q a s' → Q' a s') : Runs p s Q' := by
  unfold Runs at *
  cases hp : p s with
  | ok a s' => rw [hp] at h; exact hQ a s' h
  | error e s' => rw [hp] at h; exact h

@[simp] theorem runs_ite {c : Prop} [Decidable c] (p p' : Parse α) (Q : α → State → Prop) :
    Runs (if c then p else p') s Q ↔ if c then Runs p s Q else Runs p' s Q := by
  split <;> rfl

@[simp] theorem runs_get (Q : State → State → Prop) : Runs get s Q ↔ Q s s := Iff.rfl

@[simp] theorem runs_modify (f : State → State) (Q : PUnit → State → Prop) :
    Runs (modify f) s Q ↔ Q () (f s) := Iff.rfl

@[simp] theorem runs_flags (Q : Flags → State → Prop) : Runs flags s Q ↔ Q s.flags s := Iff.rfl

@[simp] theorem runs_dialect (Q : Dialect → State → Prop) : Runs dialect s Q ↔ Q s.dialect s := Iff.rfl

@[simp] theorem runs_token (Q : Token → State → Prop) : Runs token s Q ↔ Q s.cur.token s := Iff.rfl

@[simp] theorem runs_here (Q : Nat → State → Prop) : Runs here s Q ↔ Q s.cur.start s := Iff.rfl

@[simp] theorem runs_prevStop (Q : Nat → State → Prop) : Runs prevStop s Q ↔ Q s.prevStop s := Iff.rfl

@[simp] theorem runs_newlineBefore (Q : Bool → State → Prop) :
    Runs newlineBefore s Q ↔ Q s.cur.newlineBefore s := Iff.rfl

@[simp] theorem runs_is (m : Mark) (Q : Bool → State → Prop) :
    Runs (is m) s Q ↔ Q (s.cur.token.isMark m) s := Iff.rfl

@[simp] theorem runs_isWord (w : String) (Q : Bool → State → Prop) :
    Runs (isWord w) s Q ↔ Q (s.cur.token.isWord w) s := Iff.rfl

@[simp] theorem runs_atEnd (Q : Bool → State → Prop) :
    Runs atEnd s Q ↔ Q (s.cur.token == .endOfText) s := Iff.rfl

/-- Is a token one of these marks? -/
def Token.isMarkOf (marks : List Mark) : Token → Bool
  | .mark m => marks.contains m
  | _ => false

/-- Is a token one of these words? -/
def Token.isWordOf (words : List String) : Token → Bool
  | .word w _ => words.contains w
  | _ => false

@[simp] theorem runs_isOneOf (marks : List Mark) (Q : Bool → State → Prop) :
    Runs (isOneOf marks) s Q ↔ Q (s.cur.token.isMarkOf marks) s := by
  unfold isOneOf
  simp only [runs_bind, runs_token]
  cases s.cur.token <;> rfl

@[simp] theorem runs_isWordOf (words : List String) (Q : Bool → State → Prop) :
    Runs (isWordOf words) s Q ↔ Q (s.cur.token.isWordOf words) s := by
  unfold Reader.isWordOf
  simp only [runs_bind, runs_token]
  cases s.cur.token <;> rfl

/-- A handler that never ends well leaves only the ends of what it handles. -/
theorem runs_tryCatch {p : Parse α} {handle : Fault → Parse α} {Q : α → State → Prop}
    (h : ∀ e t, ¬ Runs (handle e) t Q) : Runs (tryCatch p handle) s Q ↔ Runs p s Q := by
  have htry : tryCatch p handle s = match p s with
      | .ok a t => .ok a t
      | .error e t => handle e t := by
    show EStateM.tryCatch p handle s = _
    unfold EStateM.tryCatch
    cases p s <;> rfl
  cases hp : p s with
  | ok a t =>
    rw [Runs, Runs, htry, hp]
  | error e t =>
    rw [Runs, htry, hp]
    exact iff_of_false (h e t) (by rw [Runs, hp]; exact id)

@[simp] theorem runs_within (change : Flags → Flags) (p : Parse α) (Q : α → State → Prop) :
    Runs (within change p) s Q ↔ Runs p { s with flags := change s.flags } fun a t =>
      Q a { t with flags := s.flags } := by
  unfold within
  simp only [runs_bind, runs_flags, runs_modify, runs_pure]
  refine runs_tryCatch fun e t h => ?_
  rw [runs_bind, runs_modify] at h
  exact h

theorem runs_caught {p : Parse α} {Q : Except Fault α → State → Prop}
    (h : Runs p s fun a t => Q (.ok a) t) : Runs (caught p) s Q := by
  unfold Runs caught at *
  cases hp : p s with
  | ok a t => rw [hp] at h; exact h
  | error e t => rw [hp] at h; exact h.elim

/-- A trial without a result has not happened. -/
theorem runs_attempt_none {p : Parse (Option α)} {Q : Option α → State → Prop}
    (h : Runs p { s with flags := { s.flags with silent := true } } fun a _ => a = none)
    (hQ : Q none s) : Runs (attempt? p) s Q := by
  unfold Runs attempt? at *
  cases hp : p { s with flags := { s.flags with silent := true } } with
  | ok a t =>
    rw [hp] at h
    obtain rfl : a = none := h
    exact hQ
  | error e t => rw [hp] at h; exact h.elim

/-! ## Tokens -/

theorem runs_bump (h : At (t :: ts) s) {Q : PUnit → State → Prop} (hQ : ∀ s', At ts s' → Q () s') :
    Runs bump s Q := by
  unfold bump
  simp only [runs_bind, runs_get]
  rcases h.ahead with ha | ha
  · rw [ha]
    simp only [h.anglesApart]
    rw [h.next.faults]
    exact hQ _ ⟨h.next, Or.inl rfl, h.calm, h.noted⟩
  · rw [ha]
    exact hQ _ ⟨h.next, Or.inl rfl, h.calm, h.noted⟩

theorem runs_peek (h : At (t :: ts) s) {Q : Lexed → State → Prop}
    (hQ : ∀ l s', Yields ts l → At (t :: ts) s' → Q l s') :
    Runs peek s Q := by
  unfold peek
  simp only [runs_bind, runs_get]
  rcases h.ahead with ha | ha
  · rw [ha]
    simp only [h.anglesApart, runs_bind]
    rw [h.next.faults]
    exact hQ _ _ h.next ⟨h.yields, Or.inr rfl, h.calm, h.noted⟩
  · rw [ha]
    exact hQ _ _ h.next h

theorem runs_eat {m : Mark} (h : At (.mark m :: ts) s) {Q : Bool → State → Prop}
    (hQ : ∀ s', At ts s' → Q true s') : Runs (eat m) s Q := by
  unfold eat
  simp only [runs_bind, runs_is, h.token, Token.isMark, BEq.rfl, if_true]
  exact runs_bump h fun s' h' => hQ s' h'

@[simp] theorem runs_eat_other {m : Mark} (h : s.cur.token.isMark m = false) (Q : Bool → State → Prop) :
    Runs (eat m) s Q ↔ Q false s := by
  simp [eat, h]

theorem runs_expect {m : Mark} (h : At (.mark m :: ts) s) {Q : PUnit → State → Prop}
    (hQ : ∀ s', At ts s' → Q () s') : Runs (expect m) s Q := by
  unfold expect
  simp only [runs_bind]
  refine runs_eat h fun s' h' => ?_
  simpa using hQ s' h'

@[simp] theorem runs_eatWord_other {w : String} (h : s.cur.token.isWord w = false)
    (Q : Bool → State → Prop) : Runs (eatWord w) s Q ↔ Q false s := by
  simp [eatWord, h]

theorem runs_peekIsWord_other {w : String} {t' : Token} (h : At (t :: t' :: ts) s)
    (hw : t'.isWord w = false) {Q : Bool → State → Prop}
    (hQ : ∀ s', At (t :: t' :: ts) s' → Q false s') : Runs (peekIsWord w) s Q := by
  unfold peekIsWord
  simp only [runs_bind]
  refine runs_peek h fun l s' hl h' => ?_
  rw [hl.1, hw]
  exact hQ s' h'

theorem runs_repeat {n : Nat} {step : α → Parse (α ⊕ β)} {a : α} {Q : β → State → Prop}
    (h : Runs (step a) s fun r s' => r.elim (fun a => Runs (repeatUntil n step a) s' Q)
      (fun b => Q b s')) :
    Runs (repeatUntil (n + 1) step a) s Q := by
  rw [repeatUntil, runs_bind]
  refine h.imp fun r s' hr => ?_
  cases r with
  | inl a => exact hr
  | inr b => exact hr

/-- A loop whose first step is its last. -/
theorem runs_repeat_stop {n : Nat} {step : α → Parse (α ⊕ β)} {a : α}
    {Q : β → State → Prop} (hn : 0 < n) (h : Runs (step a) s fun r s' => ∃ b, r = .inr b ∧ Q b s') :
    Runs (repeatUntil n step a) s Q := by
  obtain ⟨n, rfl⟩ := Nat.exists_eq_succ_of_ne_zero (Nat.ne_of_gt hn)
  refine runs_repeat (h.imp ?_)
  rintro _ s' ⟨b, rfl, hb⟩
  exact hb

/-! ## Rules -/

/-- In front of `ts` and a token that may end them, a rule passes `ts` and has such a result. -/
def Reads (p : Parse α) (ts : List Token) (ends : Token → Prop) (P : α → Prop) : Prop :=
  ∀ t rest s, ends t → At (ts ++ t :: rest) s → Runs p s fun a s' => P a ∧ At (t :: rest) s'

theorem Reads.runs {p : Parse α} {ends : Token → Prop} {P : α → Prop} (hp : Reads p ts ends P)
    {rest : List Token} (ht : ends t) (h : At (ts ++ t :: rest) s) {Q : α → State → Prop}
    (hQ : ∀ a s', P a → At (t :: rest) s' → Q a s') :
    Runs p s Q :=
  (hp t rest s ht h).imp fun a s' h => hQ a s' h.1 h.2

/-- Lists of tokens with commas between them. -/
def separated (parts : List (List Token)) : List Token := [Token.mark .comma].intercalate parts

/-- A loop over elements with commas between them collects what its steps give. -/
theorem separated_loop (spell : β → List Token) (P : β → α → Prop) (close : Mark)
    {step : List α → Parse (List α ⊕ List α × Option Nat)}
    (hstop : ∀ acc rest s, At (.mark close :: rest) s →
      Runs (step acc) s fun r s' => r = .inr (acc.reverse, none) ∧ At (.mark close :: rest) s') :
    ∀ {elements : List β},
    (∀ b ∈ elements, ∀ acc rest s, At (spell b ++ .mark close :: rest) s →
      Runs (step acc) s fun r s' => (∃ a, P b a ∧ r = .inr ((a :: acc).reverse, none)) ∧
        At (.mark close :: rest) s') →
    (∀ b ∈ elements, ∀ acc t rest s, t.isMark close = false →
      At (spell b ++ .mark .comma :: t :: rest) s →
      Runs (step acc) s fun r s' => (∃ a, P b a ∧ r = .inl (a :: acc)) ∧ At (t :: rest) s') →
    (∀ b ∈ elements, ∃ t ts, spell b = t :: ts ∧ t.isMark close = false) →
    ∀ {n : Nat} {acc : List α} {rest : List Token} {s : State}, elements.length < n →
      At (separated (elements.map spell) ++ .mark close :: rest) s →
      Runs (repeatUntil n step acc) s fun r s' =>
        (∃ as, List.Forall₂ P elements as ∧ r = (acc.reverse ++ as, none)) ∧
        At (.mark close :: rest) s' := by
  intro elements
  induction elements with
  | nil =>
    intro _ _ _ n acc rest s hn h
    refine runs_repeat_stop hn ((hstop acc rest s h).imp ?_)
    rintro r s' ⟨rfl, h'⟩
    exact ⟨_, rfl, ⟨[], .nil, by simp⟩, h'⟩
  | cons b es ih =>
    intro hlast hmore hstart n acc rest s hn h
    obtain ⟨n, rfl⟩ :=
      Nat.exists_eq_succ_of_ne_zero (Nat.ne_of_gt (Nat.lt_of_le_of_lt (Nat.zero_le _) hn))
    cases es with
    | nil =>
      refine runs_repeat_stop (Nat.succ_pos n)
        ((hlast b (by simp) acc rest s (by simpa [separated] using h)).imp ?_)
      rintro r s' ⟨⟨a, ha, rfl⟩, h'⟩
      exact ⟨_, rfl, ⟨[a], .cons ha .nil, by simp⟩, h'⟩
    | cons b' es =>
      obtain ⟨t, ts, hb', ht⟩ := hstart b' (by simp)
      -- the element after the comma begins with a token that does not close the list
      have hnext : separated ((b' :: es).map spell) ++ .mark close :: rest =
          t :: (ts ++ (separated ([] :: es.map spell) ++ .mark close :: rest)) := by
        cases es <;> simp [separated, hb', List.intercalate]
      have h' : At (spell b ++ .mark .comma ::
          (separated ((b' :: es).map spell) ++ .mark close :: rest)) s := by
        simpa [separated, List.intercalate] using h
      rw [hnext] at h'
      refine runs_repeat ((hmore b (by simp) acc t _ s ht h').imp ?_)
      rintro r s' ⟨⟨a, ha, rfl⟩, h'⟩
      rw [← hnext] at h'
      refine (ih (fun b hb => hlast b (by simp [hb])) (fun b hb => hmore b (by simp [hb]))
        (fun b hb => hstart b (by simp [hb])) (Nat.lt_of_succ_lt_succ hn) h').imp ?_
      rintro r s' ⟨⟨as, has, rfl⟩, h'⟩
      exact ⟨⟨a :: as, .cons ha has, by simp⟩, h'⟩

/-- A list with commas reads its elements. -/
theorem commaList_runs {r : Rules} {close : Mark} {element : Parse α} {spell : β → List Token}
    {P : β → α → Prop} {elements : List β} (hclose : close ≠ .comma)
    (he : ∀ b ∈ elements, Reads element (spell b) (fun t => t = .mark .comma ∨ t = .mark close) (P b))
    (hstart : ∀ b ∈ elements, ∃ t ts, spell b = t :: ts ∧ t.isMark close = false)
    (hfuel : elements.length < r.fuel) {rest : List Token}
    (h : At (separated (elements.map spell) ++ .mark close :: rest) s) :
    Runs (commaList r close element) s fun found s' =>
      (∃ as, List.Forall₂ P elements as ∧ found = (as, none)) ∧ At (.mark close :: rest) s' := by
  have hcomma : Token.isMark close (.mark .comma) = false := by
    simpa [Token.isMark] using hclose.symm
  have hself : Token.isMark close (.mark close) = true := by simp [Token.isMark]
  have hfirst : ∀ b ∈ elements, ∀ {after s}, At (spell b ++ after) s →
      s.cur.token.isMark close = false := by
    intro b hb after s h
    obtain ⟨t, ts, hs, ht⟩ := hstart b hb
    rw [hs] at h
    rw [h.token, ht]
  unfold commaList
  refine separated_loop spell P close ?_ ?_ ?_ hstart hfuel h
  · intro acc rest s h
    simp only [runs_bind, runs_is, h.token, hself, if_true, runs_pure]
    exact ⟨trivial, h⟩
  · intro b hb acc rest s h
    simp only [runs_bind, runs_is, hfirst b hb h, Bool.false_eq_true, if_false]
    refine (he b hb).runs (Or.inr rfl) h fun a s' ha h' => ?_
    simp only [h'.token, hself, if_true, runs_pure]
    exact ⟨⟨a, ha, rfl⟩, h'⟩
  · intro b hb acc t rest s ht h
    simp only [runs_bind, runs_is, hfirst b hb h, Bool.false_eq_true, if_false]
    refine (he b hb).runs (Or.inl rfl) h fun a s' ha h' => ?_
    simp only [runs_bind, runs_is, h'.token, hcomma, Bool.false_eq_true, if_false, runs_here]
    refine runs_expect h' fun s'' h'' => ?_
    simp only [h''.token, ht, Bool.false_eq_true, if_false, runs_pure]
    exact ⟨⟨a, ha, rfl⟩, h''⟩

/-- A list of items, each read by itself, up to where they are done. -/
theorem listUntil_runs {r : Rules} {done : Parse Bool} {element : Parse α} {spell : β → List Token}
    {P : β → α → Prop} {last : List Token}
    (hdone : ∀ s, At last s → Runs done s fun b s' => b = true ∧ At last s') :
    ∀ {elements : List β},
    (∀ b ∈ elements, ∀ rest s, At (spell b ++ rest) s → Runs done s fun b s' => b = false ∧ s' = s) →
    (∀ b ∈ elements, ∀ rest s, At (spell b ++ rest) s → Runs element s fun a s' => P b a ∧ At rest s') →
    elements.length < r.fuel → At (elements.flatMap spell ++ last) s →
      Runs (listUntil r done element) s fun as s' => List.Forall₂ P elements as ∧ At last s' := by
  suffices ∀ {elements : List β},
      (∀ b ∈ elements, ∀ rest s, At (spell b ++ rest) s → Runs done s fun b s' => b = false ∧ s' = s) →
      (∀ b ∈ elements, ∀ rest s, At (spell b ++ rest) s → Runs element s fun a s' =>
        P b a ∧ At rest s') →
      ∀ {n : Nat} {acc : List α} {s : State}, elements.length < n →
        At (elements.flatMap spell ++ last) s →
        Runs (repeatUntil n (fun acc : List α => do
          if ← done then return .inr acc.reverse
          return .inl ((← element) :: acc)) acc) s fun found s' =>
            (∃ as, List.Forall₂ P elements as ∧ found = acc.reverse ++ as) ∧ At last s' by
    intro elements hmore helement hfuel h
    refine (this hmore helement hfuel h).imp ?_
    rintro found s' ⟨⟨as, has, rfl⟩, h'⟩
    exact ⟨has, h'⟩
  intro elements
  induction elements with
  | nil =>
    intro _ _ n acc s hn h
    refine runs_repeat_stop hn ?_
    simp only [runs_bind]
    refine (hdone s h).imp ?_
    rintro b s' ⟨rfl, h'⟩
    simp only [if_true, runs_pure]
    exact ⟨_, rfl, ⟨[], .nil, by simp⟩, h'⟩
  | cons b es ih =>
    intro hmore helement n acc s hn h
    obtain ⟨n, rfl⟩ :=
      Nat.exists_eq_succ_of_ne_zero (Nat.ne_of_gt (Nat.lt_of_le_of_lt (Nat.zero_le _) hn))
    rw [List.flatMap_cons, List.append_assoc] at h
    refine runs_repeat ?_
    simp only [runs_bind]
    refine (hmore b (by simp) _ s h).imp ?_
    rintro _ _ ⟨rfl, rfl⟩
    simp only [Bool.false_eq_true, if_false, runs_bind]
    refine (helement b (by simp) _ _ h).imp ?_
    rintro a s' ⟨ha, h'⟩
    simp only [runs_pure, Sum.elim_inl]
    refine (ih (fun b hb => hmore b (by simp [hb])) (fun b hb => helement b (by simp [hb]))
      (Nat.lt_of_succ_lt_succ hn) h').imp ?_
    rintro found s' ⟨⟨as, has, rfl⟩, h'⟩
    exact ⟨⟨a :: as, .cons ha has, by simp⟩, h'⟩

end

end RouteShortcuts.Script
