/-
  RouteShortcuts.Proofs.Session.Passes — passes over one session that overlap.

  A pass takes its number (`begin`), searches for as long as it likes, and then fails, or commits one
  result that carries its number. A pass that is a rescan reads what is held after its commit
  (`finish`) and returns that. What is held may also be read at any moment (`read`). Each event is one
  step of the session, so a list of events is one order in which the steps of any number of passes
  may come; an event that no pass is ready for does nothing. `passes` and `reads` record what
  happened: the passes in the order they began, and what was read, in order.

  Proved of every session and every order of events:
  - `inv`: numbers rise in the order the passes began; what is held is what some pass committed, and
    no pass that committed has a number above it.
  - `run_current_le`: the number of what is held never falls.
  - `overlapping_passes_in_order`: hence reads never go back, a pass that committed is never followed
    by the result of one that began before it, and a rescan returns its own result unless a later pass
    committed first.
  - `rescan_run`, `rescan_run_error`: a rescan that nothing interrupts is such a list of events.
-/

import RouteShortcuts.Session

namespace RouteShortcuts.Passes

open RouteShortcuts.Files

/-- How far a pass has come. -/
inductive Stage where
  | searching
  | failed
  | committed (own : Snapshot)
  | returned (own seen : Snapshot)
  deriving DecidableEq, Repr

/-- The result that a pass committed. -/
def Stage.own? : Stage → Option Snapshot
  | .committed own => some own
  | .returned own _ => some own
  | _ => none

structure Pass where
  number : Nat
  stage : Stage
  deriving DecidableEq, Repr

structure St where
  session : Session
  passes : List Pass
  reads : List Snapshot

inductive Ev where
  | begin
  | fail (i : Nat)
  | commit (i : Nat) (found : Snapshot)
  | finish (i : Nat)
  | read

def step (s : St) : Ev → St
  | .begin =>
    let (number, session) := s.session.beginPass
    { s with session, passes := s.passes ++ [⟨number, .searching⟩] }
  | .fail i =>
    match s.passes[i]? with
    | some ⟨number, .searching⟩ => { s with passes := s.passes.set i ⟨number, .failed⟩ }
    | _ => s
  | .commit i found =>
    match s.passes[i]? with
    | some ⟨number, .searching⟩ =>
      let own := { found with generation := number }
      { s with session := (s.session.commit own).2, passes := s.passes.set i ⟨number, .committed own⟩ }
    | _ => s
  | .finish i =>
    match s.passes[i]? with
    | some ⟨number, .committed own⟩ =>
      { s with
        passes := s.passes.set i ⟨number, .returned own s.session.current⟩
        reads := s.reads ++ [s.session.current] }
    | _ => s
  | .read => { s with reads := s.reads ++ [s.session.current] }

def run (s : St) (es : List Ev) : St := es.foldl step s

/-- A session that is new, its passes numbered from the one after `n`. -/
def start (root : String) (options : Options) (n : Nat) : St :=
  ⟨({ root, options } : Session).startingAfter n, [], []⟩

def numbers (s : St) : List Nat := s.passes.map Pass.number

/-! ## Commits -/

theorem commit_lastPass (s : Session) (r : Snapshot) : (s.commit r).2.lastPass = s.lastPass := by
  unfold Session.commit; split <;> rfl

/-- A commit keeps what is held, if that is as new, or puts the result in its place. -/
theorem commit_current (s : Session) (r : Snapshot) :
    (r.generation ≤ s.current.generation ∧ (s.commit r).2.current = s.current) ∨
      (s.current.generation < r.generation ∧ (s.commit r).2.current = r) := by
  unfold Session.commit
  split
  · exact Or.inl ⟨‹_›, rfl⟩
  · exact Or.inr ⟨by omega, rfl⟩

/-! ## What is held -/

/-- A step keeps what is held, or puts in a result with a higher number. -/
theorem step_current (s : St) (e : Ev) :
    (step s e).session.current = s.session.current ∨
      s.session.current.generation < (step s e).session.current.generation := by
  cases e with
  | begin => exact Or.inl rfl
  | fail i => simp only [step]; split <;> exact Or.inl rfl
  | commit i found =>
    simp only [step]
    split
    · rename_i number _
      rcases commit_current s.session { found with generation := number } with ⟨_, h⟩ | ⟨hlt, h⟩
      · exact Or.inl h
      · right; simp only [h]; exact hlt
    · exact Or.inl rfl
  | finish i => simp only [step]; split <;> exact Or.inl rfl
  | read => exact Or.inl rfl

theorem step_current_le (s : St) (e : Ev) :
    s.session.current.generation ≤ (step s e).session.current.generation := by
  rcases step_current s e with h | h
  · exact Nat.le_of_eq (congrArg Snapshot.generation h.symm)
  · exact Nat.le_of_lt h

theorem run_current_le (s : St) (es : List Ev) :
    s.session.current.generation ≤ (run s es).session.current.generation := by
  induction es generalizing s with
  | nil => exact Nat.le_refl _
  | cons e es ih => exact Nat.le_trans (step_current_le s e) (ih (step s e))

/-! ## The invariant -/

/-- What holds of a session whose numbers start after `n`. -/
structure Inv (n : Nat) (s : St) : Prop where
  rising : (numbers s).Pairwise (· < ·)
  above : ∀ k ∈ numbers s, n < k
  taken : ∀ k ∈ numbers s, k ≤ s.session.lastPass
  base : n ≤ s.session.lastPass
  /-- A committed result carries the number of its pass, and what is held is as new. -/
  committed : ∀ (i : Nat) (p : Pass) (own : Snapshot), s.passes[i]? = some p → p.stage.own? = some own →
    own.generation = p.number ∧ p.number ≤ s.session.current.generation
  held : s.session.current.generation = 0 ∨
    ∃ (i : Nat) (p : Pass), s.passes[i]? = some p ∧ p.stage.own? = some s.session.current
  readsRising : s.reads.Pairwise (fun a b => a.generation ≤ b.generation)
  readsBelow : ∀ r ∈ s.reads, r.generation ≤ s.session.current.generation

theorem start_inv (root : String) (options : Options) (n : Nat) : Inv n (start root options n) := by
  refine ⟨?_, ?_, ?_, Nat.le_refl _, ?_, Or.inl rfl, ?_, ?_⟩ <;> simp [start, numbers]

/-! ### One pass goes on -/

theorem map_number_set {l : List Pass} {i : Nat} {p : Pass} (h : l[i]? = some p) (stage : Stage) :
    (l.set i ⟨p.number, stage⟩).map Pass.number = l.map Pass.number := by
  obtain ⟨hi, rfl⟩ := List.getElem?_eq_some_iff.mp h
  rw [List.map_set]
  apply List.ext_getElem?
  intro j
  rw [List.getElem?_set]
  split
  · rename_i hj; subst hj; simp [hi]
  · rfl

/-- The pass at `j` after the one at `i` went on to another stage. -/
theorem getElem?_set_stage {l : List Pass} {i j : Nat} {p q : Pass} (h : l[i]? = some p) (stage : Stage)
    (hj : (l.set i ⟨p.number, stage⟩)[j]? = some q) :
    (j = i ∧ q = ⟨p.number, stage⟩) ∨ (j ≠ i ∧ l[j]? = some q) := by
  obtain ⟨hi, -⟩ := List.getElem?_eq_some_iff.mp h
  rw [List.getElem?_set] at hj
  split at hj
  · rename_i e; subst e; left; simpa [hi, eq_comm] using hj
  · rename_i e; exact Or.inr ⟨Ne.symm e, hj⟩

theorem getElem?_set_ne_stage {l : List Pass} {i j : Nat} {q r : Pass}
    (hj : l[j]? = some q) (hne : j ≠ i) : (l.set i r)[j]? = some q := by
  rw [List.getElem?_set_ne (Ne.symm hne)]; exact hj

/-- A pass that fails or returns keeps the invariant: what it committed is what it had committed. -/
theorem set_inv {n : Nat} {s : St} (h : Inv n s) {i : Nat} {p : Pass} (hp : s.passes[i]? = some p)
    (stage : Stage) (hown : stage.own? = p.stage.own?) :
    Inv n { s with passes := s.passes.set i ⟨p.number, stage⟩ } := by
  have hnum : numbers { s with passes := s.passes.set i ⟨p.number, stage⟩ } = numbers s :=
    map_number_set hp stage
  refine ⟨hnum ▸ h.rising, hnum ▸ h.above, hnum ▸ h.taken, h.base, ?_, ?_, h.readsRising, h.readsBelow⟩
  · intro j q own hq ho
    rcases getElem?_set_stage hp stage hq with ⟨rfl, rfl⟩ | ⟨_, hq⟩
    · exact h.committed j p own hp (hown ▸ ho)
    · exact h.committed j q own hq ho
  · rcases h.held with h0 | ⟨j, q, hq, ho⟩
    · exact Or.inl h0
    · right
      by_cases e : j = i
      · subst e
        have hqp : q = p := by rw [hp] at hq; injection hq with hq; exact hq.symm
        obtain ⟨hi, -⟩ := List.getElem?_eq_some_iff.mp hp
        exact ⟨j, ⟨p.number, stage⟩, by simp [hi], by rw [hown, ← hqp]; exact ho⟩
      · exact ⟨j, q, getElem?_set_ne_stage hq e, ho⟩

theorem read_inv {n : Nat} {s : St} (h : Inv n s) :
    Inv n { s with reads := s.reads ++ [s.session.current] } := by
  refine ⟨h.rising, h.above, h.taken, h.base, h.committed, h.held, ?_, ?_⟩
  · rw [List.pairwise_append]
    refine ⟨h.readsRising, by simp, fun a ha b hb => ?_⟩
    simp at hb; subst hb
    exact h.readsBelow a ha
  · intro r hr
    rcases List.mem_append.mp hr with hr | hr
    · exact h.readsBelow r hr
    · simp at hr; subst hr; exact Nat.le_refl _

theorem begin_inv {n : Nat} {s : St} (h : Inv n s) : Inv n (step s .begin) := by
  have hnum : numbers (step s .begin) = numbers s ++ [s.session.lastPass + 1] := by
    simp [step, numbers, Session.beginPass]
  have hlast : (step s .begin).session.lastPass = s.session.lastPass + 1 := rfl
  refine ⟨?_, ?_, ?_, ?_, ?_, ?_, h.readsRising, h.readsBelow⟩
  · rw [hnum, List.pairwise_append]
    refine ⟨h.rising, by simp, fun a ha b hb => ?_⟩
    simp at hb; subst hb
    have := h.taken a ha; omega
  · intro k hk
    rw [hnum] at hk
    rcases List.mem_append.mp hk with hk | hk
    · exact h.above k hk
    · simp at hk; have := h.base; omega
  · intro k hk
    rw [hnum] at hk; rw [hlast]
    rcases List.mem_append.mp hk with hk | hk
    · have := h.taken k hk; omega
    · simp at hk; omega
  · have := h.base; rw [hlast]; omega
  · intro i p own hp ho
    simp only [step, Session.beginPass, List.getElem?_append] at hp
    split at hp
    · exact h.committed i p own hp ho
    · have : p = ⟨s.session.lastPass + 1, .searching⟩ := by
        have := List.mem_of_getElem? hp
        simpa using this
      subst this; cases ho
  · rcases h.held with h0 | ⟨i, p, hp, ho⟩
    · exact Or.inl h0
    · obtain ⟨hi, -⟩ := List.getElem?_eq_some_iff.mp hp
      refine Or.inr ⟨i, p, ?_, ho⟩
      show (s.passes ++ [_])[i]? = some p
      rw [List.getElem?_append_left hi]; exact hp

/-- A pass that is searching commits a result that carries its number. -/
theorem commit_inv {n : Nat} {s : St} (h : Inv n s) {i : Nat} {p : Pass} (hp : s.passes[i]? = some p)
    (hs : p.stage.own? = none) (own : Snapshot) (hg : own.generation = p.number) :
    Inv n { s with
      session := (s.session.commit own).2
      passes := s.passes.set i ⟨p.number, .committed own⟩ } := by
  have hnum := map_number_set hp (.committed own)
  have hlast := commit_lastPass s.session own
  have hcur := commit_current s.session own
  have hle : s.session.current.generation ≤ (s.session.commit own).2.current.generation := by
    rcases hcur with ⟨_, he⟩ | ⟨hlt, he⟩
    · exact Nat.le_of_eq (by rw [he])
    · rw [he]
      exact Nat.le_of_lt hlt
  refine ⟨?_, ?_, ?_, ?_, ?_, ?_, h.readsRising, ?_⟩
  · show (List.map Pass.number _).Pairwise _
    rw [hnum]; exact h.rising
  · show ∀ k ∈ List.map Pass.number _, _
    rw [hnum]; exact h.above
  · show ∀ k ∈ List.map Pass.number _, k ≤ (s.session.commit own).2.lastPass
    rw [hnum, hlast]; exact h.taken
  · show n ≤ (s.session.commit own).2.lastPass
    rw [hlast]; exact h.base
  · intro j q r hq ho
    rcases getElem?_set_stage hp _ hq with ⟨rfl, rfl⟩ | ⟨_, hq⟩
    · cases ho
      refine ⟨hg, ?_⟩
      rw [← hg]
      rcases hcur with ⟨hc, he⟩ | ⟨_, he⟩
      · show _ ≤ (s.session.commit own).2.current.generation
        rw [he]; exact hc
      · show _ ≤ (s.session.commit own).2.current.generation
        exact Nat.le_of_eq (by rw [he])
    · have := h.committed j q r hq ho
      exact ⟨this.1, Nat.le_trans this.2 hle⟩
  · obtain ⟨hi, -⟩ := List.getElem?_eq_some_iff.mp hp
    rcases hcur with ⟨_, he⟩ | ⟨_, he⟩
    · rw [he]
      rcases h.held with h0 | ⟨j, q, hq, ho⟩
      · exact Or.inl h0
      · -- the pass that commits now had committed nothing, so this is another one
        have hne : j ≠ i := by
          rintro rfl
          rw [hp] at hq; injection hq with hq; subst hq
          rw [hs] at ho; cases ho
        exact Or.inr ⟨j, q, getElem?_set_ne_stage hq hne, ho⟩
    · rw [he]
      exact Or.inr ⟨i, ⟨p.number, .committed own⟩, by simp [hi], rfl⟩
  · intro r hr
    exact Nat.le_trans (h.readsBelow r hr) hle

theorem step_inv {n : Nat} {s : St} (h : Inv n s) (e : Ev) : Inv n (step s e) := by
  cases e with
  | begin => exact begin_inv h
  | fail i =>
    simp only [step]
    split
    · rename_i hp; exact set_inv h hp .failed rfl
    · exact h
  | commit i found =>
    simp only [step]
    split
    · rename_i hp; exact commit_inv h hp rfl _ rfl
    · exact h
  | finish i =>
    simp only [step]
    split
    · rename_i own hp; exact read_inv (set_inv h hp (.returned own s.session.current) rfl)
    · exact h
  | read => exact read_inv h

theorem run_inv {n : Nat} {s : St} (h : Inv n s) (es : List Ev) : Inv n (run s es) := by
  induction es generalizing s with
  | nil => exact h
  | cons e es ih => exact ih (step_inv h e)

theorem inv (root : String) (options : Options) (n : Nat) (es : List Ev) :
    Inv n (run (start root options n) es) := run_inv (start_inv root options n) es

/-! ## What follows -/

/-- Of two passes, the one that began first has the lower number. -/
theorem number_lt {n : Nat} {s : St} (h : Inv n s) {i j : Nat} {p q : Pass} (hij : i < j)
    (hp : s.passes[i]? = some p) (hq : s.passes[j]? = some q) : p.number < q.number := by
  have hr := h.rising
  unfold numbers at hr
  rw [List.pairwise_map, List.pairwise_iff_getElem] at hr
  obtain ⟨hi, rfl⟩ := List.getElem?_eq_some_iff.mp hp
  obtain ⟨hj, rfl⟩ := List.getElem?_eq_some_iff.mp hq
  exact hr i j hi hj hij

/-- While no later pass has committed, what a pass committed is held. -/
theorem held_eq_own {n : Nat} {s : St} (h : Inv n s) {i : Nat} {p : Pass} {own : Snapshot}
    (hp : s.passes[i]? = some p) (ho : p.stage.own? = some own)
    (hlast : ∀ q ∈ s.passes, p.number < q.number → q.stage.own? = none) : s.session.current = own := by
  have hpos := h.above p.number (List.mem_map.mpr ⟨p, List.mem_of_getElem? hp, rfl⟩)
  have hle := (h.committed i p own hp ho).2
  rcases h.held with h0 | ⟨j, q, hq, hc⟩
  · omega
  · have hg := (h.committed j q _ hq hc).1
    rcases Nat.lt_trichotomy i j with hij | rfl | hij
    · -- a later pass cannot have committed
      have := hlast q (List.mem_of_getElem? hq) (number_lt h hij hp hq)
      rw [hc] at this; cases this
    · rw [hp] at hq; injection hq with hq; subst hq
      rw [ho] at hc; injection hc with hc; exact hc.symm
    · -- the result of an earlier pass would have too low a number
      have := number_lt h hij hq hp
      omega

/-- A pass that committed is never followed by the result of one that began before it. -/
theorem earlier_never_held {n : Nat} {s : St} (h : Inv n s) {i j : Nat} {p q : Pass} (hij : i < j)
    (hp : s.passes[i]? = some p) (hq : s.passes[j]? = some q) (hc : q.stage.own?.isSome = true)
    (later : List Ev) : (run s later).session.current.generation ≠ p.number := by
  obtain ⟨own, ho⟩ := Option.isSome_iff_exists.mp hc
  have h1 := number_lt h hij hp hq
  have h2 := (h.committed j q own hq ho).2
  have h3 := run_current_le s later
  omega

/-- What a rescan returns when it reads after its commit. -/
theorem finish_returns {n : Nat} {s : St} (h : Inv n s) {i k : Nat} {own : Snapshot}
    (hp : s.passes[i]? = some ⟨k, .committed own⟩) :
    ∃ seen, (step s (.finish i)).passes[i]? = some ⟨k, .returned own seen⟩ ∧ k ≤ seen.generation ∧
      ((∀ q ∈ s.passes, k < q.number → q.stage.own? = none) → seen = own) := by
  obtain ⟨hi, -⟩ := List.getElem?_eq_some_iff.mp hp
  refine ⟨s.session.current, ?_, (h.committed i _ own hp rfl).2, held_eq_own h hp rfl⟩
  simp only [step, hp]
  simp [hi]

/-! ## Rescans -/

theorem getElem?_snoc (l : List Pass) (p : Pass) : (l ++ [p])[l.length]? = some p := by simp

theorem set_snoc (l : List Pass) (p q : Pass) : (l ++ [p]).set l.length q = l ++ [q] := by simp

/-- A rescan that nothing interrupts takes a number, commits and reads. -/
theorem rescan_run {d : Disk} {s : St} {seen : Snapshot} {after : Session}
    (h : s.session.rescan d = (.ok seen, after)) :
    ∃ found, run s [.begin, .commit s.passes.length found, .finish s.passes.length] =
      { session := after
        passes := s.passes ++ [⟨s.session.lastPass + 1,
          .returned { found with generation := s.session.lastPass + 1 } seen⟩]
        reads := s.reads ++ [seen] } := by
  simp only [Session.rescan, Session.beginPass] at h
  split at h
  · cases h
  · rename_i outcome _
    cases h
    refine ⟨Session.snapshot s.session 0 outcome, ?_⟩
    simp only [run, List.foldl_cons, List.foldl_nil, step, Session.beginPass, getElem?_snoc, set_snoc]
    rfl

/-- A rescan that fails takes a number and fails. -/
theorem rescan_run_error {d : Disk} {s : St} {fault : DiscoveryFault} {after : Session}
    (h : s.session.rescan d = (.error fault, after)) :
    run s [.begin, .fail s.passes.length] =
      { s with session := after, passes := s.passes ++ [⟨s.session.lastPass + 1, .failed⟩] } := by
  simp only [Session.rescan, Session.beginPass] at h
  split at h
  · cases h
    simp only [run, List.foldl_cons, List.foldl_nil, step, Session.beginPass, getElem?_snoc, set_snoc]
  · cases h

theorem fail_current (s : St) (i : Nat) : (step s (.fail i)).session.current = s.session.current := by
  simp only [step]; split <;> rfl

theorem rescan_error_current {d : Disk} {s : St} {fault : DiscoveryFault} {after : Session}
    (h : s.session.rescan d = (.error fault, after)) : after.current = s.session.current := by
  have hc := fail_current (step s .begin) s.passes.length
  have hr : step (step s .begin) (.fail s.passes.length) = _ := rescan_run_error h
  rw [hr] at hc
  exact hc

/-- Passes that overlap in any order: their numbers rise in the order they began, from above where the
session starts; reads never go back; the result of a pass is never held once one that began after it has
committed; a pass that fails changes nothing that is held; and a rescan returns a result that is as new
as its own, which is its own unless a later pass committed before it read. -/
theorem overlapping_passes_in_order (root : String) (options : Options) (n : Nat) (es : List Ev) :
    let s := run (start root options n) es
    (numbers s).Pairwise (· < ·) ∧ (∀ k ∈ numbers s, n < k) ∧
    s.reads.Pairwise (fun a b => a.generation ≤ b.generation) ∧
    (∀ (i j : Nat) (p q : Pass) (later : List Ev), i < j → s.passes[i]? = some p →
      s.passes[j]? = some q →
      q.stage.own?.isSome = true → (run s later).session.current.generation ≠ p.number) ∧
    (∀ i, (step s (.fail i)).session.current = s.session.current) ∧
    (∀ d fault after, s.session.rescan d = (.error fault, after) → after.current = s.session.current) ∧
    (∀ (i k : Nat) (own : Snapshot), s.passes[i]? = some ⟨k, .committed own⟩ → own.generation = k ∧
      ∃ seen, (step s (.finish i)).passes[i]? = some ⟨k, .returned own seen⟩ ∧ k ≤ seen.generation ∧
        ((∀ q ∈ s.passes, k < q.number → q.stage.own? = none) → seen = own)) := by
  intro s
  have h : Inv n s := inv root options n es
  refine ⟨h.rising, h.above, h.readsRising, ?_, ?_, ?_, ?_⟩
  · intro i j p q later hij hp hq hc
    exact earlier_never_held h hij hp hq hc later
  · exact fail_current s
  · intro d fault after hf
    exact rescan_error_current hf
  · intro i k own hp
    exact ⟨(h.committed i _ own hp rfl).1, finish_returns h hp⟩

end RouteShortcuts.Passes
