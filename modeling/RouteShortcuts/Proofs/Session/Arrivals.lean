/-
  RouteShortcuts.Proofs.Session.Arrivals — results that arrive at a session in any order.

  `Session.commit` takes any result, whether or not a pass of the session has its number. `arrived`
  records what it was handed, oldest first, and its answer. Between arrivals passes may begin, what is
  held may be read, and whole passes may run; a whole pass hands in its own result unless it fails.

  Proved of every session and every list of events:
  - `run_inv`: the answers say of each result whether its number is above 0 and above all earlier ones,
    and what is held is the first of those with the highest number (`Newest`).
  - `arrivals_decide`: so if no two numbers are the same, what is held does not depend on the order of
    arrival. Of two results with one number the first stays, so there the order counts.
-/

import Mathlib.Data.List.Nodup
import RouteShortcuts.Proofs.Session.Passes

namespace RouteShortcuts.Arrivals

open RouteShortcuts.Files

inductive Ev where
  | commit (found : Snapshot)
  | begin
  | read
  | rescan (d : Disk)

/-- A result that was handed to a session, and whether the session took it. -/
structure Arrival where
  found : Snapshot
  taken : Bool
  deriving DecidableEq, Repr

structure St where
  session : Session
  /-- Oldest first. -/
  arrived : List Arrival
  reads : List Snapshot

def commit (s : St) (found : Snapshot) : St :=
  let (taken, session) := s.session.commit found
  { s with session, arrived := s.arrived ++ [⟨found, taken⟩] }

def read (s : St) : St := { s with reads := s.reads ++ [s.session.current] }

def step (s : St) : Ev → St
  | .commit found => commit s found
  | .begin => { s with session := s.session.beginPass.2 }
  | .read => read s
  | .rescan d =>
    let (number, session) := s.session.beginPass
    match Scan.project d session.options session.root with
    | .error _ => { s with session }
    | .ok outcome => read (commit { s with session } (session.snapshot number outcome))

def run (s : St) (es : List Ev) : St := es.foldl step s

/-- A session that is new, its passes numbered from the one after `n`. -/
def start (root : String) (options : Options) (n : Nat) : St :=
  ⟨({ root, options } : Session).startingAfter n, [], []⟩

/-- What was handed in, oldest first. -/
def found (s : St) : List Snapshot := s.arrived.map Arrival.found

/-- The step of a whole pass is what `Session.rescan` does; what is read last is what it returns. -/
theorem step_rescan (s : St) (d : Disk) : (step s (.rescan d)).session = (s.session.rescan d).2 ∧
    ∀ seen, (s.session.rescan d).1 = .ok seen → (step s (.rescan d)).reads = s.reads ++ [seen] := by
  simp only [step, Session.rescan]
  cases Scan.project d s.session.beginPass.2.options s.session.beginPass.2.root with
  | error fault => exact ⟨rfl, fun seen h => by cases h⟩
  | ok outcome => exact ⟨rfl, fun seen h => by cases h; rfl⟩

/-! ## What is held -/

/-- What is held after these arrivals: the empty result if no number is above 0, or else the first of
those with the highest number. -/
def Newest (arrived : List Snapshot) (held : Snapshot) : Prop :=
  ((∀ c ∈ arrived, c.generation = 0) ∧ held = {}) ∨
    ∃ before after, arrived = before ++ held :: after ∧ 0 < held.generation ∧
      (∀ b ∈ before, b.generation < held.generation) ∧ (∀ a ∈ after, a.generation ≤ held.generation)

theorem Newest.le {arrived : List Snapshot} {held : Snapshot} (h : Newest arrived held) :
    ∀ c ∈ arrived, c.generation ≤ held.generation := by
  intro c hc
  rcases h with ⟨h0, -⟩ | ⟨before, after, rfl, -, hb, ha⟩
  · have := h0 c hc; omega
  · rcases List.mem_append.mp hc with hc | hc
    · exact Nat.le_of_lt (hb c hc)
    · rcases List.mem_cons.mp hc with rfl | hc
      · exact Nat.le_refl _
      · exact ha c hc

theorem Newest.mem_or {arrived : List Snapshot} {held : Snapshot} (h : Newest arrived held) :
    held = {} ∨ held ∈ arrived := by
  rcases h with ⟨-, rfl⟩ | ⟨before, after, rfl, -⟩
  · exact Or.inl rfl
  · exact Or.inr (by simp)

theorem Newest.lt_iff {arrived : List Snapshot} {held : Snapshot} (h : Newest arrived held) (n : Nat) :
    held.generation < n ↔ 0 < n ∧ ∀ c ∈ arrived, c.generation < n := by
  constructor
  · intro hn
    exact ⟨by omega, fun c hc => Nat.lt_of_le_of_lt (h.le c hc) hn⟩
  · rintro ⟨h0, hall⟩
    rcases h.mem_or with rfl | hm
    · exact h0
    · exact hall held hm

/-- One more arrival that is not above what is held changes nothing. -/
theorem Newest.keep {arrived : List Snapshot} {held c : Snapshot} (h : Newest arrived held)
    (hc : c.generation ≤ held.generation) : Newest (arrived ++ [c]) held := by
  rcases h with ⟨h0, rfl⟩ | ⟨before, after, rfl, hpos, hb, ha⟩
  · refine Or.inl ⟨?_, rfl⟩
    intro b hb
    rcases List.mem_append.mp hb with hb | hb
    · exact h0 b hb
    · rw [List.mem_singleton.mp hb]; exact Nat.le_zero.mp hc
  · refine Or.inr ⟨before, after ++ [c], by simp, hpos, hb, ?_⟩
    intro a hm
    rcases List.mem_append.mp hm with hm | hm
    · exact ha a hm
    · rw [List.mem_singleton.mp hm]; exact hc

/-- One that is above it is held from then on. -/
theorem Newest.replace {arrived : List Snapshot} {held c : Snapshot} (h : Newest arrived held)
    (hc : held.generation < c.generation) : Newest (arrived ++ [c]) c := by
  refine Or.inr ⟨arrived, [], rfl, by omega, ?_, by simp⟩
  intro b hb
  exact Nat.lt_of_le_of_lt (h.le b hb) hc

/-- Only the numbers decide, so if they differ the order of arrival does not matter. -/
theorem Newest.perm {arrived arrived' : List Snapshot} {held held' : Snapshot} (h : Newest arrived held)
    (h' : Newest arrived' held') (hp : arrived.Perm arrived')
    (hd : (arrived.map Snapshot.generation).Nodup) :
    held = held' := by
  have hle : held.generation ≤ held'.generation := by
    rcases h.mem_or with rfl | hm
    · exact Nat.zero_le _
    · exact h'.le held (hp.mem_iff.mp hm)
  have hge : held'.generation ≤ held.generation := by
    rcases h'.mem_or with rfl | hm
    · exact Nat.zero_le _
    · exact h.le held' (hp.mem_iff.mpr hm)
  rcases h with ⟨-, rfl⟩ | ⟨before, after, e, hpos, -⟩
  · -- number 0 is held here, so it is held there
    have h0 : held'.generation = 0 := Nat.le_zero.mp hge
    rcases h' with ⟨-, rfl⟩ | ⟨_, _, -, hpos', -⟩
    · rfl
    · omega
  · rcases h' with ⟨-, rfl⟩ | ⟨before', after', e', -⟩
    · exact absurd hle (by show ¬ held.generation ≤ 0; omega)
    · have hm : held ∈ arrived := by rw [e]; simp
      have hm' : held' ∈ arrived := hp.mem_iff.mpr (by rw [e']; simp)
      exact List.inj_on_of_nodup_map hd hm hm' (Nat.le_antisymm hle hge)

/-! ## The invariant -/

/-- An answer is yes exactly if the number is above 0 and above those of all arrivals before it. -/
def Answered (arrived : List Arrival) : Prop :=
  ∀ before a after, arrived = before ++ a :: after →
    (a.taken = true ↔ 0 < a.found.generation ∧ ∀ b ∈ before, b.found.generation < a.found.generation)

structure Inv (s : St) : Prop where
  newest : Newest (found s) s.session.current
  answered : Answered s.arrived

theorem commit_taken (s : Session) (c : Snapshot) :
    (s.commit c).1 = true ↔ s.current.generation < c.generation := by
  unfold Session.commit
  split
  · simpa using ‹c.generation ≤ s.current.generation›
  · simp; omega

theorem commit_newest {arrived : List Snapshot} {s : Session}
    (h : Newest arrived s.current) (c : Snapshot) :
    Newest (arrived ++ [c]) (s.commit c).2.current := by
  rcases Passes.commit_current s c with ⟨hle, he⟩ | ⟨hlt, he⟩
  · rw [he]; exact h.keep hle
  · rw [he]; exact h.replace hlt

/-- The answer to the last arrival is a new one; the others stand. -/
theorem answered_snoc {arrived : List Arrival} (h : Answered arrived) {a : Arrival}
    (ha : a.taken = true ↔
      0 < a.found.generation ∧ ∀ b ∈ arrived, b.found.generation < a.found.generation) :
    Answered (arrived ++ [a]) := by
  intro before b after e
  rcases List.eq_nil_or_concat after with rfl | ⟨front, last, rfl⟩
  · obtain ⟨rfl, hb⟩ := List.append_inj' e rfl
    cases hb
    exact ha
  · have e' : arrived ++ [a] = (before ++ b :: front) ++ [last] := by simpa using e
    obtain ⟨hfront, -⟩ := List.append_inj' e' rfl
    exact h before b front hfront

theorem commit_inv {s : St} (h : Inv s) (c : Snapshot) : Inv (commit s c) := by
  refine ⟨?_, answered_snoc h.answered ?_⟩
  · simpa [commit, found] using commit_newest h.newest c
  · have hall : (∀ b ∈ s.arrived, b.found.generation < c.generation) ↔
        ∀ b ∈ found s, b.generation < c.generation := by
      simp [found]
    exact (commit_taken s.session c).trans
      ((h.newest.lt_iff c.generation).trans (and_congr_right' hall.symm))

theorem step_inv {s : St} (h : Inv s) (e : Ev) : Inv (step s e) := by
  cases e with
  | commit c => exact commit_inv h c
  | begin => exact ⟨h.newest, h.answered⟩
  | read => exact ⟨h.newest, h.answered⟩
  | rescan d =>
    -- a pass takes its number first, which changes nothing that is held
    have hbegun : Inv { s with session := s.session.beginPass.2 } := ⟨h.newest, h.answered⟩
    simp only [step]
    split
    · exact hbegun
    · rename_i outcome _
      have hc := commit_inv hbegun (s.session.beginPass.2.snapshot s.session.beginPass.1 outcome)
      exact ⟨hc.newest, hc.answered⟩

theorem start_inv (root : String) (options : Options) (n : Nat) : Inv (start root options n) := by
  refine ⟨Or.inl ⟨by simp [start, found], rfl⟩, ?_⟩
  intro before a after e
  simp [start] at e

theorem run_inv {s : St} (h : Inv s) (es : List Ev) : Inv (run s es) := by
  induction es generalizing s with
  | nil => exact h
  | cons e es ih => exact ih (step_inv h e)

/-- Whatever arrives at a new session, and whatever happens in between: a result is taken exactly if its
number is above 0 and above those of all results before it; what is held is the empty result if no
number was above 0, and else the first of those with the highest number, as it was handed in; and if no
two numbers are the same, any other order of arrival ends with the same result. -/
theorem arrivals_decide (root : String) (options : Options) (n : Nat) (es : List Ev) :
    let s := run (start root options n) es
    Answered s.arrived ∧ Newest (found s) s.session.current ∧
    (((found s).map Snapshot.generation).Nodup → ∀ es',
      (found s).Perm (found (run (start root options n) es')) →
        (run (start root options n) es').session.current = s.session.current) := by
  intro s
  have h : Inv s := run_inv (start_inv root options n) es
  refine ⟨h.answered, h.newest, ?_⟩
  intro hd es' hp
  have h' := run_inv (start_inv root options n) es'
  exact (h.newest.perm h'.newest hp hd).symm

end RouteShortcuts.Arrivals
