/-
  RouteShortcuts.Proofs.Tools.Numbers — the numbers of the scans of one project.

  A project's configuration may change while the server runs; the session is then replaced, and its
  numbers go on from the number of the result that the old session held. A session that has held no
  result yet hands on 0, whatever its own numbers were. So of the scans that succeed each carries a
  higher number than the one before (`scan_numbers_rise_iff`) exactly if between the two the
  configuration changed at most once, or the newest configuration was tried more often than the
  earlier number says. Two changes with a failure between them take the numbers back to 1
  (`a_failed_scan_between_changes_repeats_a_number`).
-/

import Mathlib.Data.List.Chain
import RouteShortcuts.Proofs.Tools.History

namespace RouteShortcuts.History

open RouteShortcuts.Files
open RouteShortcuts.Json (Value)

def Attempt.succeeded (a : Attempt) : Bool := a.reply.isSome

/-- The number that an attempt answered; 0 if it failed. -/
def Attempt.number (a : Attempt) : Nat := (a.reply.map History.number).getD 0

/-- The numbers of the scans that succeeded, newest first. -/
def numbers (past : List Attempt) : List Nat := (past.filter Attempt.succeeded).map Attempt.number

/-- How many attempts found another configuration than the one before them. -/
def changes : List Attempt → Nat
  | a :: b :: past => (if goesOn a (b :: past) then 0 else 1) + changes (b :: past)
  | _ => 0

/-- How many of the newest attempts found one configuration. -/
def streak : List Attempt → Nat
  | [] => 0
  | a :: past => (if goesOn a past then streak past else 0) + 1

/-- A scan that succeeded (`early`), those after it that failed, and the next one that succeeded
(`late`), newest first. -/
structure Span (past : List Attempt) (late : Attempt) (failed : List Attempt) (early : Attempt) :
    Prop where
  within : late :: (failed ++ [early]) <:+: past
  late : late.succeeded = true
  failed : ∀ a ∈ failed, a.succeeded = false
  early : early.succeeded = true

/-! ## Since a scan that succeeded -/

theorem numbered_append {newer past : List Attempt} (h : Numbered (newer ++ past)) : Numbered past := by
  induction newer with
  | nil => exact h
  | cons a newer ih => exact ih h.2

theorem number_eq_begun {a : Attempt} {past : List Attempt} (h : Numbered (a :: past))
    (ha : a.succeeded = true) : a.number = begun (a :: past) := by
  obtain ⟨v, hv⟩ := Option.isSome_iff_exists.mp ha
  simp only [Attempt.number, hv]
  exact h.1 v hv

theorem goesOn_append (a b : Attempt) (failed older : List Attempt) :
    goesOn a (failed ++ b :: older) = goesOn a (failed ++ [b]) := by
  cases failed <;> rfl

theorem changes_cons (a b : Attempt) (failed : List Attempt) :
    changes (a :: (failed ++ [b])) =
      (if goesOn a (failed ++ [b]) then 0 else 1) + changes (failed ++ [b]) := by
  cases failed <;> rfl

theorem held_failed {a : Attempt} (ha : a.succeeded = false) (past : List Attempt) :
    held (a :: past) = if goesOn a past then held past else none := by
  have : a.reply = none := by simpa [Attempt.succeeded] using ha
  simp only [held, this]

/-- After a scan that succeeded and attempts that failed: what is held, and the number of the newest
pass, by how often the configuration changed. -/
theorem begun_since {early : Attempt} {older : List Attempt} (he : early.succeeded = true)
    (hn : Numbered (early :: older)) : ∀ failed : List Attempt, (∀ a ∈ failed, a.succeeded = false) →
      (changes (failed ++ [early]) = 0 ∧
        begun (failed ++ early :: older) = early.number + failed.length ∧
        held (failed ++ early :: older) = early.reply) ∨
      (changes (failed ++ [early]) = 1 ∧ held (failed ++ early :: older) = none ∧
        begun (failed ++ early :: older) = early.number + streak (failed ++ [early])) ∨
      (2 ≤ changes (failed ++ [early]) ∧ held (failed ++ early :: older) = none ∧
        begun (failed ++ early :: older) = streak (failed ++ [early])) := by
  intro failed
  induction failed with
  | nil =>
    intro _
    obtain ⟨v, hv⟩ := Option.isSome_iff_exists.mp he
    exact Or.inl ⟨rfl, (number_eq_begun hn he).symm, by simp [held, hv]⟩
  | cons a failed ih =>
    intro hf
    have hheld := held_failed (hf a (by simp)) (failed ++ early :: older)
    have hrest := ih fun b hb => hf b (by simp [hb])
    simp only [List.cons_append, List.length_cons, changes_cons, hheld, begun, streak,
      heldNumber, goesOn_append]
    cases hg : goesOn a (failed ++ [early]) with
    | true =>
      simp only [if_true]
      rcases hrest with ⟨h1, h2, h3⟩ | ⟨h1, h2, h3⟩ | ⟨h1, h2, h3⟩
      · exact Or.inl ⟨by omega, by omega, h3⟩
      · exact Or.inr (Or.inl ⟨by omega, h2, by omega⟩)
      · exact Or.inr (Or.inr ⟨by omega, h2, by omega⟩)
    | false =>
      simp only [Bool.false_eq_true, if_false]
      rcases hrest with ⟨h1, _, h3⟩ | ⟨h1, h2, _⟩ | ⟨h1, h2, _⟩
      · exact Or.inr (Or.inl ⟨by omega, trivial, by rw [h3]; rfl⟩)
      · exact Or.inr (Or.inr ⟨by omega, trivial, by simp [h2]⟩)
      · exact Or.inr (Or.inr ⟨by omega, trivial, by simp [h2]⟩)

/-- The next scan that succeeds carries a higher number unless the numbers started again and have not
come as far yet. -/
theorem number_lt_iff {late early : Attempt} {failed older : List Attempt}
    (hn : Numbered (late :: (failed ++ early :: older))) (hl : late.succeeded = true)
    (hf : ∀ a ∈ failed, a.succeeded = false) (he : early.succeeded = true) :
    early.number < late.number ↔
      changes (late :: (failed ++ [early])) ≤ 1 ∨
      early.number < streak (late :: (failed ++ [early])) := by
  have hlate : late.number = begun (late :: (failed ++ early :: older)) := number_eq_begun hn hl
  -- the number of a pass does not depend on how the pass ends
  have hspan := begun_since he (numbered_append hn.2) (⟨late.config, none⟩ :: failed) (by
    intro a ha
    rcases List.mem_cons.mp ha with rfl | ha
    · rfl
    · exact hf a ha)
  have hb : begun (late :: (failed ++ early :: older)) =
    begun (⟨late.config, none⟩ :: failed ++ early :: older) := rfl
  have hc : changes (⟨late.config, none⟩ :: failed ++ [early]) =
      changes (late :: (failed ++ [early])) := by
    rw [List.cons_append, changes_cons, changes_cons]
    congr 2
  have hs : streak (⟨late.config, none⟩ :: failed ++ [early]) =
    streak (late :: (failed ++ [early])) := rfl
  have hpos : 0 < streak (late :: (failed ++ [early])) := Nat.succ_pos _
  simp only [hc, hs, List.length_cons] at hspan
  omega

/-! ## Along a history -/

theorem number_pos {past : List Attempt} (h : Numbered past) :
    ∀ a ∈ past, a.succeeded = true → 0 < a.number := by
  induction past with
  | nil => intro a ha; cases ha
  | cons b past ih =>
    intro a ha hs
    rcases List.mem_cons.mp ha with rfl | ha
    · rw [number_eq_begun h hs]; exact Nat.succ_pos _
    · exact ih h.2 a ha hs

/-- Two scans that succeeded and stand side by side among those that did are the ends of a span. -/
theorem span_iff {past : List Attempt} {late early : Attempt} :
    (∃ failed, Span past late failed early) ↔
      ∃ newer older, past.filter Attempt.succeeded = newer ++ late :: early :: older := by
  constructor
  · rintro ⟨failed, ⟨newer, older, rfl⟩, hl, hf, he⟩
    refine ⟨newer.filter Attempt.succeeded, older.filter Attempt.succeeded, ?_⟩
    have : failed.filter Attempt.succeeded = [] := by simpa [List.filter_eq_nil_iff] using hf
    simp [List.filter_append, hl, he, this]
  · rintro ⟨newer, older, h⟩
    obtain ⟨l₁, l₂, rfl, -, h⟩ := List.filter_eq_append_iff.mp h
    obtain ⟨l₃, l₄, rfl, -, hl, h⟩ := List.filter_eq_cons_iff.mp h
    obtain ⟨l₅, l₆, rfl, hf, he, -⟩ := List.filter_eq_cons_iff.mp h
    refine ⟨l₅, ⟨l₁ ++ l₃, l₆, by simp⟩, hl, ?_, he⟩
    intro a ha
    simpa using hf a ha

theorem numbers_rise_iff {past : List Attempt} (h : Numbered past) :
    (numbers past).Pairwise (fun late early => early < late) ↔
      ∀ late failed early, Span past late failed early →
        changes (late :: (failed ++ [early])) ≤ 1 ∨
        early.number < streak (late :: (failed ++ [early])) := by
  have lt_iff : ∀ late failed early, Span past late failed early → (early.number < late.number ↔
      changes (late :: (failed ++ [early])) ≤ 1 ∨
          early.number < streak (late :: (failed ++ [early]))) := by
    rintro late failed early ⟨⟨newer, older, rfl⟩, hl, hf, he⟩
    have hspan : Numbered (newer ++ late :: (failed ++ early :: older)) := by simpa using h
    exact number_lt_iff (numbered_append hspan) hl hf he
  have : IsTrans Attempt fun late early => early.number < late.number :=
    ⟨fun _ _ _ h1 h2 => Nat.lt_trans h2 h1⟩
  rw [numbers, List.pairwise_map, ← List.isChain_iff_pairwise,
    List.isChain_iff_forall_rel_of_append_cons_cons]
  constructor
  · intro hchain late failed early hs
    obtain ⟨newer, older, e⟩ := span_iff.mp ⟨failed, hs⟩
    exact (lt_iff late failed early hs).mp (hchain e)
  · intro hall late early newer older e
    obtain ⟨failed, hs⟩ := span_iff.mpr ⟨newer, older, e⟩
    exact (lt_iff late failed early hs).mpr (hall late failed early hs)

/-- The scans of a project that succeed carry rising numbers exactly if between any one and the next the
configuration changed at most once, or the newest configuration was tried more often than the number of
the earlier one says. -/
theorem scan_numbers_rise_iff (d : Disk) (es : List Ev) (key : String) :
    let past := attempts key (run d es)
    (∀ a ∈ past, a.succeeded = true → 0 < a.number) ∧
    ((numbers past).Pairwise (fun late early => early < late) ↔
      ∀ late failed early, Span past late failed early →
        changes (late :: (failed ++ [early])) ≤ 1 ∨
            early.number < streak (late :: (failed ++ [early]))) := by
  intro past
  have h : Numbered past := (run_told d es key).numbered
  exact ⟨number_pos h, numbers_rise_iff h⟩

/-- A disk with one project, which has these files. -/
def projectDisk (files : List (String × Entry)) : Disk :=
  { top := .directory [("p", .directory files)] }

/-- A configuration file whose route pattern is no glob. -/
def brokenSettings : String × Entry :=
  (".shortcutsrc.json", .file "\x7b\x22routeFiles\x22:\x22[\x22\x7d".toUTF8)

/-- A scan, a scan with a configuration that fails, and a scan with the first configuration again. -/
def changeAndBack : List Ev :=
  [.call .detectShortcuts "/p", .disk (projectDisk [brokenSettings]), .call .detectShortcuts "/p",
    .disk (projectDisk []), .call .detectShortcuts "/p"]

/-- The third scan carries the number of the first. -/
theorem a_failed_scan_between_changes_repeats_a_number :
    numbers (attempts "/p" (run (projectDisk []) changeAndBack)) = [1, 1] ∧
      ¬ (numbers (attempts "/p" (run (projectDisk []) changeAndBack))).Pairwise
        (fun late early => early < late) := by
  have h : numbers (attempts "/p" (run (projectDisk []) changeAndBack)) = [1, 1] := by decide +kernel
  exact ⟨h, by rw [h]; decide⟩

end RouteShortcuts.History
