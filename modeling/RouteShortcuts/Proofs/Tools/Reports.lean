/-
  RouteShortcuts.Proofs.Tools.Reports — what a server says of the manifest of a project.

  A server that is asked for the manifest repeats two members of the answer whose result it holds
  (`repeated`); it says that there is nothing (`blank`) if it holds none. What it holds is the result of
  the newest scan that succeeded, as long as no attempt since then found another configuration
  (`Steady`): a session that is replaced hands on its number, not its result. So the reply is that of
  the newest scan that succeeded exactly in the steady histories (`manifest_of_last_scan_iff`), and a
  scan that fails because of its configuration makes the server forget what it found before
  (`a_failed_scan_with_another_configuration_empties_the_manifest`).
-/

import RouteShortcuts.Proofs.Tools.Numbers

namespace RouteShortcuts.History

open RouteShortcuts.Files
open RouteShortcuts.Json (Value)

/-- What the answer of a scan says, as far as it is repeated: its number and its manifest. -/
def repeated (reply : Value) : Value :=
  .object [("generation", (reply.get? "generation").getD .null),
    ("manifest", (reply.get? "manifest").getD .null)]

/-- Number 0 and no entry. -/
def blank : Value := .object [("generation", .nat 0), ("manifest", .array [])]

/-- The answer of the newest scan that succeeded. -/
def lastReply (past : List Attempt) : Option Value := past.findSome? (·.reply)

/-- No attempt after the newest scan that succeeded found another configuration than that scan. -/
def Steady (past : List Attempt) : Prop :=
  ∀ failed early older, past = failed ++ early :: older → early.succeeded = true →
    (∀ a ∈ failed, a.succeeded = false) → ∀ a ∈ failed, a.config = early.config

/-! ## What is held, and what was answered last -/

theorem changes_eq_zero {failed : List Attempt} {early : Attempt} :
    changes (failed ++ [early]) = 0 ↔ ∀ a ∈ failed, a.config = early.config := by
  induction failed with
  | nil => simp [changes]
  | cons a failed ih =>
    simp only [List.cons_append, changes_cons, Nat.add_eq_zero_iff, ih, List.forall_mem_cons]
    constructor
    · rintro ⟨hg, h⟩
      refine ⟨?_, h⟩
      cases failed with
      | nil => simpa [goesOn] using hg
      | cons b failed =>
        have : a.config = b.config := by simpa [goesOn] using hg
        exact this.trans (h b (by simp))
    · rintro ⟨ha, h⟩
      refine ⟨?_, h⟩
      cases failed with
      | nil => simp [goesOn, ha]
      | cons b failed => simp [goesOn, ha, h b (by simp)]

theorem held_since {early : Attempt} {older failed : List Attempt} (hn : Numbered (early :: older))
    (he : early.succeeded = true) (hf : ∀ a ∈ failed, a.succeeded = false) :
    held (failed ++ early :: older) =
      if changes (failed ++ [early]) = 0 then early.reply else none := by
  rcases begun_since he hn failed hf with ⟨h0, -, h⟩ | ⟨h1, h, -⟩ | ⟨h2, h, -⟩
  · rw [if_pos h0, h]
  · rw [if_neg (by omega), h]
  · rw [if_neg (by omega), h]

theorem held_none {past : List Attempt} (h : ∀ a ∈ past, a.succeeded = false) : held past = none := by
  induction past with
  | nil => rfl
  | cons a past ih =>
    rw [held_failed (h a (by simp)), ih fun b hb => h b (by simp [hb])]
    exact ite_self none

theorem lastReply_none {past : List Attempt} :
    lastReply past = none ↔ ∀ a ∈ past, a.succeeded = false := by
  simp [lastReply, List.findSome?_eq_none_iff, Attempt.succeeded]

theorem lastReply_since {early : Attempt} {older failed : List Attempt} (he : early.succeeded = true)
    (hf : ∀ a ∈ failed, a.succeeded = false) : lastReply (failed ++ early :: older) = early.reply := by
  have hnone : failed.findSome? (·.reply) = none := lastReply_none.mpr hf
  obtain ⟨v, hv⟩ := Option.isSome_iff_exists.mp he
  simp [lastReply, List.findSome?_append, hnone, hv]

/-- A history is one of attempts that failed, or it has a newest scan that succeeded. -/
theorem newest_success (past : List Attempt) : (∀ a ∈ past, a.succeeded = false) ∨
    ∃ failed early older, past = failed ++ early :: older ∧ early.succeeded = true ∧
      ∀ a ∈ failed, a.succeeded = false := by
  cases h : past.filter Attempt.succeeded with
  | nil => exact Or.inl (by simpa [List.filter_eq_nil_iff] using h)
  | cons early rest =>
    obtain ⟨failed, older, e, hf, he, -⟩ := List.filter_eq_cons_iff.mp h
    exact Or.inr ⟨failed, early, older, e, he, by simpa using hf⟩

/-- The attempts after the newest success are those in front of the first one that succeeded. -/
theorem takeWhile_failed {early : Attempt} {older failed : List Attempt} (he : early.succeeded = true)
    (hf : ∀ a ∈ failed, a.succeeded = false) :
    (failed ++ early :: older).takeWhile (fun a => !a.succeeded) = failed := by
  rw [List.takeWhile_append_of_pos (by simpa using hf),
    List.takeWhile_cons_of_neg (by simp [he]), List.append_nil]

/-- In a history with a newest scan that succeeded that scan is the only one to ask about. -/
theorem steady_since {early : Attempt} {older failed : List Attempt} (he : early.succeeded = true)
    (hf : ∀ a ∈ failed, a.succeeded = false) :
    Steady (failed ++ early :: older) ↔ ∀ a ∈ failed, a.config = early.config := by
  constructor
  · intro h
    exact h failed early older rfl he hf
  · intro h failed' early' older' e he' hf'
    have hsame : failed = failed' := by
      rw [← takeWhile_failed he hf, e, takeWhile_failed he' hf']
    subst hsame
    obtain ⟨rfl, -⟩ := List.cons.inj (List.append_cancel_left e)
    exact h

theorem steady_none {past : List Attempt} (h : ∀ a ∈ past, a.succeeded = false) : Steady past := by
  rintro failed early older rfl he
  rw [h early (by simp)] at he
  cases he

theorem held_of_steady {past : List Attempt} (hn : Numbered past) (h : Steady past) :
    held past = lastReply past := by
  rcases newest_success past with hf | ⟨failed, early, older, rfl, he, hf⟩
  · rw [held_none hf, lastReply_none.mpr hf]
  · have hc := changes_eq_zero.mpr ((steady_since he hf).mp h)
    rw [held_since (numbered_append hn) he hf, if_pos hc, lastReply_since he hf]

theorem held_of_unsteady {past : List Attempt} (hn : Numbered past) (h : ¬ Steady past) :
    held past = none ∧ (lastReply past).isSome := by
  rcases newest_success past with hf | ⟨failed, early, older, rfl, he, hf⟩
  · exact absurd (steady_none hf) h
  · have hc : ¬ changes (failed ++ [early]) = 0 := fun h0 =>
      h ((steady_since he hf).mpr (changes_eq_zero.mp h0))
    rw [held_since (numbered_append hn) he hf, if_neg hc, lastReply_since he hf]
    exact ⟨rfl, he⟩

/-! ## Replies -/

theorem number_repeated (reply : Value) : number (repeated reply) = number reply := by
  have : (repeated reply).get? "generation" = some ((reply.get? "generation").getD .null) := rfl
  simp only [number, this]
  cases reply.get? "generation" <;> rfl

theorem repeated_ne_blank {reply : Value} (h : 0 < number reply) : repeated reply ≠ blank := by
  intro e
  have : number (repeated reply) = number blank := by rw [e]
  rw [number_repeated] at this
  have : number blank = 0 := rfl
  omega

theorem lastReply_pos {past : List Attempt} (hn : Numbered past) {reply : Value}
    (h : lastReply past = some reply) : 0 < number reply := by
  obtain ⟨a, ha, hr⟩ := List.exists_of_findSome?_eq_some h
  have hpos := number_pos hn a ha (by simp only [Attempt.succeeded, hr]; rfl)
  simpa only [Attempt.number, hr, Option.map_some, Option.getD_some] using hpos

theorem held_some {past : List Attempt} (hn : Numbered past) {reply : Value}
    (h : held past = some reply) : lastReply past = some reply := by
  by_cases hs : Steady past
  · rw [← held_of_steady hn hs, h]
  · rw [(held_of_unsteady hn hs).1] at h; cases h

theorem getManifest_told {w : World} {root : String} (h : Told w (Workspace.rootOf w.disk root)) :
    (w.workspace.call w.disk .getManifest root).1 =
      .ok ((held (attempts (Workspace.rootOf w.disk root) w)).elim blank repeated) := by
  simp only [Workspace.call, Workspace.getManifest]
  cases hf : w.workspace.find? (Workspace.rootOf w.disk root) with
  | none => rw [h.holds.unknown hf]; rfl
  | some p =>
    have hh := (h.holds.known p hf).holding
    by_cases h0 : p.session.current.generation = 0
    · rw [hh.result, if_pos h0]
      simp only [hh.empty h0]
      rfl
    · rw [hh.result, if_neg h0]
      rfl

theorem attempts_failed {w : World} {root : String} {fault : ToolFault} {after : Workspace}
    (hc : w.workspace.call w.disk .detectShortcuts root = (.error fault, after)) :
    attempts (Workspace.rootOf w.disk root) (step w (.call .detectShortcuts root)) =
      ((Settings.load w.disk (Workspace.rootOf w.disk root)).toOption.map fun loaded =>
        ⟨loaded.config, none⟩).toList ++ attempts (Workspace.rootOf w.disk root) w := by
  simp only [step, hc]
  rw [attempts_record]
  simp [attemptOf?, samePath_refl, Except.toOption]

/-- What is held after one more attempt that failed is what was held exactly if it found the
configuration of the attempt before it, or there was nothing to forget. -/
theorem held_attempt_failed {past : List Attempt} (hn : Numbered past) (config : Config) :
    (held (⟨config, none⟩ :: past)).elim blank repeated = (held past).elim blank repeated ↔
      goesOn ⟨config, none⟩ past = true ∨ held past = none := by
  rw [held_failed rfl]
  cases goesOn ⟨config, none⟩ past with
  | true => simp
  | false =>
    cases hh : held past with
    | none => simp
    | some reply =>
      have hb : repeated reply ≠ blank := repeated_ne_blank (lastReply_pos hn (held_some hn hh))
      simp [hb.symm]

theorem getManifest_failed {w : World} {root : String}
    (h : Told (step w (.call .detectShortcuts root)) (Workspace.rootOf w.disk root))
    {fault : ToolFault} {after : Workspace}
    (hc : w.workspace.call w.disk .detectShortcuts root = (.error fault, after)) :
    (after.call w.disk .getManifest root).1 =
      .ok ((held (((Settings.load w.disk (Workspace.rootOf w.disk root)).toOption.map
        fun loaded => ⟨loaded.config, none⟩).toList ++
          attempts (Workspace.rootOf w.disk root) w)).elim blank repeated) := by
  rw [← attempts_failed hc]
  have hw : (step w (.call .detectShortcuts root)).workspace = after := by
    simp only [step, hc, World.record]
  have hd : (step w (.call .detectShortcuts root)).disk = w.disk := by simp only [step, World.record]
  generalize step w (.call .detectShortcuts root) = w' at *
  rw [← hd] at h ⊢
  rw [← hw]
  exact getManifest_told h

/-- The reply of `get_manifest` is that of the newest scan that succeeded, and empty if there was none,
exactly in the steady histories; and so is it empty only if there was none. A scan that fails leaves the
reply as it was exactly if no configuration was found, or it was that of the attempt before, or nothing
was held. -/
theorem manifest_of_last_scan_iff (d : Disk) (es : List Ev) (root : String) :
    let w := run d es
    let key := Workspace.rootOf w.disk root
    let past := attempts key w
    (∃ reply, (w.workspace.call w.disk .getManifest root).1 = .ok reply ∧
      (reply = (lastReply past).elim blank repeated ↔ Steady past) ∧
      ((reply = blank ↔ lastReply past = none) ↔ Steady past)) ∧
    ∀ fault after, w.workspace.call w.disk .detectShortcuts root = (.error fault, after) →
      ((after.call w.disk .getManifest root).1 = (w.workspace.call w.disk .getManifest root).1 ↔
        ∀ loaded, Settings.load w.disk key = .ok loaded →
          goesOn ⟨loaded.config, none⟩ past = true ∨ held past = none) := by
  intro w key past
  have ht : Told w key := run_told d es key
  have hreply : (w.workspace.call w.disk .getManifest root).1 = .ok ((held past).elim blank repeated) :=
    getManifest_told ht
  have hn : Numbered past := ht.numbered
  refine ⟨⟨_, hreply, ?_⟩, ?_⟩
  · by_cases hs : Steady past
    · rw [held_of_steady hn hs]
      refine ⟨iff_of_true rfl hs, iff_of_true ?_ hs⟩
      cases hl : lastReply past with
      | none => simp
      | some reply => simpa using repeated_ne_blank (lastReply_pos hn hl)
    · obtain ⟨hh, hl⟩ := held_of_unsteady hn hs
      obtain ⟨reply, hl⟩ := Option.isSome_iff_exists.mp hl
      have hb : repeated reply ≠ blank := repeated_ne_blank (lastReply_pos hn hl)
      rw [hh, hl]
      exact ⟨iff_of_false hb.symm hs, iff_of_false (by simp) hs⟩
  · intro fault after hc
    rw [hreply, getManifest_failed (step_told (run_told d es) (.call .detectShortcuts root) key) hc]
    cases hl : Settings.load w.disk key with
    | error fault => simp [Except.toOption, past, key, w]
    | ok loaded => simpa [Except.toOption] using held_attempt_failed hn loaded.config

/-- A scan, and one with a configuration that fails. -/
def scanThenFail : List Ev :=
  [.call .detectShortcuts "/p", .disk (projectDisk [brokenSettings]), .call .detectShortcuts "/p"]

/-- The first scan answered with number 1; the reply has number 0 and is not that of the scan. -/
theorem a_failed_scan_with_another_configuration_empties_the_manifest :
    let w := run (projectDisk []) scanThenFail
    let reply := (w.workspace.call w.disk .getManifest "/p").1
    (lastReply (attempts "/p" w)).map number = some 1 ∧ reply.toOption.map number = some 0 ∧
      reply ≠ .ok ((lastReply (attempts "/p" w)).elim blank repeated) := by
  intro w reply
  have hl : (lastReply (attempts "/p" w)).map number = some 1 := by decide +kernel
  have hr : reply.toOption.map number = some 0 := by decide +kernel
  refine ⟨hl, hr, fun e => ?_⟩
  obtain ⟨last, hlast, hone⟩ := Option.map_eq_some_iff.mp hl
  rw [e, hlast] at hr
  simp only [Except.toOption, Option.elim, Option.map_some, number_repeated, hone] at hr
  cases hr

end RouteShortcuts.History
