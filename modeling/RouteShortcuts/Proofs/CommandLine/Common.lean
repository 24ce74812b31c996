/-
  RouteShortcuts.Proofs.CommandLine.Common — arguments that two commands have in common.

  What a word means depends on the command only by the names that the command knows. So words that one
  command takes are taken alike by a command that knows these names and more (`Wider`), and nothing is
  settled by them but what the first one knows (`Within`): each step of the reading keeps both, by
  induction down to `readArguments_wider`.

  Proved: what `scan` is asked for, `generate` can be asked for by the same words; it prints JSON then
  (`generate_of_scan`).
-/

import RouteShortcuts.Proofs.CommandLine.Flags

namespace RouteShortcuts.CommandLine

/-- A level that knows all names of another one, and reads them alike. -/
structure Wider (l l' : Level) : Prop where
  long : ∀ {s : String} {a : Argument}, Level.ofLong? l s = some a → Level.ofLong? l' s = some a
  short : ∀ {c : Char} {a : Argument}, Level.ofShort? l c = some a → Level.ofShort? l' c = some a

/-- Nothing is settled or waits but arguments of a level. -/
structure Within (l : Level) (g : Given) : Prop where
  settled : ∀ a, g.has a = true → a ∈ Level.arguments l
  waiting : ∀ a vs, g.waiting = some (a, vs) → a ∈ Level.arguments l

theorem within_empty (l : Level) : Within l {} := by
  refine ⟨?_, ?_⟩
  · intro a h
    cases h
  · intro a vs h
    cases h

theorem ofShort?_mem {l : Level} {c : Char} {a : Argument} (h : Level.ofShort? l c = some a) :
    a ∈ Level.arguments l ∧ a.short? = some c :=
  ⟨List.mem_of_find?_eq_some h, by simpa using List.find?_some h⟩

/-! ## One argument -/

theorem has_of_add {g : Given} {a b : Argument} {vs : List String} (h : (g.add a vs).has b = true) :
    g.has b = true ∨ b = a := by
  obtain ⟨us, hus⟩ := has_iff.mp h
  unfold Given.add at hus
  by_cases hg : g.has a = true
  · rw [if_pos hg] at hus
    obtain ⟨⟨c, ws⟩, hmem, he⟩ := List.mem_map.mp hus
    have hb : c = b := by
      dsimp only at he
      split at he <;> exact congrArg Prod.fst he
    exact Or.inl (has_iff.mpr ⟨ws, hb ▸ hmem⟩)
  · rw [if_neg hg] at hus
    rcases List.mem_append.mp hus with hmem | hmem
    · exact Or.inl (has_iff.mpr ⟨us, hmem⟩)
    · exact Or.inr (congrArg Prod.fst (List.mem_singleton.mp hmem))

theorem waiting_add (g : Given) (a : Argument) (vs : List String) :
    (g.add a vs).waiting = g.waiting := by
  unfold Given.add
  split <;> rfl

theorem Within.add {l : Level} {g : Given} (hg : Within l g) {a : Argument}
    (ha : a ∈ Level.arguments l) (vs : List String) :
    Within l (g.add a vs) := by
  refine ⟨?_, ?_⟩
  · intro b hb
    rcases has_of_add hb with hb | rfl
    · exact hg.settled b hb
    · exact ha
  · intro b us hb
    rw [waiting_add] at hb
    exact hg.waiting b us hb

theorem Within.settleWaiting {l : Level} {g g' : Given} (hg : Within l g)
    (h : g.settleWaiting = (g', none)) : Within l g' := by
  unfold Given.settleWaiting at h
  split at h
  · cases h
    exact hg
  · rename_i a vs hw
    rw [settle_ok h]
    have hrest : Within l { g with waiting := none } := ⟨hg.settled, fun _ _ h => by cases h⟩
    exact hrest.add (hg.waiting a vs hw) vs

section

variable {l l' : Level} {g g' : Given}

theorem take_wider (hg : Within l g) {long : Bool} {a : Argument} {vs : List String}
    (ha : a ∈ Level.arguments l) (h : take l g long a vs = .ok g') :
    take l' g long a vs = .ok g' ∧ Within l g' := by
  unfold take at h ⊢
  cases hw : g.settleWaiting with
  | mk g₁ fault =>
    rw [hw] at h
    cases fault with
    | some f => cases h
    | none =>
      dsimp only at h ⊢
      split at h
      · cases h
      · rename_i hhelp
        split at h
        · cases h
        · rename_i hversion
          rw [if_neg hhelp, if_neg hversion]
          cases hs : g₁.settle a vs with
          | mk g₂ fault =>
            rw [hs] at h
            cases fault with
            | some f => cases h
            | none =>
              cases h
              refine ⟨rfl, ?_⟩
              rw [settle_ok hs]
              exact (hg.settleWaiting hw).add ha vs

theorem await_wider (hg : Within l g) {a : Argument} (ha : a ∈ Level.arguments l)
    (h : await l g a = .ok g') : await l' g a = .ok g' ∧ Within l g' := by
  unfold await at h ⊢
  cases hw : g.settleWaiting with
  | mk g₁ fault =>
    rw [hw] at h
    cases fault with
    | some f => cases h
    | none =>
      cases h
      refine ⟨rfl, (hg.settleWaiting hw).settled, ?_⟩
      intro b us hb
      cases hb
      exact ha

theorem finish_wider (hg : Within l g) (h : finish l g = .ok g') :
    finish l' g = .ok g' ∧ Within l g' := by
  unfold finish at h ⊢
  cases hw : g.settleWaiting with
  | mk g₁ fault =>
    rw [hw] at h
    cases fault with
    | some f => cases h
    | none =>
      cases h
      exact ⟨rfl, hg.settleWaiting hw⟩

/-! ## Words -/

variable (hl : Wider l l')

include hl

theorem readLong_wider (hg : Within l g) {long : String} {value : Option String} {later : List String}
    (h : readLong l g long value later = .ok g') :
    readLong l' g long value later = .ok g' ∧ Within l g' := by
  unfold readLong at h ⊢
  cases ha : Level.ofLong? l long with
  | none =>
    rw [ha] at h
    exact absurd h refuseLong_error
  | some a =>
    have hmem : a ∈ Level.arguments l := (ofLong?_mem ha).1
    rw [ha] at h
    rw [hl.long ha]
    dsimp only at h ⊢
    split at h
    · rename_i hv
      rw [if_pos hv]
      cases value with
      | some v => exact take_wider hg hmem h
      | none => exact await_wider hg hmem h
    · rename_i hv
      rw [if_neg hv]
      cases value with
      | some v => cases h
      | none => exact take_wider hg hmem h

theorem readShorts_wider {cs : List Char} : ∀ {g : Given}, Within l g → readShorts l g cs = .ok g' →
    readShorts l' g cs = .ok g' ∧ Within l g' := by
  induction cs with
  | nil =>
    intro g hg h
    cases h
    exact ⟨rfl, hg⟩
  | cons c rest ih =>
    intro g hg h
    unfold readShorts at h ⊢
    cases ha : Level.ofShort? l c with
    | none =>
      rw [ha] at h
      cases h
    | some a =>
      have hmem : a ∈ Level.arguments l := (ofShort?_mem ha).1
      rw [ha] at h
      rw [hl.short ha]
      dsimp only at h ⊢
      split at h
      · rename_i hv
        rw [if_pos hv]
        split at h
        · exact await_wider hg hmem h
        · exact take_wider hg hmem h
        · exact take_wider hg hmem h
      · rename_i hv
        rw [if_neg hv]
        split at h
        · rename_i g₁ ht
          obtain ⟨ht', hg₁⟩ : take l' g false a [] = .ok g₁ ∧ Within l g₁ := take_wider hg hmem ht
          rw [ht']
          exact ih hg₁ h
        · cases h

theorem readWord_wider (hg : Within l g) {word : String} {later : List String}
    (h : readWord l g word later = .ok g') : readWord l' g word later = .ok g' ∧ Within l g' := by
  unfold readWord at h ⊢
  split at h
  · exact readLong_wider hl hg h
  · exact readShorts_wider hl hg h
  · split at h
    · rename_i a hw
      cases h
      refine ⟨rfl, hg.settled, ?_⟩
      intro b us hb
      cases hb
      exact hg.waiting a [] hw
    · exact absurd h refuseWord_error

end

/-! ## All arguments -/

theorem readArguments_wider {c c' : Command} (hc : Wider (some c) (some c')) {args : List String}
    {g' : Given} :
    ∀ {g : Given}, Within (some c) g → readArguments c g args = .ok g' →
      readArguments c' g args = .ok g' ∧ Within (some c) g' := by
  induction args with
  | nil => exact fun hg h => finish_wider hg h
  | cons word rest ih =>
    intro g hg h
    by_cases hd : word = "--"
    · subst hd
      cases rest with
      | nil => exact finish_wider hg h
      | cons next rest =>
        exact absurd (show refuseWord (some c) true next = .ok g' from h) refuseWord_error
    · rcases readArguments_cases h with ⟨hdash, -, -⟩ | ⟨g₁, hw, hr⟩
      · exact absurd hdash hd
      · obtain ⟨hw', hg₁⟩ := readWord_wider hc hg hw
        obtain ⟨hr', hg'⟩ := ih hg₁ hr
        refine ⟨?_, hg'⟩
        rw [readArguments]
        · rw [hw']
          exact hr'
        · exact hd

theorem wider_scan_generate : Wider (some .scan) (some .generate) := by
  refine ⟨?_, ?_⟩
  · intro s a h
    obtain ⟨hmem, rfl⟩ := ofLong?_mem h
    cases a <;> first | decide | exact absurd hmem (by decide)
  · intro c a h
    obtain ⟨hmem, hc⟩ := ofShort?_mem h
    cases a <;> cases hc <;> first | decide | exact absurd hmem (by decide)

theorem value?_none {g : Given} {a : Argument} (h : g.has a = false) : g.value? a = none := by
  have hnone : g.settled.filter (·.1 == a) = [] := by
    rw [List.filter_eq_nil_iff]
    rintro ⟨b, vs⟩ hmem hb
    rw [has_iff.mpr ⟨vs, beq_iff_eq.mp hb ▸ hmem⟩] at h
    cases h
  simp only [Given.value?, Given.values, hnone, List.flatMap_nil, List.getLast?_nil]

/-- Words that ask for a scan ask for its manifest behind `generate`. -/
theorem generate_of_scan {rest : List String} {a : ScanArguments}
    (h : Invocation.ofArguments ("scan" :: rest) = .ok (.scan a)) :
    Invocation.ofArguments ("generate" :: rest) = .ok (.generate a .json none) := by
  rcases ofArguments_cases h with he | he | ⟨c, words, g, he, hr, hi⟩
  · cases he
  · exact absurd (List.cons.inj he).1 (by decide)
  obtain ⟨hname, rfl⟩ := List.cons.inj he
  obtain rfl : c = .scan := by
    cases c <;> first | rfl | exact absurd hname (by decide)
  cases hi
  obtain ⟨hr', hg⟩ := readArguments_wider wider_scan_generate (within_empty _) hr
  have hnot : ∀ b : Argument, b ∉ Level.arguments (some .scan) → g.value? b = none := by
    intro b hb
    exact value?_none (Bool.eq_false_iff.mpr fun hhas => hb (hg.settled b hhas))
  have hgenerate : Invocation.ofArguments ("generate" :: rest) = .ok (g.invocation .generate) := by
    rw [Invocation.ofArguments, readProgram, show Command.ofName? "generate" = some .generate by decide]
    · simp only [hr', Except.map]
    · decide
  rw [hgenerate]
  simp only [Given.invocation, Given.format, hnot .format (by decide), hnot .output (by decide),
    reduceCtorEq, if_false]

end RouteShortcuts.CommandLine
