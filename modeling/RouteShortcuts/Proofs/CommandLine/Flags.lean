/-
  RouteShortcuts.Proofs.CommandLine.Flags — a flag that is given counts.

  An argument that was settled stays settled (`Keeps`): taking another one either keeps it or
  refuses the list. A flag is settled by the word it is written with, wherever that stands: such a
  word is no value of the argument before it, and after `--` nothing is taken. So of a list that is
  not refused every flag in it is among the arguments of the command (`flag_given`), and the command
  has such a flag. Before the command no argument is taken at all (`readWord_program`).
-/

import RouteShortcuts.CommandLine.Reader

namespace RouteShortcuts.CommandLine

/-! ## What stays settled -/

/-- Every argument of the one is an argument of the other. -/
def Keeps (g g' : Given) : Prop := ∀ a, g.has a = true → g'.has a = true

theorem Keeps.refl (g : Given) : Keeps g g := fun _ h => h

theorem Keeps.trans {g g' g'' : Given} (h : Keeps g g') (h' : Keeps g' g'') :
    Keeps g g'' := fun a ha => h' a (h a ha)

theorem has_iff {g : Given} {a : Argument} : g.has a = true ↔ ∃ vs, (a, vs) ∈ g.settled := by
  simp [Given.has, Given.used]

theorem has_add (g : Given) (a : Argument) (vs : List String) :
    (g.add a vs).has a = true ∧ Keeps g (g.add a vs) := by
  unfold Given.add
  by_cases hg : g.has a = true
  · have hsame : ∀ b, g.has b = true →
        Given.has { g with settled := g.settled.map fun s => if s.1 == a then (s.1, s.2 ++ vs)
            else s } b = true := by
      intro b hb
      obtain ⟨us, hus⟩ := has_iff.mp hb
      refine has_iff.mpr ⟨if b == a then us ++ vs else us, List.mem_map.mpr ⟨(b, us), hus, ?_⟩⟩
      dsimp only
      split <;> rfl
    rw [if_pos hg]
    exact ⟨hsame a hg, hsame⟩
  · rw [if_neg hg]
    refine ⟨has_iff.mpr ⟨vs, by simp⟩, fun b hb => ?_⟩
    obtain ⟨us, hus⟩ := has_iff.mp hb
    exact has_iff.mpr ⟨us, List.mem_append_left _ hus⟩

theorem settle_ok {g g' : Given} {a : Argument} {vs : List String}
    (h : g.settle a vs = (g', none)) : g' = g.add a vs := by
  unfold Given.settle at h
  by_cases hv : a.takesValue = true ∧ vs.isEmpty = true
  · rw [if_pos hv] at h
    cases h
  · rw [if_neg hv] at h
    by_cases hr : g.has a = true ∧ (!a.mayRepeat) = true
    · rw [if_pos hr] at h
      cases h
    · rw [if_neg hr] at h
      exact (Prod.mk.inj h).1.symm

theorem settleWaiting_keeps {g g' : Given} (h : g.settleWaiting = (g', none)) : Keeps g g' := by
  unfold Given.settleWaiting at h
  split at h
  · cases h
    exact Keeps.refl g
  · rename_i a vs _
    rw [settle_ok h]
    exact (has_add { g with waiting := none } a vs).2

theorem take_keeps {l : Level} {g g' : Given} {long : Bool} {a : Argument} {vs : List String}
    (h : take l g long a vs = .ok g') : g'.has a = true ∧ Keeps g g' := by
  unfold take at h
  split at h
  · cases h
  · rename_i g₁ hw
    by_cases hhelp : a = .help
    · rw [if_pos hhelp] at h
      cases h
    by_cases hversion : a = .version
    · rw [if_neg hhelp, if_pos hversion] at h
      cases h
    rw [if_neg hhelp, if_neg hversion] at h
    split at h
    · cases h
    · rename_i g₂ hs
      cases h
      rw [settle_ok hs]
      exact ⟨(has_add g₁ a vs).1, (settleWaiting_keeps hw).trans (has_add g₁ a vs).2⟩

theorem await_keeps {l : Level} {g g' : Given} {a : Argument} (h : await l g a = .ok g') :
    Keeps g g' := by
  unfold await at h
  split at h
  · cases h
  · rename_i g₁ hw
    cases h
    have hkeeps : Keeps g g₁ := settleWaiting_keeps hw
    exact hkeeps

theorem finish_keeps {l : Level} {g g' : Given} (h : finish l g = .ok g') : Keeps g g' := by
  unfold finish at h
  split at h
  · cases h
  · rename_i hw
    cases h
    exact settleWaiting_keeps hw

/-! ## Words -/

theorem refuseLong_error {l : Level} {g g' : Given} {long : String} {later : List String} :
    refuseLong l g long later ≠ .ok g' := by
  intro h
  unfold refuseLong at h
  dsimp only at h
  split at h
  · cases h
  · split at h <;> cases h

theorem refuseWord_error {l : Level} {afterDashes : Bool} {g : Given} {word : String} :
    refuseWord l afterDashes word ≠ .ok g := by
  intro h
  unfold refuseWord refuse at h
  split at h
  · cases h
  · split at h <;> cases h

theorem readLong_keeps {l : Level} {g g' : Given} {long : String} {value : Option String}
    {later : List String} (h : readLong l g long value later = .ok g') : Keeps g g' := by
  unfold readLong at h
  split at h
  · exact absurd h refuseLong_error
  · rename_i a _
    by_cases hv : a.takesValue = true
    · rw [if_pos hv] at h
      split at h
      · exact (take_keeps h).2
      · exact await_keeps h
    · rw [if_neg hv] at h
      split at h
      · cases h
      · exact (take_keeps h).2

theorem readShorts_keeps {l : Level} {cs : List Char} :
    ∀ {g g' : Given}, readShorts l g cs = .ok g' → Keeps g g' := by
  induction cs with
  | nil =>
    intro g g' h
    cases h
    exact Keeps.refl g
  | cons c rest ih =>
    intro g g' h
    unfold readShorts at h
    split at h
    · cases h
    · rename_i a _
      by_cases hv : a.takesValue = true
      · rw [if_pos hv] at h
        split at h
        · exact await_keeps h
        · exact (take_keeps h).2
        · exact (take_keeps h).2
      · rw [if_neg hv] at h
        split at h
        · rename_i g₁ ht
          exact (take_keeps ht).2.trans (ih h)
        · cases h

theorem readWord_keeps {l : Level} {g g' : Given} {word : String} {later : List String}
    (h : readWord l g word later = .ok g') : Keeps g g' := by
  unfold readWord at h
  split at h
  · exact readLong_keeps h
  · exact readShorts_keeps h
  · split at h
    · cases h
      exact Keeps.refl g
    · exact absurd h refuseWord_error

theorem ofLong?_mem {l : Level} {long : String} {a : Argument} (h : Level.ofLong? l long = some a) :
    a ∈ Level.arguments l ∧ a.long = long := by
  unfold Level.ofLong? at h
  exact ⟨List.mem_of_find?_eq_some h, by simpa using List.find?_some h⟩

theorem long_inj {a b : Argument} (h : a.long = b.long) : a = b := by
  cases a <;> cases b <;> first | rfl | exact absurd h (by decide)

/-- The word that a flag is written with is read as the flag. -/
theorem readWord_flag {l : Level} {g g' : Given} {a : Argument} {later : List String}
    (ha : a.takesValue = false) (h : readWord l g ("--" ++ a.long) later = .ok g') :
    g'.has a = true ∧ a ∈ Level.arguments l := by
  have hword : ("--" ++ a.long).toList = '-' :: '-' :: a.long.toList := by simp
  have hsplit : splitLong a.long.toList = (a.long, none) := by
    cases a <;> decide
  unfold readWord at h
  rw [hword] at h
  simp only [hsplit] at h
  unfold readLong at h
  split at h
  · exact absurd h refuseLong_error
  · rename_i b hb
    obtain ⟨hmem, hlong⟩ := ofLong?_mem hb
    rw [long_inj hlong] at h hmem
    simp only [ha, Bool.false_eq_true, if_false] at h
    exact ⟨(take_keeps h).1, hmem⟩

/-! ## All arguments -/

/-- What becomes of one word: reading ends with it, or goes on behind it. -/
theorem readArguments_cases {c : Command} {g g' : Given} {word : String} {rest : List String}
    (h : readArguments c g (word :: rest) = .ok g') :
    (word = "--" ∧ rest = [] ∧ finish (some c) g = .ok g') ∨
      ∃ g₁, readWord (some c) g word rest = .ok g₁ ∧ readArguments c g₁ rest = .ok g' := by
  by_cases hd : word = "--"
  · subst hd
    cases rest with
    | nil => exact Or.inl ⟨rfl, rfl, h⟩
    | cons next rest =>
      exact absurd (show refuseWord (some c) true next = .ok g' from h) refuseWord_error
  · rw [readArguments] at h
    · split at h
      · rename_i g₁ hw
        exact Or.inr ⟨g₁, hw, h⟩
      · cases h
    · exact hd

theorem readArguments_keeps {c : Command} {args : List String} :
    ∀ {g g' : Given}, readArguments c g args = .ok g' → Keeps g g' := by
  induction args with
  | nil =>
    intro g g' h
    exact finish_keeps h
  | cons word rest ih =>
    intro g g' h
    rcases readArguments_cases h with ⟨-, -, hf⟩ | ⟨g₁, hw, hr⟩
    · exact finish_keeps hf
    · exact (readWord_keeps hw).trans (ih hr)

/-- A flag that stands among the arguments of a command was given, and is one of the command's. -/
theorem flag_given {c : Command} {a : Argument} (ha : a.takesValue = false) {args : List String} :
    ∀ {g g' : Given}, readArguments c g args = .ok g' → "--" ++ a.long ∈ args →
      g'.has a = true ∧ a ∈ Level.arguments (some c) := by
  have hword : "--" ++ a.long ≠ "--" := by
    cases a <;> decide
  induction args with
  | nil =>
    intro g g' _ hmem
    cases hmem
  | cons word rest ih =>
    intro g g' h hmem
    rcases readArguments_cases h with ⟨rfl, rfl, -⟩ | ⟨g₁, hw, hr⟩
    · exact absurd (List.mem_singleton.mp hmem) hword
    · rcases List.mem_cons.mp hmem with rfl | hmem
      · obtain ⟨hhas, hcommand⟩ := readWord_flag ha hw
        exact ⟨readArguments_keeps hr a hhas, hcommand⟩
      · exact ih hr hmem

/-- What stands before the command stops the reading. -/
theorem take_program {a : Argument} (ha : a ∈ Level.arguments none) :
    a.takesValue = false ∧ ∀ long vs g, take none {} long a vs ≠ .ok g := by
  simp only [Level.arguments, List.mem_cons, List.not_mem_nil, or_false] at ha
  rcases ha with rfl | rfl
  · exact ⟨rfl, fun long vs g h => by cases h⟩
  · exact ⟨rfl, fun long vs g h => by cases h⟩

theorem readWord_program {word : String} {later : List String} {g : Given} :
    readWord none {} word later ≠ .ok g := by
  intro h
  unfold readWord at h
  split at h
  · rename_i rest _
    dsimp only at h
    unfold readLong at h
    split at h
    · exact refuseLong_error h
    · rename_i a ha
      obtain ⟨hflag, htake⟩ := take_program (ofLong?_mem ha).1
      simp only [hflag, Bool.false_eq_true, if_false] at h
      split at h
      · cases h
      · exact htake _ _ _ h
  · rename_i c rest _
    unfold readShorts at h
    split at h
    · cases h
    · rename_i a ha
      obtain ⟨hflag, htake⟩ := take_program (List.mem_of_find?_eq_some ha)
      simp only [hflag, Bool.false_eq_true, if_false] at h
      split at h
      · rename_i g₁ ht
        exact htake _ _ _ ht
      · cases h
  · exact refuseWord_error h

/-- A list that is not refused asks for nothing, or for a command with what follows it. -/
theorem ofArguments_cases {args : List String} {i : Invocation}
    (h : Invocation.ofArguments args = .ok i) : args = [] ∨ args = ["--"] ∨
      ∃ c rest g, args = c.name :: rest ∧ readArguments c {} rest = .ok g ∧ i = g.invocation c := by
  cases args with
  | nil => exact Or.inl rfl
  | cons word rest =>
    refine Or.inr ?_
    by_cases hd : word = "--"
    · subst hd
      cases rest with
      | nil => exact Or.inl rfl
      | cons next rest =>
        have hrefused : (refuseWord none true next).map (fun _ => Invocation.none) = .ok i := h
        cases hr : refuseWord none true next with
        | ok g => exact absurd hr refuseWord_error
        | error stop =>
          rw [hr] at hrefused
          cases hrefused
    · refine Or.inr ?_
      rw [Invocation.ofArguments, readProgram] at h
      · split at h
        · cases h
        · rename_i c _ hc
          obtain rfl : c.name = word := by
            simpa using List.find?_some (show Command.all.find? (·.name == word) = some c from hc)
          cases hr : readArguments c {} rest with
          | error stop =>
            rw [hr] at h
            cases h
          | ok g =>
            rw [hr] at h
            cases h
            exact ⟨c, rest, g, rfl, hr, rfl⟩
        · split at h
          · rename_i hw
            exact absurd hw readWord_program
          · cases h
      · exact hd

/-- Only scans can be told to deny warnings, and they are told if the flag is among the arguments. -/
theorem denies_of_given {args : List String} {i : Invocation} (h : Invocation.ofArguments args = .ok i)
    (hflag : "--deny-warnings" ∈ args) :
    ∃ a : ScanArguments, a.denyWarnings = true ∧
      (i = .scan a ∨ ∃ format output, i = .generate a format output) := by
  rcases ofArguments_cases h with rfl | rfl | ⟨c, rest, g, rfl, hr, rfl⟩
  · cases hflag
  · exact absurd hflag (by decide)
  · have hrest : "--" ++ Argument.denyWarnings.long ∈ rest := by
      rcases List.mem_cons.mp hflag with hname | hrest
      · cases c <;> exact absurd hname (by decide)
      · exact hrest
    obtain ⟨hhas, hcommand⟩ := flag_given rfl hr hrest
    cases c with
    | scan => exact ⟨g.scanArguments, hhas, Or.inl rfl⟩
    | generate => exact ⟨g.scanArguments, hhas, Or.inr ⟨_, _, rfl⟩⟩
    | init | serve | help => exact absurd hcommand (by decide)

end RouteShortcuts.CommandLine
