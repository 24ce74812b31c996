/-
  RouteShortcuts.Proofs.Json.Controls — no control character stands in what is printed.

  Strings are printed with their control characters escaped, so whatever a value says, its text has
  no control characters but the newlines between its lines (`printable_pretty`). Values with numbers
  are left out, as everywhere here.
-/

import RouteShortcuts.Proofs.Json.RoundTrip

namespace RouteShortcuts.Json

/-- No control characters but newlines. -/
def Printable (cs : List Char) : Prop := ∀ c ∈ cs, c.toNat < 0x20 → c = '\n'

instance (cs : List Char) : Decidable (Printable cs) :=
  List.decidableBAll (fun c : Char => c.toNat < 0x20 → c = '\n') cs

theorem printable_append {cs ds : List Char} :
    Printable (cs ++ ds) ↔ Printable cs ∧ Printable ds := List.forall_mem_append

theorem printable_cons {c : Char} {cs : List Char} :
    Printable (c :: cs) ↔ (c.toNat < 0x20 → c = '\n') ∧ Printable cs :=
  List.forall_mem_cons

theorem printable_nil : Printable [] := by
  intro c hc
  cases hc

theorem printable_flatMap {α : Type} {f : α → List Char} {as : List α}
    (h : ∀ a ∈ as, Printable (f a)) : Printable (as.flatMap f) := by
  intro c hc
  obtain ⟨a, ha, hc⟩ := List.mem_flatMap.mp hc
  exact h a ha c hc

/-! ## Strings -/

theorem printable_hexPair {n : Nat} (h : n < 0x20) : Printable (hexPair n) := by
  have hall : ∀ m < 0x20, Printable (hexPair m) := by decide
  exact hall n h

/-- A control character is written with others, and any other character as it is or after a
backslash. -/
theorem printable_escape (c : Char) : Printable (escape c) := by
  unfold escape
  split
  case h_8 =>
    split
    · rename_i hcontrol
      rw [printable_append]
      exact ⟨by decide, printable_hexPair hcontrol⟩
    · rename_i hother
      rw [printable_cons]
      exact ⟨fun hcontrol => absurd hcontrol hother, printable_nil⟩
  all_goals decide

theorem printable_quote (s : String) : Printable (quote s) := by
  rw [quote, printable_cons, printable_append]
  exact ⟨by decide, printable_flatMap fun c _ => printable_escape c, by decide⟩

/-! ## Values -/

theorem printable_newLine (level : Nat) : Printable (newLine level) := by
  rw [newLine, printable_cons]
  refine ⟨fun _ => rfl, ?_⟩
  intro c hc hcontrol
  rw [List.eq_of_mem_replicate hc] at hcontrol
  exact absurd hcontrol (by decide)

theorem printable_spaced {α : Type} {blanks : List Char} {part : α → List Char} {as : List α}
    (hb : Printable blanks) (h : ∀ a ∈ as, Printable (part a)) :
    Printable (spaced blanks part as) := by
  cases as with
  | nil => exact printable_nil
  | cons a as =>
    rw [spaced, printable_append, printable_append]
    refine ⟨⟨hb, h a List.mem_cons_self⟩, printable_flatMap ?_⟩
    intro b hb'
    rw [printable_cons, printable_append]
    exact ⟨by decide, hb, h b (List.mem_cons_of_mem a hb')⟩

theorem printable_memberText {β : Type} {part : β → List Char} {m : String × β}
    (h : Printable (part m.2)) : Printable (memberText part m) := by
  rw [memberText, printable_append, printable_cons, printable_cons]
  exact ⟨printable_quote m.1, by decide, by decide, h⟩

theorem printable_array {level : Nat} {items : List Value}
    (h : ∀ v ∈ items, ∀ inner, Printable (v.prettyChars inner)) :
    Printable ((Value.array items).prettyChars level) := by
  by_cases hitems : items = []
  · subst hitems
    rw [Value.prettyChars]
    decide
  · rw [prettyChars_array level hitems, printable_cons, printable_append, printable_append]
    exact ⟨by decide, printable_spaced (printable_newLine _) (fun v hv => h v hv _),
      printable_newLine level, by decide⟩

theorem printable_object {level : Nat} {members : List (String × Value)}
    (h : ∀ m ∈ members, ∀ inner, Printable (m.2.prettyChars inner)) :
    Printable ((Value.object members).prettyChars level) := by
  by_cases hmembers : members = []
  · subst hmembers
    rw [Value.prettyChars]
    decide
  · rw [prettyChars_object level hmembers, printable_cons, printable_append, printable_append]
    have hmember := fun m hm => printable_memberText (h m hm (level + 1))
    exact ⟨by decide, printable_spaced (printable_newLine _) hmember, printable_newLine level,
      by decide⟩

theorem printable_null (level : Nat) : Printable (Value.null.prettyChars level) := by
  rw [Value.prettyChars]
  decide

theorem printable_bool (b : Bool) (level : Nat) : Printable ((Value.bool b).prettyChars level) := by
  rw [Value.prettyChars]
  cases b <;> decide

/-- By induction on the depth that a value fits in. -/
theorem printable_prettyChars {depth : Nat} {v : Value} (h : v.Fits depth) (level : Nat) :
    Printable (v.prettyChars level) := by
  induction depth generalizing v level with
  | zero =>
    cases v with
    | null => exact printable_null level
    | bool b => exact printable_bool b level
    | string text => exact printable_quote text
    | number n => exact h.elim
    | array items => exact h.elim
    | object members => exact h.elim
  | succ depth ih =>
    cases v with
    | null => exact printable_null level
    | bool b => exact printable_bool b level
    | string text => exact printable_quote text
    | number n => exact h.elim
    | array items => exact printable_array fun v hv inner => ih (h v hv) inner
    | object members => exact printable_object fun m hm inner => ih (h.2 m hm) inner

theorem printable_pretty {depth : Nat} {v : Value} (h : v.Fits depth) : Printable v.pretty.toList := by
  rw [Value.pretty, String.toList_ofList]
  exact printable_prettyChars h 0

end RouteShortcuts.Json
