/-
  RouteShortcuts.Proofs.Json.RoundTrip — what is printed is read as it was.

  A value without numbers whose objects name every member once, and that is not nested too deeply,
  is read back from its printed text (`read_pretty`). Numbers are left out because a decimal is
  printed as the nearest floating point number. On the way: a list printed from a list of anything
  is taken by a reader of its items (`takes_list`), so lists of strings are read as such
  (`takes_strings`).
-/

import RouteShortcuts.Json.Decode
import RouteShortcuts.Proofs.Json.Reading

namespace RouteShortcuts.Json

open Reader

/-- No number, no key twice in one object, and nested no deeper than this. -/
def Value.Fits : Nat → Value → Prop
  | _, .null | _, .bool _ | _, .string _ => True
  | _, .number _ => False
  | 0, .array _ | 0, .object _ => False
  | depth + 1, .array items => ∀ v ∈ items, v.Fits depth
  | depth + 1, .object members => (members.map Prod.fst).Nodup ∧ ∀ m ∈ members, m.2.Fits depth

/-! ## Printed texts -/

theorem spaced_map {α β : Type} (blanks : List Char) (part : β → List Char) (f : α → β) (as : List α) :
    spaced blanks part (as.map f) = spaced blanks (fun a => part (f a)) as := by
  cases as with
  | nil => rfl
  | cons a as => rw [List.map_cons, spaced, spaced, List.flatMap_map]

theorem prettyItems_eq (level : Nat) (vs : List Value) :
    Value.prettyItems level vs = spaced (newLine level) (Value.prettyChars level) vs := by
  induction vs with
  | nil => rw [Value.prettyItems, spaced]
  | cons v vs ih =>
    cases vs with
    | nil => rw [Value.prettyItems, spaced, List.flatMap_nil, List.append_nil]
    | cons w vs =>
      rw [Value.prettyItems, ih, spaced, spaced, List.flatMap_cons, List.cons_append]
      exact List.cons_ne_nil w vs

theorem prettyMembers_eq (level : Nat) (ms : List (String × Value)) :
    Value.prettyMembers level ms = spaced (newLine level)
    (memberText (Value.prettyChars level)) ms := by
  induction ms with
  | nil => rw [Value.prettyMembers, spaced]
  | cons m ms ih =>
    obtain ⟨k, v⟩ := m
    cases ms with
    | nil => simp [Value.prettyMembers, spaced, memberText]
    | cons m' ms =>
      rw [Value.prettyMembers, ih, spaced, spaced, List.flatMap_cons]
      · simp [memberText]
      · exact List.cons_ne_nil m' ms

/-- A list in brackets, if it has items. -/
theorem prettyChars_array (level : Nat) {items : List Value} (h : items ≠ []) :
    (Value.array items).prettyChars level =
    '[' :: (spaced (newLine (level + 1)) (Value.prettyChars (level + 1)) items ++
      (newLine level ++ [']'])) := by
  rw [Value.prettyChars, prettyItems_eq, List.append_assoc]
  exact h

theorem prettyChars_object (level : Nat) {members : List (String × Value)} (h : members ≠ []) :
    (Value.object members).prettyChars level = '\x7b' ::
      (spaced (newLine (level + 1)) (memberText (Value.prettyChars (level + 1))) members ++
        (newLine level ++ ['\x7d'])) := by
  rw [Value.prettyChars, prettyMembers_eq, List.append_assoc]
  exact h

theorem opens_quote (s : String) : Opens (quote s) := ⟨'"', _, rfl, rfl, by decide⟩

theorem opens_pretty {depth : Nat} {v : Value} (h : v.Fits depth) (level : Nat) :
    Opens (v.prettyChars level) := by
  cases v with
  | null => exact ⟨'n', _, rfl, rfl, by decide⟩
  | bool b => cases b <;> exact ⟨_, _, rfl, rfl, by decide⟩
  | number n => cases depth <;> exact h.elim
  | string s => exact opens_quote s
  | array items => cases items <;> exact ⟨'[', _, rfl, rfl, by decide⟩
  | object members => cases members <;> exact ⟨'\x7b', _, rfl, rfl, by decide⟩

/-! ## Lists and objects -/

section
variable {α : Type} {item : Reader α} (f : α → Value)

/-- The inside of a printed list, and its end. -/
theorem takes_array (level : Nat) (s : List Char) {as : List α}
    (hopens : ∀ a ∈ as, Opens ((f a).prettyChars (level + 1)))
    (hitem : ∀ a ∈ as, ∀ t, Takes item ((f a).prettyChars (level + 1) ++ t) t a) :
    ∃ inside, (Value.array (as.map f)).prettyChars level = '[' :: inside ∧ Takes (items item)
      (inside ++ s) s as := by
  by_cases h : as.map f = []
  · obtain rfl := List.map_eq_nil_iff.mp h
    exact ⟨[']'], rfl, takes_items blanks_nil blanks_nil s hopens hitem⟩
  · refine ⟨_, prettyChars_array level h, ?_⟩
    rw [spaced_map, List.append_assoc, List.append_assoc]
    exact takes_items (blanks_newLine _) (blanks_newLine _) s hopens hitem

theorem takes_list (level : Nat) (s : List Char) {as : List α}
    (hopens : ∀ a ∈ as, Opens ((f a).prettyChars (level + 1)))
    (hitem : ∀ a ∈ as, ∀ t, Takes item ((f a).prettyChars (level + 1) ++ t) t a) :
    Takes (list item) ((Value.array (as.map f)).prettyChars level ++ s) s as := by
  obtain ⟨inside, hprinted, hinside⟩ := takes_array f level s hopens hitem
  rw [hprinted]
  exact (takes_token rfl _).bind ((takes_drop _ _).bind hinside)

end

theorem takes_strings (level : Nat) (texts : List String) (s : List Char) :
    Takes (list string) ((Value.strings texts).prettyChars level ++ s) s texts :=
  takes_list Value.string level s (fun t _ => opens_quote t) (fun t _ u => takes_string t u)

/-- The inside of a printed object, and its end. -/
theorem takes_object {α : Type} {member : α → String → Reader α} (level : Nat) (s : List Char) {a b : α}
    {ms : List (String × Value)} (h : Folds member (Value.prettyChars (level + 1)) a ms b) :
    ∃ inside, (Value.object ms).prettyChars level = '\x7b' :: inside ∧ Takes (members member a)
      (inside ++ s) s b := by
  by_cases hms : ms = []
  · subst hms
    exact ⟨['\x7d'], rfl, takes_members blanks_nil blanks_nil s h⟩
  · refine ⟨_, prettyChars_object level hms, ?_⟩
    rw [List.append_assoc, List.append_assoc]
    exact takes_members (blanks_newLine _) (blanks_newLine _) s h

/-! ## Values -/

theorem insert_new {k : String} {members : List (String × Value)}
    (h : k ∉ members.map Prod.fst) (v : Value) : insert k v members = members ++ [(k, v)] := by
  induction members with
  | nil => rfl
  | cons m members ih =>
    rw [List.map_cons, List.mem_cons, not_or] at h
    rw [insert, if_neg (fun e => h.1 e.symm), ih h.2, List.cons_append]

theorem takes_word (cs s : List Char) : Takes (word cs) (cs ++ s) s () := by
  induction cs with
  | nil => exact takes_pure () s
  | cons c cs ih =>
    refine (takes_next c (cs ++ s)).bind ?_
    show Takes (if c = c then word cs else failAfter c .expectedWord) (cs ++ s) s ()
    rw [if_pos rfl]
    exact ih

theorem Takes.value_after_blanks {depth : Nat} {s t blanks : List Char} {v : Value}
    (h : Takes (value depth) s t v) (hb : Blanks blanks) :
    Takes (value depth) (blanks ++ s) t v := by
  cases depth <;> exact Takes.after_blanks h hb

/-- What is no list and no object is read alike at every depth. -/
theorem takes_scalar {depth : Nat} {c : Char} {s t : List Char} {v : Value}
    (hc : c ≠ '[' ∧ c ≠ '\x7b') (hspace : isSpace c = false)
    (h : Takes (scalar c) (c :: s) t v) : Takes (value depth) (c :: s) t v := by
  have hwith (list object : Reader Value) : Takes (valueWith list object) (c :: s) t v := by
    refine (takes_token hspace s).bind ?_
    split
    · rename_i e
      cases e
    · rename_i e
      cases e
      exact absurd rfl hc.1
    · rename_i e
      cases e
      exact absurd rfl hc.2
    · rename_i e
      cases e
      exact h
  cases depth <;> exact hwith _ _

/-- The members of an object with distinct keys are read one after another as they are. -/
theorem folds_members {depth level : Nat} {ms : List (String × Value)}
    (h : ∀ m ∈ ms, ∀ s, Takes (value depth) (m.2.prettyChars level ++ s) s m.2)
    (before : List (String × Value)) (hkeys : ((before ++ ms).map Prod.fst).Nodup) :
    Folds (fun found k => do
      colon
      return insert k (← value depth) found) (Value.prettyChars level) before ms (before ++ ms) := by
  induction ms generalizing before with
  | nil =>
    rw [List.append_nil]
    exact Folds.nil before
  | cons m ms ih =>
    obtain ⟨k, v⟩ := m
    have hnew : k ∉ before.map Prod.fst := by
      rw [List.map_append, List.map_cons, List.nodup_append] at hkeys
      intro hk
      exact hkeys.2.2 k hk k List.mem_cons_self rfl
    rw [List.append_cons] at hkeys ⊢
    refine Folds.cons (fun t => (takes_colon _).bind ?_)
      (ih (fun m hm => h m (List.mem_cons_of_mem _ hm)) _ hkeys)
    rw [← insert_new hnew]
    exact ((h (k, v) List.mem_cons_self t).value_after_blanks blanks_blank).map

theorem takes_null (depth : Nat) (s : List Char) : Takes (value depth) ("null".toList ++ s) s .null :=
  takes_scalar (by decide) rfl
    ((takes_drop _ _).bind ((takes_word ['u', 'l', 'l'] s).bind (takes_pure _ s)))

theorem takes_bool (depth : Nat) (b : Bool) (s : List Char) :
    Takes (value depth) (boolChars b ++ s) s (.bool b) := by
  cases b with
  | true =>
    exact takes_scalar (by decide) rfl
      ((takes_drop _ _).bind ((takes_word ['r', 'u', 'e'] s).bind (takes_pure _ s)))
  | false =>
    exact takes_scalar (by decide) rfl
      ((takes_drop _ _).bind ((takes_word ['a', 'l', 's', 'e'] s).bind (takes_pure _ s)))

theorem takes_quote (depth : Nat) (text : String) (s : List Char) :
    Takes (value depth) (quote text ++ s) s (.string text) := by
  unfold quote
  rw [List.cons_append, List.append_assoc]
  exact takes_scalar (by decide) rfl ((takes_drop _ _).bind (takes_stringRest text s).map)

/-- A value that fits is taken whole, however far it is indented. -/
theorem takes_value {depth : Nat} {v : Value} (h : v.Fits depth) (level : Nat) (s : List Char) :
    Takes (value depth) (v.prettyChars level ++ s) s v := by
  induction depth generalizing v level s with
  | zero =>
    cases v with
    | null => exact takes_null 0 s
    | bool b => exact takes_bool 0 b s
    | string text => exact takes_quote 0 text s
    | number n => exact h.elim
    | array items => exact h.elim
    | object members => exact h.elim
  | succ depth ih =>
    cases v with
    | null => exact takes_null _ s
    | bool b => exact takes_bool _ b s
    | string text => exact takes_quote _ text s
    | number n => exact h.elim
    | array items =>
      obtain ⟨inside, hprinted, hinside⟩ := takes_array id level s (fun v hv => opens_pretty (h v hv) _)
        (fun v hv t => ih (h v hv) _ t)
      rw [List.map_id] at hprinted
      rw [hprinted]
      exact (takes_token rfl _).bind ((takes_drop _ _).bind hinside.map)
    | object members =>
      have hmembers : ∀ m ∈ members, ∀ t,
          Takes (value depth) (m.2.prettyChars (level + 1) ++ t) t m.2 :=
        fun m hm t => ih (h.2 m hm) _ t
      have hfolds := folds_members hmembers [] h.1
      obtain ⟨inside, hprinted, hinside⟩ := takes_object level s hfolds
      rw [hprinted]
      exact (takes_token rfl _).bind ((takes_drop _ _).bind hinside.map)

theorem read_pretty {v : Value} (h : v.Fits depthLimit) : Value.read v.pretty = .ok v := by
  have hv := takes_value h 0 []
  rw [List.append_nil] at hv
  exact Takes.readAll (by rwa [Value.pretty, String.toList_ofList]) blanks_nil

/-! ## Lists of values -/

/-- A list is decoded item by item. -/
theorem asList_map {α : Type} {item : Value → Except Cause α} {f : α → Value}
    (h : ∀ a, item (f a) = .ok a) (as : List α) :
    (Value.array (as.map f)).asList item = .ok as := by
  show decodeAll item (as.map f) = .ok as
  induction as with
  | nil => rfl
  | cons a as ih =>
    rw [List.map_cons, decodeAll, h a, ih]
    rfl

end RouteShortcuts.Json
