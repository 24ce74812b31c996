/-
  RouteShortcuts.Proofs.Json.Reading — what readers take of a text.

  A reader that takes the front of a text gives a value and leaves the rest (`Takes`), wherever in a
  whole text that is. Readers follow one another (`Takes.bind`), and blanks before a token count for
  nothing (`takes_peekToken`). From the readers of single characters up to those of lists and
  objects there is one lemma each; a list or an object is told by what is between its brackets, item
  by item (`Items`, `Members`), whatever reads an item.
-/

import RouteShortcuts.Json.Printer
import RouteShortcuts.Json.Reader

namespace RouteShortcuts.Json

open Reader

/-- Of the text `s` the reader leaves `t`, and gives `a`. -/
def Takes {α : Type} (r : Reader α) (s t : List Char) (a : α) : Prop :=
  ∀ p, ∃ q, r ⟨s, p⟩ = .ok a ⟨t, q⟩

section
variable {α β : Type} {r : Reader α} {s t u : List Char} {a : α} {b : β}

theorem takes_pure (a : α) (s : List Char) : Takes (pure a) s s a := fun p => ⟨p, rfl⟩

theorem Takes.bind {f : α → Reader β} (h : Takes r s t a) (hf : Takes (f a) t u b) :
    Takes (r >>= f) s u b := by
  intro p
  obtain ⟨q, hr⟩ := h p
  obtain ⟨q', hq⟩ := hf q
  refine ⟨q', ?_⟩
  show EStateM.bind r f ⟨s, p⟩ = _
  simp only [EStateM.bind, hr, hq]

/-- A reader that only looks at where it is. -/
theorem takes_get {f : Cursor → Reader β} (h : ∀ p, Takes (f ⟨s, p⟩) s t b) : Takes (get >>= f) s t b :=
  fun p => h p p

theorem Takes.map {f : α → β} (h : Takes r s t a) : Takes (do return f (← r)) s t (f a) :=
  h.bind (takes_pure _ _)

/-! ## Characters and blanks -/

theorem takes_next (c : Char) (s : List Char) :
    Takes next (c :: s) s (some c) := fun p => ⟨p.after c, rfl⟩

theorem takes_drop (c : Char) (s : List Char) : Takes drop (c :: s) s () := fun p => ⟨p.after c, rfl⟩

def Blanks (s : List Char) : Prop := ∀ c ∈ s, isSpace c = true

theorem blanks_nil : Blanks [] := fun _ h => by cases h

theorem blanks_blank : Blanks [' '] := by
  simp [Blanks, isSpace]

theorem blanks_newLine (level : Nat) : Blanks (newLine level) := by
  intro c hc
  rcases List.mem_cons.mp hc with rfl | hc
  · rfl
  · rw [(List.mem_replicate.mp hc).2]
    rfl

theorem dropSpaces_append {blanks : List Char} (hb : Blanks blanks) (s : List Char) (p : Place) :
    ∃ q, dropSpaces (blanks ++ s) p = dropSpaces s q := by
  induction blanks generalizing p with
  | nil => exact ⟨p, rfl⟩
  | cons c blanks ih =>
    obtain ⟨q, hq⟩ := ih (fun d hd => hb d (List.mem_cons_of_mem _ hd)) (p.after c)
    refine ⟨q, ?_⟩
    rw [← hq, List.cons_append, dropSpaces, if_pos (hb c List.mem_cons_self)]

theorem takes_peekToken {blanks : List Char} (hb : Blanks blanks) {c : Char}
    (hc : isSpace c = false) (s : List Char) :
    Takes peekToken (blanks ++ c :: s) (c :: s) (some c) := by
  intro p
  obtain ⟨q, hq⟩ := dropSpaces_append hb (c :: s) p
  refine ⟨q, ?_⟩
  show EStateM.Result.ok (dropSpaces (blanks ++ c :: s) p).rest.head?
    (dropSpaces (blanks ++ c :: s) p) = _
  rw [hq, dropSpaces, hc]
  rfl

theorem takes_token {c : Char} (hc : isSpace c = false) (s : List Char) :
    Takes peekToken (c :: s) (c :: s) (some c) :=
  takes_peekToken blanks_nil hc s

/-- A reader that begins with a token does not see blanks before it. -/
theorem Takes.after_blanks {f : Option Char → Reader β} {blanks : List Char}
    (h : Takes (peekToken >>= f) s t b) (hb : Blanks blanks) :
    Takes (peekToken >>= f) (blanks ++ s) t b := by
  intro p
  obtain ⟨q, hq⟩ := dropSpaces_append hb s p
  obtain ⟨q', hq'⟩ := h q
  refine ⟨q', ?_⟩
  rw [← hq']
  have hpeek : peekToken ⟨blanks ++ s, p⟩ = peekToken ⟨s, q⟩ := by
    show EStateM.Result.ok (dropSpaces (blanks ++ s) p).rest.head? (dropSpaces (blanks ++ s) p) = _
    rw [hq]
    rfl
  show EStateM.bind peekToken f ⟨blanks ++ s, p⟩ = EStateM.bind peekToken f ⟨s, q⟩
  simp only [EStateM.bind, hpeek]

theorem takes_finish {blanks : List Char} (hb : Blanks blanks) : Takes finish blanks [] () := by
  have hend : Takes finish [] [] () := fun p => ⟨p, rfl⟩
  have hblanks : Takes finish (blanks ++ []) [] () := Takes.after_blanks hend hb
  rw [List.append_nil] at hblanks
  exact hblanks

/-- A reader that takes a whole text but for blanks at its end reads the text. -/
theorem Takes.readAll {text : String} {blanks : List Char} (h : Takes r text.toList blanks a)
    (hb : Blanks blanks) : Reader.readAll r text = .ok a := by
  have hall : Takes (do
      let a ← r
      finish
      return a) text.toList [] a := h.bind ((takes_finish hb).bind (takes_pure a []))
  obtain ⟨q, hq⟩ := hall {}
  unfold Reader.readAll EStateM.run
  rw [hq]

end

/-! ## Strings -/

theorem hexPair_value :
    ∀ n < 0x20, (isHex (Nat.digitChar (n / 16)) && isHex (Nat.digitChar (n % 16))) = true ∧
    ['0', '0', Nat.digitChar (n / 16), Nat.digitChar (n % 16)].foldl
      (fun n e => n * 16 + Text.Ranges.hexValue e) 0 = n := by
  decide

theorem takes_unicodeEscape {c : Char} (h : c.toNat < 0x20) (s : List Char) :
    Takes unicodeEscape (['0', '0'] ++ hexPair c.toNat ++ s) s c := by
  obtain ⟨hhex, hvalue⟩ := hexPair_value c.toNat h
  have hescape : Takes hexEscape (['0', '0'] ++ hexPair c.toNat ++ s) s c.toNat := by
    rw [Bool.and_eq_true] at hhex
    refine takes_get fun p _ => ⟨(((p.after '0').after '0').after (Nat.digitChar (c.toNat / 16))).after
      (Nat.digitChar (c.toNat % 16)), ?_⟩
    simp only [List.cons_append, List.nil_append, hexPair, hhex.1, hhex.2, hvalue]
    rfl
  refine hescape.bind ?_
  have hsmall : ¬ (0xDC00 ≤ c.toNat ∧ c.toNat ≤ 0xDFFF) := by omega
  have hplain : c.toNat < 0xD800 ∨ 0xDBFF < c.toNat := by omega
  rw [if_neg hsmall, if_pos hplain, Char.ofNat_toNat]
  exact takes_pure c s

/-- An escaped character is read as itself. -/
theorem Takes.stringBody_escape {c : Char} {fuel : Nat} {done cs s t : List Char}
    (h : Takes (stringBody fuel (c :: done)) s t cs) :
    Takes (stringBody (fuel + 1) done) (escape c ++ s) t cs := by
  unfold escape
  split
  all_goals try exact (takes_next _ _).bind ((takes_next _ _).bind h)
  rename_i hquote hbackslash _ _ _ _ _
  split
  · rename_i hc
    exact (takes_next _ _).bind ((takes_next _ _).bind ((takes_unicodeEscape hc s).bind h))
  · rename_i hc
    refine (takes_next c s).bind ?_
    split
    · rename_i e
      cases e
    · rename_i e
      cases e
      exact absurd rfl hquote
    · rename_i e
      cases e
      exact absurd rfl hbackslash
    · rename_i e
      cases e
      rw [if_neg hc]
      exact h

theorem takes_stringBody (s cs : List Char) (fuel : Nat) (hfuel : cs.length < fuel) (done : List Char) :
    Takes (stringBody fuel done) (cs.flatMap escape ++ '"' :: s) s (done.reverse ++ cs) := by
  induction cs generalizing fuel done with
  | nil =>
    obtain ⟨fuel, rfl⟩ := Nat.exists_eq_succ_of_ne_zero (Nat.ne_zero_of_lt hfuel)
    rw [List.append_nil]
    exact (takes_next '"' s).bind (takes_pure _ _)
  | cons c cs ih =>
    obtain ⟨fuel, rfl⟩ := Nat.exists_eq_succ_of_ne_zero (Nat.ne_zero_of_lt hfuel)
    rw [List.flatMap_cons, List.append_assoc]
    apply Takes.stringBody_escape
    have hrest := ih fuel (Nat.lt_of_succ_lt_succ hfuel) (c :: done)
    rwa [List.reverse_cons, List.append_assoc] at hrest

theorem escape_ne_nil (c : Char) : escape c ≠ [] := by
  unfold escape
  split
  all_goals try exact List.cons_ne_nil _ _
  split <;> exact List.cons_ne_nil _ _

theorem length_le_flatMap {α β : Type} {f : α → List β} (h : ∀ a, f a ≠ []) (l : List α) :
    l.length ≤ (l.flatMap f).length := by
  induction l with
  | nil => exact Nat.zero_le _
  | cons a l ih =>
    have hpos : 0 < (f a).length := List.length_pos_iff.mpr (h a)
    rw [List.flatMap_cons, List.length_append, List.length_cons]
    omega

theorem takes_stringRest (text : String) (s : List Char) :
    Takes stringRest (text.toList.flatMap escape ++ '"' :: s) s text := by
  unfold stringRest
  refine takes_get fun p => ?_
  have hlength := length_le_flatMap escape_ne_nil text.toList
  have hbody := takes_stringBody s text.toList ((text.toList.flatMap escape ++ '"' :: s).length + 1)
    (by rw [List.length_append]; omega) []
  have hmap := hbody.map (f := String.ofList)
  rwa [List.reverse_nil, List.nil_append, String.ofList_toList] at hmap

theorem takes_string (text : String) (s : List Char) : Takes string (quote text ++ s) s text := by
  unfold quote
  rw [List.cons_append, List.append_assoc]
  exact (takes_token rfl _).bind ((takes_drop _ _).bind (takes_stringRest text s))

/-! ## Lists -/

/-- The text of items with blanks before each and commas between them. -/
def spaced {α : Type} (blanks : List Char) (part : α → List Char) : List α → List Char
  | [] => []
  | a :: as => blanks ++ part a ++ as.flatMap fun b => ',' :: (blanks ++ part b)

/-- A text that an item may begin with: its first character is no blank and ends no list. -/
def Opens (cs : List Char) : Prop := ∃ c s, cs = c :: s ∧ isSpace c = false ∧ c ≠ ']'

theorem Takes.enclosed {α : Type} {r : Reader α} {close : Reader Unit} {s t u : List Char} {a : α}
    (h : Takes r s t a) (hclose : Takes close t u ()) : Takes (Reader.enclosed r close) s u a := by
  intro p
  obtain ⟨q, hq⟩ := h p
  obtain ⟨q', hq'⟩ := hclose q
  exact ⟨q', by simp only [Reader.enclosed, hq, hq']⟩

section
variable {blanks : List Char} (hb : Blanks blanks)
include hb

theorem takes_moreItems_end (first : Bool) (s : List Char) :
    Takes (moreItems first) (blanks ++ ']' :: s) (']' :: s) false :=
  (takes_peekToken hb rfl s).bind (takes_pure _ _)

theorem takes_moreItems_first {cs : List Char} (hcs : Opens cs) (s : List Char) :
    Takes (moreItems true) (blanks ++ (cs ++ s)) (cs ++ s) true := by
  obtain ⟨c, cs, rfl, hspace, hc⟩ := hcs
  refine (takes_peekToken hb hspace (cs ++ s)).bind ?_
  split
  · rename_i e
    cases e
  · rename_i e
    cases e
    exact absurd rfl hc
  · exact takes_pure _ _

theorem takes_moreItems_next {cs : List Char} (hcs : Opens cs) (s : List Char) :
    Takes (moreItems false) (',' :: (blanks ++ (cs ++ s))) (cs ++ s) true := by
  obtain ⟨c, cs, rfl, hspace, hc⟩ := hcs
  refine (takes_token rfl _).bind
    ((takes_drop _ _).bind ((takes_peekToken hb hspace (cs ++ s)).bind ?_))
  split
  · rename_i e
    cases e
    exact absurd rfl hc
  · exact takes_pure _ _
  · rename_i e
    cases e

end

theorem length_lt_spaced {α : Type} (blanks : List Char) (part : α → List Char) (a : α) (as : List α)
    (close : List Char) (c : Char) (s : List Char) :
    as.length < (spaced blanks part (a :: as) ++ (close ++ c :: s)).length := by
  have hlength := length_le_flatMap (fun b => List.cons_ne_nil ',' (blanks ++ part b)) as
  simp only [spaced, List.length_append, List.length_cons]
  omega

theorem takes_endList (s : List Char) : Takes endList (']' :: s) s () :=
  (takes_token rfl _).bind (takes_drop _ _)

section
variable {α : Type} {item : Reader α} {part : α → List Char} {blanks close : List Char}
variable (hb : Blanks blanks) (hclose : Blanks close)
include hb hclose

theorem takes_itemsLoop (s : List Char) {as : List α} (hopens : ∀ a ∈ as, Opens (part a))
    (hitem : ∀ a ∈ as, ∀ t, Takes item (part a ++ t) t a) (fuel : Nat)
    (hfuel : as.length < fuel) (done : List α) (hdone : done.isEmpty = false) :
    Takes (itemsLoop item fuel done)
    ((as.flatMap fun b => ',' :: (blanks ++ part b)) ++ (close ++ ']' :: s)) (']' :: s)
      (done.reverse ++ as) := by
  induction as generalizing fuel done with
  | nil =>
    obtain ⟨fuel, rfl⟩ := Nat.exists_eq_succ_of_ne_zero (Nat.ne_zero_of_lt hfuel)
    rw [List.append_nil]
    exact (takes_moreItems_end hclose _ s).bind (takes_pure _ _)
  | cons a as ih =>
    obtain ⟨fuel, rfl⟩ := Nat.exists_eq_succ_of_ne_zero (Nat.ne_zero_of_lt hfuel)
    have hrest := ih (fun b hb => hopens b (List.mem_cons_of_mem _ hb))
      (fun b hb => hitem b (List.mem_cons_of_mem _ hb))
      fuel (Nat.lt_of_succ_lt_succ hfuel) (a :: done) rfl
    rw [List.reverse_cons, List.append_assoc] at hrest
    rw [List.flatMap_cons, List.cons_append, List.cons_append, List.append_assoc, List.append_assoc]
    unfold itemsLoop
    rw [hdone]
    exact (takes_moreItems_next hb (hopens a List.mem_cons_self) _).bind
      ((hitem a List.mem_cons_self _).bind hrest)

/-- What is between the brackets of a list, and the bracket after it. -/
theorem takes_items (s : List Char) {as : List α} (hopens : ∀ a ∈ as, Opens (part a))
    (hitem : ∀ a ∈ as, ∀ t, Takes item (part a ++ t) t a) :
    Takes (items item) (spaced blanks part as ++ (close ++ ']' :: s)) s as := by
  unfold items
  refine takes_get fun p => Takes.enclosed ?_ (takes_endList s)
  cases as with
  | nil => exact (takes_moreItems_end hclose true s).bind (takes_pure _ _)
  | cons a as =>
    have hrest := takes_itemsLoop hb hclose s (fun b hb => hopens b (List.mem_cons_of_mem _ hb))
      (fun b hb => hitem b (List.mem_cons_of_mem _ hb)) _
      (length_lt_spaced blanks part a as close ']' s) [a] rfl
    rw [spaced, List.append_assoc, List.append_assoc] at hrest ⊢
    exact (takes_moreItems_first hb (hopens a List.mem_cons_self) _).bind
      ((hitem a List.mem_cons_self _).bind hrest)

end

/-! ## Objects -/

theorem takes_key (k : String) (s : List Char) : Takes key (quote k ++ s) s k := by
  unfold quote
  rw [List.cons_append, List.append_assoc]
  exact (takes_drop _ _).bind (takes_stringRest k s)

theorem takes_colon (s : List Char) :
    Takes colon (':' :: s) s () := (takes_token rfl _).bind (takes_drop _ _)

theorem takes_endObject (s : List Char) :
    Takes endObject ('\x7d' :: s) s () := (takes_token rfl _).bind (takes_drop _ _)

section
variable {blanks : List Char} (hb : Blanks blanks)
include hb

theorem takes_moreMembers_end (first : Bool) (s : List Char) :
    Takes (moreMembers first) (blanks ++ '\x7d' :: s) ('\x7d' :: s) false :=
  (takes_peekToken hb rfl s).bind (takes_pure _ _)

theorem takes_moreMembers_first (k : String) (s : List Char) :
    Takes (moreMembers true) (blanks ++ (quote k ++ s)) (quote k ++ s) true :=
  (takes_peekToken hb rfl _).bind (takes_pure _ _)

theorem takes_moreMembers_next (k : String) (s : List Char) :
    Takes (moreMembers false) (',' :: (blanks ++ (quote k ++ s))) (quote k ++ s) true :=
  (takes_token rfl _).bind ((takes_drop _ _).bind ((takes_peekToken hb rfl _).bind (takes_pure _ _)))

end

/-- A member: its key, and its value after a colon and a blank. -/
def memberText {β : Type} (part : β → List Char) (m : String × β) : List Char :=
  quote m.1 ++ ':' :: ' ' :: part m.2

/-- Read one after another, the members take what was read before from `a` to `b`. -/
inductive Folds {α β : Type} (member : α → String → Reader α) (part : β → List Char) :
    α → List (String × β) → α → Prop
  | nil (a : α) : Folds member part a [] a
  | cons {a a' b : α} {k : String} {v : β} {ms : List (String × β)} :
    (∀ t, Takes (member a k) (':' :: ' ' :: (part v ++ t)) t a') → Folds member part a' ms b →
      Folds member part a ((k, v) :: ms) b

section
variable {α β : Type} {member : α → String → Reader α} {part : β → List Char} {blanks close : List Char}
variable (hb : Blanks blanks) (hclose : Blanks close)
include hb hclose

theorem takes_membersLoop (s : List Char) {a b : α} {ms : List (String × β)}
    (h : Folds member part a ms b) (fuel : Nat) (hfuel : ms.length < fuel) :
    Takes (membersLoop member fuel false a)
      ((ms.flatMap fun m => ',' :: (blanks ++ memberText part m)) ++ (close ++ '\x7d' :: s))
      ('\x7d' :: s) b := by
  induction h generalizing fuel with
  | nil a =>
    obtain ⟨fuel, rfl⟩ := Nat.exists_eq_succ_of_ne_zero (Nat.ne_zero_of_lt hfuel)
    exact (takes_moreMembers_end hclose _ s).bind (takes_pure _ _)
  | cons hmember _ ih =>
    obtain ⟨fuel, rfl⟩ := Nat.exists_eq_succ_of_ne_zero (Nat.ne_zero_of_lt hfuel)
    have hrest := ih fuel (Nat.lt_of_succ_lt_succ hfuel)
    rw [List.flatMap_cons, memberText]
    simp only [List.cons_append, List.append_assoc]
    exact (takes_moreMembers_next hb _ _).bind ((takes_key _ _).bind ((hmember _).bind hrest))

/-- What is between the braces of an object, and the brace after it. -/
theorem takes_members (s : List Char) {a b : α} {ms : List (String × β)}
    (h : Folds member part a ms b) :
    Takes (members member a) (spaced blanks (memberText part) ms ++ (close ++ '\x7d' :: s)) s b := by
  unfold members
  refine takes_get fun p => Takes.enclosed ?_ (takes_endObject s)
  cases h with
  | nil => exact (takes_moreMembers_end hclose true s).bind (takes_pure _ _)
  | @cons _ _ _ k v ms hmember hms =>
    have hrest := takes_membersLoop hb hclose s hms _
      (length_lt_spaced blanks (memberText part) (k, v) ms close '\x7d' s)
    rw [spaced, memberText] at hrest ⊢
    simp only [List.cons_append, List.append_assoc] at hrest ⊢
    exact (takes_moreMembers_first hb k _).bind ((takes_key k _).bind ((hmember _).bind hrest))

end

end RouteShortcuts.Json
