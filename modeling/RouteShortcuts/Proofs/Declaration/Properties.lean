/-
  RouteShortcuts.Proofs.Declaration.Properties — what counts of an object literal.

  A configuration is read from the properties whose key is one of a few plain names. Each of its
  texts is the last that its key is given (`lastString_eq`), and its icons are those of the last
  array literal (`lastIcons_eq`); what stands behind it and is no literal does not count. So a
  configuration is known from what its keys are given, in order (`SaysSame`). Properties with other
  keys or with none, and values that are no literals, may come and go (`saysSame_without`), and
  properties with different keys may change places (`saysSame_of_filter`). The same goes for the
  object literals of icons.

  Proved: `object_says`, for every list of properties.
-/

import RouteShortcuts.Proofs.Declaration.Meaning

namespace RouteShortcuts.Declaration

open RouteShortcuts.Script

/-! ## What a key is given -/

/-- The texts that a key is given, in order. -/
def texts (key : String) (ps : List Property) : List String :=
  ps.filterMap (valueOf? key stringLiteral?)

/-- The lists of icons that are given, in order. -/
def iconLists (ps : List Property) : List (List Icon) := ps.filterMap (valueOf? "icons" readIcons)

theorem lastValue_eq {α : Type} (key : String) (read : Expr → Option α) (ps : List Property) :
    (namedValues ps).foldl (fun found (name, value) => if name == key then (read value).or found
      else found) none = (ps.filterMap (valueOf? key read)).getLast? := by
  rw [foldl_namedValues, foldl_or_eq, Option.or_none, List.getLast?_filterMap]

theorem lastString_eq (key : String) (ps : List Property) :
    lastString key ps = (texts key ps).getLast? :=
  lastValue_eq key stringLiteral? ps

theorem lastIcons_eq (ps : List Property) : lastIcons ps = (iconLists ps).getLast? := by
  rw [lastIcons_eq_foldl, lastValue_eq, iconLists]

theorem lastString_none_iff {key : String} {ps : List Property} :
    lastString key ps = none ↔ ∀ p ∈ ps, ∀ s, ¬ SaysText key s p := by
  rw [lastString_eq, List.getLast?_eq_none_iff, texts, List.filterMap_eq_nil_iff]
  simp only [← saysText_iff, Option.eq_none_iff_forall_ne_some, ne_eq]

theorem lastIcons_none_iff {ps : List Property} :
    lastIcons ps = none ↔ ∀ p ∈ ps, ∀ is, ¬ SaysIcons is p := by
  rw [lastIcons_eq, List.getLast?_eq_none_iff, iconLists, List.filterMap_eq_nil_iff]
  simp only [← saysIcons_iff, Option.eq_none_iff_forall_ne_some, ne_eq]

/-- Every object literal gives an icon, and nothing else does. -/
theorem givesIcon_iff {e : Expr} :
    (∃ i, GivesIcon e i) ↔ ∃ pos ps trailing, Plain (some e) (.object pos ps trailing) := by
  constructor
  · rintro ⟨i, pos, ps, trailing, hp, -⟩
    exact ⟨pos, ps, trailing, hp⟩
  · rintro ⟨pos, ps, trailing, hp⟩
    exact ⟨icon ps, pos, ps, trailing, hp, iconSays_iff.mpr rfl⟩

/-- Every array literal gives a list of icons, and nothing else does. -/
theorem givesIcons_iff {p : Property} : (∃ is, SaysIcons is p) ↔
    ∃ pos value at_ elements trailing, p = .keyValue (.name pos (.ident "icons")) value ∧
      Wraps (.array at_ elements trailing) value := by
  constructor
  · rintro ⟨is, pos, value, at_, elements, trailing, hp, hv, -⟩
    exact ⟨pos, value, at_, elements, trailing, hp, hv⟩
  · rintro ⟨pos, value, at_, elements, trailing, hp, hv⟩
    exact ⟨icons elements, pos, value, at_, elements, trailing, hp, hv, icons_iff.mpr rfl⟩

theorem named_iff {ps : List Property} :
    (∃ d, details? ps = some d) ↔ ∃ name, LastText "name" ps name ∧ name ≠ "" := by
  constructor
  · rintro ⟨d, h⟩
    have hsays := details?_iff.mp h
    exact ⟨d.name, hsays.name, hsays.named⟩
  · rintro ⟨name, hlast, hne⟩
    simp only [details?, lastString_iff.mpr hlast, hne, if_false]
    exact ⟨_, rfl⟩

/-! ## Object literals that say the same -/

/-- The keys of the texts in a configuration. -/
def textKeys : List String := ["name", "short_name", "description"]

/-- The keys of an icon. -/
def iconKeys : List String := ["src", "sizes", "type", "purpose"]

/-- Object literals that give the keys of a configuration the same, in the same order. -/
structure SaysSame (ps qs : List Property) : Prop where
  texts : ∀ key ∈ textKeys, texts key ps = texts key qs
  icons : iconLists ps = iconLists qs

section

variable {ps qs before after : List Property} {p : Property}

theorem SaysSame.details (h : SaysSame ps qs) : details? ps = details? qs := by
  have htexts : ∀ key ∈ textKeys, lastString key ps = lastString key qs := by
    intro key hk
    rw [lastString_eq, h.texts key hk, ← lastString_eq]
  have hicons : lastIcons ps = lastIcons qs := by rw [lastIcons_eq, h.icons, ← lastIcons_eq]
  simp only [textKeys, List.forall_mem_cons] at htexts
  obtain ⟨hname, hshort, hdescription, -⟩ := htexts
  simp only [details?, hname, hshort, hdescription, hicons]

theorem icon_congr (h : ∀ key ∈ iconKeys, texts key ps = texts key qs) : icon ps = icon qs := by
  simp only [iconKeys, List.forall_mem_cons] at h
  obtain ⟨hsrc, hsizes, htype, hpurpose, -⟩ := h
  simp only [icon, lastString_eq, hsrc, hsizes, htype, hpurpose]

/-- A property that says nothing of a configuration. -/
structure Silent (p : Property) : Prop where
  noText : ∀ key ∈ textKeys, ∀ s, ¬ SaysText key s p
  noIcons : ∀ is, ¬ SaysIcons is p

theorem saysSame_without (h : Silent p) : SaysSame (before ++ after) (before ++ p :: after) := by
  have hdrop : ∀ {α : Type} (read : Property → Option α), read p = none →
      (before ++ after).filterMap read = (before ++ p :: after).filterMap read := by
    intro α read hnone
    rw [List.filterMap_append, List.filterMap_append, List.filterMap_cons_none hnone]
  constructor
  · intro key hk
    refine hdrop _ (Option.eq_none_iff_forall_ne_some.mpr fun s hs => ?_)
    exact h.noText key hk s (saysText_iff.mp hs)
  · refine hdrop _ (Option.eq_none_iff_forall_ne_some.mpr fun is his => ?_)
    exact h.noIcons is (saysIcons_iff.mp his)

/-- Is this the plain name before the colon of a property? -/
def hasKey (key : String) : Property → Bool
  | .keyValue (.name _ (.ident name)) _ => name == key
  | _ => false

/-- A key is given something by the properties that have it, and by no other. -/
theorem filterMap_hasKey {α : Type} (key : String) (read : Expr → Option α) (ps : List Property) :
    (ps.filter (hasKey key)).filterMap (valueOf? key read) = ps.filterMap (valueOf? key read) := by
  rw [List.filterMap_filter]
  congr 1
  funext p
  split
  · rfl
  · rename_i hno
    refine (Option.eq_none_iff_forall_ne_some.mpr fun a ha => hno ?_).symm
    obtain ⟨pos, value, rfl, -⟩ := valueOf?_iff.mp ha
    exact beq_self_eq_true key

theorem texts_of_filter {key : String} (h : ps.filter (hasKey key) = qs.filter (hasKey key)) :
    texts key ps = texts key qs := by
  rw [texts, ← filterMap_hasKey, h, filterMap_hasKey, texts]

theorem saysSame_of_filter (h : ∀ key, ps.filter (hasKey key) = qs.filter (hasKey key)) :
    SaysSame ps qs where
  texts := fun key _ => texts_of_filter (h key)
  icons := by rw [iconLists, ← filterMap_hasKey, h, filterMap_hasKey, iconLists]

end

/-! ## The rule -/

/-- What an object literal says, and what of it does not count. -/
structure ObjectMeaning (ps : List Property) : Prop where
  /-- A text is the last one that its key is given, if it is given one. -/
  text : ∀ key s, lastString key ps = some s ↔ LastText key ps s
  noText : ∀ key, lastString key ps = none ↔ ∀ p ∈ ps, ∀ s, ¬ SaysText key s p
  /-- The icons are those of the last `icons` that is an array literal, in order one for each
  element that is an object literal and no spread. -/
  icons : ∀ is, lastIcons ps = some is ↔ LastIcons ps is
  noIcons : lastIcons ps = none ↔ ∀ p ∈ ps, ∀ is, ¬ SaysIcons is p
  everyList : ∀ p, (∃ is, SaysIcons is p) ↔
    ∃ pos value at_ elements trailing, p = .keyValue (.name pos (.ident "icons")) value ∧
      Wraps (.array at_ elements trailing) value
  everyIcon : ∀ e, (∃ i, GivesIcon e i) ↔ ∃ pos properties trailing,
    Plain (some e) (.object pos properties trailing)
  /-- A configuration has these texts and icons; there is one exactly if there is a name and it is
  not empty. -/
  details : ∀ d, details? ps = some d ↔ Says ps d
  named : (∃ d, details? ps = some d) ↔ ∃ name, LastText "name" ps name ∧ name ≠ ""
  /-- Nothing counts but what the keys are given, in its order, be they those of a configuration or
  of an icon. -/
  onlySaid : ∀ qs, SaysSame qs ps → details? qs = details? ps
  onlyIconSaid : ∀ qs, (∀ key ∈ iconKeys, texts key qs = texts key ps) → icon qs = icon ps
  /-- A property that says nothing may be left out. -/
  unread : ∀ before p after, ps = before ++ p :: after → Silent p →
    details? (before ++ after) = details? ps
  /-- The order of properties with different keys does not count. -/
  reordered : ∀ qs, (∀ key, qs.filter (hasKey key) = ps.filter (hasKey key)) →
    details? qs = details? ps ∧ icon qs = icon ps

/-- The meaning of an object literal, for every list of properties of whatever kinds. -/
theorem object_says (ps : List Property) : ObjectMeaning ps where
  text := fun _ _ => lastString_iff
  noText := fun _ => lastString_none_iff
  icons := fun _ => lastIcons_iff
  noIcons := lastIcons_none_iff
  everyList := fun _ => givesIcons_iff
  everyIcon := fun _ => givesIcon_iff
  details := fun _ => details?_iff
  named := named_iff
  onlySaid := fun _ h => h.details
  onlyIconSaid := fun _ h => icon_congr h
  unread := by
    rintro before p after rfl hp
    exact (saysSame_without hp).details
  reordered := fun _ h =>
    ⟨(saysSame_of_filter h).details, icon_congr fun key _ => texts_of_filter (h key)⟩

/-- A later name that is no literal does not count; one that is empty does. -/
example :
    let named (value : Expr) : Property := .keyValue (.name 0 (.ident "name")) value
    details? [named (.string 0 (some "A")), named (.ident 0 "x")] = some { name := "A" } ∧
      details? [named (.string 0 (some "A")), named (.string 0 (some ""))] = none := by
  decide

end RouteShortcuts.Declaration
