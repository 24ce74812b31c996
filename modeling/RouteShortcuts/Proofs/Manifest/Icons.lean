/-
  RouteShortcuts.Proofs.Manifest.Icons — the icons that are filled in.

  The path of the default icon may hold the placeholder `192`. Each configured size gives one icon,
  whose path has the width of the size in the place of the first placeholder. What stands behind the
  first one is not looked at again, and neither is the width, so a width or a path in which `192`
  stands once more does no harm.

  Proved:
  - `replaceFirst_cases`: what replacing does to any text, by where the text is first found (`FirstAt`).
  - `isWidth_iff`: the width of a size is what stands before its first `x` (`IsWidth`).
  - `default_icons_take_the_widths`: hence the icons of any path and any sizes, and which of them
    share a path.
-/

import Mathlib.Data.List.Forall2
import Mathlib.Data.List.TakeWhile
import RouteShortcuts.Manifest

namespace RouteShortcuts.Manifest

/-! ## Replacing -/

/-- A text that is taken apart where `old` stands in it first. -/
structure FirstAt (old text before after : List Char) : Prop where
  split : text = before ++ old ++ after
  first : ∀ before' after', text = before' ++ old ++ after' → before.length ≤ before'.length

theorem FirstAt.infix {old text before after : List Char} (h : FirstAt old text before after) :
    old <:+: text :=
  ⟨before, after, h.split.symm⟩

theorem FirstAt.unique {old text before after before' after' : List Char}
    (h : FirstAt old text before after) (h' : FirstAt old text before' after') :
    before = before' ∧ after = after' := by
  have hlength : before.length = before'.length := by
    have := h.first before' after' h'.split
    have := h'.first before after h.split
    omega
  have hsplit : before ++ (old ++ after) = before' ++ (old ++ after') := by
    rw [← List.append_assoc, ← List.append_assoc, ← h.split, ← h'.split]
  obtain ⟨hbefore, hrest⟩ := List.append_inj hsplit hlength
  exact ⟨hbefore, List.append_cancel_left hrest⟩

/-- Text that stands at the front stands nowhere before it. -/
theorem firstAt_front {old text : List Char} (h : old <+: text) :
    FirstAt old text [] (text.drop old.length) := by
  refine ⟨?_, fun _ _ _ => Nat.zero_le _⟩
  rw [List.nil_append]
  exact (List.prefix_iff_eq_append.mp h).symm

/-- One more character in front, if the text does not begin there. -/
theorem FirstAt.cons {old text before after : List Char} (h : FirstAt old text before after) {c : Char}
    (hc : ¬ old <+: c :: text) : FirstAt old (c :: text) (c :: before) after := by
  refine ⟨?_, ?_⟩
  · rw [h.split]
    rfl
  · intro before' after' hsplit
    cases before' with
    | nil => exact absurd ⟨after', hsplit.symm⟩ hc
    | cons d before' =>
      have hrest : text = before' ++ old ++ after' := (List.cons.inj hsplit).2
      have hle := h.first before' after' hrest
      show before.length + 1 ≤ before'.length + 1
      omega

/-- What replacing does to a text: it changes the first place where `old` stands and nothing else,
or there is no such place. -/
theorem replaceFirst_cases {old : List Char} (hold : old ≠ []) (text : List Char) :
    (∃ before after, FirstAt old text before after ∧
      ∀ new, replaceFirst old new text = before ++ new ++ after) ∨
    ¬ old <:+: text ∧ ∀ new, replaceFirst old new text = text := by
  induction text with
  | nil => exact Or.inr ⟨fun h => hold (List.infix_nil.mp h), fun _ => rfl⟩
  | cons c text ih =>
    by_cases hfront : old <+: c :: text
    · refine Or.inl ⟨[], _, firstAt_front hfront, ?_⟩
      intro new
      rw [replaceFirst, if_pos (List.isPrefixOf_iff_prefix.mpr hfront), List.nil_append]
    · have hstep : ∀ new, replaceFirst old new (c :: text) = c :: replaceFirst old new text := by
        intro new
        rw [replaceFirst, if_neg (fun h => hfront (List.isPrefixOf_iff_prefix.mp h))]
      rcases ih with ⟨before, after, hfirst, hreplaced⟩ | ⟨habsent, hkept⟩
      · refine Or.inl ⟨c :: before, after, hfirst.cons hfront, ?_⟩
        intro new
        rw [hstep, hreplaced]
        rfl
      · refine Or.inr ⟨?_, ?_⟩
        · rw [List.infix_cons_iff]
          exact not_or.mpr ⟨hfront, habsent⟩
        · intro new
          rw [hstep, hkept]

section

variable {old text : List Char} (hold : old ≠ [])

include hold

theorem exists_firstAt (h : old <:+: text) : ∃ before after, FirstAt old text before after := by
  rcases replaceFirst_cases hold text with ⟨before, after, hfirst, -⟩ | ⟨habsent, -⟩
  · exact ⟨before, after, hfirst⟩
  · exact absurd h habsent

theorem replaceFirst_firstAt {before after : List Char} (h : FirstAt old text before after)
    (new : List Char) : replaceFirst old new text = before ++ new ++ after := by
  rcases replaceFirst_cases hold text with ⟨before', after', hfirst, hreplaced⟩ | ⟨habsent, -⟩
  · obtain ⟨rfl, rfl⟩ := h.unique hfirst
    exact hreplaced new
  · exact absurd h.infix habsent

theorem replaceFirst_absent (h : ¬ old <:+: text) (new : List Char) :
    replaceFirst old new text = text := by
  rcases replaceFirst_cases hold text with ⟨_, _, hfirst, -⟩ | ⟨-, hkept⟩
  · exact absurd hfirst.infix h
  · exact hkept new

end

/-! ## Widths -/

/-- What stands in a size before its first `x`: all of it if it has none. -/
structure IsWidth (size width : List Char) : Prop where
  noX : 'x' ∉ width
  begins : size = width ∨ ∃ rest, size = width ++ 'x' :: rest

theorem isWidth_widthOf (size : String) : IsWidth size.toList (widthOf size) := by
  refine ⟨?_, ?_⟩
  · intro h
    have := List.mem_takeWhile_imp h
    simp at this
  · have hsplit : widthOf size ++ size.toList.dropWhile (· != 'x') = size.toList :=
      List.takeWhile_append_dropWhile
    cases hrest : size.toList.dropWhile (· != 'x') with
    | nil =>
      rw [hrest, List.append_nil] at hsplit
      exact Or.inl hsplit.symm
    | cons c rest =>
      have hc : c = 'x' := by
        have := List.head?_dropWhile_not (· != 'x') size.toList
        rw [hrest] at this
        simpa using this
      rw [hrest, hc] at hsplit
      exact Or.inr ⟨rest, hsplit.symm⟩

theorem isWidth_iff {size : String} {width : List Char} :
    IsWidth size.toList width ↔ width = widthOf size := by
  constructor
  · rintro ⟨hx, hbegins⟩
    have hall : ∀ c ∈ width, (c != 'x') = true := by
      intro c hc
      rw [bne_iff_ne]
      rintro rfl
      exact hx hc
    rcases hbegins with hsize | ⟨rest, hsize⟩
    · rw [widthOf, hsize, List.takeWhile_eq_self_iff.mpr hall]
    · rw [widthOf, hsize, List.takeWhile_append_of_pos hall]
      simp
  · rintro rfl
    exact isWidth_widthOf size

/-! ## Icons -/

/-- What is replaced in the path of an icon. -/
def placeholder : List Char := ['1', '9', '2']

/-- An icon of this size with this path, and nothing else said about it than that it is a PNG
picture. -/
def picture (path : List Char) (size : String) : Icon :=
  { src := some (String.ofList path), sizes := some size, type := some "image/png" }

theorem picture_src {path path' : List Char} {size size' : String} :
    (picture path size).src = (picture path' size').src ↔ path = path' := by
  simp [picture, String.ofList_inj]

theorem placeholder_ne_nil : placeholder ≠ [] := by decide

section

variable {path : String} {before after : List Char}

theorem defaultIcon_firstAt (h : FirstAt placeholder path.toList before after) (size : String) :
    defaultIcon path size = picture (before ++ widthOf size ++ after) size := by
  rw [← replaceFirst_firstAt placeholder_ne_nil h]
  rfl

theorem defaultIcon_absent (h : ¬ placeholder <:+: path.toList) (size : String) :
    defaultIcon path size = picture path.toList size := by
  rw [← replaceFirst_absent placeholder_ne_nil h (widthOf size)]
  rfl

/-- Where the placeholder stands, two sizes have the same path if they have the same width. -/
theorem src_eq_iff (h : FirstAt placeholder path.toList before after) {size size' : String} :
    (defaultIcon path size).src = (defaultIcon path size').src ↔
      ∃ width, IsWidth size.toList width ∧ IsWidth size'.toList width := by
  rw [defaultIcon_firstAt h, defaultIcon_firstAt h, picture_src, List.append_left_inj,
    List.append_right_inj]
  constructor
  · intro hwidth
    refine ⟨widthOf size, isWidth_widthOf size, ?_⟩
    rw [hwidth]
    exact isWidth_widthOf size'
  · rintro ⟨width, hw, hw'⟩
    exact (isWidth_iff.mp hw).symm.trans (isWidth_iff.mp hw')

end

/-- What holds of each size and its icon holds of the list. -/
theorem forall₂_defaultIcons {R : String → Icon → Prop} {o : Options} :
    List.Forall₂ R o.iconSizes (defaultIcons o) ↔ ∀ size ∈ o.iconSizes,
      R size (defaultIcon o.defaultIcon size) := by
  rw [defaultIcons, List.forall₂_map_right_iff, List.forall₂_same]

theorem of_mem_zip_defaultIcons {o : Options} {p : String × Icon}
    (h : p ∈ o.iconSizes.zip (defaultIcons o)) : p.2 = defaultIcon o.defaultIcon p.1 := by
  rw [defaultIcons, ← List.map_prod_left_eq_zip] at h
  obtain ⟨size, -, rfl⟩ := List.mem_map.mp h
  rfl

/-- Any path and any sizes give one icon for each size, in order. If the placeholder stands in the
path, each path is that one with the width of the size in the first place of the placeholder, and
two icons share a path exactly if their sizes have the same width. If it does not, each icon has the
path itself. -/
theorem default_icons_take_the_widths (o : Options) :
    (defaultIcons o).map (·.sizes) = o.iconSizes.map some ∧
    (∀ before after, FirstAt placeholder o.defaultIcon.toList before after →
      List.Forall₂ (fun size icon => ∃ width, IsWidth size.toList width ∧
        icon = picture (before ++ width ++ after) size) o.iconSizes (defaultIcons o)) ∧
    (¬ placeholder <:+: o.defaultIcon.toList →
      List.Forall₂ (fun size icon => icon = picture o.defaultIcon.toList size) o.iconSizes
        (defaultIcons o)) ∧
    (placeholder <:+: o.defaultIcon.toList →
      (∃ before after, FirstAt placeholder o.defaultIcon.toList before after) ∧
      ∀ p ∈ o.iconSizes.zip (defaultIcons o), ∀ q ∈ o.iconSizes.zip (defaultIcons o),
        p.2.src = q.2.src ↔ ∃ width, IsWidth p.1.toList width ∧ IsWidth q.1.toList width) := by
  refine ⟨?_, ?_, ?_, ?_⟩
  · rw [defaultIcons, List.map_map]
    rfl
  · intro before after hfirst
    refine forall₂_defaultIcons.mpr ?_
    intro size _
    exact ⟨widthOf size, isWidth_widthOf size, defaultIcon_firstAt hfirst size⟩
  · intro habsent
    refine forall₂_defaultIcons.mpr ?_
    intro size _
    exact defaultIcon_absent habsent size
  · intro hinfix
    obtain ⟨before, after, hfirst⟩ := exists_firstAt placeholder_ne_nil hinfix
    refine ⟨⟨before, after, hfirst⟩, ?_⟩
    intro p hp q hq
    rw [of_mem_zip_defaultIcons hp, of_mem_zip_defaultIcons hq]
    exact src_eq_iff hfirst

/-- Two sizes of one width, in one of which the placeholder stands too. -/
def oneWidth (path : String) : Options := ⟨[], path, ["256", "256x192"], "f", ⟨"", .nothing⟩⟩

/-- A path in which the placeholder stands twice, and one in which it does not stand. -/
theorem sizes_of_one_width_share_a_path :
    (∃ width, IsWidth "256x192".toList width ∧
      defaultIcon "/192/app-192.png" "256x192" =
        picture (['/'] ++ width ++ "/app-192.png".toList) "256x192") ∧
    (defaultIcon "/192/app-192.png" "256").src = (defaultIcon "/192/app-192.png" "256x192").src ∧
    defaultIcon "/favicon.png" "256x192" = picture "/favicon.png".toList "256x192" := by
  obtain ⟨-, hplaced, -, hshared⟩ := default_icons_take_the_widths (oneWidth "/192/app-192.png")
  obtain ⟨-, -, hplain, -⟩ := default_icons_take_the_widths (oneWidth "/favicon.png")
  have hpath : "/192/app-192.png".toList = '/' :: (placeholder ++ "/app-192.png".toList) := by
    decide +kernel
  have hfirst : FirstAt placeholder "/192/app-192.png".toList ['/'] "/app-192.png".toList := by
    refine ⟨hpath, ?_⟩
    intro before' after' hsplit
    rw [hpath] at hsplit
    cases before' with
    | nil => cases hsplit
    | cons c before' => exact Nat.le_add_left 1 before'.length
  have hwidth : IsWidth "256".toList "256".toList ∧ IsWidth "256x192".toList "256".toList :=
    ⟨⟨by decide +kernel, Or.inl rfl⟩, ⟨by decide +kernel, Or.inr ⟨"192".toList, by decide +kernel⟩⟩⟩
  have habsent : ¬ placeholder <:+: "/favicon.png".toList := by decide +kernel
  have hsize : ∀ path, "256x192" ∈ (oneWidth path).iconSizes := fun path => .tail _ (.head _)
  refine ⟨forall₂_defaultIcons.mp (hplaced _ _ hfirst) _ (hsize _), ?_,
    forall₂_defaultIcons.mp (hplain habsent) _ (hsize _)⟩
  refine ((hshared hfirst.infix).2 ("256", _) (.head _) ("256x192", _) (.tail _ (.head _))).mpr ?_
  exact ⟨"256".toList, hwidth⟩

end RouteShortcuts.Manifest
