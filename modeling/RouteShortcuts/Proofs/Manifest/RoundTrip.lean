/-
  RouteShortcuts.Proofs.Manifest.RoundTrip — a manifest is told by its text.

  Entries and shortcuts are printed as objects that leave out what is not there, and read again
  member by member (`decode_icon`, `decode_entry`, `decode_shortcut`). Whichever fields are there,
  no name stands twice and nothing is nested deeper than five levels (`fits_icon`, `fits_entry`,
  `fits_shortcut`), so the printed text is read as the value that was printed.

  Proved: `manifests_survive_their_text`, for every list of entries or shortcuts and both formats.
-/

import RouteShortcuts.Manifest
import RouteShortcuts.Proofs.Json.RoundTrip

namespace RouteShortcuts

open RouteShortcuts.Json

/-- Reads a text as a list of what `item` decodes. -/
def readList {α : Type} (item : Value → Except Cause α) (text : String) : Except Fault (List α) := do
  let v ← Value.read text
  (v.asList item).mapError fun cause => ⟨cause, none⟩

theorem readList_pretty {α : Type} {item : Value → Except Cause α} {f : α → Value}
    (h : ∀ a, item (f a) = .ok a) (hfits : ∀ a, (f a).Fits 126) (as : List α) :
    readList item (Value.array (as.map f)).pretty = .ok as := by
  have hall : (Value.array (as.map f)).Fits depthLimit := by
    intro v hv
    obtain ⟨a, -, rfl⟩ := List.mem_map.mp hv
    exact hfits a
  unfold readList
  rw [read_pretty hall]
  show ((Value.array (as.map f)).asList item).mapError _ = _
  rw [asList_map h]
  rfl

/-! ## Members -/

/-- A member that a field is named by sets the field. -/
theorem decodeMembers_field {α : Type} {shape : Shape} {set : String → Value → α → Except Cause α}
    {seen : List String} {k : String} {v : Value} {a b : α}
    (hfield : shape.fields.contains k = true) (hnew : seen.contains k = false)
    (hset : set k v a = .ok b) (rest : List (String × Value)) :
    decodeMembers shape set seen ((k, v) :: rest) a = decodeMembers shape set (k :: seen) rest b := by
  rw [decodeMembers, if_pos hfield, hnew, hset]
  rfl

theorem keys_optionalMember (name : String) (text : Option String) :
    ((optionalMember name text).map Prod.fst).Sublist [name] := by
  cases text with
  | none => exact List.nil_sublist _
  | some s => exact List.Sublist.refl _

theorem fits_string (depth : Nat) (s : String) : (Value.string s).Fits depth := by
  cases depth <;> exact trivial

theorem fits_optionalMember (depth : Nat) (name : String) (text : Option String) :
    ∀ m ∈ optionalMember name text, m.2.Fits depth := by
  cases text with
  | none => exact fun _ hm => by cases hm
  | some s =>
    intro m hm
    obtain rfl := List.mem_singleton.mp hm
    exact fits_string depth s

/-! ## Icons -/

theorem decode_icon (i : Icon) : Icon.ofValue i.toValue = .ok i := by
  obtain ⟨src, sizes, type, purpose⟩ := i
  cases src <;> cases sizes <;> cases type <;> cases purpose <;> rfl

theorem fits_icon (depth : Nat) (i : Icon) : i.toValue.Fits (depth + 1) := by
  constructor
  · simp only [List.map_append]
    have hsub :=
      (((keys_optionalMember "src" i.src).append (keys_optionalMember "sizes" i.sizes)).append
      (keys_optionalMember "type" i.type)).append (keys_optionalMember "purpose" i.purpose)
    exact hsub.nodup (by decide)
  · simp only [List.forall_mem_append]
    exact ⟨⟨⟨fits_optionalMember depth _ _, fits_optionalMember depth _ _⟩,
      fits_optionalMember depth _ _⟩, fits_optionalMember depth _ _⟩

theorem decode_icons (icons : List Icon) :
    (iconsValue icons).asList Icon.ofValue = .ok icons := asList_map decode_icon icons

theorem fits_icons (depth : Nat) (icons : List Icon) : (iconsValue icons).Fits (depth + 2) := by
  intro v hv
  obtain ⟨i, -, rfl⟩ := List.mem_map.mp hv
  exact fits_icon depth i

/-! ## Entries -/

theorem decode_entry (e : ManifestEntry) : ManifestEntry.ofValue e.toValue = .ok e := by
  have hicons (d : ManifestEntry.Draft) : ManifestEntry.Draft.setField "icons" (iconsValue e.icons) d =
      .ok { d with icons := some e.icons } := by
    show (do return { d with icons := some (← (iconsValue e.icons).asList Icon.ofValue) }) = _
    rw [decode_icons]
    rfl
  have hdecode : e.toValue.decode ManifestEntry.shape ManifestEntry.Draft.setField {} =
      .ok ⟨some e.name, some e.shortName, some e.description, some e.url, some e.icons⟩ := by
    show decodeMembers _ _ [] _ _ = _
    rw [decodeMembers_field rfl rfl rfl, decodeMembers_field rfl rfl rfl,
      decodeMembers_field rfl rfl rfl, decodeMembers_field rfl rfl rfl,
      decodeMembers_field rfl rfl (hicons _)]
    rfl
  unfold ManifestEntry.ofValue
  rw [hdecode]
  rfl

theorem fits_entry (depth : Nat) (e : ManifestEntry) : e.toValue.Fits (depth + 3) := by
  refine ⟨?_, ?_⟩
  · show ["name", "short_name", "description", "url", "icons"].Nodup
    decide
  · simp only [List.forall_mem_cons]
    exact ⟨fits_string _ _, fits_string _ _, fits_string _ _, fits_string _ _,
      fits_icons depth e.icons, fun _ hm => by cases hm⟩

/-! ## Shortcuts -/

/-- Icons that are not there are left out, and an empty list is there. -/
theorem decode_details (d : Details) : Details.ofValue d.toValue = .ok d := by
  obtain ⟨name, shortName, description, icons⟩ := d
  cases icons with
  | none => cases shortName <;> cases description <;> rfl
  | some icons =>
    have hicons (d : Details.Draft) : Details.Draft.setField "icons" (iconsValue icons) d =
        .ok { d with icons := some icons } := by
      show (do return { d with icons := ← ((iconsValue icons).asList Icon.ofValue).map some }) = _
      rw [decode_icons]
      rfl
    have hlast (seen : List String) (hnew : seen.contains "icons" = false) (d : Details.Draft) :
        decodeMembers Details.shape Details.Draft.setField seen [("icons", iconsValue icons)] d =
          .ok { d with icons := some icons } :=
      decodeMembers_field rfl hnew (hicons d) []
    have hdecode : (Details.toValue ⟨name, shortName, description, some icons⟩).decode Details.shape
        Details.Draft.setField {} =
        .ok ⟨some name, shortName, description, some icons⟩ := by
      cases shortName with
      | none =>
        cases description with
        | none => exact hlast ["name"] rfl ⟨some name, none, none, none⟩
        | some text => exact hlast ["description", "name"] rfl ⟨some name, none, some text, none⟩
      | some short =>
        cases description with
        | none => exact hlast ["short_name", "name"] rfl ⟨some name, some short, none, none⟩
        | some text =>
          exact hlast ["description", "short_name", "name"] rfl
            ⟨some name, some short, some text, none⟩
    unfold Details.ofValue
    rw [hdecode]
    rfl

theorem fits_details (depth : Nat) (d : Details) : d.toValue.Fits (depth + 3) := by
  obtain ⟨name, shortName, description, icons⟩ := d
  have hkeys :=
    ((List.Sublist.refl ["name"]).append (keys_optionalMember "short_name" shortName)).append
    (keys_optionalMember "description" description)
  refine ⟨?_, ?_⟩
  · simp only [List.map_append]
    cases icons with
    | none => exact (hkeys.append (List.nil_sublist ["icons"])).nodup (by decide)
    | some icons => exact (hkeys.append (List.Sublist.refl ["icons"])).nodup (by decide)
  · simp only [List.forall_mem_append, List.forall_mem_singleton]
    refine ⟨⟨⟨fits_string _ _, fits_optionalMember _ _ _⟩, fits_optionalMember _ _ _⟩, ?_⟩
    cases icons with
    | none => exact fun _ hm => by cases hm
    | some icons =>
      intro m hm
      obtain rfl := List.mem_singleton.mp hm
      exact fits_icons depth icons

theorem decode_shortcut (s : Shortcut) : Shortcut.ofValue s.toValue = .ok s := by
  have hdetails (d : Shortcut.Draft) : Shortcut.Draft.setField "config" s.details.toValue d =
      .ok { d with details := some s.details } := by
    show (do return { d with details := some (← Details.ofValue s.details.toValue) }) = _
    rw [decode_details]
    rfl
  have hdecode : s.toValue.decode Shortcut.shape Shortcut.Draft.setField {} =
      .ok ⟨some s.path, some s.details, some s.file⟩ := by
    show decodeMembers _ _ [] _ _ = _
    rw [decodeMembers_field rfl rfl rfl, decodeMembers_field rfl rfl (hdetails _),
      decodeMembers_field rfl rfl rfl]
    rfl
  unfold Shortcut.ofValue
  rw [hdecode]
  rfl

theorem fits_shortcut (depth : Nat) (s : Shortcut) : s.toValue.Fits (depth + 4) := by
  refine ⟨?_, ?_⟩
  · show ["path", "config", "file"].Nodup
    decide
  · simp only [List.forall_mem_cons]
    exact ⟨fits_string _ _, fits_details depth s.details, fits_string _ _, fun _ hm => by cases hm⟩

/-! ## Texts -/

theorem read_manifest (entries : List ManifestEntry) :
    readList ManifestEntry.ofValue (Manifest.toValue entries).pretty = .ok entries :=
  readList_pretty decode_entry (fits_entry 123) entries

theorem read_shortcuts (shortcuts : List Shortcut) :
    readList Shortcut.ofValue (shortcutsValue shortcuts).pretty = .ok shortcuts :=
  readList_pretty decode_shortcut (fits_shortcut 122) shortcuts

/-- What is decoded from its text tells a list by the text. -/
theorem pretty_inj {α : Type} {item : Value → Except Cause α} {printed : List α → Value}
    (h : ∀ as, readList item (printed as).pretty = .ok as) {as bs : List α} :
    (printed as).pretty = (printed bs).pretty ↔ as = bs := by
  constructor
  · intro he
    have hread := (h as).symm.trans ((congrArg (readList item) he).trans (h bs))
    exact Except.ok.inj hread
  · intro he
    rw [he]

theorem pretty_ne_module (entries others : List ManifestEntry) :
    (Manifest.toValue entries).pretty ≠ "export default " ++ (Manifest.toValue others).pretty := by
  intro h
  have hhead := congrArg (fun text : String => text.toList.head?) h
  rw [String.toList_append] at hhead
  unfold Manifest.toValue Value.pretty at hhead
  rw [String.toList_ofList] at hhead
  cases entries <;> cases hhead

theorem render_eq_iff (f g : ManifestFormat) (entries others : List ManifestEntry) :
    Manifest.render f entries = Manifest.render g others ↔ f = g ∧ entries = others := by
  cases f with
  | json =>
    cases g with
    | json => exact (pretty_inj read_manifest).trans (by simp)
    | module => exact iff_of_false (pretty_ne_module entries others) (by simp)
  | module =>
    cases g with
    | json => exact iff_of_false (pretty_ne_module others entries).symm (by simp)
    | module =>
      have hsame : Manifest.render .module entries = Manifest.render .module others ↔
          (Manifest.toValue entries).pretty = (Manifest.toValue others).pretty :=
            String.append_right_inj "export default "
      exact hsame.trans ((pretty_inj read_manifest).trans (by simp))

/-- A manifest that is written as JSON is read back as it was, and a module is that text after two
words; a list of shortcuts is read back as it was. So neither two manifests nor two lists are
written alike. -/
theorem manifests_survive_their_text :
    (∀ entries, readList ManifestEntry.ofValue (Manifest.render .json entries) = .ok entries) ∧
      (∀ entries, Manifest.render .module entries =
        "export default " ++ Manifest.render .json entries) ∧
      (∀ shortcuts, readList Shortcut.ofValue (shortcutsValue shortcuts).pretty = .ok shortcuts) ∧
      (∀ f g entries others, Manifest.render f entries = Manifest.render g others ↔
        f = g ∧ entries = others) ∧
      ∀ shortcuts others, (shortcutsValue shortcuts).pretty = (shortcutsValue others).pretty ↔
        shortcuts = others :=
  ⟨read_manifest, fun _ => rfl, read_shortcuts, render_eq_iff, fun _ _ => pretty_inj read_shortcuts⟩

/-- No icons and an empty list of icons are not the same. -/
example : (Details.toValue ⟨"Cart", none, none, none⟩).pretty =
      "\x7b\n  \x22name\x22: \x22Cart\x22\n\x7d" ∧
    (Details.toValue ⟨"Cart", none, none, some []⟩).pretty =
      "\x7b\n  \x22name\x22: \x22Cart\x22,\n  \x22icons\x22: []\n\x7d" := by
  decide +kernel

end RouteShortcuts
