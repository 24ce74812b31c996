/-
  RouteShortcuts.Proofs.Files.Spelling — several texts for one path.

  A text may have pieces that say nothing: empty ones and `.`. They are passed over on the way, but
  behind a file even they ask for a directory, so a text leads where another leads that says the
  same with no less behind it (`Respells`, `walk_respelled`), and of two texts that say the same
  both lead to one place if both lead anywhere (`walk_same`).

  Names that are joined to a path say that path and then the names (`filterMap_foldl_join`). If the path
  leads to a directory, by whatever links and steps up, the names lead on to what stands below it
  (`walk_append`, `lookup_foldl_join`). A link at the end of a path may be left as it is; a lookup that
  leaves it finds the link or what the path leads to (`lookup_link_or_same`).
-/

import RouteShortcuts.Proofs.Files.Canonical

namespace RouteShortcuts.Files

/-! ## Joined names -/

theorem pieces_slash (a b : String) : pieces (a ++ "/" ++ b) = pieces a ++ pieces b := by
  have hslash : ∀ s ∈ pieces a ++ pieces b, '/' ∉ s.toList := by
    intro s hs
    rcases List.mem_append.mp hs with hs | hs
    · exact noSlash_of_mem_pieces hs
    · exact noSlash_of_mem_pieces hs
  have htext := intercalate_pieces_append (pieces_ne_nil a) b
  rw [intercalate_pieces] at htext
  rw [← htext]
  exact pieces_intercalate hslash (by simp [pieces_ne_nil])

/-- The pieces of a path to which a name is joined: an empty one at the end gives way to it. -/
theorem pieces_join (base : String) {name : String} (hn : IsName name) :
    ∃ front, pieces (join base name) = front ++ [name] ∧
      front.filterMap component? = (pieces base).filterMap component? := by
  have hrel : isAbsolute name = false := isAbsolute_name hn.noSlash
  by_cases hempty : base = ""
  · subst hempty
    exact ⟨[], by simp [join, pieces_name hn.noSlash], rfl⟩
  by_cases hlast : base.toList.getLast? = some '/'
  · obtain ⟨chars, hchars⟩ := List.getLast?_eq_some_iff.mp hlast
    have hbase : base = String.ofList chars ++ "/" := by
      rw [← String.toList_inj, hchars, String.toList_append, String.toList_ofList]
      rfl
    refine ⟨pieces (String.ofList chars), ?_, ?_⟩
    · simp only [join, hrel, hempty, hlast, Bool.false_eq_true, or_self, if_false, if_true]
      rw [hbase, pieces_slash, pieces_name hn.noSlash]
    · have hblank := pieces_slash (String.ofList chars) ""
      rw [String.append_empty, ← hbase] at hblank
      rw [hblank, List.filterMap_append]
      exact (List.append_nil _).symm
  · refine ⟨pieces base, ?_, rfl⟩
    simp only [join, hrel, hempty, hlast, Bool.false_eq_true, or_self, if_false]
    rw [pieces_slash, pieces_name hn.noSlash]

theorem filterMap_join (base : String) {name : String} (hn : IsName name) :
    (pieces (join base name)).filterMap component? =
      (pieces base).filterMap component? ++ [.name name] := by
  obtain ⟨front, hp, hf⟩ := pieces_join base hn
  rw [hp, List.filterMap_append, hf, List.filterMap_cons_some (component?_name hn)]
  rfl

theorem filterMap_foldl_join {names : List String} : ∀ {base : String}, (∀ s ∈ names, IsName s) →
    (pieces (names.foldl join base)).filterMap component? =
      (pieces base).filterMap component? ++ names.map .name := by
  induction names with
  | nil =>
    intro base _
    simp
  | cons name names ih =>
    intro base hn
    rw [List.foldl_cons, ih fun s hs => hn s (by simp [hs]), filterMap_join base (hn name (by simp))]
    simp

theorem getLast?_foldl_join {names : List String} {name : String} (hn : IsName name) (base : String) :
    (pieces ((names ++ [name]).foldl join base)).getLast? = some name := by
  rw [List.foldl_append]
  obtain ⟨front, hp, -⟩ := pieces_join (names.foldl join base) hn
  rw [List.foldl_cons, List.foldl_nil, hp, List.getLast?_concat]

theorem isAbsolute_append {a : String} (ha : isAbsolute a = true) (b : String) :
    isAbsolute (a ++ b) = true := by
  unfold isAbsolute at ha ⊢
  rw [String.toList_append, List.head?_append]
  rw [beq_iff_eq] at ha
  rw [ha]
  rfl

theorem isAbsolute_join {base : String} (hb : isAbsolute base = true) (text : String) :
    isAbsolute (join base text) = true := by
  have hne : base ≠ "" := by
    rintro rfl
    cases hb
  unfold join
  split
  · rename_i h
    exact h.resolve_right hne
  split
  · exact isAbsolute_append hb text
  · exact isAbsolute_append (isAbsolute_append hb "/") text

theorem isAbsolute_foldl_join {names : List String} : ∀ {base : String}, isAbsolute base = true →
    isAbsolute (names.foldl join base) = true := by
  induction names with
  | nil => exact fun hb => hb
  | cons name names ih => exact fun hb => ih (isAbsolute_join hb name)

theorem components_foldl_join {base : String} (hb : isAbsolute base = true) {names : List String}
    (hn : ∀ s ∈ names, IsName s) :
    components (names.foldl join base) = components base ++ names.map .name := by
  simp only [components, hb, isAbsolute_foldl_join hb, if_true,
    filterMap_foldl_join hn, List.cons_append]

theorem mem_join {c : Char} {base text : String} (h : c ∈ (join base text).toList) :
    c ∈ base.toList ∨ c = '/' ∨ c ∈ text.toList := by
  unfold join at h
  split at h
  · exact Or.inr (Or.inr h)
  split at h
  · rcases List.mem_append.mp (String.toList_append ▸ h) with h | h
    · exact Or.inl h
    · exact Or.inr (Or.inr h)
  · rw [String.toList_append, String.toList_append] at h
    rcases List.mem_append.mp h with h | h
    · rcases List.mem_append.mp h with h | h
      · exact Or.inl h
      · exact Or.inr (Or.inl (by simpa using h))
    · exact Or.inr (Or.inr h)

theorem mem_foldl_join {c : Char} {names : List String} :
    ∀ {base : String}, c ∈ (names.foldl join base).toList →
    c ∈ base.toList ∨ c = '/' ∨ ∃ s ∈ names, c ∈ s.toList := by
  induction names with
  | nil => exact fun h => Or.inl h
  | cons name names ih =>
    intro base h
    rcases ih h with h | h | ⟨s, hs, h⟩
    · rcases mem_join h with h | h | h
      · exact Or.inl h
      · exact Or.inr (Or.inl h)
      · exact Or.inr (Or.inr ⟨name, by simp, h⟩)
    · exact Or.inr (Or.inl h)
    · exact Or.inr (Or.inr ⟨s, by simp [hs], h⟩)

/-! ## Pieces that say the same -/

/-- `qs` says what `ps` says, and asks for a directory at its end only if `ps` does. -/
structure Respells (ps qs : List String) : Prop where
  same : ps.filterMap component? = qs.filterMap component?
  ending : ∀ q, qs.getLast? = some q → component? q = none → ∃ p, ps.getLast? = some p ∧
    component? p = none

theorem component?_none {piece : String} : component? piece = none ↔ piece = "" ∨ piece = "." := by
  unfold component?
  split
  · rename_i h
    exact iff_of_true rfl h
  · rename_i h
    split <;> exact iff_of_false (by simp) h

theorem component?_some {piece : String} {c : Component} (h : component? piece = some c) :
    c = if piece = ".." then .up else .name piece := by
  unfold component? at h
  split at h
  · cases h
  split at h
  · rename_i hup
    cases h
    rw [if_pos hup]
  · rename_i hup
    cases h
    rw [if_neg hup]

theorem component?_inj {a b : String} {c : Component} (ha : component? a = some c)
    (hb : component? b = some c) : a = b := by
  have h : (if a = ".." then Component.up else .name a) = if b = ".." then Component.up else .name b :=
    (component?_some ha).symm.trans (component?_some hb)
  by_cases hua : a = ".." <;> by_cases hub : b = ".."
  · rw [hua, hub]
  · rw [if_pos hua, if_neg hub] at h
    cases h
  · rw [if_neg hua, if_pos hub] at h
    cases h
  · rw [if_neg hua, if_neg hub] at h
    exact Component.name.inj h

/-- One of two spellings asks for no more than the other. -/
theorem respells_total {ps qs : List String} (h : ps.filterMap component? = qs.filterMap component?) :
    Respells ps qs ∨ Respells qs ps := by
  by_cases hp : ∃ p, ps.getLast? = some p ∧ component? p = none
  · exact Or.inl ⟨h, fun _ _ _ => hp⟩
  · exact Or.inr ⟨h.symm, fun p hl hb => absurd ⟨p, hl, hb⟩ hp⟩

theorem getLast?_filterMap_nil {ps : List String} (h : ps.filterMap component? = []) {p : String}
    (hp : ps.getLast? = some p) : component? p = none :=
  List.filterMap_eq_nil_iff.mp h p (List.mem_of_getLast? hp)

theorem Respells.append {ps qs : List String} (h : Respells ps qs) (front : List String) :
    Respells (front ++ ps) (front ++ qs) := by
  refine ⟨by rw [List.filterMap_append, List.filterMap_append, h.same], ?_⟩
  intro q hq hblank
  rw [List.getLast?_append] at hq ⊢
  cases hlast : qs.getLast? with
  | some q' =>
    rw [hlast] at hq
    cases hq
    obtain ⟨p, hp, hpb⟩ := h.ending q hlast hblank
    exact ⟨p, by rw [hp]; rfl, hpb⟩
  | none =>
    -- nothing stands behind the front, or nothing that says anything
    obtain rfl : qs = [] := List.getLast?_eq_none_iff.mp hlast
    cases hps : ps.getLast? with
    | none => exact ⟨q, by simpa [hlast] using hq, hblank⟩
    | some p => exact ⟨p, rfl, getLast?_filterMap_nil h.same hps⟩

/-- What follows the same piece in two spellings. -/
theorem Respells.rest {before before' ps qs : List String} {p : String} {c : Component}
    (hp : component? p = some c) (hsame : ps.filterMap component? = qs.filterMap component?)
    (h : Respells (before ++ p :: ps) (before' ++ p :: qs)) : Respells ps qs := by
  refine ⟨hsame, ?_⟩
  intro q hq hblank
  obtain ⟨last, hlast, hlastBlank⟩ :=
    h.ending q (by simp [List.getLast?_append, List.getLast?_cons, hq]) hblank
  cases hps : ps.getLast? with
  | some p' =>
    have he : last = p' := by
      rw [List.getLast?_append, List.getLast?_cons, hps] at hlast
      exact (Option.some.inj hlast).symm
    exact ⟨p', rfl, he ▸ hlastBlank⟩
  | none =>
    obtain rfl : ps = [] := List.getLast?_eq_none_iff.mp hps
    have he : last = p := by
      rw [List.getLast?_append] at hlast
      exact (Option.some.inj hlast).symm
    rw [he, hp] at hlastBlank
    cases hlastBlank

namespace Disk

section

variable {top : Entry} {jump : Location → List String → Except Refusal Target}

theorem walkNames_blanks {follow : Bool} {dir : Location} {entries : List (String × Entry)}
    (hd : top.at? dir = some (.directory entries)) (rest : List String) :
    ∀ {blanks : List String}, (∀ p ∈ blanks, component? p = none) →
      walkNames top follow jump dir (blanks ++ rest) = walkNames top follow jump dir rest := by
  intro blanks
  induction blanks with
  | nil => exact fun _ => rfl
  | cons p blanks ih =>
    intro h
    have hp : p = "" ∨ p = "." := component?_none.mp (h p (by simp))
    rw [List.cons_append, walkNames, hd]
    simp only [hp, if_true]
    exact ih fun q hq => h q (by simp [hq])

/-- Only from a directory a walk goes on. -/
theorem directory_of_walkNames {follow : Bool} {dir : Location} {ps : List String}
    {t : Target} (hne : ps ≠ []) (h : walkNames top follow jump dir ps = .ok t) :
    ∃ entries, top.at? dir = some (.directory entries) := by
  obtain ⟨p, ps, rfl⟩ := List.exists_cons_of_ne_nil hne
  obtain ⟨entries, -, hd, -⟩ := walkNames_cons_iff.mp h
  exact ⟨entries, hd⟩

/-- A walk ends where it ends with other pieces that say the same. -/
theorem walkNames_respelled {place : Location} {e : Entry}
    (hj : ∀ dir ps qs, Respells ps qs → jump dir ps = .ok (.present place e) →
      jump dir qs = .ok (.present place e)) :
    ∀ {said : List Component} {ps qs : List String} {dir : Location}, ps.filterMap component? =
      said → Respells ps qs →
      walkNames top true jump dir ps = .ok (.present place e) →
      walkNames top true jump dir qs = .ok (.present place e) := by
  intro said
  induction said with
  | nil =>
    intro ps qs dir hsaid hr h
    cases hps : ps.getLast? with
    | none =>
      obtain rfl : ps = [] := List.getLast?_eq_none_iff.mp hps
      cases hqs : qs.getLast? with
      | none =>
        obtain rfl : qs = [] := List.getLast?_eq_none_iff.mp hqs
        exact h
      | some q =>
        obtain ⟨p, hp, -⟩ := hr.ending q hqs (getLast?_filterMap_nil (hr.same.symm.trans hsaid) hqs)
        cases hp
    | some p =>
      have hne : ps ≠ [] := by
        rintro rfl
        cases hps
      obtain ⟨entries, hd⟩ := directory_of_walkNames hne h
      have hstay : ∀ blanks : List String, blanks.filterMap component? = [] →
          walkNames top true jump dir blanks = walkNames top true jump dir [] := by
        intro blanks hb
        rw [← walkNames_blanks hd [] (List.filterMap_eq_nil_iff.mp hb), List.append_nil]
      rw [hstay qs (hr.same.symm.trans hsaid), ← hstay ps hsaid]
      exact h
  | cons c said ih =>
    intro ps qs dir hsaid hr h
    obtain ⟨before, p, ps', rfl, hbefore, hp, hps'⟩ := List.filterMap_eq_cons_iff.mp hsaid
    obtain ⟨before', q, qs', rfl, hbefore', hq, hqs'⟩ :=
      List.filterMap_eq_cons_iff.mp (hr.same.symm.trans hsaid)
    obtain rfl := component?_inj hp hq
    have hrest : Respells ps' qs' := hr.rest hp (hps'.trans hqs'.symm)
    obtain ⟨entries, hd⟩ := directory_of_walkNames (by simp) h
    rw [walkNames_blanks hd _ hbefore] at h
    rw [walkNames_blanks hd _ hbefore']
    -- the piece is the same, and so is what it does
    obtain ⟨entries', turn, hd', ht, hgo⟩ := walkNames_cons_iff.mp h
    refine walkNames_cons_iff.mpr ⟨entries', turn, hd', ht, ?_⟩
    cases turn with
    | on dir' => exact ih hps' hrest hgo
    | link dir' name target =>
      rw [leads_link fun _ => rfl] at hgo ⊢
      exact hj _ _ _ (hrest.append (pieces target)) hgo
    | free dir' name => cases hgo.2

theorem walk_respelled {place : Location} {e : Entry} :
    ∀ {links : Nat} {dir : Location} {ps qs : List String},
    Respells ps qs → walk top true links dir ps = .ok (.present place e) →
      walk top true links dir qs = .ok (.present place e) := by
  intro links
  induction links with
  | zero =>
    intro dir ps qs hr h
    exact walkNames_respelled (fun _ _ _ _ h => by cases h) rfl hr h
  | succ links ih =>
    intro dir ps qs hr h
    refine walkNames_respelled ?_ rfl hr h
    exact fun _ _ _ hr h => ih hr h

/-- Pieces that say the same lead to one place, if all lead anywhere. -/
theorem walk_same {links : Nat} {dir place place' : Location} {e e' : Entry} {ps qs : List String}
    (h : ps.filterMap component? = qs.filterMap component?)
    (hp : walk top true links dir ps = .ok (.present place e))
    (hq : walk top true links dir qs = .ok (.present place' e')) : place = place' := by
  rcases respells_total h with hr | hr
  · have := walk_respelled hr hp
    rw [hq] at this
    cases this
    rfl
  · have := walk_respelled hr hq
    rw [hp] at this
    cases this
    rfl

/-! ## Names behind a path -/

theorem walkNames_further {place : Location} {e found : Entry} {names : List String}
    (hs : top.sound = true) (hfound : ∀ target, found ≠ .link target)
    (hn : e.at? names = some found) (hj : ∀ dir ps, jump dir ps = .ok (.present place e) →
      jump dir (ps ++ names) = .ok (.present (place ++ names) found)) :
    ∀ {ps : List String} {dir : Location}, walkNames top true jump dir ps = .ok (.present place e) →
      walkNames top true jump dir (ps ++ names) = .ok (.present (place ++ names) found) := by
  intro ps
  induction ps with
  | nil =>
    intro dir h
    rw [walkNames] at h
    split at h
    · rename_i entry hd
      cases h
      have hgo : walkNames top true jump place (names ++ []) =
          walkNames top true jump (place ++ names) [] :=
        walkNames_append hfound [] hd (at?_sound hs hd).2 hn
      rw [List.append_nil] at hgo
      rw [List.nil_append, hgo, walkNames, at?_append, hd]
      simp only [Option.bind_some, hn]
    · cases h
  | cons p ps ih =>
    intro dir h
    obtain ⟨entries, turn, hd, ht, hgo⟩ := walkNames_cons_iff.mp h
    rw [List.cons_append]
    refine walkNames_cons_iff.mpr ⟨entries, turn, hd, ht, ?_⟩
    cases turn with
    | on dir' => exact ih hgo
    | link dir' name target =>
      rw [leads_link fun _ => rfl] at hgo ⊢
      rw [← List.append_assoc]
      exact hj _ _ hgo
    | free dir' name => cases hgo.2

/-- Names lead on from where a path leads to what stands below. -/
theorem walk_append {place : Location} {e found : Entry} {names : List String} (hs : top.sound = true)
    (hfound : ∀ target, found ≠ .link target) (hn : e.at? names = some found) :
    ∀ {links : Nat} {dir : Location} {ps : List String}, walk top true links dir ps =
      .ok (.present place e) →
      walk top true links dir (ps ++ names) = .ok (.present (place ++ names) found) := by
  intro links
  induction links with
  | zero => exact walkNames_further hs hfound hn fun _ _ h => by cases h
  | succ links ih => exact walkNames_further hs hfound hn fun _ _ h => ih h

/-- Names joined to a path lead on from where it leads. -/
theorem walk_foldl_join {place : Location} {e found : Entry} {names : List String}
    (hs : top.sound = true) (hfound : ∀ target, found ≠ .link target)
    (hn : e.at? names = some found) (hnames : ∀ s ∈ names, IsName s)
    {links : Nat} {dir : Location} {base : String}
    (h : walk top true links dir (pieces base) = .ok (.present place e)) :
    walk top true links dir (pieces (names.foldl join base)) =
      .ok (.present (place ++ names) found) := by
  refine walk_respelled ⟨?_, ?_⟩ (walk_append hs hfound hn h)
  · rw [filterMap_foldl_join hnames, List.filterMap_append, filterMap_component?_names hnames]
  · intro q hq hblank
    rcases List.eq_nil_or_concat names with rfl | ⟨front, last, rfl⟩
    · exact ⟨q, by simpa using hq, hblank⟩
    · rw [List.concat_eq_append] at hq hnames
      have hlast : IsName last := hnames last (by simp)
      rw [getLast?_foldl_join hlast] at hq
      cases hq
      rw [component?_name hlast] at hblank
      cases hblank

/-! ## A link at the end -/

theorem walkNames_link_or_same {jump' : Location → List String → Except Refusal Target} {t : Target}
    (hj : ∀ dir ps, jump dir ps = .ok t →
      jump' dir ps = .ok t ∨ ∃ at_ target, jump' dir ps = .ok (.present at_ (.link target))) :
    ∀ {ps : List String} {dir : Location}, walkNames top true jump dir ps = .ok t →
      walkNames top false jump' dir ps = .ok t ∨
        ∃ at_ target, walkNames top false jump' dir ps = .ok (.present at_ (.link target)) := by
  intro ps
  induction ps with
  | nil =>
    intro dir h
    rw [walkNames] at h ⊢
    exact Or.inl h
  | cons p ps ih =>
    intro dir h
    obtain ⟨entries, turn, hd, ht, hgo⟩ := walkNames_cons_iff.mp h
    -- it is enough that the walk that leaves links comes from this turn to one of the two
    have hturn : ∀ t, turn.Leads top false jump' ps t →
        walkNames top false jump' dir (p :: ps) = .ok t :=
      fun t hl => walkNames_cons_iff.mpr ⟨entries, turn, hd, ht, hl⟩
    cases turn with
    | on dir' =>
      rcases ih hgo with hsame | ⟨at_, target, hlink⟩
      · exact Or.inl (hturn _ hsame)
      · exact Or.inr ⟨at_, target, hturn _ hlink⟩
    | link dir' name target =>
      rw [leads_link fun _ => rfl] at hgo
      by_cases hps : ps = []
      · exact Or.inr ⟨dir' ++ [name], target, hturn _ (by simp [Turn.Leads, hps])⟩
      · rcases hj _ _ hgo with hsame | ⟨at_, goal, hlink⟩
        · exact Or.inl (hturn _ ((leads_link fun hnil => absurd hnil hps).mpr hsame))
        · exact Or.inr ⟨at_, goal, hturn _ ((leads_link fun hnil => absurd hnil hps).mpr hlink)⟩
    | free dir' name => exact Or.inl (hturn _ hgo)

theorem walk_link_or_same {t : Target} : ∀ {links : Nat} {dir : Location} {ps : List String},
    walk top true links dir ps = .ok t → walk top false links dir ps = .ok t ∨
      ∃ at_ target, walk top false links dir ps = .ok (.present at_ (.link target)) := by
  intro links
  induction links with
  | zero => exact walkNames_link_or_same fun _ _ h => by cases h
  | succ links ih => exact walkNames_link_or_same fun _ _ h => ih h

end

/-! ## Lookups -/

variable {d : Disk} {place : Location} {e : Entry} {path : String}

/-- A lookup that leaves a link at the end finds one there, or finds what the path leads to. -/
theorem lookup_link_or_same (h : d.lookup true path = .ok (place, e)) :
    d.lookup false path = .ok (place, e) ∨
      ∃ at_ target, d.lookup false path = .ok (at_, .link target) := by
  obtain ⟨htaken, hwalk⟩ := lookup_iff.mp h
  rcases walk_link_or_same hwalk with hsame | ⟨at_, target, hlink⟩
  · exact Or.inl (lookup_iff.mpr ⟨htaken, hsame⟩)
  · exact Or.inr ⟨at_, target, lookup_iff.mpr ⟨htaken, hlink⟩⟩

/-- What stands below a path is looked up by the names on the way, if the text does not get too long. -/
theorem lookup_foldl_join (hs : d.top.sound = true) (habs : isAbsolute path = true)
    (h : d.lookup true path = .ok (place, e)) {names : List String} {found : Entry}
    (hfound : ∀ target, found ≠ .link target) (hn : e.at? names = some found)
    (hshort : (names.foldl join path).utf8ByteSize ≤ pathLimit) :
    d.lookup true (names.foldl join path) = .ok (place ++ names, found) := by
  obtain ⟨htaken, hwalk⟩ := lookup_iff.mp h
  have hentry : ∀ s ∈ names, isEntryName s = true := (at?_sound (at?_sound hs (lookup_at? h)).2 hn).1
  have hjoined : isAbsolute (names.foldl join path) = true := isAbsolute_foldl_join habs
  have hstart : d.start (names.foldl join path) = d.start path := by simp only [start, habs, hjoined]
  refine lookup_iff.mpr ⟨⟨?_, ?_, hshort⟩, ?_⟩
  · intro hnul
    rcases mem_foldl_join hnul with hnul | hnul | ⟨s, hmem, hnul⟩
    · exact htaken.noNul hnul
    · cases hnul
    · exact isEntryName_noNul (hentry s hmem) hnul
  · intro hempty
    rw [hempty] at hjoined
    cases hjoined
  · rw [hstart]
    exact walk_foldl_join hs hfound hn (fun s hmem => isName_of_isEntryName (hentry s hmem)) hwalk

end Disk
end RouteShortcuts.Files
