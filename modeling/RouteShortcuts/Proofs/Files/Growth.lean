/-
  RouteShortcuts.Proofs.Files.Growth — file systems to which something is added.

  `Grows New d d'`: everything that stands in `d` stands in `d'`, of the same kind and, if it is a
  file, with the same content; and whatever is new has a name and is of a kind that `New` allows.
  Growth adds up (`Grows.trans`), so it is enough to look at one name that is put where none was
  (`grows_put`).

  A name that is made is the last piece of the path that asked for it, since a link at the end of
  the path is not followed when a directory is made, and is refused by the hypothesis when a file is
  written (`walk_free`). So making directories and writing a file to a path that led nowhere add
  directories and the file, all with names that are pieces of the path (`grows_makeDirectories`,
  `grows_write`).
-/

import RouteShortcuts.Proofs.Files.Writing

namespace RouteShortcuts.Files

/-! ## Kinds of entries -/

theorem bare_file {e : Entry} {content : ByteArray} : e.bare = .file content ↔ e = .file content := by
  cases e <;> simp [Entry.bare]

theorem bare_link {e : Entry} {target : String} : e.bare = .link target ↔ e = .link target := by
  cases e <;> simp [Entry.bare]

theorem bare_empty {e : Entry} : e.bare = Entry.empty ↔ ∃ entries, e = .directory entries := by
  cases e <;> simp [Entry.bare, Entry.empty]

/-- Two entries of one kind; files with one content, and links with one target. -/
inductive SameKind : Entry → Entry → Prop
  | file (content : ByteArray) : SameKind (.file content) (.file content)
  | link (target : String) : SameKind (.link target) (.link target)
  | directory (entries entries' : List (String × Entry)) : SameKind (.directory entries)
    (.directory entries')

theorem sameKind_iff {e e' : Entry} : SameKind e e' ↔ e.bare = e'.bare := by
  constructor
  · rintro (_ | _ | _) <;> rfl
  · intro h
    cases e with
    | file content =>
      obtain rfl := bare_file.mp h.symm
      exact .file content
    | link target =>
      obtain rfl := bare_link.mp h.symm
      exact .link target
    | directory entries =>
      obtain ⟨entries', rfl⟩ := bare_empty.mp h.symm
      exact .directory entries entries'

/-! ## Sound trees with one name more -/

theorem soundAll_put {name : String} {e : Entry} (hname : isEntryName name = true)
    (he : e.sound = true) :
    ∀ {entries : List (String × Entry)}, Entry.soundAll entries = true →
      Entry.soundAll (put name e entries) = true := by
  intro entries
  induction entries with
  | nil =>
    intro _
    simp [put, Entry.soundAll, find?, hname, he]
  | cons p rest ih =>
    obtain ⟨n, old⟩ := p
    intro hs
    simp only [Entry.soundAll, Bool.and_eq_true] at hs
    obtain ⟨⟨⟨hn, hfresh⟩, hold⟩, hrest⟩ := hs
    by_cases hsame : n = name
    · simp [put, hsame, Entry.soundAll, hname, hsame ▸ hfresh, he, hrest]
    · simp [put, hsame, Entry.soundAll, hn, find?_put_other hsame, hfresh, hold, ih hrest]

theorem sound_update {name : String} {e : Entry} (hname : isEntryName name = true)
    (he : e.sound = true) :
    ∀ {dir : Location} {top : Entry}, Room top dir name → top.sound = true →
      (top.update (put name e) dir).sound = true := by
  intro dir
  induction dir with
  | nil =>
    intro top h hs
    obtain ⟨entries, hd⟩ := h.directory
    cases hd
    exact soundAll_put hname he hs
  | cons first dir ih =>
    intro top h hs
    obtain ⟨entries, below, rfl, hf, hroom, hupdate⟩ := h.below
    obtain ⟨hfirst, hbelow⟩ := find?_sound hs hf
    rw [hupdate]
    exact soundAll_put hfirst (ih hroom hbelow) hs

/-! ## Growth -/

/-- Everything stands where it stood, and may be read if it might; what is new has a name and is of
a kind as `New` says. -/
structure Grows (New : String → Entry → Prop) (d d' : Disk) : Prop where
  working : d'.working = d.working
  barred : ∀ {l : Location} {e : Entry}, d.top.at? l = some e → (l ∈ d'.barred ↔ l ∈ d.barred)
  kept : ∀ {l : Location} {e : Entry}, d.top.at? l = some e →
    ∃ e', d'.top.at? l = some e' ∧ e'.bare = e.bare
  fresh : ∀ {l : Location} {e : Entry}, d'.top.at? l = some e → d.top.at? l = none →
    ∃ dir name, l = dir ++ [name] ∧ New name e.bare
  sound : d.top.sound = true → d'.top.sound = true

section

variable {New : String → Entry → Prop} {d d' d'' : Disk}

theorem Grows.refl (New : String → Entry → Prop) (d : Disk) : Grows New d d := by
  refine ⟨rfl, fun _ => Iff.rfl, fun h => ⟨_, h, rfl⟩, ?_, id⟩
  intro l e h hnone
  rw [h] at hnone
  cases hnone

theorem Grows.trans (h : Grows New d d') (h' : Grows New d' d'') : Grows New d d'' := by
  refine ⟨h'.working.trans h.working, ?_, ?_, ?_, fun hs => h'.sound (h.sound hs)⟩
  · intro l e he
    obtain ⟨e', he', -⟩ := h.kept he
    exact (h'.barred he').trans (h.barred he)
  · intro l e he
    obtain ⟨e', he', hbare⟩ := h.kept he
    obtain ⟨e'', he'', hbare'⟩ := h'.kept he'
    exact ⟨e'', he'', hbare'.trans hbare⟩
  · intro l e'' he'' hnone
    cases hmid : d'.top.at? l with
    | none => exact h'.fresh he'' hmid
    | some e' =>
      -- it was new already, and has stayed of its kind
      obtain ⟨dir, name, hl, hnew⟩ := h.fresh hmid hnone
      obtain ⟨e, he, hbare⟩ := h'.kept hmid
      rw [he''] at he
      cases he
      exact ⟨dir, name, hl, hbare ▸ hnew⟩

theorem Grows.mono {New' : String → Entry → Prop} (h : Grows New d d')
    (hNew : ∀ name e, New name e → New' name e) : Grows New' d d' := by
  refine ⟨h.working, h.barred, h.kept, fun he hnone => ?_, h.sound⟩
  obtain ⟨dir, name, hl, hnew⟩ := h.fresh he hnone
  exact ⟨dir, name, hl, hNew name _ hnew⟩

/-- Which of the new directories may be read makes no difference. -/
theorem Grows.bar (h : Grows New d d') {barred : List Location}
    (hb : ∀ {l : Location} {e : Entry}, d.top.at? l = some e → (l ∈ barred ↔ l ∈ d'.barred)) :
    Grows New d { d' with barred := barred } :=
  ⟨h.working, fun he => (hb he).trans (h.barred he), h.kept, h.fresh, h.sound⟩

theorem Grows.contains_barred (h : Grows New d d') {place : Location} {e : Entry}
    (he : d.top.at? place = some e) : d'.barred.contains place = d.barred.contains place := by
  rw [Bool.eq_iff_iff, List.contains_iff_mem, List.contains_iff_mem]
  exact h.barred he

/-- What was there opens as it did, by any path. -/
theorem Grows.refuses (h : Grows New d d') {place : Location} {e : Entry}
    (he : d.top.at? place = some e) (path : String) :
    d'.refuses place path = d.refuses place path := by
  rw [Disk.refuses, Disk.refuses, h.contains_barred he]

/-- A name is put where none was. -/
theorem grows_put {dir : Location} {name : String} {e : Entry} (hfree : Vacant d.top dir name)
    (hname : isEntryName name = true) (hleaf : ∀ n rest, e.at? (n :: rest) = none)
    (he : e.sound = true) (hnew : New name e.bare) :
    Grows New d (d.change dir (put name e)) := by
  refine ⟨rfl, fun _ => Iff.rfl, ?_, ?_, sound_update hname he hfree.room⟩
  · intro l old hold
    have hne : l ≠ dir ++ [name] := by
      rintro rfl
      rw [hfree.absent] at hold
      cases hold
    have hsame := at?_put_other hleaf hfree.room hne
    rw [hold] at hsame
    exact Option.map_eq_some_iff.mp hsame
  · intro l e' he' hnone
    by_cases hl : l = dir ++ [name]
    · subst hl
      obtain rfl : e = e' := Option.some.inj ((at?_put_same e hfree.room).symm.trans he')
      exact ⟨dir, name, rfl, hnew⟩
    · have hsame := at?_put_other hleaf hfree.room hl
      rw [hnone, show (d.top.update (put name e) dir).at? l = some e' from he'] at hsame
      cases hsame

end

/-! ## Paths whose last piece is made -/

theorem mem_of_mem_piece {c : Char} {path s : String} (hs : s ∈ pieces path) (hc : c ∈ s.toList) :
    c ∈ path.toList := by
  rw [← intercalate_pieces path]
  generalize pieces path = ps at hs ⊢
  induction ps with
  | nil => cases hs
  | cons first rest ih =>
    by_cases hrest : rest = []
    · subst hrest
      obtain rfl := List.mem_singleton.mp hs
      simpa using hc
    · rw [String.intercalate_cons_of_ne_nil hrest, String.toList_append, String.toList_append]
      rcases List.mem_cons.mp hs with rfl | hs
      · exact List.mem_append_left _ (List.mem_append_left _ hc)
      · exact List.mem_append_right _ (ih hs)

/-- All pieces are names of a path, or blank; and if the last one is blank, then all are. -/
structure Ascends (names ps : List String) : Prop where
  mem : ∀ p ∈ ps, p = "" ∨ p ∈ names
  ending : ps.getLast? = some "" → ∀ p ∈ ps, p = ""

theorem trimFront_cases : ∀ l : List String, trimFront l = [] ∨
    ∃ p rest, trimFront l = p :: rest ∧ p ≠ "" ∧ ∀ q ∈ p :: rest, q ∈ l := by
  intro l
  induction l with
  | nil => exact Or.inl rfl
  | cons first l ih =>
    rw [trimFront]
    split
    · rcases ih with h | ⟨p, rest, h, hp, hmem⟩
      · exact Or.inl h
      · exact Or.inr ⟨p, rest, h, hp, fun q hq => List.mem_cons_of_mem _ (hmem q hq)⟩
    · rename_i hsome
      refine Or.inr ⟨first, l, rfl, ?_, fun q hq => hq⟩
      rintro rfl
      exact hsome rfl

/-- What is above a path says nothing, is the `.` that the path begins with, or ends with a name. -/
theorem parent?_cases {path above : String} (h : parent? path = some above) :
    (above = "" ∨ above = "/") ∨ (above = "." ∧ (pieces path).head? = some ".") ∨
      ∃ last before, trimFront (pieces path).reverse = last :: before ∧ trimFront before ≠ [] ∧
        above = "/".intercalate (trimFront before).reverse := by
  have hhere : (!isAbsolute path && (pieces path).head? == some ".") = true →
      (pieces path).head? = some "." := by
    intro hdot
    simp only [Bool.and_eq_true, beq_iff_eq] at hdot
    exact hdot.2
  unfold parent? at h
  dsimp only at h
  split at h
  · split at h
    · exact Or.inl (Or.inl (Option.some.inj h).symm)
    · cases h
  · rename_i last before hbefore
    by_cases hrest : trimFront before = []
    · rw [hrest, List.reverse_nil, if_neg (by simp)] at h
      have habove := (Option.some.inj h).symm
      split at habove
      · exact Or.inl (Or.inr habove)
      split at habove
      · rename_i hdot
        exact Or.inr (Or.inl ⟨habove, hhere hdot⟩)
      · exact Or.inl (Or.inl habove)
    · rw [if_pos (by simpa using hrest)] at h
      exact Or.inr (Or.inr ⟨last, before, hbefore, hrest, (Option.some.inj h).symm⟩)

theorem ascends_parent {path above : String} {names : List String} (h : parent? path = some above)
    (hmem : ∀ p ∈ pieces path, p = "" ∨ p ∈ names) : Ascends names (pieces above) := by
  have hblank : ∀ text, (∀ p ∈ pieces text, p = "") → Ascends names (pieces text) := fun text hall =>
    ⟨fun p hp => Or.inl (hall p hp), fun _ => hall⟩
  rcases parent?_cases h with (rfl | rfl) | ⟨rfl, hdot⟩ | ⟨last, before, hbefore, hne, rfl⟩
  · exact hblank _ (by decide)
  · exact hblank _ (by decide)
  · have hpieces : pieces "." = ["."] := by decide
    rw [hpieces]
    refine ⟨fun p hp => ?_, fun hlast => absurd hlast (by decide)⟩
    obtain rfl := List.mem_singleton.mp hp
    exact hmem "." (List.mem_of_head? hdot)
  · -- what is left begins, read from behind, with a piece that is not blank
    obtain ⟨p, rest, hcons, hp, hfront⟩ := (trimFront_cases before).resolve_left hne
    obtain ⟨p', rest', hcons', -, hfront'⟩ :=
      (trimFront_cases (pieces path).reverse).resolve_left (by rw [hbefore]; simp)
    obtain ⟨rfl, rfl⟩ := List.cons.inj (hbefore.symm.trans hcons')
    have hpieces : ∀ q ∈ (p :: rest).reverse, q ∈ pieces path := fun q hq => by
      simpa using hfront' q (List.mem_cons_of_mem _ (hfront q (List.mem_reverse.mp hq)))
    rw [hcons, pieces_intercalate (fun q hq => noSlash_of_mem_pieces (hpieces q hq)) (by simp)]
    refine ⟨fun q hq => hmem q (hpieces q hq), fun hlast => ?_⟩
    rw [List.getLast?_reverse, List.head?_cons] at hlast
    exact absurd (Option.some.inj hlast) hp

namespace Disk

section

variable {top : Entry} {jump : Location → List String → Except Refusal Target}
    {at_ : Location} {name : String}

/-- With links at the end left as they are, a free name is the last piece. -/
theorem walkNames_free
    (hj : ∀ dir ps, (ps.getLast? = some "" → ∀ p ∈ ps, p = "") → jump dir ps = .ok (.absent at_ name) →
      Nameable name ∧ ps.getLast? = some name) :
    ∀ {ps : List String} {dir : Location}, (ps.getLast? = some "" → ∀ p ∈ ps, p = "") →
      walkNames top false jump dir ps = .ok (.absent at_ name) →
      Nameable name ∧ ps.getLast? = some name := by
  intro ps
  induction ps with
  | nil =>
    intro dir _ h
    rw [walkNames] at h
    split at h <;> cases h
  | cons p ps ih =>
    intro dir hlast h
    obtain ⟨entries, turn, hd, ht, hgo⟩ := walkNames_cons_iff.mp h
    have hbehind : ∀ {q}, ps.getLast? = some q → (p :: ps).getLast? = some q :=
      fun hq => by rw [List.getLast?_cons, hq]; rfl
    have hrest : ps.getLast? = some "" → ∀ q ∈ ps, q = "" := fun hq q hmem =>
      hlast (hbehind hq) q (List.mem_cons_of_mem p hmem)
    cases ht with
    | blank | up | down =>
      obtain ⟨hname, hq⟩ := ih hrest hgo
      exact ⟨hname, hbehind hq⟩
    | @link target hp hf =>
      simp only [Turn.Leads] at hgo
      split at hgo
      · cases hgo
      · rename_i hmore
        have hne : ps ≠ [] := fun hnil => hmore ⟨hnil, rfl⟩
        have hsame : (pieces target ++ ps).getLast? = ps.getLast? := by
          obtain ⟨q, hq⟩ := List.getLast?_isSome.mpr hne |> Option.isSome_iff_exists.mp
          rw [List.getLast?_append, hq]
          rfl
        obtain ⟨hname, hq⟩ := hj _ _ (fun hblank =>
          absurd (Or.inl (hlast (hbehind (hsame ▸ hblank)) p List.mem_cons_self)) hp.notBlank) hgo
        exact ⟨hname, hbehind (hsame ▸ hq)⟩
    | free hp hf =>
      obtain ⟨hall, ht⟩ := hgo
      cases ht
      refine ⟨hp, ?_⟩
      cases hq : ps.getLast? with
      | none =>
        obtain rfl := List.getLast?_eq_none_iff.mp hq
        rfl
      | some q =>
        obtain rfl : q = "" := beq_iff_eq.mp (List.all_eq_true.mp hall q (List.mem_of_getLast? hq))
        exact absurd (Or.inl (hlast (hbehind hq) name List.mem_cons_self)) hp.notBlank

theorem walk_free : ∀ {links : Nat} {dir : Location} {ps : List String}, (ps.getLast? = some "" →
      ∀ p ∈ ps, p = "") →
    walk top false links dir ps = .ok (.absent at_ name) → Nameable name ∧ ps.getLast? = some name := by
  intro links
  induction links with
  | zero => exact fun hlast h => walkNames_free (fun _ _ _ h => by cases h) hlast h
  | succ links ih => exact fun hlast h => walkNames_free (fun _ _ hlast h => ih hlast h) hlast h

end

theorem isEntryName_of_piece {path name : String} (hpath : Taken path) (hpiece : name ∈ pieces path)
    (hname : Nameable name) : isEntryName name = true := by
  have hslash := noSlash_of_mem_pieces hpiece
  have hnul : '\x00' ∉ name.toList := fun h => hpath.noNul (mem_of_mem_piece hpiece h)
  have hblank := not_or.mp hname.notBlank
  simp [isEntryName, hblank, hname.notUp, hslash, hnul, hname.short]

variable {New : String → Entry → Prop} {d d' : Disk} {path : String}

/-! ## Making directories -/

theorem grows_makeDirectory (hpath : (pieces path).getLast? = some "" → ∀ p ∈ pieces path, p = "")
    (hnew : ∀ name ∈ pieces path, name ≠ "" → New name Entry.empty)
    (h : d.makeDirectory path = .ok d') : Grows New d d' := by
  unfold makeDirectory target at h
  cases ht : d.along path (walk d.top false linkLimit) with
  | error r =>
    rw [ht] at h
    cases h
  | ok t =>
    rw [ht] at h
    obtain ⟨htaken, hwalk⟩ := along_ok.mp ht
    cases t with
    | present => cases h
    | absent dir name =>
      cases h
      obtain ⟨hname, hlast⟩ := walk_free hpath hwalk
      have hpiece : name ∈ pieces path := List.mem_of_getLast? hlast
      have hfree : Vacant d.top dir name := walk_vacant hwalk
      have hput : Grows New d (d.change dir (put name Entry.empty)) :=
        grows_put hfree (isEntryName_of_piece htaken hpiece hname) (fun _ _ => rfl) rfl
          (hnew name hpiece fun hempty => hname.notBlank (Or.inl hempty))
      refine hput.bar fun {l} {e} he => ?_
      have hne : l ≠ dir ++ [name] := by
        rintro rfl
        rw [hfree.absent] at he
        cases he
      rw [List.mem_filter, bne_iff_ne]
      exact and_iff_left hne

/-- Directories are made by the names of the path. -/
theorem grows_makeDirectories {names : List String} (hnew : ∀ name ∈ names, New name Entry.empty) :
    ∀ {fuel : Nat} {d d' : Disk} {path : String}, Ascends names (pieces path) →
      d.makeDirectories fuel path = .ok d' → Grows New d d' := by
  intro fuel
  induction fuel with
  | zero =>
    intro d d' path _ h
    cases h
    exact .refl New d
  | succ fuel ih =>
    intro d d' path hpath h
    have hone : ∀ {d d' : Disk}, d.makeDirectory path = .ok d' → Grows New d d' :=
      grows_makeDirectory hpath.ending fun name hname hne =>
        hnew name ((hpath.mem name hname).resolve_left hne)
    rw [makeDirectories] at h
    split at h
    · cases h
      exact .refl New d
    split at h
    · rename_i hmade
      cases h
      exact hone hmade
    · split at h
      · cases h
      · rename_i above habove
        split at h
        · cases h
        · rename_i d₁ hd₁
          have hfirst : Grows New d d₁ := ih (ascends_parent habove hpath.mem) hd₁
          split at h
          · rename_i hmade
            cases h
            exact hfirst.trans (hone hmade)
          · split at h
            · cases h
              exact hfirst
            · cases h
    · cases h

/-! ## Writing a file that was not there -/

/-- A file is written by the last name of the path, if nothing stood there, not even a link. -/
theorem grows_write {content : ByteArray} (hfree : ∀ found, d.lookup false path ≠ .ok found)
    (hnew : ∀ name ∈ pieces path, New name (.file content)) (h : d.write path content = .ok d') :
    Grows New d d' := by
  obtain ⟨t, dir, name, ht, hplace, -, rfl⟩ := write_ok h
  obtain ⟨htaken, hgo⟩ := along_ok.mp ht
  obtain ⟨hlast, hwalk⟩ := walkToWrite_ok hgo
  have hnothing : ∀ place e, walk d.top false linkLimit (d.start path) (pieces path) ≠
      .ok (.present place e) :=
    fun place e hw => hfree (place, e) (lookup_iff.mpr ⟨htaken, hw⟩)
  have hfalse : walk d.top false linkLimit (d.start path) (pieces path) = .ok t := by
    rcases walk_link_or_same hwalk with hsame | ⟨at_, target, hlink⟩
    · exact hsame
    · exact absurd hlink (hnothing at_ _)
  cases t with
  | present place e => exact absurd hfalse (hnothing place e)
  | absent at_ free =>
    obtain ⟨rfl, hsingle⟩ := List.append_inj' hplace rfl
    obtain rfl : free = name := (List.cons.inj hsingle).1
    obtain ⟨hname, hend⟩ := walk_free (fun hblank => absurd hblank hlast) hfalse
    have hpiece : free ∈ pieces path := List.mem_of_getLast? hend
    exact grows_put (walk_vacant hwalk) (isEntryName_of_piece htaken hpiece hname)
      (fun _ _ => rfl) rfl (hnew free hpiece)

end Disk
end RouteShortcuts.Files
