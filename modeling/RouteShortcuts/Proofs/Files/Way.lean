/-
  RouteShortcuts.Proofs.Files.Way — where paths lead once something is added.

  `Way top follow links dir names place`: from `dir` the names lead to `place`, over exactly so many
  links. A walk finds such ways and nothing else (`walk_iff_way`), and a way is taken apart and put
  together where its names are (`Way.split`, `Way.append`).

  In a file system that grows, ways stay what they are (`Grows.way`, `Grows.lookup`). The other way
  round something may be found that was not: a step up may leave a new directory for an old one, and
  a link that led nowhere may lead somewhere. Without steps up, and if links lead where they led or
  to something new, what a path leads to is new itself or was found before over the same way
  (`Grows.way_back`).
-/

import RouteShortcuts.Proofs.Files.Growth

namespace RouteShortcuts.Files

namespace Disk

/-! ## Ways -/

/-- From a directory, names lead to a place over so many links. -/
inductive Way (top : Entry) (follow : Bool) : Nat → Location → List String → Location → Prop
  | here {dir : Location} : (top.at? dir).isSome = true → Way top follow 0 dir [] dir
  | on {links : Nat} {dir dir' place : Location} {entries : List (String × Entry)} {p : String}
    {rest : List String} :
      top.at? dir = some (.directory entries) → Turns dir entries p (.on dir') →
        Way top follow links dir' rest place →
      Way top follow links dir (p :: rest) place
  | link {links : Nat} {dir place : Location} {entries : List (String × Entry)} {p target : String}
    {rest : List String} :
      top.at? dir = some (.directory entries) → Turns dir entries p (.link dir p target) →
        (rest = [] → follow = true) →
      Way top follow links (if isAbsolute target then [] else dir) (pieces target ++ rest) place →
      Way top follow (links + 1) dir (p :: rest) place
  | stop {dir : Location} {entries : List (String × Entry)} {p target : String} : follow = false →
      top.at? dir = some (.directory entries) → Turns dir entries p (.link dir p target) →
        Way top follow 0 dir [p] (dir ++ [p])

theorem Turns.unique {dir : Location} {entries : List (String × Entry)} {p : String} {t t' : Turn}
    (h : Turns dir entries p t) (h' : Turns dir entries p t') : t = t' := by
  cases h with
  | blank hb =>
    cases h' with
    | blank => rfl
    | up hu => simp [hu] at hb
    | down hn | link hn | free hn => exact absurd hb hn.notBlank
  | up hu =>
    cases h' with
    | blank hb => simp [hu] at hb
    | up => rfl
    | down hn | link hn | free hn => exact absurd hu hn.notUp
  | down hn hf hno =>
    cases h' with
    | blank hb => exact absurd hb hn.notBlank
    | up hu => exact absurd hu hn.notUp
    | down => rfl
    | link _ hf' =>
      rw [hf] at hf'
      cases hf'
      exact absurd rfl (hno _)
    | free _ hf' =>
      rw [hf] at hf'
      cases hf'
  | link hn hf =>
    cases h' with
    | blank hb => exact absurd hb hn.notBlank
    | up hu => exact absurd hu hn.notUp
    | down _ hf' hno =>
      rw [hf] at hf'
      cases hf'
      exact absurd rfl (hno _)
    | link _ hf' =>
      rw [hf] at hf'
      cases hf'
      rfl
    | free _ hf' =>
      rw [hf] at hf'
      cases hf'
  | free hn hf =>
    cases h' with
    | blank hb => exact absurd hb hn.notBlank
    | up hu => exact absurd hu hn.notUp
    | down _ hf' | link _ hf' =>
      rw [hf] at hf'
      cases hf'
    | free => rfl

section

variable {top : Entry} {follow : Bool} {k k' : Nat} {dir place place' : Location} {names : List String}

theorem Way.present (h : Way top follow k dir names place) : (top.at? place).isSome = true := by
  induction h with
  | here h => exact h
  | on _ _ _ ih => exact ih
  | link _ _ _ _ ih => exact ih
  | stop _ hd ht =>
    cases ht with
    | link _ hf => rw [at?_name hd, hf]; rfl

theorem Way.start (h : Way top follow k dir names place) : (top.at? dir).isSome = true := by
  cases h with
  | here h => exact h
  | on hd | link hd | stop _ hd => rw [hd]; rfl

theorem Way.unique (h : Way top follow k dir names place) : ∀ {k' : Nat} {place' : Location},
    Way top follow k' dir names place' → k = k' ∧ place = place' := by
  have hsame : ∀ {dir : Location} {entries entries' : List (String × Entry)} {p : String} {t t' : Turn},
      top.at? dir = some (.directory entries) → top.at? dir = some (.directory entries') →
        Turns dir entries p t →
      Turns dir entries' p t' → t = t' := by
    intro dir entries entries' p t t' hd hd' ht ht'
    rw [hd] at hd'
    cases hd'
    exact ht.unique ht'
  induction h with
  | here =>
    intro k' place' h'
    cases h' with
    | here => exact ⟨rfl, rfl⟩
  | on hd ht _ ih =>
    intro k' place' h'
    cases h' with
    | on hd' ht' hway' =>
      cases hsame hd hd' ht ht'
      exact ih hway'
    | link hd' ht' | stop _ hd' ht' => cases hsame hd hd' ht ht'
  | link hd ht hlast _ ih =>
    intro k' place' h'
    cases h' with
    | on hd' ht' => cases hsame hd hd' ht ht'
    | link hd' ht' _ hway' =>
      cases hsame hd hd' ht ht'
      obtain ⟨rfl, rfl⟩ := ih hway'
      exact ⟨rfl, rfl⟩
    | stop hno => rw [hlast rfl] at hno; cases hno
  | stop hno hd ht =>
    intro k' place' h'
    cases h' with
    | on hd' ht' => cases hsame hd hd' ht ht'
    | link _ _ hlast => rw [hlast rfl] at hno; cases hno
    | stop => exact ⟨rfl, rfl⟩

/-- A way goes on where another one ends, if that one follows its last link. -/
theorem Way.append (h : Way top true k dir names place) {more : List String} {end_ : Location}
    (h' : Way top follow k' place more end_) (hmore : more = [] → follow = true) :
    Way top follow (k + k') dir (names ++ more) end_ := by
  induction h with
  | here =>
    rw [Nat.zero_add]
    exact h'
  | on hd ht _ ih => exact .on hd ht (ih h')
  | link hd ht _ _ ih =>
    rw [Nat.add_right_comm]
    refine .link hd ht (fun hnil => hmore (List.append_eq_nil_iff.mp hnil).2) ?_
    rw [List.append_eq, ← List.append_assoc]
    exact ih h'
  | stop hno => cases hno

/-- A way stops over where its first names lead. -/
theorem Way.split (h : Way top true k dir names place) :
    ∀ {front more : List String}, names = front ++ more →
    ∃ k₁ k₂ middle, Way top true k₁ dir front middle ∧
      Way top true k₂ middle more place ∧ k = k₁ + k₂ := by
  have hnothing : ∀ {k : Nat} {dir place : Location} {names : List String},
      Way top true k dir names place →
      ∃ k₁ k₂ middle, Way top true k₁ dir [] middle ∧
          Way top true k₂ middle names place ∧ k = k₁ + k₂ :=
    fun hway => ⟨0, _, _, .here hway.start, hway, (Nat.zero_add _).symm⟩
  induction h with
  | here hd =>
    intro front more hnames
    obtain ⟨rfl, rfl⟩ := List.append_eq_nil_iff.mp hnames.symm
    exact hnothing (.here hd)
  | on hd ht hway ih =>
    intro front more hnames
    cases front with
    | nil =>
      obtain rfl : _ = more := hnames
      exact hnothing (.on hd ht hway)
    | cons p front =>
      obtain ⟨rfl, rfl⟩ := List.cons.inj hnames
      obtain ⟨k₁, k₂, middle, h₁, h₂, hk⟩ := ih rfl
      exact ⟨k₁, k₂, middle, .on hd ht h₁, h₂, hk⟩
  | link hd ht hlast hway ih =>
    intro front more hnames
    cases front with
    | nil =>
      obtain rfl : _ = more := hnames
      exact hnothing (.link hd ht hlast hway)
    | cons p front =>
      obtain ⟨rfl, rfl⟩ := List.cons.inj hnames
      obtain ⟨k₁, k₂, middle, h₁, h₂, rfl⟩ := ih (List.append_assoc _ _ _).symm
      exact ⟨k₁ + 1, k₂, middle, .link hd ht (fun _ => rfl) h₁, h₂, Nat.add_right_comm k₁ k₂ 1⟩
  | stop hno => cases hno

/-! ## Walks are ways -/

theorem way_of_walkNames {jump : Location → List String → Except Refusal Target} {n : Nat} {e : Entry}
    (hj : ∀ dir ps, jump dir ps = .ok (.present place e) → ∃ k, k + 1 ≤ n ∧
      Way top follow k dir ps place) :
    ∀ {ps : List String} {dir : Location}, walkNames top follow jump dir ps = .ok (.present place e) →
      ∃ k ≤ n, Way top follow k dir ps place := by
  intro ps
  induction ps with
  | nil =>
    intro dir h
    rw [walkNames] at h
    split at h
    · rename_i hd
      cases h
      exact ⟨0, Nat.zero_le n, .here (by rw [hd]; rfl)⟩
    · cases h
  | cons p ps ih =>
    intro dir h
    obtain ⟨entries, turn, hd, ht, hgo⟩ := walkNames_cons_iff.mp h
    cases turn with
    | on dir' =>
      obtain ⟨k, hk, hway⟩ := ih hgo
      exact ⟨k, hk, .on hd ht hway⟩
    | link dir' name target =>
      obtain ⟨rfl, rfl⟩ : dir' = dir ∧ name = p := by cases ht; exact ⟨rfl, rfl⟩
      simp only [Turn.Leads] at hgo
      split at hgo
      · rename_i hlast
        obtain ⟨rfl, hno⟩ := hlast
        cases hgo
        exact ⟨0, Nat.zero_le n, .stop (by simpa using hno) hd ht⟩
      · rename_i hlast
        obtain ⟨k, hk, hway⟩ := hj _ _ hgo
        refine ⟨k + 1, hk, .link hd ht (fun hnil => ?_) hway⟩
        by_contra hno
        exact hlast ⟨hnil, by simpa using hno⟩
    | free => cases hgo.2

theorem way_of_walk {e : Entry} : ∀ {n : Nat} {dir : Location} {names : List String},
    walk top follow n dir names = .ok (.present place e) →
    ∃ k ≤ n, Way top follow k dir names place := by
  intro n
  induction n with
  | zero => exact fun h => way_of_walkNames (fun _ _ h => by cases h) h
  | succ n ih =>
    refine fun h => way_of_walkNames (fun dir ps hgo => ?_) h
    obtain ⟨k, hk, hway⟩ := ih hgo
    exact ⟨k, Nat.succ_le_succ hk, hway⟩

theorem walk_of_way {e : Entry} (h : Way top follow k dir names place) (he : top.at? place = some e) :
    ∀ {n : Nat}, k ≤ n → walk top follow n dir names = .ok (.present place e) := by
  induction h with
  | here =>
    intro n _
    cases n <;> simp only [walk, walkNames, he]
  | on hd ht _ ih =>
    intro n hn
    have hgo := ih he hn
    cases n <;> exact walkNames_cons_iff.mpr ⟨_, _, hd, ht, hgo⟩
  | link hd ht hlast _ ih =>
    intro n hn
    obtain ⟨n, rfl⟩ :=
      Nat.exists_eq_succ_of_ne_zero (Nat.ne_of_gt (Nat.lt_of_lt_of_le (Nat.succ_pos _) hn))
    exact walkNames_cons_iff.mpr
      ⟨_, _, hd, ht, (leads_link hlast).mpr (ih he (Nat.le_of_succ_le_succ hn))⟩
  | @stop dir entries p target hno hd ht =>
    intro n _
    have hlink : e = .link target := by
      cases ht with
      | link _ hf => exact Option.some.inj (he.symm.trans ((at?_name hd _).trans hf))
    have hleads : ∀ jump, (Turn.link dir p target).Leads top follow jump []
        (.present (dir ++ [p]) e) := fun jump => by
      simp only [Turn.Leads, hno, Bool.not_false, and_self, if_true, hlink]
    cases n <;> exact walkNames_cons_iff.mpr ⟨_, _, hd, ht, hleads _⟩

/-- A walk comes to a place exactly if there is a way to it over no more links than it may follow. -/
theorem walk_iff_way {e : Entry} {n : Nat} : walk top follow n dir names = .ok (.present place e) ↔
    (∃ k ≤ n, Way top follow k dir names place) ∧ top.at? place = some e :=
  ⟨fun h => ⟨way_of_walk h, walk_at? h⟩, fun ⟨⟨_, hk, hway⟩, he⟩ => walk_of_way hway he hk⟩

end

end Disk

/-! ## Ways in a file system that grows -/

section

open Disk

/-- What a piece does as long as its entry is of its kind. -/
theorem Disk.Turns.same {dir : Location} {entries entries' : List (String × Entry)} {p : String}
    {t : Turn} (ht : Turns dir entries p t) (hsame : ∀ below, find? p entries = some below →
      ∃ below', find? p entries' = some below' ∧ below'.bare = below.bare)
    (hfree : ∀ d n, t ≠ .free d n) : Turns dir entries' p t := by
  cases ht with
  | blank hb => exact .blank hb
  | up hu => exact .up hu
  | down hn hf hno =>
    obtain ⟨below', hf', hbare⟩ := hsame _ hf
    refine .down hn hf' fun target hlink => hno target ?_
    rw [hlink] at hbare
    exact bare_link.mp hbare.symm
  | link hn hf =>
    obtain ⟨below', hf', hbare⟩ := hsame _ hf
    exact .link hn (bare_link.mp hbare ▸ hf')
  | free => exact absurd rfl (hfree _ _)

variable {New : String → Entry → Prop} {d d' : Disk} {follow : Bool} {k : Nat}
    {dir place : Location} {names : List String}
  {entries : List (String × Entry)}

theorem Grows.directory (h : Grows New d d') (hd : d.top.at? dir = some (.directory entries)) :
    ∃ entries', d'.top.at? dir = some (.directory entries') ∧
      ∀ p below, find? p entries = some below → ∃ below', find? p entries' = some below' ∧
        below'.bare = below.bare := by
  obtain ⟨e', he', hbare⟩ := h.kept hd
  obtain ⟨entries', rfl⟩ := bare_empty.mp hbare
  refine ⟨entries', he', fun p below hf => ?_⟩
  rw [← at?_name hd] at hf
  rw [← at?_name he']
  exact h.kept hf

/-- A directory was one before, if anything was there. -/
theorem Grows.directory_back (h : Grows New d d') {entries' : List (String × Entry)}
    (hd' : d'.top.at? dir = some (.directory entries')) (hdir : (d.top.at? dir).isSome = true) :
    ∃ entries, d.top.at? dir = some (.directory entries) := by
  obtain ⟨e, he⟩ := Option.isSome_iff_exists.mp hdir
  obtain ⟨e', he', hbare⟩ := h.kept he
  rw [hd'] at he'
  cases he'
  obtain ⟨entries, rfl⟩ := bare_empty.mp hbare.symm
  exact ⟨entries, he⟩

theorem Grows.way (h : Grows New d d') (hway : Way d.top follow k dir names place) :
    Way d'.top follow k dir names place := by
  induction hway with
  | here hd =>
    obtain ⟨e, he⟩ := Option.isSome_iff_exists.mp hd
    obtain ⟨e', he', -⟩ := h.kept he
    exact .here (by rw [he']; rfl)
  | on hd ht _ ih =>
    obtain ⟨entries', hd', hsame⟩ := h.directory hd
    exact .on hd' (ht.same (hsame _) (by simp)) ih
  | link hd ht hlast _ ih =>
    obtain ⟨entries', hd', hsame⟩ := h.directory hd
    exact .link hd' (ht.same (hsame _) (by simp)) hlast ih
  | stop hno hd ht =>
    obtain ⟨entries', hd', hsame⟩ := h.directory hd
    exact .stop hno hd' (ht.same (hsame _) (by simp))

/-- A path leads where it led. -/
theorem Grows.lookup (h : Grows New d d') {path : String} {e : Entry}
    (hl : d.lookup follow path = .ok (place, e)) :
    ∃ e', d'.lookup follow path = .ok (place, e') ∧ e'.bare = e.bare := by
  obtain ⟨htaken, hwalk⟩ := lookup_iff.mp hl
  obtain ⟨⟨k, hk, hway⟩, he⟩ := walk_iff_way.mp hwalk
  obtain ⟨e', he', hbare⟩ := h.kept he
  have hstart : d'.start path = d.start path := by simp only [Disk.start, h.working]
  exact ⟨e', lookup_iff.mpr ⟨htaken, hstart ▸ walk_iff_way.mpr ⟨⟨k, hk, h.way hway⟩, he'⟩⟩, hbare⟩

theorem Grows.exists? (h : Grows New d d') {path : String} (hexists : d.exists? path = true) :
    d'.exists? path = true := by
  obtain ⟨place, e, hl⟩ := exists?_lookup.mp hexists
  obtain ⟨e', hl', -⟩ := h.lookup hl
  exact exists?_lookup.mpr ⟨place, e', hl'⟩

theorem Grows.canonical (h : Grows New d d') {path : String} (hexists : d.exists? path = true) :
    d'.canonical path = d.canonical path := by
  obtain ⟨place, e, hl⟩ := exists?_lookup.mp hexists
  obtain ⟨e', hl', -⟩ := h.lookup hl
  rw [canonical_ok.mpr ⟨place, e, hl, rfl⟩, canonical_ok.mpr ⟨place, e', hl', rfl⟩]

theorem Grows.readText (h : Grows New d d') {path : String} {e : Entry}
    (hl : d.lookup true path = .ok (place, e)) : d'.readText path = d.readText path := by
  obtain ⟨e', hl', hbare⟩ := h.lookup hl
  have hread : d'.read path = d.read path := by
    have hbar : d'.barred.contains place = d.barred.contains place := h.contains_barred (lookup_at? hl)
    unfold Disk.read
    rw [hl, hl']
    cases e <;> cases e' <;> simp_all [Entry.bare]
  simp only [Disk.readText, hread]

/-! ### What is found that was not found before -/

/-- Where a link leads, if it does. -/
def Disk.LinkLeads (d : Disk) (dir : Location) (name : String) (place : Location) : Prop :=
  (∃ target, d.top.at? (dir ++ [name]) = some (.link target)) ∧
    ∃ e, walk d.top true linkLimit dir [name] = .ok (.present place e)

theorem linkLeads_of_way {p target : String} (hd : d.top.at? dir = some (.directory entries))
    (ht : Turns dir entries p (.link dir p target)) (hway : Way d.top true k dir [p] place)
    (hk : k ≤ linkLimit) : d.LinkLeads dir p place := by
  obtain ⟨e, he⟩ := Option.isSome_iff_exists.mp hway.present
  refine ⟨⟨target, ?_⟩, e, walk_of_way hway he hk⟩
  cases ht with
  | link _ hf => rw [at?_name hd, hf]

/-- A link leads where it led before, or it has another name than `signs` and leads to something new. -/
def LinksStay (signs : List String) (d d' : Disk) : Prop :=
  ∀ dir name place, d'.LinkLeads dir name place → d.LinkLeads dir name place ∨ name ∉ signs ∧
    d.top.at? place = none

theorem linksStay_of_linkFree {signs : List String} (h : d'.top.linkFree = true) :
    LinksStay signs d d' := by
  rintro dir name place ⟨⟨target, hl⟩, -⟩
  exact absurd (at?_linkFree h hl) (by simp [Entry.linkFree])

/-- Only what is no link is new. -/
def LinkFree (New : String → Entry → Prop) : Prop := ∀ name target, ¬ New name (.link target)

theorem at?_below_none {top : Entry} {dir : Location} (h : top.at? dir = none) (names : Location) :
    top.at? (dir ++ names) = none := by
  rw [at?_append, h, Option.bind_none]

theorem Grows.link_old (h : Grows New d d') (hNew : LinkFree New) {l : Location} {target : String}
    (hl : d'.top.at? l = some (.link target)) : d.top.at? l = some (.link target) := by
  cases hold : d.top.at? l with
  | none =>
    obtain ⟨dir, name, -, hnew⟩ := h.fresh hl hold
    exact absurd hnew (hNew name target)
  | some e =>
    obtain ⟨e', he', hbare⟩ := h.kept hold
    rw [hl] at he'
    cases he'
    rw [bare_link.mp hbare.symm]

/-- From a new directory a way without steps up leads to something new. -/
theorem Grows.below_new (h : Grows New d d') (hNew : LinkFree New)
    (hway : Way d'.top follow k dir names place) (hdir : d.top.at? dir = none)
    (hup : ".." ∉ names) : d.top.at? place = none := by
  have hno : ∀ {dir entries p target}, d.top.at? dir = none →
      d'.top.at? dir = some (.directory entries) →
      ¬ Turns dir entries p (.link dir p target) := by
    intro dir entries p target hdir hd ht
    cases ht with
    | link _ hf =>
      rw [← at?_name hd] at hf
      have hgone := at?_below_none hdir [p]
      rw [h.link_old hNew hf] at hgone
      cases hgone
  induction hway with
  | here => exact hdir
  | on hd ht _ ih =>
    rw [List.mem_cons, not_or] at hup
    cases ht with
    | blank => exact ih hdir hup.2
    | up hp => exact absurd hp.symm hup.1
    | down => exact ih (at?_below_none hdir _) hup.2
  | link hd ht => exact absurd ht (hno hdir hd)
  | stop _ hd ht => exact absurd ht (hno hdir hd)

/-- Without steps up a path leads to something new, or leads where it led. -/
theorem Grows.way_back {signs : List String} (h : Grows New d d') (hNew : LinkFree New)
    (hlinks : LinksStay signs d d') :
    ∀ {names : List String} {k : Nat} {dir : Location}, k ≤ linkLimit →
      (d.top.at? dir).isSome = true → ".." ∉ names →
      Way d'.top true k dir names place → Way d.top true k dir names place ∨
      d.top.at? place = none := by
  intro names
  induction names with
  | nil =>
    intro k dir _ hdir _ hway
    cases hway with
    | here => exact Or.inl (.here hdir)
  | cons p names ih =>
    intro k dir hk hdir hup hway
    rw [List.mem_cons, not_or] at hup
    cases hway with
    | on hd' ht hway =>
      obtain ⟨entries, hd⟩ := h.directory_back hd' hdir
      cases ht with
      | blank hb => exact (ih hk hdir hup.2 hway).imp_left fun hway => .on hd (.blank hb) hway
      | up hp => exact absurd hp.symm hup.1
      | down hn hf hno =>
        rw [← at?_name hd'] at hf
        cases hbelow : find? p entries with
        | none => exact Or.inr (h.below_new hNew hway ((at?_name hd p).trans hbelow) hup.2)
        | some below =>
          rw [← at?_name hd] at hbelow
          obtain ⟨below', hf', hbare⟩ := h.kept hbelow
          rw [hf] at hf'
          cases hf'
          refine (ih hk (by rw [hbelow]; rfl) hup.2 hway).imp_left fun hway => ?_
          refine .on hd (.down hn (by rwa [← at?_name hd]) fun target hlink => hno target ?_) hway
          rw [hlink] at hbare
          exact bare_link.mp hbare
    | @link k _ _ _ _ target _ hd' ht _ hway =>
      -- the link leads somewhere, and from there the other names lead on
      obtain ⟨k₁, k₂, middle, h₁, h₂, rfl⟩ := hway.split rfl
      have hone : Way d'.top true (k₁ + 1) dir [p] middle :=
        .link hd' ht (fun _ => rfl) (by rwa [List.append_nil])
      rcases hlinks dir p middle (linkLeads_of_way hd' ht hone (by omega)) with
        ⟨-, e, hwalk⟩ | ⟨-, hnew⟩
      · obtain ⟨k', -, hone'⟩ := way_of_walk hwalk
        obtain ⟨rfl, -⟩ := (h.way hone').unique hone
        refine (ih (by omega) hone'.present hup.2 h₂).imp_left fun h₂ => ?_
        rw [Nat.add_right_comm]
        exact hone'.append h₂ fun _ => rfl
      · exact Or.inr (h.below_new hNew h₂ hnew hup.2)
    | stop hno => cases hno

/-- An absolute path without steps up leads where it led, or to something new. -/
theorem Grows.lookup_back {signs : List String} (h : Grows New d d') (hNew : LinkFree New)
    (hlinks : LinksStay signs d d') {path : String} (habs : isAbsolute path = true)
    (hup : ".." ∉ pieces path) {e' : Entry} (hl : d'.lookup true path = .ok (place, e')) :
    (∃ e, d.lookup true path = .ok (place, e)) ∨ d.top.at? place = none := by
  obtain ⟨htaken, hwalk⟩ := lookup_iff.mp hl
  rw [Disk.start, habs, if_pos rfl] at hwalk
  obtain ⟨k, hk, hway⟩ := way_of_walk hwalk
  refine (h.way_back hNew hlinks hk (by rfl) hup hway).imp_left fun hway => ?_
  obtain ⟨e, he⟩ := Option.isSome_iff_exists.mp hway.present
  refine ⟨e, lookup_iff.mpr ⟨htaken, ?_⟩⟩
  rw [Disk.start, habs, if_pos rfl]
  exact walk_of_way hway he hk

/-- What stands under a name that is not made and that no link takes anew was there before. -/
theorem Grows.old_of_sign {signs : List String} (h : Grows New d d')
    (hlinks : LinksStay signs d d') {name : String} (hname : IsName name) (hsign : name ∈ signs)
    (hnot : ∀ e, ¬ New name e) (hk : k ≤ linkLimit) (hway : Way d'.top true k dir [name] place) :
    d.top.at? place ≠ none := by
  intro hgone
  cases hway with
  | on hd ht hway =>
    obtain ⟨e, he⟩ := Option.isSome_iff_exists.mp hway.present
    cases hway
    cases ht with
    | blank hb => exact hb.elim hname.nonempty hname.notHere
    | up hp => exact hname.notUp hp
    | down =>
      obtain ⟨dir', name', heq, hnew⟩ := h.fresh he hgone
      obtain ⟨-, hsame⟩ := List.append_inj' heq rfl
      obtain rfl : name = name' := (List.cons.inj hsame).1
      exact hnot _ hnew
  | link hd ht hlast hway =>
    rcases hlinks dir name place (linkLeads_of_way hd ht (.link hd ht hlast hway) hk) with
      ⟨-, e, hwalk⟩ | ⟨hother, -⟩
    · rw [walk_at? hwalk] at hgone
      cases hgone
    · exact hother hsign
  | stop hno => cases hno

/-- Whether a file of such a name is there does not change. -/
theorem Grows.exists_sign {signs : List String} (h : Grows New d d') (hNew : LinkFree New)
    (hlinks : LinksStay signs d d') {path name : String} {front : List String}
    (habs : isAbsolute path = true) (hpath : pieces path = front ++ [name])
    (hup : ".." ∉ pieces path) (hname : IsName name) (hsign : name ∈ signs) (hnot : ∀ e, ¬ New name e) :
    d'.exists? path = d.exists? path := by
  rw [Bool.eq_iff_iff, exists?_lookup, exists?_lookup]
  constructor
  · rintro ⟨place, e', hl⟩
    rcases h.lookup_back hNew hlinks habs hup hl with ⟨e, hold⟩ | hgone
    · exact ⟨place, e, hold⟩
    · -- the last step would lead to something new by this name
      obtain ⟨-, hwalk⟩ := lookup_iff.mp hl
      obtain ⟨k, hk, hway⟩ := way_of_walk hwalk
      obtain ⟨k₁, k₂, middle, -, hlast, rfl⟩ := hway.split hpath
      exact absurd hgone (h.old_of_sign hlinks hname hsign hnot (by omega) hlast)
  · rintro ⟨place, e, hl⟩
    obtain ⟨e', hl', -⟩ := h.lookup hl
    exact ⟨place, e', hl'⟩

end

end RouteShortcuts.Files
