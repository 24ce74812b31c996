/-
  RouteShortcuts.Proofs.Files.Order — the order in which the files of a tree are listed.

  Texts are ordered as their octets are: a character that comes later has a greater octet where the
  two part (`octets_part`). A directory is listed by the names of its entries, and everything below
  one entry comes before everything below the next, whatever the paths look like as texts. So the
  files of a tree come in the order of the names that lead to them, compared name by name
  (`Before`).

  Proved: the list of a sound tree has exactly the files on whose way every directory opens, strictly in
  that order, and so none of them twice (`files_in_order`).
-/

import RouteShortcuts.Proofs.Files.Listing
import RouteShortcuts.Proofs.Glob.Matching

namespace RouteShortcuts.Files

open RouteShortcuts.Glob (octetsOf octetsOf_eq)

/-! ## Octets -/

theorem octet_lt {a b : Nat} {as bs : List UInt8} (hb : b < 256) (h : a < b) :
    UInt8.ofNat a :: as < UInt8.ofNat b :: bs := by
  have ha : a < UInt8.size := Nat.lt_trans h hb
  exact List.cons_lt_cons_iff.mpr (Or.inl ((UInt8.ofNat_lt_iff_lt ha hb).mpr h))

/-- If the first octets are the same, the next ones decide. -/
theorem octet_then {a b : Nat} {as bs : List UInt8} (hb : b < 256) (h : a ≤ b)
    (hrest : a = b → as < bs) : UInt8.ofNat a :: as < UInt8.ofNat b :: bs := by
  rcases Nat.lt_or_eq_of_le h with hlt | rfl
  · exact octet_lt hb hlt
  · exact List.cons_lt_cons_iff.mpr (Or.inr ⟨rfl, hrest rfl⟩)

/-- The octets of a character come before those of a later one, whatever follows them. -/
theorem octets_part {c d : Char} (h : c < d) (xs ys : List UInt8) :
    String.utf8EncodeChar c ++ xs < String.utf8EncodeChar d ++ ys := by
  have hlt : c.val.toNat < d.val.toNat := h
  have hd : d.val.toNat < 0x110000 := by
    have := d.valid
    simp only [UInt32.isValidChar, Nat.isValidChar] at this
    omega
  unfold String.utf8EncodeChar
  dsimp only
  generalize c.val.toNat = v at hlt
  generalize d.val.toNat = w at hlt hd
  -- the fewer octets a character has, the smaller is the first of them
  split
  · split
    · exact octet_lt (by omega) (by omega)
    split
    · exact octet_lt (by omega) (by omega)
    split
    · exact octet_lt (by omega) (by omega)
    · exact octet_lt (by omega) (by omega)
  rw [if_neg (by omega : ¬ w ≤ 0x7f)]
  split
  · split
    · exact octet_then (by omega) (by omega) fun _ => octet_lt (by omega) (by omega)
    split
    · exact octet_lt (by omega) (by omega)
    · exact octet_lt (by omega) (by omega)
  rw [if_neg (by omega : ¬ w ≤ 0x7ff)]
  split
  · split
    · exact octet_then (by omega) (by omega) fun _ => octet_then (by omega) (by omega) fun _ =>
        octet_lt (by omega) (by omega)
    · exact octet_lt (by omega) (by omega)
  rw [if_neg (by omega : ¬ w ≤ 0xffff)]
  refine octet_then (by omega) (by omega) fun _ => octet_then (by omega) (by omega) fun _ => ?_
  exact octet_then (by omega) (by omega) fun _ => octet_lt (by omega) (by omega)

/-- The order of texts is that of their octets. -/
theorem octetsOf_lt {a b : String} (h : a < b) : octetsOf a < octetsOf b := by
  rw [octetsOf_eq, octetsOf_eq]
  have h : List.Lex (· < ·) a.toList b.toList := String.lt_iff.mp h
  generalize a.toList = cs at h
  generalize b.toList = ds at h
  induction h with
  | @nil d ds =>
    have hne : String.utf8EncodeChar d ≠ [] := by simp
    obtain ⟨x, xs, hx⟩ := List.exists_cons_of_ne_nil hne
    rw [List.flatMap_nil, List.flatMap_cons, hx]
    exact List.nil_lt_cons _ _
  | rel hcd => exact octets_part hcd _ _
  | cons _ ih => exact List.append_left_lt ih

/-! ## Places in order -/

/-- The names that lead to `a` come before those that lead to `b`: the first name in which they
differ decides, by its octets, and a place comes before those below it. -/
def Before (a b : Location) : Prop := a.map octetsOf < b.map octetsOf

instance : Std.Irrefl Before := ⟨fun a => List.lt_irrefl (a.map octetsOf)⟩

instance : Std.Antisymm Before := ⟨fun _ _ hab hba => absurd hba (List.lt_asymm hab)⟩

instance (a b : Location) : Decidable (Before a b) :=
  inferInstanceAs (Decidable (a.map octetsOf < b.map octetsOf))

theorem before_of_lt {name name' : String} (h : name < name') (a b : Location) :
    Before (name :: a) (name' :: b) :=
  List.cons_lt_cons_iff.mpr (Or.inl (octetsOf_lt h))

theorem before_cons {name : String} {a b : Location} (h : Before a b) :
    Before (name :: a) (name :: b) :=
  List.cons_lt_cons_iff.mpr (Or.inr ⟨rfl, h⟩)

/-- As texts the two paths stand the other way round. -/
example : Before ["a", "b.ts"] ["a.ts"] ∧ Location.path ["a.ts"] < Location.path ["a", "b.ts"] := by
  decide +kernel

/-- The names of a directory come strictly in order. -/
theorem sortedNames_lt {entries : List (String × Entry)} (hs : Entry.soundAll entries = true) :
    (sortedNames entries).Pairwise (· < ·) := by
  have hnodup : (sortedNames entries).Nodup := (List.mergeSort_perm _ _).nodup_iff.mpr (nodup_names hs)
  refine (sortedNames_pairwise entries).imp₂ (fun a b hle hne => ?_) hnodup
  exact String.not_le.mp fun hge => hne (String.le_antisymm hle hge)

/-! ## Trees -/

/-- A walk comes to the files that have these names below the place where it starts. -/
structure InOrder (refuses : Location → String → Option Refusal) (place : Location)
    (path : String) (e : Entry) (below : List Location) : Prop where
  listed : e.files refuses place path = below.map (·.foldl join path)
  ordered : below.Pairwise Before
  files : ∀ names, names ∈ below ↔
    Opened refuses place path names ∧ ∃ content, e.at? names = some (.file content)

section

variable {refuses : Location → String → Option Refusal} {place : Location} {path : String}
  {entries : List (String × Entry)} {below : String → Entry → List Location}

/-- The names below a directory that begin with one of its own, if those below each entry are given. -/
def under (entries : List (String × Entry)) (below : String → Entry → List Location) (name : String) :
    List Location :=
  (find? name entries).elim [] fun e => (below name e).map (name :: ·)

theorem under_some {name : String} {e : Entry} (he : find? name entries = some e) :
    under entries below name = (below name e).map (name :: ·) := by
  rw [under, he, Option.elim_some]

theorem mem_under (hbelow : ∀ name e, find? name entries = some e →
      InOrder refuses (place ++ [name]) (join path name) e (below name e)) {name : String}
      {names : Location} :
    names ∈ under entries below name ↔ ∃ e rest content, find? name entries = some e ∧
      Opened refuses (place ++ [name]) (join path name) rest ∧ e.at? rest = some (.file content) ∧
        names = name :: rest := by
  cases he : find? name entries with
  | none => simp [under, he]
  | some e =>
    simp only [under_some he, List.mem_map, (hbelow name e he).files]
    constructor
    · rintro ⟨rest, ⟨hway, content, hc⟩, rfl⟩
      exact ⟨e, rest, content, rfl, hway, hc, rfl⟩
    · rintro ⟨e', rest, content, he', hway, hc, rfl⟩
      cases he'
      exact ⟨rest, ⟨hway, content, hc⟩, rfl⟩

/-- A directory that opens is in order, if its entries are. -/
theorem inOrder_directory (hs : Entry.soundAll entries = true) (hopen : refuses place path = none)
    (hbelow : ∀ name e, find? name entries = some e →
      ∃ below, InOrder refuses (place ++ [name]) (join path name) e below) :
    ∃ below, InOrder refuses place path (.directory entries) below := by
  choose! below hbelow using hbelow
  refine ⟨(sortedNames entries).flatMap (under entries below), ?_, ?_, ?_⟩
  · rw [files_directory hs hopen, List.map_flatMap]
    refine List.flatMap_congr fun name hname => ?_
    obtain ⟨e, he⟩ := mem_sortedNames_iff.mp hname
    rw [under_some he, List.map_map, filesAt_some he]
    exact (hbelow name e he).listed
  · refine List.pairwise_flatMap.mpr
      ⟨fun name hname => ?_, (sortedNames_lt hs).imp fun hlt a ha b hb => ?_⟩
    · obtain ⟨e, he⟩ := mem_sortedNames_iff.mp hname
      rw [under_some he, List.pairwise_map]
      exact (hbelow name e he).ordered.imp before_cons
    · obtain ⟨-, rest, -, -, -, -, rfl⟩ := (mem_under hbelow).mp ha
      obtain ⟨-, rest', -, -, -, -, rfl⟩ := (mem_under hbelow).mp hb
      exact before_of_lt hlt rest rest'
  · intro names
    rw [List.mem_flatMap]
    constructor
    · rintro ⟨name, -, hn⟩
      obtain ⟨e, rest, content, he, hway, hc, rfl⟩ := (mem_under hbelow).mp hn
      exact ⟨⟨hopen, hway⟩, content, at?_cons.mpr ⟨entries, e, rfl, he, hc⟩⟩
    · rintro ⟨hway, content, hc⟩
      cases names with
      | nil => cases hc
      | cons name rest =>
        obtain ⟨_, e, hentries, he, hc⟩ := at?_cons.mp hc
        cases hentries
        exact ⟨name, mem_sortedNames_iff.mpr ⟨e, he⟩,
          (mem_under hbelow).mpr ⟨e, rest, content, he, hway.2, hc, rfl⟩⟩

end

/-- The files of a sound tree come in the order of the names that lead to them. -/
theorem files_in_order (refuses : Location → String → Option Refusal) {e : Entry}
    (hs : e.sound = true) :
    ∀ (place : Location) (path : String), ∃ below, InOrder refuses place path e below := by
  refine Entry.sound_induct ?_ ?_ ?_ hs
  · intro content place path
    refine ⟨[[]], rfl, List.pairwise_singleton _ _, fun names => ?_⟩
    cases names <;> simp [Entry.at?, Opened]
  · intro target place path
    refine ⟨[], rfl, List.Pairwise.nil, fun names => ?_⟩
    cases names <;> simp [Entry.at?]
  · intro entries hs ih place path
    cases hopen : refuses place path with
    | none => exact inOrder_directory hs hopen fun name e he => ih name e he _ _
    | some refusal =>
      refine ⟨[], files_refused hopen, List.Pairwise.nil, fun names => ?_⟩
      cases names <;> simp [Entry.at?, Opened, hopen]

end RouteShortcuts.Files
