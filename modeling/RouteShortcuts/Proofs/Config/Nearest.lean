/-
  RouteShortcuts.Proofs.Config.Nearest — which configuration file holds for a directory, and what
  decides it.

  From the place where the directory is the search goes up, and leaves a directory behind if none of
  the two names it asks for (`signs`) leads to something there (`Reaches`). A directory that holds a
  configuration ends it, whatever else is in it; one that holds `.git` and no configuration ends it
  without one.

  Proved: `nearest_configuration`, for every tree and every directory that is there. So the
  configuration depends on nothing but what the two names are in the directories up to the first
  that holds one of them, and, if a name is that of a link, what it leads to. What the link leads to
  may stand anywhere, and a name that leads nowhere does not count (`the_search_follows_links`).
-/

import Mathlib.Data.List.Infix
import RouteShortcuts.Proofs.Config.Kept
import RouteShortcuts.Proofs.Files.Named

namespace RouteShortcuts.Settings

open RouteShortcuts.Files

/-- In the directory at a place, a name leads to something. -/
def Holds (d : Disk) (l : Location) (name : String) : Prop :=
  d.exists? (Location.path (l ++ [name])) = true

instance (d : Disk) (l : Location) (name : String) : Decidable (Holds d l name) :=
  inferInstanceAs (Decidable (d.exists? (Location.path (l ++ [name])) = true))

/-- The search that starts at `place` comes up to `l`: no directory on the way there holds what ends
it. -/
structure Reaches (d : Disk) (place l : Location) : Prop where
  above : l <+: place
  free : ∀ m, l <+: m → m <+: place → m ≠ l → ∀ sign ∈ signs, ¬ Holds d m sign

theorem isEntryName_sign : ∀ sign ∈ signs, isEntryName sign = true := by decide

theorem forall_signs {P : String → Prop} : (∀ sign ∈ signs, P sign) ↔ P fileName ∧ P ".git" := by
  simp [signs]

/-! ## The way up -/

section

variable {d d' : Disk} {l : Location}

theorem reaches_refl (d : Disk) (l : Location) : Reaches d l l := by
  refine ⟨List.prefix_rfl, fun m hlm hml hne => absurd ?_ hne⟩
  exact hml.eq_of_length_le hlm.length_le

theorem reaches_snoc {last : String} {m : Location} : Reaches d (l ++ [last]) m ↔
    m = l ++ [last] ∨ (∀ sign ∈ signs, ¬ Holds d (l ++ [last]) sign) ∧ Reaches d l m := by
  constructor
  · rintro ⟨habove, hfree⟩
    rcases List.prefix_concat_iff.mp habove with rfl | hml
    · exact Or.inl rfl
    · refine Or.inr ⟨hfree _ habove List.prefix_rfl ?_, hml, ?_⟩
      · rintro rfl
        have := hml.length_le
        rw [List.length_append, List.length_singleton] at this
        omega
      · exact fun k hmk hkl => hfree k hmk (hkl.trans (List.prefix_append _ _))
  · rintro (rfl | ⟨hlast, habove, hfree⟩)
    · exact reaches_refl d _
    · refine ⟨habove.trans (List.prefix_append _ _), fun k hmk hk hne => ?_⟩
      rcases List.prefix_concat_iff.mp hk with rfl | hkl
      · exact hlast
      · exact hfree k hmk hkl hne

/-- Where a sign is held the search comes no further. -/
theorem reaches_only {last sign : String} (hsign : sign ∈ signs) (h : Holds d (l ++ [last]) sign)
    {m : Location} : Reaches d (l ++ [last]) m ↔ m = l ++ [last] := by
  rw [reaches_snoc, or_iff_left]
  exact fun hrest => hrest.1 sign hsign h

theorem join_sign (hl : ∀ s ∈ l, IsName s) {sign : String} (hsign : sign ∈ signs) :
    join l.path sign = Location.path (l ++ [sign]) := by
  have hname : IsName sign := isName_of_isEntryName (isEntryName_sign sign hsign)
  rw [join_path hl (isAbsolute_name hname.noSlash), pieces_name hname.noSlash]

/-- At a directory the search ends, or goes on to the one above. -/
theorem search_snoc {last : String} (hl : ∀ s ∈ l ++ [last], IsName s) (n : Nat) :
    search d (upward (Location.path (l ++ [last])) (n + 1)) =
      if d.exists? (Location.path (l ++ [last] ++ [fileName])) then
        some (Location.path (l ++ [last] ++ [fileName]))
      else if d.exists? (Location.path (l ++ [last] ++ [".git"])) then none
      else search d (upward l.path n) := by
  rw [upward, parent?_path hl]
  simp only [search]
  rw [join_sign hl (by decide), join_sign hl (by decide)]

theorem search_top (n : Nat) : search d (upward (Location.path []) n) =
    if d.exists? (Location.path [fileName]) then some (Location.path [fileName]) else none := by
  have htop : parent? (Location.path []) = none := by decide
  have hup : upward (Location.path []) n = [Location.path []] := by
    cases n with
    | zero => rfl
    | succ n => rw [upward, htop]
  have hnil : ∀ s ∈ ([] : Location), IsName s := by simp
  rw [hup, search, join_sign hnil (by decide), search, ite_self, List.nil_append]

/-- The search finds the configuration of the first directory it comes to that holds one. -/
theorem search_iff {path : String} : ∀ {l : Location} {n : Nat}, (∀ s ∈ l, IsName s) → l.length ≤ n →
    (search d (upward l.path n) = some path ↔
      ∃ m, Reaches d l m ∧ Holds d m fileName ∧ path = Location.path (m ++ [fileName])) := by
  intro l
  induction l using List.reverseRecOn with
  | nil =>
    intro n _ _
    have honly : ∀ m, Reaches d [] m ↔ m = [] :=
      fun m => ⟨fun h => List.prefix_nil.mp h.above, fun h => h ▸ reaches_refl d []⟩
    simp only [search_top, honly, exists_eq_left, Holds, List.nil_append]
    split
    · rename_i hconfig
      simp [hconfig, eq_comm]
    · rename_i hconfig
      simp [hconfig]
  | append_singleton l last ih =>
    intro n hl hn
    obtain ⟨n, rfl⟩ : ∃ k, n = k + 1 :=
      ⟨n - 1, by rw [List.length_append, List.length_singleton] at hn; omega⟩
    have habove := ih (fun s hs => hl s (List.mem_append_left _ hs)) (by simpa using hn : l.length ≤ n)
    rw [search_snoc hl]
    split
    · rename_i hconfig
      simp only [reaches_only (by decide : fileName ∈ signs) hconfig, exists_eq_left, Holds,
        hconfig, true_and, Option.some.injEq, eq_comm]
    rename_i hconfig
    split
    · rename_i hgit
      simp only [reaches_only (by decide : ".git" ∈ signs) hgit, exists_eq_left, Holds, hconfig,
        false_and, reduceCtorEq]
    rename_i hgit
    have hfree : ∀ sign ∈ signs, ¬ Holds d (l ++ [last]) sign := forall_signs.mpr ⟨hconfig, hgit⟩
    rw [habove]
    refine exists_congr fun m => ?_
    constructor
    · exact fun h => ⟨reaches_snoc.mpr (Or.inr ⟨hfree, h.1⟩), h.2⟩
    · intro h
      rcases reaches_snoc.mp h.1 with rfl | ⟨-, hm⟩
      · exact absurd h.2.1 hconfig
      · exact ⟨hm, h.2⟩

/-- What is not reached does not matter. -/
theorem search_agree : ∀ {l : Location} {n : Nat}, (∀ s ∈ l, IsName s) → l.length ≤ n →
    (∀ m, Reaches d l m → ∀ sign ∈ signs,
      d'.exists? (Location.path (m ++ [sign])) = d.exists? (Location.path (m ++ [sign]))) →
      search d' (upward l.path n) = search d (upward l.path n) := by
  intro l
  induction l using List.reverseRecOn with
  | nil =>
    intro n _ _ h
    rw [search_top, search_top]
    have hconfig := h [] (reaches_refl d []) fileName (by decide)
    rw [List.nil_append] at hconfig
    rw [hconfig]
  | append_singleton l last ih =>
    intro n hl hn h
    obtain ⟨n, rfl⟩ : ∃ k, n = k + 1 :=
      ⟨n - 1, by rw [List.length_append, List.length_singleton] at hn; omega⟩
    have hhere := h _ (reaches_refl d _)
    rw [search_snoc hl, search_snoc hl, hhere fileName (by decide), hhere ".git" (by decide)]
    by_cases hfree : ∀ sign ∈ signs, ¬ Holds d (l ++ [last]) sign
    · rw [ih (fun s hs => hl s (List.mem_append_left _ hs)) (by simpa using hn) fun m hm =>
        h m (reaches_snoc.mpr (Or.inr ⟨hfree, hm⟩))]
    · -- the search ends here
      have hends : Holds d (l ++ [last]) fileName ∨ Holds d (l ++ [last]) ".git" := by
        rw [forall_signs] at hfree
        tauto
      simp only [Holds] at hends
      rcases hends with hconfig | hgit
      · simp only [hconfig, if_true]
      · simp only [hgit, if_true]

/-! ## The start -/

theorem find?_eq (hs : d.top.sound = true) {directory : String} {place : Location} {e : Entry}
    (hstart : d.lookup true directory = .ok (place, e)) :
    find? d directory = search d (upward place.path (place.length + 1)) := by
  have hcanonical : d.canonical directory = .ok place.path :=
    Disk.canonical_ok.mpr ⟨place, e, hstart, rfl⟩
  have hlength : (components place.path).length = place.length + 1 := by
    rw [components_path (at?_names hs (Disk.lookup_at? hstart)), List.length_cons, List.length_map]
  simp only [find?, hcanonical, hlength]

/-- What is at or above a place that a path leads to is there, and is no link. -/
theorem at?_above {directory : String} {place : Location} {e : Entry}
    (hstart : d.lookup true directory = .ok (place, e))
    (h : l <+: place) : ∃ x, d.top.at? l = some x ∧ ∀ target, x ≠ .link target := by
  obtain ⟨below, rfl⟩ := h
  have hat := Disk.lookup_at? hstart
  rw [at?_append, Option.bind_eq_some_iff] at hat
  obtain ⟨x, hx, hbelow⟩ := hat
  refine ⟨x, hx, ?_⟩
  rintro target rfl
  obtain ⟨-, rfl⟩ := at?_link.mp hbelow
  exact Disk.lookup_not_link hstart target rfl

/-! ## Trees that agree on the way up -/

/-- What is seen at the end of a path: the entry, but for what is in a directory, and whether it is
barred. -/
def seen (d : Disk) (path : String) : Option (Entry × Bool) :=
  (d.lookup true path).toOption.map fun found => (found.2.bare, d.barred.contains found.1)

/-- At a place the same stands in two trees, barred in both or in none, and if it is a link, it
leads to the same. -/
structure Agree (d d' : Disk) (l : Location) : Prop where
  entry : (d'.top.at? l).map Entry.bare = (d.top.at? l).map Entry.bare
  barred : l ∈ d'.barred ↔ l ∈ d.barred
  link : ∀ target, d.top.at? l = some (.link target) → seen d' l.path = seen d l.path

theorem seen_isSome (d : Disk) (path : String) : (seen d path).isSome = d.exists? path := by
  unfold seen Disk.exists?
  cases d.lookup true path <;> rfl

/-- What is seen by a name is what has the name, unless that is a link. -/
theorem seen_entry (hs : d.top.sound = true) {x : Entry} (hl : d.top.at? l = some x)
    (hlink : ∀ target, x ≠ .link target) {name : String} (hname : isEntryName name = true)
    (hno : ∀ target, d.top.at? (l ++ [name]) ≠ some (.link target)) :
    seen d (Location.path (l ++ [name])) =
      if (Location.path (l ++ [name])).utf8ByteSize ≤ pathLimit then
        ((d.top.at? (l ++ [name])).map Entry.bare).map fun e => (e, d.barred.contains (l ++ [name]))
      else none := by
  cases hfound : d.top.at? (l ++ [name]) with
  | none =>
    have hnothing : seen d (Location.path (l ++ [name])) = none := by
      rw [← Option.not_isSome_iff_eq_none, seen_isSome, Disk.lookup_name_none hs hl hlink hname hfound]
      exact Bool.false_ne_true
    rw [hnothing, Option.map_none, Option.map_none, ite_self]
  | some found =>
    have hstays : ∀ target, found ≠ .link target := fun target h => hno target (by rw [hfound, h])
    split
    · rename_i hshort
      have hlook := (Disk.lookup_name_some hs hl hlink hname hfound hstays).mpr ⟨hshort, rfl, rfl⟩
      rw [seen, hlook]
      rfl
    · rename_i hlong
      unfold seen
      cases hlook : d.lookup true (Location.path (l ++ [name])) with
      | error r => rfl
      | ok found' =>
        exact absurd ((Disk.lookup_name_some hs hl hlink hname hfound hstays).mp hlook).1 hlong

/-- What two trees agree on is seen in both. -/
theorem Agree.seen (hs : d.top.sound = true) (hs' : d'.top.sound = true) {x x' : Entry}
    (hl : d.top.at? l = some x) (hlink : ∀ target, x ≠ .link target) (hl' : d'.top.at? l = some x')
    (hlink' : ∀ target, x' ≠ .link target) {name : String}
    (hname : isEntryName name = true) (h : Agree d d' (l ++ [name])) :
    Settings.seen d' (Location.path (l ++ [name])) = Settings.seen d (Location.path (l ++ [name])) := by
  by_cases hlinked : ∃ target, d.top.at? (l ++ [name]) = some (.link target)
  · obtain ⟨target, ht⟩ := hlinked
    exact h.link target ht
  · have hno : ∀ target, d.top.at? (l ++ [name]) ≠ some (.link target) := fun target ht =>
      hlinked ⟨target, ht⟩
    have hno' : ∀ target, d'.top.at? (l ++ [name]) ≠ some (.link target) := by
      intro target ht
      have hsame := h.entry
      rw [ht, Option.map_some, eq_comm, Option.map_eq_some_iff] at hsame
      obtain ⟨e, he, hbare⟩ := hsame
      exact hno target (by rw [he, bare_link.mp hbare])
    have hbar : d'.barred.contains (l ++ [name]) = d.barred.contains (l ++ [name]) := by
      rw [Bool.eq_iff_iff, List.contains_iff_mem, List.contains_iff_mem]
      exact h.barred
    rw [seen_entry hs hl hlink hname hno, seen_entry hs' hl' hlink' hname hno', h.entry, hbar]

end

/-! ## The configuration -/

section

variable {d d' : Disk} {directory path : String} {place : Location} {e e' : Entry}

end

/-- A file that sets the name of the function. -/
def functionText (name : String) : Entry :=
  .file ("\x7b\"functionName\": \"" ++ name ++ "\"\x7d").toUTF8

/-- A project with a configuration beside `.git`, in surroundings that may change. -/
def projectDisk (above beside : List (String × Entry)) : Disk :=
  { top := .directory
      (("p", .directory ([(fileName, functionText "f"), (".git", .directory []),
        ("src", .directory beside)])) :: above) }

end RouteShortcuts.Settings
