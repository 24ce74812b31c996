/-
  RouteShortcuts.Proofs.Discovery.Distinct — files that are listed once, and files that are listed
  twice.

  A search starts where the base of its pattern leads (`Starts`), be it over links, and goes down
  from there by names, as far as the directories open; the path of what it finds is the text of the
  base and then these names (`Finds`, `mem_found`). A path is left out if one with its components is
  listed already, so no two listed paths have the same components (`distinct_addNew`). That tells
  files apart as long as all bases are spelled the way their places are; it does not if one base
  takes a step up, or a link, on its way to a directory that another one comes to without
  (`SpelledTwice`).

  Proved: `listed_once_iff`, for every tree with whatever links and all patterns that compile: the
  listed paths lead to files, and lead to different ones exactly if no file is spelled twice.
  `a_step_up_in_the_base_lists_a_file_twice` is a project where one is.
-/

import Mathlib.Data.List.Pairwise
import RouteShortcuts.Proofs.Discovery.LiteralBase
import RouteShortcuts.Proofs.Files.Spelling

namespace RouteShortcuts.Discovery

open RouteShortcuts.Files

/-! ## What is listed -/

/-- Paths of which no two have the same components. -/
def Distinct (listed : List String) : Prop := listed.Pairwise fun a b => samePath a b = false

theorem samePath_comm (a b : String) : samePath a b = samePath b a := by
  rw [Bool.eq_iff_iff, samePath_iff, samePath_iff]
  exact eq_comm

theorem Distinct.apart {listed : List String} (h : Distinct listed) {a b : String}
    (ha : a ∈ listed) (hb : b ∈ listed) (hne : a ≠ b) : samePath a b = false := by
  have hsymm : Std.Symm fun a b : String => samePath a b = false :=
    ⟨fun a b hab => by rw [samePath_comm, hab]⟩
  exact List.Pairwise.forall h ha hb hne

theorem addNew_append (listed a b : List String) :
    addNew listed (a ++ b) = addNew (addNew listed a) b :=
  List.foldl_append

theorem distinct_addNew {paths : List String} : ∀ {listed : List String}, Distinct listed →
    Distinct (addNew listed paths) := by
  induction paths with
  | nil => exact fun h => h
  | cons path paths ih =>
    intro listed h
    rw [addNew_cons]
    refine ih ?_
    split
    · exact h
    · rename_i hnew
      refine List.pairwise_append.mpr ⟨h, List.pairwise_singleton _ _, ?_⟩
      intro a ha b hb
      rw [List.mem_singleton.mp hb, samePath_comm]
      exact Bool.eq_false_iff.mpr fun hsame => hnew (List.any_eq_true.mpr ⟨a, ha, hsame⟩)

theorem pattern_of_compile {pattern : String} {g : Glob} (h : compile pattern = .ok g) :
    g.pattern = normalize pattern := by
  unfold compile at h
  split at h
  · rename_i hg
    cases h
    exact (Glob.compile_parts hg).1
  · cases h

/-- What patterns that all compile list: the files of each of them, added one after another. -/
theorem filesOfPatterns_eq (d : Disk) (root : String) {patterns : List String} {globs : List Glob}
    (h : List.Forall₂ (fun pattern g => compile pattern = .ok g) patterns globs) :
    ∀ listed : List String,
    filesOfPatterns d root listed patterns =
      .ok (addNew listed (globs.flatMap (filesOfGlob d root))) := by
  induction h with
  | nil => exact fun _ => rfl
  | cons hg _ ih =>
    intro listed
    rw [filesOfPatterns, hg]
    dsimp only
    rw [ih, List.flatMap_cons, addNew_append]

/-! ## Where a search starts -/

/-- A search from `base` starts at `place`: at a directory, over links or not, or at a file that no link
leads to in the end. -/
def Starts (d : Disk) (base : String) (place : Location) : Prop :=
  ∃ e, d.lookup true base = .ok (place, e) ∧
    (e.isDirectory = true ∨ d.lookup false base = .ok (place, e))

/-- An absolute path leads to a file, whatever its length. -/
structure LeadsTo (d : Disk) (path : String) (place : Location) (content : ByteArray) : Prop where
  absolute : isAbsolute path = true
  walk : Disk.walk d.top true linkLimit [] (pieces path) = .ok (.present place (.file content))

theorem LeadsTo.same_place {d : Disk} {a b : String} {place place' : Location}
    {content content' : ByteArray} (ha : LeadsTo d a place content)
    (hb : LeadsTo d b place' content') (hsame : samePath a b = true) : place = place' := by
  have hcs := samePath_iff.mp hsame
  simp only [Files.components, ha.absolute, hb.absolute, if_true] at hcs
  exact Disk.walk_same (List.cons.inj hcs).2 ha.walk hb.walk

theorem Starts.unique {d : Disk} {base : String} {place place' : Location} (h : Starts d base place)
    (h' : Starts d base place') : place' = place := by
  obtain ⟨e, he, -⟩ := h
  obtain ⟨e', he', -⟩ := h'
  rw [he] at he'
  cases he'
  rfl

/-- The path of what a search finds leads to it. -/
theorem Starts.leadsTo {d : Disk} (hs : d.top.sound = true) {base : String}
    (hbase : isAbsolute base = true) {place names : Location}
    (h : Starts d base place) {content : ByteArray}
    (hn : d.top.at? (place ++ names) = some (.file content)) :
    LeadsTo d (names.foldl join base) (place ++ names) content := by
  obtain ⟨e, he, -⟩ := h
  obtain ⟨-, hw⟩ := Disk.lookup_iff.mp he
  have hnames : ∀ s ∈ names, IsName s := fun s hmem =>
    at?_names hs hn s (List.mem_append_right place hmem)
  rw [Disk.start, hbase, if_pos rfl] at hw
  rw [at?_append, Disk.lookup_at? he] at hn
  exact ⟨isAbsolute_foldl_join hbase, Disk.walk_foldl_join hs (by simp) hn hnames hw⟩

/-- A search walks from the place where it starts. -/
theorem itemsUnder_starts {d : Disk} {base : String} {place : Location} {e : Entry}
    (he : d.lookup true base = .ok (place, e))
    (hstart : e.isDirectory = true ∨ d.lookup false base = .ok (place, e)) :
    d.itemsUnder base = e.items d.refuses place base := by
  have hlink : ∀ target, e ≠ .link target := Disk.lookup_not_link he
  unfold Disk.itemsUnder
  rcases Disk.lookup_link_or_same he with hsame | ⟨at_, target, hl⟩
  · rw [hsame]
    cases e with
    | link target => exact absurd rfl (hlink target)
    | file | directory => rfl
  · rw [hl] at hstart ⊢
    rw [he]
    rcases hstart with hd | hsame
    · cases e with
      | directory entries => rfl
      | file | link => cases hd
    · cases hsame
      exact absurd rfl (hlink target)

/-- A link that leads to a file is left alone. -/
theorem itemsUnder_nothing {d : Disk} {base : String} {place : Location} {e : Entry}
    (he : d.lookup true base = .ok (place, e))
    (hno : ¬ (e.isDirectory = true ∨ d.lookup false base = .ok (place, e))) :
    d.itemsUnder base = [] := by
  rcases Disk.lookup_link_or_same he with hsame | ⟨at_, target, hl⟩
  · exact absurd (Or.inr hsame) hno
  · unfold Disk.itemsUnder
    rw [hl, he]
    cases e with
    | directory entries => exact absurd (Or.inl rfl) hno
    | file | link => rfl

/-- What a search comes to under a path that is there. -/
theorem mem_itemsUnder {d : Disk} (hs : d.top.sound = true) {base : String} {item : Item} :
    d.exists? base = true ∧ item ∈ d.itemsUnder base ↔ ∃ place names x, Starts d base place ∧
      d.top.at? (place ++ names) = some x ∧ Opened d.refuses place base names ∧
        x.item? d.refuses (place ++ names) (names.foldl join base) = some item := by
  have hbelow : ∀ {place e}, d.lookup true base = .ok (place, e) →
      (item ∈ e.items d.refuses place base ↔
      ∃ names x, d.top.at? (place ++ names) = some x ∧ Opened d.refuses place base names ∧
        x.item? d.refuses (place ++ names) (names.foldl join base) = some item) := by
    intro place e he
    have hat : d.top.at? place = some e := Disk.lookup_at? he
    simp only [mem_items (at?_sound hs hat).2, Entry.ComesTo, at?_append, hat, Option.bind_some]
  constructor
  · rintro ⟨hex, hitem⟩
    obtain ⟨place, e, he⟩ := Disk.exists?_lookup.mp hex
    by_cases hstart : e.isDirectory = true ∨ d.lookup false base = .ok (place, e)
    · rw [itemsUnder_starts he hstart, hbelow he] at hitem
      obtain ⟨names, x, hx, hway, hitem⟩ := hitem
      exact ⟨place, names, x, ⟨e, he, hstart⟩, hx, hway, hitem⟩
    · rw [itemsUnder_nothing he hstart] at hitem
      cases hitem
  · rintro ⟨place, names, x, ⟨e, he, hstart⟩, hx, hway, hitem⟩
    refine ⟨Disk.exists?_lookup.mpr ⟨place, e, he⟩, ?_⟩
    rw [itemsUnder_starts he hstart, hbelow he]
    exact ⟨names, x, hx, hway, hitem⟩

/-- What is found under a path: the files below the place where the search starts, by the names on
the way, as far as it is open. -/
theorem mem_filesUnder {d : Disk} (hs : d.top.sound = true) {base : String} {x : String} :
    d.exists? base = true ∧ x ∈ d.filesUnder base ↔ ∃ place names content, Starts d base place ∧
      d.top.at? (place ++ names) = some (.file content) ∧ Opened d.refuses place base names ∧
        x = names.foldl join base := by
  simp only [Disk.filesUnder, List.mem_filterMap]
  constructor
  · rintro ⟨hex, item, hitem, hfile⟩
    obtain ⟨place, names, y, hstart, hy, hway, hitem⟩ := (mem_itemsUnder hs).mp ⟨hex, hitem⟩
    obtain ⟨content, rfl, rfl⟩ := item?_file hitem hfile
    exact ⟨place, names, content, hstart, hy, hway, rfl⟩
  · rintro ⟨place, names, content, hstart, hy, hway, rfl⟩
    obtain ⟨hex, hitem⟩ := (mem_itemsUnder hs).mpr ⟨place, names, _, hstart, hy, hway, rfl⟩
    exact ⟨hex, _, hitem, rfl⟩

/-- What is skipped under a path: the topmost directories below the place where the search starts
that do not open. -/
theorem mem_skippedUnder {d : Disk} (hs : d.top.sound = true) {base : String} {s : Skipped} :
    d.exists? base = true ∧ s ∈ d.skippedUnder base ↔ ∃ place names entries, Starts d base place ∧
      d.top.at? (place ++ names) = some (.directory entries) ∧ Opened d.refuses place base names ∧
        s.path = names.foldl join base ∧ d.refuses (place ++ names) s.path = some s.refusal := by
  simp only [Disk.skippedUnder, List.mem_filterMap]
  constructor
  · rintro ⟨hex, item, hitem, hskipped⟩
    obtain ⟨place, names, y, hstart, hy, hway, hitem⟩ := (mem_itemsUnder hs).mp ⟨hex, hitem⟩
    obtain ⟨entries, rfl, hpath, hrefused⟩ := item?_skipped hitem hskipped
    exact ⟨place, names, entries, hstart, hy, hway, hpath, hpath ▸ hrefused⟩
  · rintro ⟨place, names, entries, hstart, hy, hway, hpath, hrefused⟩
    obtain ⟨path, refusal⟩ := s
    dsimp only at hpath hrefused
    subst hpath
    obtain ⟨hex, hitem⟩ := (mem_itemsUnder hs).mpr
      ⟨place, names, _, hstart, hy, hway, by rw [Entry.item?, hrefused, Option.map_some]⟩
    exact ⟨hex, _, hitem, rfl⟩

/-- The path of what a search comes to by these names. -/
def spelled (root : String) (g : Glob) (names : Location) : String :=
  names.foldl join (basePath root g.pattern)

/-- A search that starts at `place` comes by these names to a file that the glob matches. -/
structure Finds (d : Disk) (root : String) (g : Glob) (place names : Location) : Prop where
  starts : Starts d (basePath root g.pattern) place
  opened : Opened d.refuses place (basePath root g.pattern) names
  file : ∃ content, d.top.at? (place ++ names) = some (.file content)
  matched : g.isMatch (candidate root g.pattern (spelled root g names)) = true

/-- What the patterns select is what their searches find. -/
theorem mem_found {d : Disk} (hs : d.top.sound = true) {root x : String} {globs : List Glob} :
    x ∈ globs.flatMap (filesOfGlob d root) ↔
      ∃ g ∈ globs, ∃ place names, Finds d root g place names ∧ x = spelled root g names := by
  rw [List.mem_flatMap]
  refine exists_congr fun g => and_congr_right fun _ => ?_
  have hsplit : x ∈ filesOfGlob d root g ↔
      (d.exists? (basePath root g.pattern) = true ∧ x ∈ d.filesUnder (basePath root g.pattern)) ∧
        g.isMatch (candidate root g.pattern x) = true := by
    unfold filesOfGlob
    by_cases hex : d.exists? (basePath root g.pattern) = true
    · simp [hex, List.mem_filter]
    · simp [hex]
  rw [hsplit, mem_filesUnder hs]
  constructor
  · rintro ⟨⟨place, names, content, hstart, hn, hway, rfl⟩, hm⟩
    exact ⟨place, names, ⟨hstart, hway, ⟨content, hn⟩, hm⟩, rfl⟩
  · rintro ⟨place, names, ⟨hstart, hway, ⟨content, hn⟩, hm⟩, rfl⟩
    exact ⟨⟨place, names, content, hstart, hn, hway, rfl⟩, hm⟩

section

variable {d : Disk} {root : String} {g h : Glob} {place place' names names' : Location}

theorem Finds.isName (hs : d.top.sound = true) (hf : Finds d root g place names) :
    ∀ s ∈ place ++ names, IsName s := by
  obtain ⟨content, hn⟩ := hf.file
  exact at?_names hs hn

theorem Finds.components (hs : d.top.sound = true) (hr : isAbsolute root = true)
    (hf : Finds d root g place names) :
    components (spelled root g names) = components (basePath root g.pattern) ++ names.map .name :=
  components_foldl_join (isAbsolute_join hr _) fun s hmem =>
    hf.isName hs s (List.mem_append_right place hmem)

/-- The path of what is found leads there, if it is not too long. -/
theorem Finds.lookup (hs : d.top.sound = true) (hr : isAbsolute root = true)
    (hf : Finds d root g place names) (hshort : (spelled root g names).utf8ByteSize ≤ pathLimit) :
    ∃ content, d.lookup true (spelled root g names) = .ok (place ++ names, .file content) := by
  obtain ⟨e, he, -⟩ := hf.starts
  obtain ⟨content, hn⟩ := hf.file
  rw [at?_append, Disk.lookup_at? he] at hn
  exact ⟨content, Disk.lookup_foldl_join hs (isAbsolute_join hr _) he (by simp) hn hshort⟩

/-- The canonical path of what is found, if it has one, is that of its place. -/
theorem Finds.canonical (hs : d.top.sound = true) (hr : isAbsolute root = true)
    (hf : Finds d root g place names) {k : String}
    (hk : d.canonical (spelled root g names) = .ok k) : k = Location.path (place ++ names) := by
  obtain ⟨at_, e, hlook, rfl⟩ := Disk.canonical_ok.mp hk
  obtain ⟨content, hlook'⟩ := hf.lookup hs hr (Disk.lookup_iff.mp hlook).1.short
  rw [hlook'] at hlook
  cases hlook
  rfl

/-- Paths with the same components lead to the same file. -/
theorem Finds.same_place (hs : d.top.sound = true) (hr : isAbsolute root = true)
    (hg : Finds d root g place names) (hh : Finds d root h place' names')
    (hsame : samePath (spelled root g names) (spelled root h names') = true) :
    place ++ names = place' ++ names' := by
  obtain ⟨_, hn⟩ := hg.file
  obtain ⟨_, hn'⟩ := hh.file
  exact (hg.starts.leadsTo hs (isAbsolute_join hr _) hn).same_place
    (hh.starts.leadsTo hs (isAbsolute_join hr _) hn') hsame

end

/-! ## Files that are listed once -/

/-- The files that globs select together. -/
def listedBy (d : Disk) (root : String) (globs : List Glob) : List String :=
  addNew [] (globs.flatMap (filesOfGlob d root))

/-- No two of the listed paths lead to one file. -/
def ListedOnce (d : Disk) (listed : List String) : Prop :=
  ∀ a ∈ listed, ∀ b ∈ listed, ∀ k, d.canonical a = .ok k → d.canonical b = .ok k → a = b

/-- Two searches find one file, of which one starts at or below where the other does, but its base
does not spell the way down from there. -/
def SpelledTwice (d : Disk) (root : String) (g h : Glob) : Prop :=
  ∃ place below names, Finds d root g place (below ++ names) ∧ Finds d root h (place ++ below) names ∧
    components (basePath root h.pattern) ≠ components (basePath root g.pattern) ++ below.map .name

/-- A base that spells the place where it leads, without links and without `..`. -/
def PlainBase (d : Disk) (root : String) (g : Glob) : Prop :=
  ∀ place, Starts d (basePath root g.pattern) place →
    components (basePath root g.pattern) = .top :: place.map .name

theorem not_spelledTwice_of_plain {d : Disk} {root : String} {g h : Glob} (hg : PlainBase d root g)
    (hh : PlainBase d root h) : ¬ SpelledTwice d root g h := by
  rintro ⟨place, below, names, hfg, hfh, hne⟩
  refine hne ?_
  rw [hg place hfg.starts, hh (place ++ below) hfh.starts, List.map_append]
  rfl

section

variable {d : Disk} {root : String} {globs : List Glob}

theorem distinct_listedBy : Distinct (listedBy d root globs) := distinct_addNew List.Pairwise.nil

theorem finds_of_listedBy (hs : d.top.sound = true) {x : String} (hx : x ∈ listedBy d root globs) :
    ∃ g ∈ globs, ∃ place names, Finds d root g place names ∧ x = spelled root g names := by
  rcases found_of_listed hx with hnil | hfound
  · cases hnil
  · exact (mem_found hs).mp hfound

/-- What is found is listed by a path with its components, and that leads to the same file. -/
theorem listedBy_of_finds (hs : d.top.sound = true) (hr : isAbsolute root = true)
    {g : Glob} (hg : g ∈ globs) {place names : Location} (hf : Finds d root g place names) :
    ∃ y ∈ listedBy d root globs,
      samePath (spelled root g names) y = true ∧
        (y.utf8ByteSize ≤ pathLimit → d.canonical y = .ok (Location.path (place ++ names))) := by
  obtain ⟨y, hy, hsame⟩ := listed_of_found ((mem_found hs).mpr ⟨g, hg, place, names, hf, rfl⟩)
  obtain ⟨h, -, place', names', hf', rfl⟩ := finds_of_listedBy hs hy
  refine ⟨_, hy, hsame, ?_⟩
  intro hshort
  obtain ⟨content, hlook⟩ := hf'.lookup hs hr hshort
  rw [hf.same_place hs hr hf' hsame]
  exact Disk.canonical_ok.mpr ⟨_, _, hlook, rfl⟩

/-- A file that is found by two paths with other components is spelled twice. -/
theorem spelledTwice_of_apart (hs : d.top.sound = true) (hr : isAbsolute root = true) {g h : Glob}
    {place below names : Location} (hg : Finds d root g place (below ++ names))
    (hh : Finds d root h (place ++ below) names)
    (hapart : samePath (spelled root g (below ++ names)) (spelled root h names) = false) :
    SpelledTwice d root g h := by
  refine ⟨place, below, names, hg, hh, ?_⟩
  intro hway
  have hsame : samePath (spelled root g (below ++ names)) (spelled root h names) = true := by
    rw [samePath_iff, hg.components hs hr, hh.components hs hr, hway, List.map_append,
      List.append_assoc]
  rw [hapart] at hsame
  cases hsame

/-- If one file is listed by two paths, it is spelled twice. -/
theorem listedOnce_of_not_spelledTwice (hs : d.top.sound = true) (hr : isAbsolute root = true)
    (hno : ¬ ∃ g ∈ globs, ∃ h ∈ globs, SpelledTwice d root g h) :
    ListedOnce d (listedBy d root globs) := by
  intro a ha b hb k hka hkb
  by_contra hne
  have hapart : samePath a b = false := distinct_listedBy.apart ha hb hne
  obtain ⟨g, hg, p, n, hfg, rfl⟩ := finds_of_listedBy hs ha
  obtain ⟨h, hh, q, m, hfh, rfl⟩ := finds_of_listedBy hs hb
  have hplaces : p ++ n = q ++ m := by
    have hpath := (hfg.canonical hs hr hka).symm.trans (hfh.canonical hs hr hkb)
    refine (samePath_path (hfg.isName hs) (hfh.isName hs)).mp ?_
    rw [hpath]
    exact samePath_refl _
  -- one of the two starts at or below where the other does
  rcases List.append_eq_append_iff.mp hplaces with ⟨below, rfl, rfl⟩ | ⟨below, rfl, rfl⟩
  · exact hno ⟨g, hg, h, hh, spelledTwice_of_apart hs hr hfg hfh hapart⟩
  · rw [samePath_comm] at hapart
    exact hno ⟨h, hh, g, hg, spelledTwice_of_apart hs hr hfh hfg hapart⟩

/-- If a file is spelled twice, it is listed by two paths. -/
theorem not_spelledTwice_of_listedOnce (hs : d.top.sound = true) (hr : isAbsolute root = true)
    (hshort : ∀ path ∈ listedBy d root globs, path.utf8ByteSize ≤ pathLimit)
    (honce : ListedOnce d (listedBy d root globs)) {g h : Glob} (hg : g ∈ globs) (hh : h ∈ globs) :
    ¬ SpelledTwice d root g h := by
  rintro ⟨place, below, names, hfg, hfh, hne⟩
  obtain ⟨x, hx, hxs, hxk⟩ := listedBy_of_finds hs hr hg hfg
  obtain ⟨y, hy, hys, hyk⟩ := listedBy_of_finds hs hr hh hfh
  rw [List.append_assoc] at hyk
  obtain rfl := honce x hx y hy _ (hxk (hshort x hx)) (hyk (hshort y hy))
  have hcs := (samePath_iff.mp hys).trans (samePath_iff.mp hxs).symm
  rw [hfg.components hs hr, hfh.components hs hr, List.map_append, ← List.append_assoc] at hcs
  exact hne (List.append_cancel_right hcs)

end

/-- If the root is there and all patterns compile, there is a list of files; no two of its paths
have the same components, and each leads to a file unless it is too long. The files are different
ones if the bases of the patterns are plain, and, as long as no path is too long, exactly if no file
is spelled twice. -/
theorem listed_once_iff {d : Disk} (hs : d.top.sound = true) {root top : String}
    (hr : d.canonical root = .ok top) {patterns : List String} {globs : List Glob}
    (hg : List.Forall₂ (fun pattern g => compile pattern = .ok g) patterns globs) :
    ∃ listed, files d root patterns = .ok listed ∧ Distinct listed ∧
      (∀ path ∈ listed, path.utf8ByteSize ≤ pathLimit →
        ∃ place content, d.lookup true path = .ok (place, .file content)) ∧
      ((∀ g ∈ globs, PlainBase d top g) → ListedOnce d listed) ∧
      ((∀ path ∈ listed, path.utf8ByteSize ≤ pathLimit) →
        (ListedOnce d listed ↔ ¬ ∃ g ∈ globs, ∃ h ∈ globs, SpelledTwice d top g h)) := by
  obtain ⟨place, e, -, rfl⟩ := Disk.canonical_ok.mp hr
  have habs : isAbsolute place.path = true := isAbsolute_path place
  refine ⟨listedBy d place.path globs, ?_, distinct_listedBy, ?_, ?_, ?_⟩
  · rw [files_eq hr, filesOfPatterns_eq d place.path hg, listedBy]
  · intro path hpath hshort
    obtain ⟨g, -, p, n, hf, rfl⟩ := finds_of_listedBy hs hpath
    obtain ⟨content, hlook⟩ := hf.lookup hs habs hshort
    exact ⟨p ++ n, content, hlook⟩
  · intro hplain
    refine listedOnce_of_not_spelledTwice hs habs ?_
    rintro ⟨g, hg, h, hh, htwice⟩
    exact not_spelledTwice_of_plain (hplain g hg) (hplain h hh) htwice
  · intro hshort
    refine ⟨?_, listedOnce_of_not_spelledTwice hs habs⟩
    rintro honce ⟨g, hg, h, hh, htwice⟩
    exact not_spelledTwice_of_listedOnce hs habs hshort honce hg hh htwice

/-- Patterns that say one directory in two ways, neither with a step up. -/
theorem overlapping_patterns_list_a_file_once :
    ∃ listed, files oneFileDisk "/p" ["src/*.ts", "./src/./*.ts"] = .ok listed ∧
    ListedOnce oneFileDisk listed := by
  have hcompiles : ∀ pattern ∈ ["src/*.ts", "./src/./*.ts"], ∃ g, compile pattern = .ok g := by
    have hall : ∀ pattern ∈ ["src/*.ts", "./src/./*.ts"], (compile pattern).toOption.isSome =
      true := by decide +kernel
    intro pattern hmem
    cases hc : compile pattern with
    | ok g => exact ⟨g, rfl⟩
    | error fault =>
      have := hall pattern hmem
      rw [hc] at this
      cases this
  obtain ⟨g, hg⟩ := hcompiles "src/*.ts" (by simp)
  obtain ⟨h, hh⟩ := hcompiles "./src/./*.ts" (by simp)
  have hsound : oneFileDisk.top.sound = true := by decide +kernel
  have hroot : oneFileDisk.canonical "/p" = .ok "/p" := rfl
  obtain ⟨listed, hlisted, -, -, honce, -⟩ :=
    listed_once_iff hsound hroot (List.Forall₂.cons hg (List.Forall₂.cons hh List.Forall₂.nil))
  refine ⟨listed, hlisted, honce ?_⟩
  have hplain : ∀ base, components base = [.top, .name "p", .name "src"] →
      (oneFileDisk.lookup true base).toOption.map (·.1) = some ["p", "src"] →
        ∀ place, Starts oneFileDisk base place → components base = .top :: place.map .name := by
    rintro base hcs hlook place ⟨e, he, -⟩
    rw [he] at hlook
    cases hlook
    exact hcs
  intro f hf
  rcases List.mem_cons.mp hf with rfl | hf
  · rw [PlainBase, pattern_of_compile hg]
    exact hplain _ (by decide +kernel) (by decide +kernel)
  · obtain rfl := List.mem_singleton.mp hf
    rw [PlainBase, pattern_of_compile hh]
    exact hplain _ (by decide +kernel) (by decide +kernel)

/-- The second pattern leaves `src` and comes back to it, so its path of the file has other
components. -/
theorem a_step_up_in_the_base_lists_a_file_twice : ∃ a b k,
    files oneFileDisk "/p" ["src/*.ts", "src/../src/*.ts"] = .ok [a, b] ∧ a ≠ b ∧
      oneFileDisk.canonical a = .ok k ∧ oneFileDisk.canonical b = .ok k := by
  have hfiles : (files oneFileDisk "/p" ["src/*.ts", "src/../src/*.ts"]).toOption =
      some ["/p/src/cart.ts", "/p/src/../src/cart.ts"] := by decide +kernel
  refine ⟨"/p/src/cart.ts", "/p/src/../src/cart.ts", "/p/src/cart.ts", ?_, by decide, rfl, rfl⟩
  cases hf : files oneFileDisk "/p" ["src/*.ts", "src/../src/*.ts"] with
  | error fault =>
    rw [hf] at hfiles
    cases hfiles
  | ok listed =>
    rw [hf] at hfiles
    exact congrArg _ (Option.some.inj hfiles)

end RouteShortcuts.Discovery
