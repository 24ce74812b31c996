/-
  RouteShortcuts.Proofs.Discovery.Order — what one pattern lists, and in which order.

  A search lists the files below the place where it starts in the order of the names that lead down
  to them (`files_in_order`). These names also tell the paths apart, so of the files of one pattern
  none is left out of the list (`addNew_distinct`, `Finds.names_eq`). A path that a relative pattern
  finds begins with the components of the root, so what the glob is matched against is always the
  path below the root (`Finds.matched_below`).

  Proved: `one_pattern_in_order`, for every tree with whatever links, every root that is there and
  every pattern that compiles. Since the order says which file comes next, trees that differ only in
  the order of their directories have the same list.
-/

import RouteShortcuts.Proofs.Discovery.Additions
import RouteShortcuts.Proofs.Discovery.Composition
import RouteShortcuts.Proofs.Files.Order
import RouteShortcuts.Proofs.Files.Prefix
import RouteShortcuts.Proofs.Files.Reordered

namespace RouteShortcuts.Discovery

open RouteShortcuts.Files

/-! ## Paths below the root -/

theorem isAbsolute_join_name {base name : String} (hn : '/' ∉ name.toList) :
    isAbsolute (join base name) = isAbsolute base := by
  by_cases hb : base = ""
  · subst hb
    rw [join, if_pos (Or.inr rfl), isAbsolute_name hn]
    rfl
  · have hhead : ∀ rest : String, isAbsolute (base ++ rest) = isAbsolute base := by
      intro rest
      obtain ⟨c, cs, hc⟩ := List.exists_cons_of_ne_nil (by simpa using hb : base.toList ≠ [])
      simp [isAbsolute, hc]
    rw [join, if_neg (by simp [isAbsolute_name hn, hb])]
    split
    · exact hhead name
    · rw [String.append_assoc]
      exact hhead _

theorem isAbsolute_literalBase {pattern : String} (h : isAbsolute pattern = false) :
    isAbsolute (literalBase pattern) = false := by
  have hnames : ∀ {names : List String} {base : String}, (∀ s ∈ names, '/' ∉ s.toList) →
      isAbsolute (names.foldl join base) = isAbsolute base := by
    intro names
    induction names with
    | nil => exact fun _ => rfl
    | cons name names ih =>
      intro base hn
      rw [List.foldl_cons, ih fun s hs => hn s (List.mem_cons_of_mem _ hs),
        isAbsolute_join_name (hn name List.mem_cons_self)]
  simp only [literalBase, h, Bool.false_eq_true, if_false]
  rw [hnames]
  · rfl
  · intro s hs
    exact noSlash_of_mem_pieces (List.mem_of_mem_filter ((List.takeWhile_sublist _).subset hs))

theorem components_basePath {place : Location} (hp : ∀ s ∈ place, IsName s) {pattern : String}
    (h : isAbsolute pattern = false) :
    ∃ cs, components (basePath place.path pattern) = components place.path ++ cs := by
  rw [basePath, join_path hp (isAbsolute_literalBase h), components_path hp]
  refine ⟨(pieces (literalBase pattern)).filterMap component?, ?_⟩
  have hslash : ∀ s ∈ place ++ pieces (literalBase pattern), '/' ∉ s.toList := by
    intro s hs
    rcases List.mem_append.mp hs with hs | hs
    · exact (hp s hs).noSlash
    · exact noSlash_of_mem_pieces hs
  have hne : place ++ pieces (literalBase pattern) ≠ [] := fun hnil =>
    pieces_ne_nil _ (List.append_eq_nil_iff.mp hnil).2
  simp only [components, isAbsolute_path, if_true]
  rw [pieces_path hslash hne, List.filterMap_cons_none (by rfl), List.filterMap_append,
    filterMap_component?_names hp]
  rfl

/-! ## What the glob is matched against -/

/-- What a relative pattern finds has a path below the root, which ends with the last name on the
way. -/
theorem stripPrefix?_spelled {place names : Location} {g : Glob}
    (hrel : isAbsolute g.pattern = false) (hp : ∀ s ∈ place, IsName s)
    (hn : ∀ s ∈ names, IsName s) :
    ∃ rest, stripPrefix? place.path (spelled place.path g names) = some rest ∧
      components (spelled place.path g names) = components place.path ++ components rest ∧
      ∀ before name, names = before ++ [name] → ∃ front, rest = front ++ name := by
  have hbase : isAbsolute (basePath place.path g.pattern) = true :=
    isAbsolute_join (isAbsolute_path place) _
  obtain ⟨cs, hcs⟩ := components_basePath hp hrel
  have hcomponents : components (spelled place.path g names) =
      components place.path ++ (cs ++ names.map .name) := by
    rw [spelled, components_foldl_join hbase hn, hcs, List.append_assoc]
  obtain ⟨rest, hrest, hsays, hends⟩ :=
    stripPrefix?_below (isAbsolute_path place) (isAbsolute_foldl_join hbase) hcomponents
  refine ⟨rest, hrest, by rw [hcomponents, hsays], ?_⟩
  rintro before name rfl
  refine hends (cs ++ before.map .name) name (hn name (by simp)) ?_
  rw [List.map_append, List.append_assoc]
  rfl

/-- The glob matches the path of a file below the root; if the pattern is absolute, its whole path. -/
def MatchedBelow (top : String) (g : Glob) (path : String) : Prop :=
  if isAbsolute g.pattern then g.isMatch path = true
  else ∃ rest, stripPrefix? top path = some rest ∧
    components path = components top ++ components rest ∧ g.isMatch rest = true

theorem matchedBelow_iff {place names : Location} {g : Glob} (hp : ∀ s ∈ place, IsName s)
    (hn : ∀ s ∈ names, IsName s) :
    g.isMatch (candidate place.path g.pattern (spelled place.path g names)) = true ↔
      MatchedBelow place.path g (spelled place.path g names) := by
  unfold MatchedBelow candidate
  split
  · rfl
  · rename_i hrel
    obtain ⟨rest, hrest, hsays, -⟩ := stripPrefix?_spelled (Bool.eq_false_iff.mpr hrel) hp hn
    simp only [hrest, Option.getD_some, Option.some.injEq]
    constructor
    · exact fun hm => ⟨rest, rfl, hsays, hm⟩
    · rintro ⟨_, rfl, -, hm⟩
      exact hm

/-! ## The files of one glob -/

section

variable {d : Disk} {root : String} {g : Glob}

/-- What one glob selects comes in the order of the names below its base. -/
theorem found_in_order (hs : d.top.sound = true) (root : String) (g : Glob) : ∃ below : List Location,
    filesOfGlob d root g = below.map (spelled root g) ∧ below.Pairwise Before ∧
      ∀ names, names ∈ below ↔ ∃ place, Finds d root g place names := by
  by_cases hstart : ∃ place, Starts d (basePath root g.pattern) place
  · obtain ⟨place, e, he, hd⟩ := hstart
    have hat : d.top.at? place = some e := Disk.lookup_at? he
    have hexists : d.exists? (basePath root g.pattern) = true := Disk.exists?_lookup.mpr ⟨place, e, he⟩
    obtain ⟨below, hbelow⟩ := files_in_order d.refuses (at?_sound hs hat).2 place
      (basePath root g.pattern)
    have hfiles : d.filesUnder (basePath root g.pattern) = below.map (spelled root g) := by
      rw [Disk.filesUnder, itemsUnder_starts he hd]
      exact hbelow.listed
    refine ⟨below.filter fun names => g.isMatch (candidate root g.pattern (spelled root g names)), ?_,
      hbelow.ordered.filter _, fun names => ?_⟩
    · simp only [filesOfGlob, hexists, if_true, hfiles, List.filter_map]
      rfl
    · have hfile : ∀ content, d.top.at? (place ++ names) = some (.file content) ↔
          e.at? names = some (.file content) := by
        intro content
        rw [at?_append, hat, Option.bind_some]
      rw [List.mem_filter, hbelow.files]
      constructor
      · rintro ⟨⟨hway, content, hc⟩, hm⟩
        exact ⟨place, ⟨e, he, hd⟩, hway, ⟨content, (hfile content).mpr hc⟩, hm⟩
      · rintro ⟨place', hf⟩
        obtain rfl : place' = place := Starts.unique ⟨e, he, hd⟩ hf.starts
        obtain ⟨content, hc⟩ := hf.file
        exact ⟨⟨hf.opened, content, (hfile content).mp hc⟩, hf.matched⟩
  · refine ⟨[], ?_, List.Pairwise.nil, fun names => ?_⟩
    · refine List.eq_nil_iff_forall_not_mem.mpr fun x hx => hstart ?_
      obtain ⟨place, _, _, h, -⟩ := (mem_filesUnder hs).mp (mem_filesOfGlob_base hx)
      exact ⟨place, h⟩
    · refine iff_of_false List.not_mem_nil ?_
      rintro ⟨place, hf⟩
      exact hstart ⟨place, hf.starts⟩

/-- Files that one search comes to by different names have different paths. -/
theorem Finds.names_eq (hs : d.top.sound = true) (hr : isAbsolute root = true)
    {place place' names names' : Location} (hf : Finds d root g place names)
    (hf' : Finds d root g place' names')
    (hsame : samePath (spelled root g names) (spelled root g names') = true) : names = names' := by
  have hinj : Function.Injective Component.name := fun s t e => by cases e; rfl
  rw [samePath_iff, hf.components hs hr, hf'.components hs hr] at hsame
  exact (List.map_inj_right hinj).mp (List.append_cancel_left hsame)

/-- If no two paths have the same components, all of them are listed, as they come. -/
theorem addNew_distinct {paths : List String} : ∀ {listed : List String}, Distinct (listed ++ paths) →
    addNew listed paths = listed ++ paths := by
  induction paths with
  | nil => exact fun _ => (List.append_nil _).symm
  | cons path paths ih =>
    intro listed h
    have hnew : listed.any (samePath path) = false := by
      refine List.any_eq_false.mpr fun other hother => ?_
      rw [samePath_comm, (List.pairwise_append.mp h).2.2 other hother path List.mem_cons_self]
      exact Bool.false_ne_true
    have hrest : Distinct (listed ++ [path] ++ paths) := by rwa [← List.append_cons]
    rw [addNew_cons, hnew, if_neg Bool.false_ne_true, ih hrest, ← List.append_cons]

/-- One pattern lists all that its search finds. -/
theorem files_one {pattern top : String} (hs : d.top.sound = true) (hroot : d.canonical root = .ok top)
    (hg : compile pattern = .ok g) : files d root [pattern] = .ok (filesOfGlob d top g) := by
  obtain ⟨place, e, -, rfl⟩ := Disk.canonical_ok.mp hroot
  obtain ⟨below, hbelow, hordered, hfinds⟩ := found_in_order hs place.path g
  have hdistinct : Distinct (below.map (spelled place.path g)) := by
    refine List.pairwise_map.mpr (hordered.imp_of_mem fun {a b} ha hb hab =>
      Bool.eq_false_iff.mpr fun hsame => ?_)
    obtain ⟨p, hfa⟩ := (hfinds a).mp ha
    obtain ⟨q, hfb⟩ := (hfinds b).mp hb
    obtain rfl := hfa.names_eq hs (isAbsolute_path place) hfb hsame
    exact Std.Irrefl.irrefl a hab
  rw [files_compiled hroot (.cons hg .nil), listedBy, List.flatMap_singleton, hbelow]
  exact congrArg _ (addNew_distinct hdistinct)

end

/-! ## Directories in another order -/

theorem starts_alike {d d' : Disk} (h : Entry.Alike d.top d'.top) (hw : d'.working = d.working)
    {base : String} {place : Location} (hstart : Starts d base place) : Starts d' base place := by
  obtain ⟨e, he, hd⟩ := hstart
  obtain ⟨e', he', hkind⟩ := Disk.lookup_alike_ok h hw he
  refine ⟨e', he', ?_⟩
  rcases hd with hd | hsame
  · cases hkind with
    | directory => exact Or.inl rfl
    | file | link => cases hd
  · obtain ⟨e'', hsame', -⟩ := Disk.lookup_alike_ok h hw hsame
    obtain rfl : e' = e'' := Option.some.inj ((Disk.lookup_at? he').symm.trans (Disk.lookup_at? hsame'))
    exact Or.inr hsame'

theorem refuses_of_barred {d d' : Disk} (h : d'.barred = d.barred) : d'.refuses = d.refuses := by
  funext place path
  rw [Disk.refuses, Disk.refuses, h]

theorem Finds.alike {d d' : Disk} (h : Entry.Alike d.top d'.top) (hw : d'.working = d.working)
    (hb : d'.barred = d.barred) {root : String} {g : Glob} {place names : Location}
    (hf : Finds d root g place names) : Finds d' root g place names := by
  refine ⟨starts_alike h hw hf.starts, by rw [refuses_of_barred hb]; exact hf.opened, ?_, hf.matched⟩
  obtain ⟨content, hc⟩ := hf.file
  have hsame := h (place ++ names)
  rw [hc, Option.map_some, eq_comm, Option.map_eq_some_iff] at hsame
  obtain ⟨x, hx, hbare⟩ := hsame
  exact ⟨content, by rw [hx, bare_file.mp hbare]⟩

theorem filesOfGlob_alike {d d' : Disk} (hs : d.top.sound = true) (hs' : d'.top.sound = true)
    (h : Entry.Alike d.top d'.top) (hw : d'.working = d.working) (hb : d'.barred = d.barred)
    (root : String) (g : Glob) : filesOfGlob d' root g = filesOfGlob d root g := by
  obtain ⟨below, hbelow, hordered, hfinds⟩ := found_in_order hs root g
  obtain ⟨below', hbelow', hordered', hfinds'⟩ := found_in_order hs' root g
  have hback : Entry.Alike d'.top d.top := fun l => (h l).symm
  have hsame : below' = below := by
    refine hordered'.eq_of_mem_iff hordered fun names => ?_
    rw [hfinds, hfinds']
    exact exists_congr fun place =>
      ⟨fun hf => hf.alike hback hw.symm hb.symm, fun hf => hf.alike h hw hb⟩
  rw [hbelow, hbelow', hsame]

/-! ## The rule -/

/-- One pattern lists the files that stand at or below its base, as far as the directories open, and
that its glob matches, strictly in the order of the names below the base, and the same list whatever
order the directories are kept in. -/
theorem one_pattern_in_order {d : Disk} (hs : d.top.sound = true) {root top pattern : String} {g : Glob}
    (hroot : d.canonical root = .ok top) (hg : compile pattern = .ok g) :
    (∃ below : List Location, files d root [pattern] = .ok (below.map (spelled top g)) ∧
      below.Pairwise Before ∧
      ∀ names, names ∈ below ↔ ∃ place content, Starts d (basePath top g.pattern) place ∧
        Opened d.refuses place (basePath top g.pattern) names ∧
        d.top.at? (place ++ names) = some (.file content) ∧ MatchedBelow top g (spelled top g names)) ∧
    ∀ d' : Disk, d.top.Reordered d'.top → d'.working = d.working → d'.barred = d.barred →
      files d' root [pattern] = files d root [pattern] := by
  constructor
  · obtain ⟨below, hbelow, hordered, hfinds⟩ := found_in_order hs top g
    refine ⟨below, by rw [files_one hs hroot hg, hbelow], hordered, fun names => ?_⟩
    obtain ⟨at_, e, hl, rfl⟩ := Disk.canonical_ok.mp hroot
    have hat : ∀ s ∈ at_, IsName s := at?_names hs (Disk.lookup_at? hl)
    rw [hfinds]
    constructor
    · rintro ⟨place, hf⟩
      obtain ⟨content, hc⟩ := hf.file
      have hnames : ∀ s ∈ names, IsName s := fun s hmem =>
        hf.isName hs s (List.mem_append_right place hmem)
      exact ⟨place, content, hf.starts, hf.opened, hc, (matchedBelow_iff hat hnames).mp hf.matched⟩
    · rintro ⟨place, content, hstart, hway, hc, hm⟩
      have hnames : ∀ s ∈ names, IsName s := fun s hmem =>
        at?_names hs hc s (List.mem_append_right place hmem)
      exact ⟨place, hstart, hway, ⟨content, hc⟩, (matchedBelow_iff hat hnames).mpr hm⟩
  · intro d' hreordered hw hb
    have halike := hreordered.alike hs
    have hroot' : d'.canonical root = .ok top := by rw [← Disk.canonical_alike halike hw, hroot]
    rw [files_one (hreordered.sound hs) hroot' hg, files_one hs hroot hg,
      filesOfGlob_alike hs (hreordered.sound hs) halike hw hb]

/-- A file whose name goes on where that of a directory ends, and a link and a directory with names
like it. -/
def siblings : List (String × Entry) :=
  [("a.ts", .file .empty), ("a", .directory [("b.ts", .file .empty)]), ("c.ts", .link "a.ts"),
    ("d.ts", .directory [])]

def siblingsDisk (entries : List (String × Entry)) : Disk :=
  { top := .directory [("p", .directory entries)] }

theorem siblings_come_in_any_order : ∃ g, compile "**/*.ts" = .ok g ∧
    (∃ below : List Location, files (siblingsDisk siblings) "/p" ["**/*.ts"] =
      .ok (below.map (spelled "/p" g)) ∧
      below.Pairwise Before ∧ ∀ names, names ∈ below ↔ ∃ place content,
        Starts (siblingsDisk siblings) (basePath "/p" g.pattern) place ∧
        Opened (siblingsDisk siblings).refuses place (basePath "/p" g.pattern) names ∧
        (siblingsDisk siblings).top.at? (place ++ names) = some (.file content) ∧
          MatchedBelow "/p" g (spelled "/p" g names)) ∧
    files (siblingsDisk siblings.reverse) "/p" ["**/*.ts"] =
      files (siblingsDisk siblings) "/p" ["**/*.ts"] := by
  have hcompiles : (compile "**/*.ts").toOption.isSome = true := by decide +kernel
  cases hg : compile "**/*.ts" with
  | error fault =>
    rw [hg] at hcompiles
    cases hcompiles
  | ok g =>
    have hsound : (siblingsDisk siblings).top.sound = true := by decide +kernel
    obtain ⟨hlist, hany⟩ :=
      one_pattern_in_order hsound (rfl : (siblingsDisk siblings).canonical "/p" = .ok "/p") hg
    exact ⟨g, rfl, hlist, hany _ (.inside [] [] (.here siblings.reverse_perm.symm)) rfl rfl⟩

end RouteShortcuts.Discovery
