/-
  RouteShortcuts.Proofs.Discovery.Composition — lists of patterns, one after another.

  Of the files that a pattern selects those are added that are not listed yet, so what a list of
  patterns lists can be told from what its parts list by themselves: the first part as it is, and of
  the second what has the components of nothing in the first (`addNew_eq`, `unlisted`). That carries
  over to lists of patterns (`files_append`), because a pattern is read without a look at what is
  listed. A listing fails for its root before it fails for a pattern, and for the first pattern that
  is no glob before any other (`Fails`).

  Proved: `pattern_lists_compose`, for every tree and every root. Since no two listed paths have the
  same components, a pattern that comes again adds nothing, and other orders of the patterns list
  the same paths, up to their spelling, in another order.
-/

import Mathlib.Data.List.Perm.Basic
import RouteShortcuts.Proofs.Discovery.Distinct

namespace RouteShortcuts.Discovery

open RouteShortcuts.Files

/-! ## Adding paths to a list -/

/-- The paths that have the components of none in a list. -/
def unlisted (listed paths : List String) : List String :=
  paths.filter fun path => !listed.any (samePath path)

theorem any_samePath_congr {a b : String} (h : samePath a b = true) (listed : List String) :
    listed.any (samePath a) = listed.any (samePath b) := by
  have hsame : samePath a = samePath b := funext fun c => by simp only [samePath, samePath_iff.mp h]
  rw [hsame]

theorem any_append_unlisted (listed paths : List String) (path : String) :
    (listed ++ unlisted listed paths).any (samePath path) =
      (listed.any (samePath path) || paths.any (samePath path)) := by
  rw [List.any_append, unlisted, List.any_filter]
  cases hl : listed.any (samePath path) with
  | true => rfl
  | false =>
    -- what has the components of `path` is not listed either, so nothing that counts is left out
    congr 2
    funext other
    cases hs : samePath path other with
    | true => rw [← any_samePath_congr hs, hl, Bool.not_false, Bool.and_self]
    | false => rw [Bool.and_false]

theorem addNew_snoc (listed paths : List String) (path : String) : addNew listed (paths ++ [path]) =
    if (addNew listed paths).any (samePath path) then addNew listed paths
      else addNew listed paths ++ [path] := by
  rw [addNew_append]
  rfl

/-- What is added to a list are the paths that would be listed without it, but for those that it has. -/
theorem addNew_eq (listed paths : List String) :
    addNew listed paths = listed ++ unlisted listed (addNew [] paths) := by
  induction paths using List.reverseRecOn with
  | nil => exact (List.append_nil listed).symm
  | append_singleton paths path ih =>
    rw [addNew_snoc, addNew_snoc, ih, any_append_unlisted]
    cases hp : (addNew [] paths).any (samePath path) with
    | true => rw [Bool.or_true, if_pos rfl, if_pos rfl]
    | false =>
      rw [Bool.or_false, if_neg Bool.false_ne_true, unlisted, unlisted, List.filter_append]
      cases hl : listed.any (samePath path) with
      | true => simp [hl]
      | false => simp [hl]

/-- Paths that are all listed add nothing. -/
theorem addNew_listed {listed paths : List String}
    (h : ∀ path ∈ paths, listed.any (samePath path) = true) :
    addNew listed paths = listed := by
  have hnone : unlisted listed (addNew [] paths) = [] := by
    rw [unlisted, List.filter_eq_nil_iff]
    intro path hpath
    rcases found_of_listed hpath with hnil | hfound
    · cases hnil
    · rw [h path hfound, Bool.not_true]
      exact Bool.false_ne_true
  rw [addNew_eq, hnone, List.append_nil]

theorem mem_components_addNew {c : List Component} {paths : List String} :
    c ∈ (addNew [] paths).map components ↔ c ∈ paths.map components := by
  simp only [List.mem_map]
  constructor
  · rintro ⟨path, hpath, rfl⟩
    rcases found_of_listed hpath with hnil | hfound
    · cases hnil
    · exact ⟨path, hfound, rfl⟩
  · rintro ⟨path, hpath, rfl⟩
    obtain ⟨y, hy, hsame⟩ := @listed_of_found path paths [] hpath
    exact ⟨y, hy, (samePath_iff.mp hsame).symm⟩

theorem Distinct.nodup_components {listed : List String} (h : Distinct listed) :
    (listed.map components).Nodup := by
  refine List.pairwise_map.mpr (h.imp fun hab heq => ?_)
  rw [samePath_iff.mpr heq] at hab
  cases hab

/-! ## Why there is no list -/

/-- The patterns with the globs that they are. -/
abbrev Compiled (patterns : List String) (globs : List Glob) : Prop :=
  List.Forall₂ (fun pattern g => compile pattern = .ok g) patterns globs

/-- The first of the patterns that is no glob, and what is wrong with it. -/
def FirstFlaw (patterns : List String) (pattern : String) (flaw : Glob.Flaw) : Prop :=
  ∃ before after globs, patterns = before ++ pattern :: after ∧ Compiled before globs ∧
    Glob.compile (normalize pattern) = .error flaw

/-- Why nothing is listed: the root is not there, or it is and a pattern is no glob. -/
inductive Fails (d : Disk) (root : String) (patterns : List String) : DiscoveryFault → Prop
  | root {refusal : Refusal} :
    d.canonical root = .error refusal → Fails d root patterns (.root root refusal)
  | pattern {top pattern : String} {flaw : Glob.Flaw} : d.canonical root = .ok top →
    FirstFlaw patterns pattern flaw →
      Fails d root patterns (.invalidPattern (normalize pattern) flaw)

theorem compile_error {pattern : String} {flaw : Glob.Flaw}
    (h : Glob.compile (normalize pattern) = .error flaw) :
    compile pattern = .error (.invalidPattern (normalize pattern) flaw) := by
  simp only [compile, h]

theorem Compiled.glob {patterns : List String} {globs : List Glob} (h : Compiled patterns globs)
    {pattern : String} (hmem : pattern ∈ patterns) : ∃ g ∈ globs, compile pattern = .ok g := by
  induction h with
  | nil => cases hmem
  | cons hg _ ih =>
    rcases List.mem_cons.mp hmem with rfl | hmem
    · exact ⟨_, List.mem_cons_self, hg⟩
    · obtain ⟨g, hin, hpattern⟩ := ih hmem
      exact ⟨g, List.mem_cons_of_mem _ hin, hpattern⟩

theorem compiled_or_flaw (patterns : List String) :
    (∃ globs, Compiled patterns globs) ∨ ∃ pattern flaw, FirstFlaw patterns pattern flaw := by
  induction patterns with
  | nil => exact Or.inl ⟨[], .nil⟩
  | cons pattern patterns ih =>
    cases hg : Glob.compile (normalize pattern) with
    | error flaw => exact Or.inr ⟨pattern, flaw, [], patterns, [], rfl, .nil, hg⟩
    | ok g =>
      have hc : compile pattern = .ok g := by simp only [compile, hg]
      rcases ih with ⟨globs, h⟩ | ⟨bad, flaw, before, after, globs, rfl, hbefore, hbad⟩
      · exact Or.inl ⟨g :: globs, .cons hc h⟩
      · exact Or.inr ⟨bad, flaw, pattern :: before, after, g :: globs, rfl, .cons hc hbefore, hbad⟩

section

variable {d : Disk} {root top : String}

theorem filesOfPatterns_append (qs : List String) {ps : List String} {globs : List Glob}
    (h : Compiled ps globs) (listed : List String) :
    filesOfPatterns d top listed (ps ++ qs) =
      filesOfPatterns d top (addNew listed (globs.flatMap (filesOfGlob d top))) qs := by
  induction h generalizing listed with
  | nil => rfl
  | cons hg _ ih =>
    rw [List.cons_append, filesOfPatterns, hg]
    dsimp only
    rw [ih, List.flatMap_cons, addNew_append]

/-- A pattern that is no glob is one whatever is listed before it. -/
theorem filesOfPatterns_flaw {patterns : List String} {pattern : String} {flaw : Glob.Flaw}
    (h : FirstFlaw patterns pattern flaw) (listed : List String) :
    filesOfPatterns d top listed patterns = .error (.invalidPattern (normalize pattern) flaw) := by
  obtain ⟨before, after, globs, rfl, hbefore, hbad⟩ := h
  rw [filesOfPatterns_append _ hbefore, filesOfPatterns, compile_error hbad]

theorem files_compiled (hr : d.canonical root = .ok top) {patterns : List String} {globs : List Glob}
    (h : Compiled patterns globs) : files d root patterns = .ok (listedBy d top globs) := by
  rw [files_eq hr, filesOfPatterns_eq d top h, listedBy]

theorem files_fails {patterns : List String} {fault : DiscoveryFault}
    (h : Fails d root patterns fault) : files d root patterns = .error fault := by
  cases h with
  | root hr => exact files_no_root hr patterns
  | pattern hr hflaw => rw [files_eq hr, filesOfPatterns_flaw hflaw]

theorem files_cases (d : Disk) (root : String) (patterns : List String) :
    (∃ top globs, d.canonical root = .ok top ∧ Compiled patterns globs) ∨ ∃ fault,
      Fails d root patterns fault := by
  cases hr : d.canonical root with
  | error refusal => exact Or.inr ⟨_, .root hr⟩
  | ok top =>
    rcases compiled_or_flaw patterns with ⟨globs, h⟩ | ⟨pattern, flaw, h⟩
    · exact Or.inl ⟨top, globs, rfl, h⟩
    · exact Or.inr ⟨_, .pattern hr h⟩

theorem fails_iff {patterns : List String} {fault : DiscoveryFault} :
    files d root patterns = .error fault ↔ Fails d root patterns fault := by
  refine ⟨fun h => ?_, files_fails⟩
  rcases files_cases d root patterns with ⟨top, globs, hr, hg⟩ | ⟨fault', hfails⟩
  · rw [files_compiled hr hg] at h
    cases h
  · rw [files_fails hfails] at h
    cases h
    exact hfails

theorem listed_iff {patterns listed : List String} : files d root patterns = .ok listed ↔
    ∃ top globs, d.canonical root = .ok top ∧ Compiled patterns globs ∧
      listed = listedBy d top globs := by
  constructor
  · intro h
    rcases files_cases d root patterns with ⟨top, globs, hr, hg⟩ | ⟨fault, hfails⟩
    · rw [files_compiled hr hg] at h
      cases h
      exact ⟨top, globs, hr, hg, rfl⟩
    · rw [files_fails hfails] at h
      cases h
  · rintro ⟨top, globs, hr, hg, rfl⟩
    exact files_compiled hr hg

/-! ## Lists of patterns -/

/-- Globs that come after others list what they would list without them, but for what is listed
already. -/
theorem listedBy_append (gs hs : List Glob) :
    listedBy d top (gs ++ hs) = listedBy d top gs ++ unlisted (listedBy d top gs)
    (listedBy d top hs) := by
  simp only [listedBy, List.flatMap_append, addNew_append]
  rw [addNew_eq]

theorem files_append (d : Disk) (root : String) (ps qs : List String) : files d root (ps ++ qs) =
    (files d root ps).bind fun first => (files d root qs).map fun more =>
      first ++ unlisted first more := by
  rcases files_cases d root ps with ⟨top, gs, hr, hps⟩ | ⟨fault, hfails⟩
  · rw [files_compiled hr hps, Except.bind]
    rcases compiled_or_flaw qs with ⟨hs, hqs⟩ | ⟨pattern, flaw, hflaw⟩
    · rw [files_compiled hr hqs, files_compiled hr (List.rel_append hps hqs), listedBy_append]
      rfl
    · rw [files_fails (.pattern hr hflaw)]
      rw [files_eq hr, filesOfPatterns_append qs hps, filesOfPatterns_flaw hflaw]
      rfl
  · rw [files_fails hfails]
    -- the root, or the first flaw of `ps`, is that of the longer list
    refine files_fails ?_
    cases hfails with
    | root hr => exact .root hr
    | pattern hr hflaw =>
      obtain ⟨before, after, globs, rfl, hbefore, hbad⟩ := hflaw
      exact .pattern hr
        ⟨before, after ++ qs, globs, by rw [List.append_assoc, List.cons_append], hbefore, hbad⟩

/-- A glob that comes again finds nothing new. -/
theorem listedBy_again {g : Glob} {gs : List Glob} (hg : g ∈ gs) :
    listedBy d top (gs ++ [g]) = listedBy d top gs := by
  have hlisted : ∀ path ∈ filesOfGlob d top g, (listedBy d top gs).any (samePath path) = true := by
    intro path hpath
    obtain ⟨y, hy, hsame⟩ := @listed_of_found path _ [] (List.mem_flatMap.mpr ⟨g, hg, hpath⟩)
    exact List.any_eq_true.mpr ⟨y, hy, hsame⟩
  have hmore : listedBy d top (gs ++ [g]) = addNew (listedBy d top gs) (filesOfGlob d top g) := by
    simp only [listedBy, List.flatMap_append, List.flatMap_singleton, addNew_append]
  rw [hmore, addNew_listed hlisted]

theorem files_again {patterns : List String} {pattern : String} (hmem : pattern ∈ patterns) :
    files d root (patterns ++ [pattern]) = files d root patterns := by
  rcases files_cases d root patterns with ⟨top, globs, hr, hc⟩ | ⟨fault, hfails⟩
  · obtain ⟨g, hg, hpattern⟩ := hc.glob hmem
    rw [files_compiled hr hc, files_compiled hr (List.rel_append hc (.cons hpattern .nil)),
      listedBy_again hg]
  · rw [files_append, files_fails hfails, Except.bind]

/-- Globs in another order list the same paths, up to their spelling. -/
theorem listedBy_perm {gs hs : List Glob} (h : gs.Perm hs) :
    ((listedBy d top gs).map components).Perm ((listedBy d top hs).map components) := by
  rw [List.perm_ext_iff_of_nodup distinct_listedBy.nodup_components distinct_listedBy.nodup_components]
  intro c
  have hfound := h.flatMap_right (filesOfGlob d top)
  simp only [listedBy, mem_components_addNew, (hfound.map components).mem_iff]

theorem Compiled.perm {ps qs : List String} {gs : List Glob} (h : Compiled ps gs) (hperm : ps.Perm qs) :
    ∃ hs, Compiled qs hs ∧ gs.Perm hs := by
  obtain ⟨hs, hqs, hgs⟩ := List.perm_comp_forall₂ hperm.symm h
  exact ⟨hs, hqs, hgs.symm⟩

end

/-! ## The rule -/

/-- What two lists of patterns list together goes by what each of them lists. -/
structure Composes (d : Disk) (root : String) (ps qs : List String) : Prop where
  /-- A list fails for its root, or for its first pattern that is no glob, be its base there or not. -/
  fault : ∀ fault, files d root ps = .error fault ↔ Fails d root ps fault
  /-- Together they fail if one of them does, and the first has the first word. -/
  fails : ∀ fault, files d root (ps ++ qs) = .error fault ↔ files d root ps = .error fault ∨
    (∃ first, files d root ps = .ok first) ∧ files d root qs = .error fault
  /-- Else they list what the first lists, and behind it what of the second is not there. -/
  lists : ∀ listed, files d root (ps ++ qs) = .ok listed ↔ ∃ first more, files d root ps = .ok first ∧
    files d root qs = .ok more ∧ listed = first ++ unlisted first more
  /-- No two listed paths have the same components. -/
  distinct : ∀ listed, files d root ps = .ok listed → Distinct listed
  /-- A pattern that comes again changes nothing. -/
  again : ∀ pattern ∈ ps, files d root (ps ++ pattern :: qs) = files d root (ps ++ qs)
  /-- The same patterns in another order fail as well, or list the same paths in another order. -/
  reordered : ps.Perm qs →
    (∃ fault fault', files d root ps = .error fault ∧ files d root qs = .error fault') ∨
    ∃ listed listed', files d root ps = .ok listed ∧ files d root qs = .ok listed' ∧
      (listed.map components).Perm (listed'.map components)

/-- Lists of patterns compose, in every tree and for every root. -/
theorem pattern_lists_compose (d : Disk) (root : String) (ps qs : List String) :
    Composes d root ps qs where
  fault := fun _ => fails_iff
  fails := by
    intro fault
    rw [files_append]
    cases files d root ps with
    | error fault' => simp [Except.bind]
    | ok first => cases files d root qs <;> simp [Except.bind, Except.map]
  lists := by
    intro listed
    rw [files_append]
    cases files d root ps with
    | error fault => simp [Except.bind]
    | ok first => cases files d root qs <;> simp [Except.bind, Except.map, eq_comm]
  distinct := by
    intro listed h
    obtain ⟨top, globs, -, -, rfl⟩ := listed_iff.mp h
    exact distinct_listedBy
  again := by
    intro pattern hmem
    rw [List.append_cons, files_append d root (ps ++ [pattern]), files_again hmem, ← files_append]
  reordered := by
    intro hperm
    rcases files_cases d root ps with ⟨top, gs, hr, hps⟩ | ⟨fault, hfails⟩
    · obtain ⟨hs, hqs, hgs⟩ := hps.perm hperm
      exact Or.inr ⟨_, _, files_compiled hr hps, files_compiled hr hqs, listedBy_perm hgs⟩
    · rcases files_cases d root qs with ⟨top, hs, hr, hqs⟩ | ⟨fault', hfails'⟩
      · obtain ⟨gs, hps, -⟩ := hqs.perm hperm.symm
        rw [← fails_iff, files_compiled hr hps] at hfails
        cases hfails
      · exact Or.inl ⟨fault, fault', files_fails hfails, files_fails hfails'⟩

/-- Of two spellings of a path the one that is found first is listed. -/
example : (files oneFileDisk "/p" ["src/*.ts", "./src/./*.ts"]).toOption = some ["/p/src/cart.ts"] ∧
    (files oneFileDisk "/p" ["./src/./*.ts", "src/*.ts"]).toOption = some ["/p/src/./cart.ts"] := by
  decide +kernel

end RouteShortcuts.Discovery
