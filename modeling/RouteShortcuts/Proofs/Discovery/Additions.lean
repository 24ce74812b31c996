/-
  RouteShortcuts.Proofs.Discovery.Additions — what patterns select once files are added.

  Patterns without a step up start their searches where they started, or at something new
  (`basePath_noUp`, `Grows.lookup_back`). So a pattern selects the files that it selected, in the
  same order, and between them files that are new (`filesOfGlob_drops`). A new file is none of the
  old ones, by whatever path, so it takes the place of none in the list (`addNew_drops`).

  Proved: for a root that is there, patterns without a step up list what they listed, and new files;
  if one of them is no glob, there is no list as there was none (`files_extends`).
-/

import RouteShortcuts.Proofs.Discovery.Distinct
import RouteShortcuts.Proofs.Files.Listing
import RouteShortcuts.Proofs.Files.Way

namespace RouteShortcuts.Discovery

open RouteShortcuts.Files

/-! ## Bases without steps up -/

theorem mem_pieces_join {base text p : String} (h : p ∈ pieces (join base text)) :
    p ∈ pieces base ∨ p ∈ pieces text := by
  unfold join at h
  split at h
  · exact Or.inr h
  split at h
  · rename_i hslash
    obtain ⟨chars, hchars⟩ := List.getLast?_eq_some_iff.mp hslash
    have hbase : base = String.ofList chars ++ "/" := by
      rw [← String.toList_inj, hchars, String.toList_append, String.toList_ofList]
      rfl
    have hblank := pieces_slash (String.ofList chars) ""
    rw [String.append_empty, ← hbase] at hblank
    rw [hbase, pieces_slash] at h
    rw [hblank]
    exact (List.mem_append.mp h).imp_left (List.mem_append_left _)
  · rw [pieces_slash] at h
    exact List.mem_append.mp h

theorem mem_pieces_foldl_join {p : String} {names : List String} :
    ∀ {base : String}, p ∈ pieces (names.foldl join base) →
    p ∈ pieces base ∨ ∃ name ∈ names, p ∈ pieces name := by
  induction names with
  | nil => exact fun h => Or.inl h
  | cons name names ih =>
    intro base h
    rcases ih h with h | ⟨name', hmem, h⟩
    · exact (mem_pieces_join h).imp_right fun h => ⟨name, List.mem_cons_self, h⟩
    · exact Or.inr ⟨name', List.mem_cons_of_mem _ hmem, h⟩

theorem normalize_noUp {pattern : String} (h : ".." ∉ pieces pattern) :
    ".." ∉ pieces (normalize pattern) := by
  unfold normalize
  split
  · rename_i rest hpattern
    have hsplit : pattern = "." ++ "/" ++ String.ofList rest := by
      rw [← String.toList_inj, hpattern, String.toList_append, String.toList_ofList]
      rfl
    rw [hsplit, pieces_slash] at h
    exact fun hup => h (List.mem_append_right _ hup)
  · exact h

/-- A search starts at a path without steps up if its root and its pattern have none. -/
theorem basePath_noUp {root pattern : String} (hroot : ".." ∉ pieces root)
    (hpattern : ".." ∉ pieces pattern) : ".." ∉ pieces (basePath root pattern) := by
  have hblank : ∀ text, text = "/" ∨ text = "" → ".." ∉ pieces text := by
    rintro text (rfl | rfl) <;> decide
  intro hup
  rcases mem_pieces_join hup with hup | hup
  · exact hroot hup
  · rcases mem_pieces_foldl_join hup with hup | ⟨name, hname, hup⟩
    · refine hblank _ ?_ hup
      split
      · exact Or.inl rfl
      · exact Or.inr rfl
    · -- a name at the front of a pattern is a piece of it
      have hpiece : name ∈ pieces pattern :=
        List.mem_of_mem_filter ((List.takeWhile_sublist _).subset hname)
      rw [pieces_name (noSlash_of_mem_pieces hpiece)] at hup
      obtain rfl := List.mem_singleton.mp hup
      exact hpattern hpiece

/-! ## New files -/

/-- A path leads to a file where nothing was. -/
def LeadsToNew (d d' : Disk) (path : String) : Prop :=
  ∃ place content, LeadsTo d' path place content ∧ d.top.at? place = none

def LeadsToFile (d : Disk) (path : String) : Prop := ∃ place content, LeadsTo d path place content

section

variable {New : String → Entry → Prop} {signs : List String} {d d' : Disk} {root : String}

theorem LeadsTo.kept (h : Grows New d d') {path : String} {place : Location} {content : ByteArray}
    (hl : LeadsTo d path place content) : LeadsTo d' path place content := by
  obtain ⟨⟨k, hk, hway⟩, he⟩ := Disk.walk_iff_way.mp hl.walk
  obtain ⟨e', he', hbare⟩ := h.kept he
  rw [bare_file.mp hbare] at he'
  exact ⟨hl.absolute, Disk.walk_iff_way.mpr ⟨⟨k, hk, h.way hway⟩, he'⟩⟩

/-- No path of an old file is one of a new file. -/
theorem apart_of_new (h : Grows New d d') {a b : String} (ha : LeadsToFile d a)
    (hb : LeadsToNew d d' b) : samePath a b = false := by
  obtain ⟨place, content, ha⟩ := ha
  obtain ⟨place', content', hb, hnew⟩ := hb
  refine Bool.eq_false_iff.mpr fun hsame => ?_
  obtain rfl := (ha.kept h).same_place hb hsame
  rw [Disk.walk_at? ha.walk] at hnew
  cases hnew

/-- An old file is read as it was, or refused as it was. -/
theorem readText_old (h : Grows New d d') {path : String} (hpath : LeadsToFile d path) :
    d'.readText path = d.readText path := by
  by_cases htaken : Disk.Taken path
  · obtain ⟨place, content, hleads⟩ := hpath
    have hl : d.lookup true path = .ok (place, .file content) := by
      rw [Disk.lookup_iff, Disk.start, hleads.absolute, if_pos rfl]
      exact ⟨htaken, hleads.walk⟩
    exact h.readText hl
  · obtain ⟨r, hr⟩ := Disk.along_untaken htaken
    simp only [Disk.readText, Disk.read, Disk.lookup, Disk.target, hr]

/-! ## One pattern -/

/-- Whether a search has something to go through at the end of a path does not change. -/
theorem goesThrough_iff (h : Grows New d d') {base : String} {place : Location} {e e' : Entry}
    (hl : d.lookup true base = .ok (place, e)) (hl' : d'.lookup true base = .ok (place, e')) :
    (e'.isDirectory = true ∨ d'.lookup false base = .ok (place, e')) ↔
      (e.isDirectory = true ∨ d.lookup false base = .ok (place, e)) := by
  have hdirectory : e'.isDirectory = e.isDirectory := by
    obtain ⟨x, hx, hbare⟩ := h.lookup hl
    obtain rfl : x = e' := congrArg Prod.snd (Except.ok.inj (hx.symm.trans hl'))
    cases sameKind_iff.mpr hbare <;> rfl
  rw [hdirectory]
  constructor
  · rintro (hd | hsame)
    · exact Or.inl hd
    · -- a link that led to a file would still be one
      rcases Disk.lookup_link_or_same hl with hsame' | ⟨at_, target, hlink⟩
      · exact Or.inr hsame'
      · obtain ⟨x, hlink', hbare⟩ := h.lookup hlink
        rw [hsame] at hlink'
        cases hlink'
        exact absurd (bare_link.mp hbare) (Disk.lookup_not_link hl' target)
  · rintro (hd | hsame)
    · exact Or.inl hd
    · obtain ⟨x, hsame', -⟩ := h.lookup hsame
      have hx : x = e' := Option.some.inj
        ((Disk.lookup_at? hsame').symm.trans (Disk.lookup_at? hl'))
      exact Or.inr (hx ▸ hsame')

/-- What is under a path stays, and what is added is new. -/
theorem filesUnder_drops (h : Grows New d d') (hs : d.top.sound = true) {base : String}
    (hbase : isAbsolute base = true) (hexists : d.exists? base = true) :
    Drops (LeadsToNew d d') (d'.filesUnder base) (d.filesUnder base) := by
  have hs' : d'.top.sound = true := h.sound hs
  obtain ⟨place, e, hl⟩ := Disk.exists?_lookup.mp hexists
  obtain ⟨e', hl', -⟩ := h.lookup hl
  have hat : d.top.at? place = some e := Disk.lookup_at? hl
  have hat' : d'.top.at? place = some e' := Disk.lookup_at? hl'
  have hiff := goesThrough_iff h hl hl'
  by_cases hstart : e.isDirectory = true ∨ d.lookup false base = .ok (place, e)
  · have hstart' := hiff.mpr hstart
    have hbelow : ∀ l x, e.at? l = some x → d.top.at? (place ++ l) = some x := by
      intro l x hx
      rw [at?_append, hat]
      exact hx
    have hkeeps : Keeps e e' := by
      intro l x hx
      obtain ⟨x', hx', hbare⟩ := h.kept (hbelow l x hx)
      rw [at?_append, hat'] at hx'
      exact ⟨x', hx', hbare⟩
    have hadds : AddsOnly (LeadsToNew d d') base e e' := by
      intro names content hfile hnone
      refine ⟨place ++ names, content, Starts.leadsTo hs' hbase ⟨e', hl', hstart'⟩ ?_, ?_⟩
      · rw [at?_append, hat']
        exact hfile
      · rw [at?_append, hat]
        exact hnone
    have hopens : OpensAs d.refuses d'.refuses place base e :=
      fun names entries hx => h.refuses (hbelow names _ hx) _
    rw [Disk.filesUnder, Disk.filesUnder, itemsUnder_starts hl hstart, itemsUnder_starts hl' hstart']
    exact files_drops (at?_sound hs hat).2 e' place base (at?_sound hs' hat').2 hkeeps hadds hopens
  · rw [Disk.filesUnder, itemsUnder_nothing hl' fun hstart' => hstart (hiff.mp hstart')]
    rw [Disk.filesUnder, itemsUnder_nothing hl hstart]
    exact .nil

/-- A path that led nowhere leads to what is new. -/
theorem filesUnder_new (h : Grows New d d') (hs : d.top.sound = true) (hNew : LinkFree New)
    (hlinks : LinksStay signs d d') {base : String} (hbase : isAbsolute base = true)
    (hup : ".." ∉ pieces base) (hnothing : d.exists? base = false)
    (hexists : d'.exists? base = true) : ∀ x ∈ d'.filesUnder base, LeadsToNew d d' x := by
  intro x hx
  have hs' : d'.top.sound = true := h.sound hs
  obtain ⟨place, names, content, hstart, hfile, -, rfl⟩ := (mem_filesUnder hs').mp ⟨hexists, hx⟩
  refine ⟨place ++ names, content, hstart.leadsTo hs' hbase hfile, at?_below_none ?_ names⟩
  obtain ⟨e', hl', -⟩ := hstart
  refine (h.lookup_back hNew hlinks hbase hup hl').resolve_left ?_
  rintro ⟨e, hl⟩
  rw [Disk.exists?_lookup.mpr ⟨place, e, hl⟩] at hnothing
  cases hnothing

theorem mem_filesOfGlob_base {d : Disk} {g : Glob} {x : String} (hx : x ∈ filesOfGlob d root g) :
    d.exists? (basePath root g.pattern) = true ∧ x ∈ d.filesUnder (basePath root g.pattern) := by
  by_cases hexists : d.exists? (basePath root g.pattern) = true
  · simp only [filesOfGlob, hexists, if_true] at hx
    exact ⟨hexists, List.mem_of_mem_filter hx⟩
  · rw [Bool.not_eq_true] at hexists
    simp only [filesOfGlob, hexists, Bool.false_eq_true, if_false] at hx
    cases hx

/-- A pattern selects what it selected, and new files. -/
theorem filesOfGlob_drops (h : Grows New d d') (hs : d.top.sound = true) (hNew : LinkFree New)
    (hlinks : LinksStay signs d d') (hroot : isAbsolute root = true) {g : Glob}
    (hup : ".." ∉ pieces (basePath root g.pattern)) :
    Drops (LeadsToNew d d') (filesOfGlob d' root g) (filesOfGlob d root g) := by
  have hbase : isAbsolute (basePath root g.pattern) = true := isAbsolute_join hroot _
  by_cases hexists : d.exists? (basePath root g.pattern) = true
  · obtain ⟨place, e, hl⟩ := Disk.exists?_lookup.mp hexists
    obtain ⟨e', hl', -⟩ := h.lookup hl
    have hexists' : d'.exists? (basePath root g.pattern) = true :=
      Disk.exists?_lookup.mpr ⟨place, e', hl'⟩
    simp only [filesOfGlob, hexists, hexists', if_true]
    exact (filesUnder_drops h hs hbase hexists).filter _
  · rw [Bool.not_eq_true] at hexists
    have hnone : filesOfGlob d root g = [] := by
      simp only [filesOfGlob, hexists, Bool.false_eq_true, if_false]
    rw [hnone]
    refine drops_all fun x hx => ?_
    obtain ⟨hexists', hx⟩ := mem_filesOfGlob_base hx
    exact filesUnder_new h hs hNew hlinks hbase hup hexists hexists' x hx

theorem leadsToFile_of_mem (hs : d.top.sound = true) (hroot : isAbsolute root = true)
    {g : Glob} {x : String} (hx : x ∈ filesOfGlob d root g) : LeadsToFile d x := by
  obtain ⟨place, names, content, hstart, hfile, -, rfl⟩ :=
    (mem_filesUnder hs).mp (mem_filesOfGlob_base hx)
  exact ⟨_, _, hstart.leadsTo hs (isAbsolute_join hroot _) hfile⟩

/-! ## Lists -/

theorem any_drops {Old Gone : String → Prop} (hapart : ∀ a b, Old a → Gone b → samePath a b = false)
    {listed' listed : List String} (h : Drops Gone listed' listed) {path : String}
    (hpath : Old path) : listed'.any (samePath path) = listed.any (samePath path) := by
  induction h with
  | nil => rfl
  | keep _ ih => rw [List.any_cons, List.any_cons, ih]
  | drop ha _ ih => rw [List.any_cons, hapart _ _ hpath ha, ih, Bool.false_or]

/-- Files that are apart from all others do not change what is listed of these. -/
theorem addNew_drops {Old Gone : String → Prop}
    (hapart : ∀ a b, Old a → Gone b → samePath a b = false) {paths' paths : List String}
    (h : Drops Gone paths' paths) :
    ∀ {listed' listed : List String}, (∀ path ∈ paths, Old path) → Drops Gone listed' listed →
      Drops Gone (addNew listed' paths') (addNew listed paths) := by
  induction h with
  | nil => exact fun _ hl => hl
  | @keep path paths' paths _ ih =>
    intro listed' listed hold hl
    rw [addNew_cons, addNew_cons, any_drops hapart hl (hold path List.mem_cons_self)]
    refine ih (fun path hp => hold path (List.mem_cons_of_mem _ hp)) ?_
    split
    · exact hl
    · exact hl.append (.keep .nil)
  | @drop path paths' paths hgone _ ih =>
    intro listed' listed hold hl
    rw [addNew_cons]
    refine ih hold ?_
    split
    · exact hl
    · have hadded := hl.append (.drop hgone .nil)
      rwa [List.append_nil] at hadded

/-- Two listings fail alike, or the one has what the other has and new files. -/
inductive Extends (d d' : Disk) :
    Except DiscoveryFault (List String) → Except DiscoveryFault (List String) → Prop
  | fault (f : DiscoveryFault) : Extends d d' (.error f) (.error f)
  | listed {all' all : List String} : Drops (LeadsToNew d d') all' all →
    (∀ path ∈ all, LeadsToFile d path) →
      Extends d d' (.ok all') (.ok all)

theorem filesOfPatterns_drops (h : Grows New d d') (hs : d.top.sound = true) (hNew : LinkFree New)
    (hlinks : LinksStay signs d d') (hroot : isAbsolute root = true) (hrootUp : ".." ∉ pieces root)
    {patterns : List String} :
    ∀ {listed' listed : List String}, (∀ pattern ∈ patterns, ".." ∉ pieces pattern) →
      Drops (LeadsToNew d d') listed' listed → (∀ path ∈ listed, LeadsToFile d path) →
        Extends d d' (filesOfPatterns d' root listed' patterns)
        (filesOfPatterns d root listed patterns) := by
  induction patterns with
  | nil => exact fun _ hl hold => .listed hl hold
  | cons pattern patterns ih =>
    intro listed' listed hup hl hold
    rw [filesOfPatterns, filesOfPatterns]
    cases hg : compile pattern with
    | error f => exact .fault f
    | ok g =>
      have hfound : ∀ path ∈ filesOfGlob d root g, LeadsToFile d path := fun _ hp =>
        leadsToFile_of_mem hs hroot hp
      have hbase : ".." ∉ pieces (basePath root g.pattern) := by
        rw [pattern_of_compile hg]
        exact basePath_noUp hrootUp (normalize_noUp (hup pattern List.mem_cons_self))
      refine ih (fun pattern hp => hup pattern (List.mem_cons_of_mem _ hp))
        (addNew_drops (fun _ _ => apart_of_new h)
          (filesOfGlob_drops h hs hNew hlinks hroot hbase) hfound hl) ?_
      intro path hp
      rcases found_of_listed hp with hp | hp
      · exact hold path hp
      · exact hfound path hp

/-- Patterns without steps up list what they listed, and new files. -/
theorem files_extends (h : Grows New d d') (hs : d.top.sound = true) (hNew : LinkFree New)
    (hlinks : LinksStay signs d d') (hroot : d.exists? root = true) {patterns : List String}
    (hup : ∀ pattern ∈ patterns, ".." ∉ pieces pattern) :
    Extends d d' (files d' root patterns) (files d root patterns) := by
  obtain ⟨place, e, hl⟩ := Disk.exists?_lookup.mp hroot
  have hcanonical : d.canonical root = .ok place.path := Disk.canonical_ok.mpr ⟨place, e, hl, rfl⟩
  have hnames : ∀ s ∈ place, IsName s := at?_names hs (Disk.lookup_at? hl)
  have hrootUp : ".." ∉ pieces place.path := by
    by_cases hplace : place = []
    · subst hplace
      decide
    · rw [pieces_path (fun s hs => (hnames s hs).noSlash) hplace]
      intro hmem
      rcases List.mem_cons.mp hmem with hmem | hmem
      · exact absurd hmem (by decide)
      · exact (hnames ".." hmem).notUp rfl
  rw [files_eq ((h.canonical hroot).trans hcanonical), files_eq hcanonical]
  exact filesOfPatterns_drops h hs hNew hlinks (isAbsolute_path place) hrootUp hup .nil (by simp)

end

end RouteShortcuts.Discovery
