/-
  RouteShortcuts.Proofs.CommandLine.Colours — colours change no text.

  A run prints pieces of text, some of them in an ink, and a column is filled up in the ink. Taking
  the sequences out of what is printed in colours gives what is printed without them, if no piece
  has an escape character of its own. The program itself writes none (`bare_help`,
  `bare_successLine`), and a manifest has none whatever it says, since JSON escapes it
  (`manifest_noEscape`). So the condition is on the texts that a run takes over as they are
  (`Invocation.texts`): messages, the path of its output, and the paths, names and files that a scan
  lists.

  Proved: every piece that a run prints is bare if those texts are (`perform_bare`); hence
  `colours_change_no_text`, for all arguments that are taken.
-/

import RouteShortcuts.Proofs.CommandLine.Payload
import RouteShortcuts.Proofs.Files.Growth
import RouteShortcuts.Proofs.Files.Prefix
import RouteShortcuts.Proofs.Json.Controls
import RouteShortcuts.Proofs.Manifest.RoundTrip
import RouteShortcuts.Proofs.Styled.Sequences

namespace RouteShortcuts

/-! ## Characters of paths -/

namespace Files

theorem dropComponents_subset {ps rest : List String} : ∀ {front : List Component},
    dropComponents front ps = some rest → rest ⊆ ps := by
  induction ps with
  | nil =>
    intro front h
    cases front with
    | nil =>
      cases h
      exact List.Subset.refl _
    | cons c front => cases h
  | cons piece ps ih =>
    intro front h
    cases front with
    | nil =>
      cases h
      exact List.Subset.refl _
    | cons c front =>
      rw [dropComponents] at h
      split at h
      · exact List.subset_cons_of_subset piece (ih h)
      · split at h
        · exact List.subset_cons_of_subset piece (ih h)
        · cases h

theorem trimFront_subset (l : List String) : trimFront l ⊆ l := by
  obtain ⟨blank, hl, -, -⟩ := trimFront_split l
  intro s hs
  rw [hl]
  exact List.mem_append_right blank hs

section

variable {c : Char} {path : String} (hslash : c ≠ '/') (hpath : c ∉ path.toList)

include hslash hpath

theorem not_mem_joined {names : List String} (h : names ⊆ pieces path) :
    c ∉ ("/".intercalate names).toList := by
  intro hc
  rcases mem_intercalate hc with rfl | ⟨s, hs, hc⟩
  · exact hslash rfl
  · exact hpath (mem_of_mem_piece (h hs) hc)

/-- What is left of a path behind another one is made of its characters. -/
theorem not_mem_stripPrefix? {base rest : String} (h : stripPrefix? base path = some rest) :
    c ∉ rest.toList := by
  unfold stripPrefix? at h
  split at h
  · obtain ⟨ps, hdrop, rfl⟩ := Option.map_eq_some_iff.mp h
    have htrims : (trimFront (trimFront ps).reverse).reverse ⊆ ps := (trims ps).mem
    exact not_mem_joined hslash hpath fun s hs => dropComponents_subset hdrop (htrims hs)
  · cases h

/-- So is the path above it. -/
theorem not_mem_parent? {above : String} (h : parent? path = some above) : c ∉ above.toList := by
  rcases parent?_cases h with (rfl | rfl) | ⟨rfl, hdot⟩ | ⟨last, before, hbefore, -, rfl⟩
  · simp
  · simpa using hslash
  · have hmem : "." ∈ pieces path := List.mem_of_head? hdot
    exact fun hc => hpath (mem_of_mem_piece hmem hc)
  · refine not_mem_joined hslash hpath fun s hs => ?_
    have hs' : s ∈ trimFront (pieces path).reverse := by
      rw [hbefore]
      exact List.mem_cons_of_mem last (trimFront_subset before (List.mem_reverse.mp hs))
    exact List.mem_reverse.mp (trimFront_subset _ hs')

end

end Files

namespace CommandLine

open RouteShortcuts.Files RouteShortcuts.Styled

/-! ## What the program writes itself -/

theorem refusal_noEscape (r : Refusal) : '\x1b' ∉ r.message.toList := by
  cases r <;> decide

section

variable {message : String} (h : '\x1b' ∉ message.toList)

include h

theorem bare_successLine : Bare (successLine message) := by
  simp [successLine, h]

theorem bare_warningLine : Bare (warningLine message) := by
  simp [warningLine, h]

theorem bare_noteLine : Bare (noteLine message) := by
  simp [noteLine, h]

theorem bare_errorLine : Bare (errorLine message) := by
  simp [errorLine, h]

end

/-- A manifest has no escape character, whatever its entries say. -/
theorem manifest_noEscape (format : ManifestFormat) (entries : List ManifestEntry) :
    '\x1b' ∉ (Manifest.render format entries).toList := by
  have hfits : (Manifest.toValue entries).Fits 4 := by
    intro v hv
    obtain ⟨e, -, rfl⟩ := List.mem_map.mp hv
    exact fits_entry 0 e
  have hpretty : '\x1b' ∉ (Manifest.toValue entries).pretty.toList := fun hc =>
    absurd (Json.printable_pretty hfits _ hc (by decide)) (by decide)
  cases format with
  | json => exact hpretty
  | module =>
    show '\x1b' ∉ ("export default " ++ (Manifest.toValue entries).pretty).toList
    rw [String.toList_append, List.mem_append, not_or]
    exact ⟨by decide, hpretty⟩

theorem bare_help : Bare (help false none) := by
  decide +kernel

theorem bare_shortcutLine {root : String} {width : Nat} {s : Shortcut} (hpath : '\x1b' ∉ s.path.toList)
    (hname : '\x1b' ∉ s.details.name.toList) (hfile : '\x1b' ∉ s.file.toList) :
    Bare (shortcutLine root width s) := by
  have hshown : '\x1b' ∉ (displayPath root s.file).toList := by
    unfold displayPath
    cases hrest : stripPrefix? root s.file with
    | none => exact hfile
    | some rest => exact not_mem_stripPrefix? (by decide) hfile hrest
  have hcell : Bare [{ ink := some .cyan, text := s.path, width := width }] :=
    List.forall_mem_singleton.mpr hpath
  simp only [shortcutLine, bare_append, bare_plain, bare_inked, hcell]
  simp [hname, hshown]

/-! ## What it takes over -/

/-- What a search says of directories that it could not open. -/
def ScanArguments.skippedMessages (a : ScanArguments) (s : Discovery.Search) : List String :=
  if a.verbose then s.skipped.map (·.message) else []

/-- The messages of a scan: why there is none, or why files were passed over. -/
def messagesOf : Except DiscoveryFault Outcome → List String
  | .error fault => [fault.message]
  | .ok o => o.warnings.map (·.message)

/-- The texts of the shortcuts that were found: paths, names and files. -/
def listedOf : Except DiscoveryFault Outcome → List String
  | .error _ => []
  | .ok o => o.shortcuts.flatMap fun s => [s.path, s.details.name, s.file]

namespace ScanArguments

def messages (d : Disk) (a : ScanArguments) : List String :=
  match (a.options d).2 with
  | .error message => [message]
  | .ok options =>
    a.skippedMessages (a.search d options) ++ messagesOf (Scan.project d options a.rootPath)

def listed (d : Disk) (a : ScanArguments) : List String :=
  match (a.options d).2 with
  | .error _ => []
  | .ok options => listedOf (Scan.project d options a.rootPath)

end ScanArguments

/-- The texts that a run prints as they are. -/
def Invocation.texts (d : Disk) : Invocation → List String
  | .scan a => a.messages d ++ a.listed d
  | .generate a _ output => a.messages d ++ output.toList
  | .none | .init | .serve => []

/-- Nothing with an escape character is printed. -/
def Result.Bare (r : Result) : Prop := Styled.Bare r.out ∧ Styled.Bare r.err

theorem bare_failed {d : Disk} {notes : Styled} {message : String} (hnotes : Styled.Bare notes)
    (h : '\x1b' ∉ message.toList) : (failed d notes message).Bare :=
  ⟨bare_nil, bare_append.mpr ⟨hnotes, bare_errorLine h⟩⟩

theorem bare_notes (d : Disk) (a : ScanArguments) : Styled.Bare (a.options d).1 := by
  unfold ScanArguments.options
  split
  · exact bare_nil
  · unfold ScanArguments.configNote
    split
    · exact bare_noteLine (by decide)
    · exact bare_nil

theorem bare_searchNotes {a : ScanArguments} {s : Discovery.Search}
    (h : ∀ text ∈ a.skippedMessages s, '\x1b' ∉ text.toList) : Styled.Bare (a.searchNotes s) := by
  unfold ScanArguments.skippedMessages at h
  unfold ScanArguments.searchNotes
  split at h
  · rename_i hv
    have hlines : Styled.Bare (skippedLines s.skipped) :=
      bare_flatMap fun skipped hs => bare_warningLine (h _ (List.mem_map_of_mem hs))
    have hnote : Styled.Bare (if s.fault.isNone then skippedNote s.skipped else []) := by
      unfold skippedNote
      split
      · split
        · exact bare_nil
        · exact bare_noteLine (by simp [not_mem_toDigits])
      · exact bare_nil
    rw [if_pos hv]
    exact bare_append.mpr ⟨hlines, hnote⟩
  · rename_i hv
    rw [if_neg hv]
    exact bare_nil

theorem bare_warningLines {warnings : List FileWarning}
    (h : ∀ w ∈ warnings, '\x1b' ∉ w.message.toList) :
    Styled.Bare (warningLines warnings) :=
  bare_flatMap fun w hw => bare_warningLine (h w hw)

theorem bare_scanReport {root : String} {o : Outcome}
    (h : ∀ text ∈ listedOf (.ok o), '\x1b' ∉ text.toList) :
    Styled.Bare (scanReport root o) := by
  refine bare_append.mpr
    ⟨bare_flatMap ?_, bare_successLine (not_mem_foundMessage (by decide) (by decide) _ _)⟩
  intro s hs
  have htexts : ∀ text ∈ [s.path, s.details.name, s.file], '\x1b' ∉ text.toList := fun text ht =>
    h text (List.mem_flatMap.mpr ⟨s, hs, ht⟩)
  exact bare_shortcutLine (htexts _ (by simp)) (htexts _ (by simp)) (htexts _ (by simp))

/-- The message of a fault ends with its reason. -/
theorem message_ends (fault : DiscoveryFault) : ∃ front, fault.message = front ++ fault.reason := by
  cases fault with
  | invalidPattern pattern flaw => exact ⟨"Invalid route file pattern \"" ++ pattern ++ "\": ", rfl⟩
  | root path refusal => exact ⟨"Cannot access project root " ++ path ++ ": ", rfl⟩

theorem reason_noEscape {fault : DiscoveryFault} (h : '\x1b' ∉ fault.message.toList) :
    '\x1b' ∉ fault.reason.toList := by
  obtain ⟨front, hmessage⟩ := message_ends fault
  rw [hmessage, String.toList_append, List.mem_append, not_or] at h
  exact h.2

section

variable {d : Disk} {a : ScanArguments}

theorem bare_scan (hmessages : ∀ text ∈ a.messages d, '\x1b' ∉ text.toList)
    (hlisted : ∀ text ∈ a.listed d, '\x1b' ∉ text.toList) : (scan d a).Bare := by
  have hnotes := bare_notes d a
  unfold ScanArguments.messages at hmessages
  unfold ScanArguments.listed at hlisted
  unfold scan
  cases ho : a.options d with
  | mk notes result =>
    rw [ho] at hmessages hlisted hnotes
    cases result with
    | error message => exact bare_failed hnotes (hmessages message List.mem_cons_self)
    | ok options =>
      dsimp only at hmessages hlisted ⊢
      obtain ⟨hskipped, hmessages⟩ := List.forall_mem_append.mp hmessages
      have hnotes : Styled.Bare (notes ++ a.searchNotes (a.search d options)) :=
        bare_append.mpr ⟨hnotes, bare_searchNotes hskipped⟩
      cases hp : Scan.project d options a.rootPath with
      | error fault =>
        rw [hp] at hmessages
        have hmessage : '\x1b' ∉ fault.message.toList := hmessages fault.message List.mem_cons_self
        refine bare_failed hnotes ?_
        simp [hmessage, reason_noEscape hmessage]
      | ok o =>
        rw [hp] at hmessages hlisted
        refine ⟨bare_scanReport hlisted, bare_append.mpr ⟨hnotes, bare_warningLines ?_⟩⟩
        exact fun w hw => hmessages w.message (List.mem_map_of_mem hw)

theorem makeRoom_noEscape {path message : String} (h : makeRoom d path = .error message)
    (hpath : '\x1b' ∉ path.toList) : '\x1b' ∉ message.toList := by
  unfold makeRoom at h
  split at h
  · cases h
  · rename_i above habove
    have habove' : '\x1b' ∉ above.toList := not_mem_parent? (by decide) hpath habove
    split at h
    · cases h
    · split at h
      · cases h
      · rename_i refusal _
        cases h
        simp [habove', refusal_noEscape refusal]

/-- What is said of a manifest that cannot be written says no more than the path. -/
theorem writeManifest_noEscape {path text message : String} {d' : Disk}
    (h : writeManifest d path text = (d', .error message))
    (hpath : '\x1b' ∉ path.toList) : '\x1b' ∉ message.toList := by
  unfold writeManifest at h
  split at h
  · rename_i hroom
    cases h
    exact makeRoom_noEscape hroom hpath
  · split at h
    · cases h
    · rename_i refusal _
      cases h
      simp [hpath, refusal_noEscape refusal]

theorem bare_scanSaid {options : Options} {scanned : Except DiscoveryFault Outcome}
    (h : ∀ text ∈ messagesOf scanned, '\x1b' ∉ text.toList) :
    Styled.Bare (scanSaid a options scanned) := by
  have hfound : Styled.Bare (if a.verbose then
      noteLine (foundMessage (Manifest.entries options (outcomeOrEmpty scanned).1.shortcuts).length
        (outcomeOrEmpty scanned).1.filesScanned) else []) := by
    split
    · exact bare_noteLine (not_mem_foundMessage (by decide) (by decide) _ _)
    · exact bare_nil
  refine bare_append.mpr ⟨bare_append.mpr ⟨?_, hfound⟩, ?_⟩
  · cases scanned with
    | error fault =>
      have hmessage : '\x1b' ∉ fault.message.toList := h fault.message List.mem_cons_self
      exact bare_warningLine (by simp [hmessage])
    | ok o => exact bare_nil
  · cases scanned with
    | error fault => exact bare_nil
    | ok o => exact bare_warningLines fun w hw => h w.message (List.mem_map_of_mem hw)

theorem bare_generate {format : ManifestFormat} {output : Option String}
    (hmessages : ∀ text ∈ a.messages d, '\x1b' ∉ text.toList)
    (houtput : ∀ path ∈ output, '\x1b' ∉ path.toList) : (generate d a format output).Bare := by
  have hnotes := bare_notes d a
  unfold ScanArguments.messages at hmessages
  unfold generate
  cases ho : a.options d with
  | mk notes result =>
    rw [ho] at hmessages hnotes
    cases result with
    | error message => exact bare_failed hnotes (hmessages message List.mem_cons_self)
    | ok options =>
      obtain ⟨hskipped, hmessages⟩ := List.forall_mem_append.mp hmessages
      have hnotes : Styled.Bare (notes ++ a.searchNotes (a.search d options)) :=
        bare_append.mpr ⟨hnotes, bare_searchNotes hskipped⟩
      have hsaid : Styled.Bare (notes ++ a.searchNotes (a.search d options) ++
          scanSaid a options (Scan.project d options a.rootPath)) :=
        bare_append.mpr ⟨hnotes, bare_scanSaid hmessages⟩
      rw [scanSaid, ← List.append_assoc, ← List.append_assoc] at hsaid
      cases output with
      | none =>
        refine ⟨bare_plain.mpr ?_, hsaid⟩
        simp [manifest_noEscape]
      | some path =>
        have hpath : '\x1b' ∉ path.toList := houtput path rfl
        dsimp only
        split
        · rename_i hw
          exact bare_failed hnotes (writeManifest_noEscape hw hpath)
        · refine ⟨bare_successLine ?_, hsaid⟩
          have hcounted : ∀ n, '\x1b' ∉ (counted n "shortcut" "shortcuts").toList := fun _ =>
            not_mem_counted (by decide) (by decide) (by decide) (by decide)
          simp [hcounted, hpath]

theorem bare_init (d : Disk) : (init d).Bare := by
  unfold init
  split
  · exact bare_failed bare_nil (by decide)
  · split
    · exact ⟨bare_successLine (by decide), bare_nil⟩
    · exact bare_failed bare_nil (refusal_noEscape _)

end

/-- Every piece that a run prints is bare, if the texts that it prints as they are have no escape
character. -/
theorem perform_bare {d : Disk} {i : Invocation} (h : ∀ text ∈ i.texts d, '\x1b' ∉ text.toList) :
    (perform d i).Bare := by
  cases i with
  | none => exact ⟨bare_help, bare_nil⟩
  | scan a =>
    rw [Invocation.texts] at h
    rw [perform]
    exact bare_scan (fun text ht => h text (List.mem_append_left _ ht))
      (fun text ht => h text (List.mem_append_right _ ht))
  | generate a format output =>
    rw [Invocation.texts] at h
    rw [perform]
    refine bare_generate (fun text ht => h text (List.mem_append_left _ ht)) ?_
    intro path hpath
    exact h path (List.mem_append_right _ (Option.mem_toList.mpr hpath))
  | init => exact bare_init d
  | serve => exact ⟨bare_nil, bare_nil⟩

/-! ## Runs -/

/-- What is printed in colours is what is printed without them, once the sequences are taken out. -/
theorem Result.Bare.finish {r : Result} (h : r.Bare) (colours : Bool) :
    unstyled (r.finish colours).out = (r.finish false).out ∧
    unstyled (r.finish colours).err = (r.finish false).err :=
  ⟨unstyled_render h.1 colours, unstyled_render h.2 colours⟩

theorem finish_performed {args : List String} {i : Invocation}
    (h : Invocation.ofArguments args = .ok i) (d : Disk) (e : Environment) :
    run d e args = (perform d i).finish (if i.isUsage then e.usageColours else e.reportColours) := by
  rw [run, h]

/-- On every project, a run of arguments that are taken prints the same in any environment, whether
it forces colours or not, as in one that has none, once the sequences are taken out of both its
texts; and it ends with the same status and leaves the same disk. The messages of the run, the path
of its output and, for a scan, the paths, names and files that it lists are to have no escape
character. -/
theorem colours_change_no_text {args : List String} {i : Invocation}
    (h : Invocation.ofArguments args = .ok i) {d : Disk}
    (htexts : ∀ text ∈ i.texts d, '\x1b' ∉ text.toList) (coloured : Environment)
    {disabled : Environment} (hdisabled : disabled.reportColours = false) :
    unstyled (run d coloured args).out = (run d disabled args).out ∧
    unstyled (run d coloured args).err = (run d disabled args).err ∧
    (run d coloured args).status = (run d disabled args).status ∧
    (run d coloured args).disk = (run d disabled args).disk := by
  have hplain : (if i.isUsage then disabled.usageColours else disabled.reportColours) = false := by
    have husage : disabled.usageColours = false := by
      rw [Environment.usageColours, show disabled.forced = false from hdisabled, Bool.false_and]
    rw [husage, hdisabled, ite_self]
  rw [finish_performed h d coloured, finish_performed h d disabled, hplain]
  have hbare := (perform_bare htexts).finish (if i.isUsage then coloured.usageColours
    else coloured.reportColours)
  exact ⟨hbare.1, hbare.2, rfl, rfl⟩

theorem a_coloured_scan_says_the_same :
    unstyled (run mixedDisk { forceColours := some "1" } ["scan"]).out =
      "  /a  A  (src/a.ts)\n  /   B  (src/a.ts)\n✓ Found 2 shortcuts in 2 route files\n" ∧
    unstyled (run mixedDisk { forceColours := some "1" } ["scan"]).err =
      "warning: Failed to read /old/b.ts: stream did not contain valid UTF-8\n" := by
  have hscan : Invocation.ofArguments ["scan"] = .ok (.scan {}) := rfl
  have htexts : ∀ text ∈ (Invocation.scan {}).texts mixedDisk, '\x1b' ∉ text.toList := by decide +kernel
  have hplain : Environment.reportColours {} = false := rfl
  obtain ⟨hout, herr, -, -⟩ := colours_change_no_text hscan htexts { forceColours := some "1" } hplain
  rw [hout, herr]
  decide +kernel

end CommandLine
end RouteShortcuts
