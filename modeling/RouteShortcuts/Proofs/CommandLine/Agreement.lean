/-
  RouteShortcuts.Proofs.CommandLine.Agreement — `scan` and `generate` on the same project.

  Both commands load the options and scan; they part only in what they print of it. So without
  options both say the same and stop, and of a scan that was made one lists what the other writes as
  a manifest: the paths and the names of the shortcuts are the urls and the names of the entries
  (`scanReport_eq`).

  If the files cannot be listed, `scan` fails and `generate` warns and gives an empty manifest.
  There the two do not say the same: the message of the fault ends with its reason, and `scan`,
  which prints what a fault is caused by behind it, says the reason once more.

  Proved: what each command leaves in each case (`scan_of_error` to `generate_of_outcome`); the two
  agree exactly if the files can be listed (`agree_iff`); `the_reason_is_said_twice` is a run where
  they do not.
-/

import RouteShortcuts.Proofs.CommandLine.Common
import RouteShortcuts.Proofs.CommandLine.Payload

namespace RouteShortcuts.CommandLine

open RouteShortcuts.Files RouteShortcuts.Styled

/-! ## What is listed -/

/-- The line of an entry, and the file it is of. -/
def entryLine (width : Nat) (e : ManifestEntry) (shown : String) : Styled :=
  plain "  " ++ [{ ink := some .cyan, text := e.url, width := width }] ++ plain ("  " ++ e.name ++ "  ")
    ++ inked .dimmed ("(" ++ shown ++ ")") ++ plain "\n"

/-- The longest url has as many characters. -/
def urlWidth (entries : List ManifestEntry) : Nat := (entries.map (·.url.length)).foldl max 0

/-- A line for each entry of a manifest, in order, and how many there are. -/
def listing (entries : List ManifestEntry) (shown : List String) (files : Nat) : Styled :=
  (List.zipWith (entryLine (urlWidth entries)) entries shown).flatten ++
    successLine (foundMessage entries.length files)

theorem pathWidth_eq (options : Options) (shortcuts : List Shortcut) :
    pathWidth shortcuts = urlWidth (Manifest.entries options shortcuts) := by
  rw [pathWidth, urlWidth, Manifest.entries, List.map_map]
  rfl

theorem shortcutLines_eq (options : Options) (root : String) (width : Nat) (shortcuts : List Shortcut) :
    shortcuts.flatMap (shortcutLine root width) =
      (List.zipWith (entryLine width) (Manifest.entries options shortcuts)
      (shortcuts.map fun s => displayPath root s.file)).flatten := by
  induction shortcuts with
  | nil => rfl
  | cons s shortcuts ih =>
    rw [List.flatMap_cons, ih]
    rfl

/-- What `scan` prints is a listing of the entries that `generate` writes. -/
theorem scanReport_eq (options : Options) (root : String) (o : Outcome) :
    scanReport root o = listing (Manifest.entries options o.shortcuts)
    (o.shortcuts.map fun s => displayPath root s.file)
      o.filesScanned := by
  have hlength : (Manifest.entries options o.shortcuts).length = o.shortcuts.length := List.length_map _
  rw [scanReport, shortcutLines_eq options, listing, hlength, pathWidth_eq options]

/-! ## What the two commands leave -/

section

variable {d : Disk} {a : ScanArguments} {format : ManifestFormat} {options : Options}

/-- Nothing is noted unless that is asked for. -/
theorem options_quiet (hv : a.verbose = false) : (a.options d).1 = [] := by
  unfold ScanArguments.options
  split
  · rfl
  · simp only [ScanArguments.configNote, hv, Bool.false_eq_true, false_and, if_false]

theorem searchNotes_quiet (hv : a.verbose = false) (s : Discovery.Search) : a.searchNotes s = [] := by
  rw [ScanArguments.searchNotes, hv, if_neg Bool.false_ne_true]

theorem options_eq (hv : a.verbose = false) {r : Except String Options} (ho : (a.options d).2 = r) :
    a.options d = ([], r) :=
  Prod.ext (options_quiet hv) ho

theorem scan_of_error (hv : a.verbose = false) {message : String}
    (ho : (a.options d).2 = .error message) : scan d a = failed d [] message := by
  unfold scan
  rw [options_eq hv ho]

theorem generate_of_error (hv : a.verbose = false) {message : String}
    (ho : (a.options d).2 = .error message) : generate d a format none = failed d [] message := by
  unfold generate
  rw [options_eq hv ho]

theorem scan_of_fault (hv : a.verbose = false) (ho : (a.options d).2 = .ok options)
    {fault : DiscoveryFault} (hp : Scan.project d options a.rootPath = .error fault) :
    scan d a = failed d [] (fault.message ++ ": " ++ fault.reason) := by
  unfold scan
  rw [options_eq hv ho]
  dsimp only
  rw [hp, searchNotes_quiet hv]
  rfl

theorem generate_of_fault (hv : a.verbose = false) (ho : (a.options d).2 = .ok options)
    {fault : DiscoveryFault} (hp : Scan.project d options a.rootPath = .error fault) :
    generate d a format none =
      { disk := d
        out := plain (Manifest.render format [] ++ "\n")
        err := warningLine (fault.message ++ " (emitting an empty manifest)") } := by
  have hstatus : a.status [] = .success := by
    simp only [ScanArguments.status, List.isEmpty_nil, Bool.not_true, Bool.false_eq_true,
      and_false, if_false]
  unfold generate
  rw [options_eq hv ho]
  simp only [hp, hv, searchNotes_quiet hv, outcomeOrEmpty, Bool.false_eq_true, if_false,
    hstatus, List.nil_append]
  simp only [warningLines, List.flatMap_nil, List.append_nil]
  rfl

theorem scan_of_outcome (hv : a.verbose = false) (ho : (a.options d).2 = .ok options) {o : Outcome}
    (hp : Scan.project d options a.rootPath = .ok o) : ∃ root,
    scan d a =
      { disk := d
        out := scanReport root o
        err := warningLines o.warnings
        status := a.status o.warnings } := by
  unfold scan
  rw [options_eq hv ho]
  dsimp only
  rw [hp, searchNotes_quiet hv]
  exact ⟨_, rfl⟩

theorem generate_of_outcome (hv : a.verbose = false) (ho : (a.options d).2 = .ok options) {o : Outcome}
    (hp : Scan.project d options a.rootPath = .ok o) :
    generate d a format none =
      { disk := d
        out := plain (Manifest.render format (Manifest.entries options o.shortcuts) ++ "\n")
        err := warningLines o.warnings
        status := a.status o.warnings } := by
  unfold generate
  rw [options_eq hv ho]
  simp only [hp, hv, searchNotes_quiet hv, outcomeOrEmpty, Bool.false_eq_true,
    if_false, List.nil_append]

end

/-! ## Agreement -/

/-- The files of the project cannot be listed. -/
def Unlisted (d : Disk) (a : ScanArguments) : Prop :=
  ∃ options fault, (a.options d).2 = .ok options ∧ Scan.project d options a.rootPath = .error fault

/-- What a run of `scan` and one of `generate` on the same project are to have in common. -/
structure Agree (d : Disk) (a : ScanArguments) (format : ManifestFormat) (colours : Bool)
    (s g : Finish) : Prop where
  unconfigured : ∀ message, (a.options d).2 = .error message →
    s.status = .error ∧ g.status = .error ∧ s.out = "" ∧ g.out = "" ∧ s.err = g.err
  /-- One message fails the scan and is the warning about the manifest. -/
  unlisted : Unlisted d a → s.status = .error ∧ s.out = "" ∧ g.out = Manifest.render format [] ++ "\n" ∧
    ∃ message, s.err = "Error: " ++ message ++ "\n" ∧
      g.err = (warningLine (message ++ " (emitting an empty manifest)")).render colours
  scanned : ∀ options o, (a.options d).2 = .ok options → Scan.project d options a.rootPath = .ok o →
    s.status = g.status ∧ s.err = g.err ∧ ∃ entries shown,
      g.out = Manifest.render format entries ++ "\n" ∧
      shown.length = entries.length ∧ s.out = (listing entries shown o.filesScanned).render colours

theorem render_errorLine (colours : Bool) (message : String) :
    (errorLine message).render colours = "Error: " ++ message ++ "\n" := render_plain colours _

theorem render_warningLine (colours : Bool) (message : String) : (warningLine message).render colours =
    (inked .warning "warning:").render colours ++ (" " ++ message ++ "\n") := by
  rw [warningLine, render_append, render_plain]

/-- A warning says one message. -/
theorem warningLine_inj {colours : Bool} {m n : String}
    (h : (warningLine m).render colours = (warningLine n).render colours) :
    m = n := by
  rw [render_warningLine, render_warningLine] at h
  simpa using h

section

variable {d : Disk} {a : ScanArguments}

theorem agree_scanned (format : ManifestFormat) (colours : Bool) (hv : a.verbose = false)
    {options : Options} {o : Outcome} (ho : (a.options d).2 = .ok options)
    (hp : Scan.project d options a.rootPath = .ok o) :
    let s := (scan d a).finish colours
    let g := (generate d a format none).finish colours
    s.status = g.status ∧ s.err = g.err ∧ ∃ entries shown,
      g.out = Manifest.render format entries ++ "\n" ∧
      shown.length = entries.length ∧
          s.out = (listing entries shown o.filesScanned).render colours := by
  obtain ⟨root, hscan⟩ := scan_of_outcome hv ho hp
  rw [hscan, generate_of_outcome hv ho hp, scanReport_eq options]
  refine ⟨rfl, rfl, _, _, render_plain colours _, ?_, rfl⟩
  rw [List.length_map, Manifest.entries, List.length_map]

/-- What the two say of files that cannot be listed. -/
theorem said_unlisted (format : ManifestFormat) (colours : Bool) (hv : a.verbose = false)
    {options : Options} {fault : DiscoveryFault} (ho : (a.options d).2 = .ok options)
    (hp : Scan.project d options a.rootPath = .error fault) :
    let s := (scan d a).finish colours
    let g := (generate d a format none).finish colours
    s.status = .error ∧ s.out = "" ∧
      s.err = "Error: " ++ (fault.message ++ ": " ++ fault.reason) ++ "\n" ∧
      g.status = .success ∧ g.out = Manifest.render format [] ++ "\n" ∧
      g.err = (warningLine (fault.message ++ " (emitting an empty manifest)")).render colours := by
  rw [scan_of_fault hv ho hp, generate_of_fault hv ho hp]
  exact ⟨rfl, rfl, render_errorLine colours _, rfl, render_plain colours _, rfl⟩

theorem finish_agree_iff (format : ManifestFormat) (colours : Bool) (hv : a.verbose = false) :
    Agree d a format colours ((scan d a).finish colours)
    ((generate d a format none).finish colours) ↔ ¬ Unlisted d a := by
  constructor
  · rintro hagree ⟨options, fault, ho, hp⟩
    obtain ⟨-, -, -, message, hs, hg⟩ := hagree.unlisted ⟨options, fault, ho, hp⟩
    obtain ⟨-, -, hs', -, -, hg'⟩ := said_unlisted format colours hv ho hp
    -- the warning says the message of the fault, the error says more
    have hwarning : message = fault.message := by
      have := warningLine_inj (hg.symm.trans hg')
      simpa using this
    have herror : message = fault.message ++ ": " ++ fault.reason := by
      have := hs.symm.trans hs'
      simpa using this
    have hlength := congrArg String.length (hwarning.symm.trans herror)
    rw [String.length_append, String.length_append] at hlength
    have hcolon : ": ".length = 2 := by decide
    omega
  · intro hlisted
    refine ⟨?_, fun h => absurd h hlisted, fun options o ho hp => agree_scanned format colours hv ho hp⟩
    intro message ho
    rw [scan_of_error hv ho, generate_of_error hv ho]
    exact ⟨rfl, rfl, rfl, rfl, rfl⟩

end

/-- What is asked of `scan` can be asked of `generate`. On every project and without `--verbose` a
run of each with these arguments agree, in whichever format, exactly if the files can be listed. If
they cannot, `scan` fails and says the reason twice, and `generate` gives an empty manifest and says
it once. -/
theorem agree_iff {rest : List String} {a : ScanArguments}
    (h : Invocation.ofArguments ("scan" :: rest) = .ok (.scan a))
    (hv : a.verbose = false) :
    Invocation.ofArguments ("generate" :: rest) = .ok (.generate a .json none) ∧
    ∀ (d : Disk) (e : Environment) (args : List String) (format : ManifestFormat),
      Invocation.ofArguments args = .ok (.generate a format none) →
      let s := run d e ("scan" :: rest)
      let g := run d e args
      (Agree d a format e.reportColours s g ↔ ¬ Unlisted d a) ∧
      ∀ options fault, (a.options d).2 = .ok options →
        Scan.project d options a.rootPath = .error fault →
        s.status = .error ∧ s.out = "" ∧
          s.err = "Error: " ++ (fault.message ++ ": " ++ fault.reason) ++ "\n" ∧
          g.status = .success ∧ g.out = Manifest.render format [] ++ "\n" ∧
          g.err =
            (warningLine (fault.message ++ " (emitting an empty manifest)")).render e.reportColours := by
  refine ⟨generate_of_scan h, ?_⟩
  intro d e args format hg
  dsimp only
  rw [finish_scan h, finish_generate hg]
  refine ⟨finish_agree_iff format e.reportColours hv, ?_⟩
  intro options fault ho hp
  exact said_unlisted format e.reportColours hv ho hp

/-- The two commands agree on two shortcuts and a file that is no text. -/
theorem a_mixed_project_is_agreed_on :
    Agree mixedDisk {} .json false (run mixedDisk {} ["scan"]) (run mixedDisk {} ["generate"]) ∧
    (run mixedDisk {} ["scan"]).out =
      "  /a  A  (src/a.ts)\n  /   B  (src/a.ts)\n✓ Found 2 shortcuts in 2 route files\n" ∧
    (run mixedDisk {} ["generate"]).err =
      "warning: Failed to read /old/b.ts: stream did not contain valid UTF-8\n" := by
  have hscan : Invocation.ofArguments ["scan"] = .ok (.scan {}) := rfl
  obtain ⟨hgenerate, hruns⟩ := agree_iff hscan rfl
  obtain ⟨hiff, hfault⟩ := hruns mixedDisk {} ["generate"] .json hgenerate
  have hends : (run mixedDisk {} ["scan"]).status = .success ∧ (run mixedDisk {} ["scan"]).out =
      "  /a  A  (src/a.ts)\n  /   B  (src/a.ts)\n✓ Found 2 shortcuts in 2 route files\n" := by
    decide +kernel
  refine ⟨hiff.mpr ?_, hends.2, by decide +kernel⟩
  rintro ⟨options, fault, ho, hp⟩
  have herror := (hfault options fault ho hp).1
  rw [hends.1] at herror
  cases herror

/-- What is no glob, and what the two commands say of it. -/
def unlistable : List String := ["--route-files", "["]

def scanSays : String :=
  "Error: Invalid route file pattern \"[\""
    ++ ": error parsing glob '[': unclosed character class; missing ']'"
    ++ ": error parsing glob '[': unclosed character class; missing ']'\n"

def generateSays : String :=
  "warning: Invalid route file pattern \"[\""
    ++ ": error parsing glob '[': unclosed character class; missing ']'"
    ++ " (emitting an empty manifest)\n"

theorem the_reason_is_said_twice :
    (run {} {} ("scan" :: unlistable)).err = scanSays ∧
    (run {} {} ("generate" :: unlistable)).err = generateSays ∧
    ¬ ∃ message, (run {} {} ("scan" :: unlistable)).err = "Error: " ++ message ++ "\n" ∧
      (run {} {} ("generate" :: unlistable)).err =
        "warning: " ++ message ++ " (emitting an empty manifest)\n" := by
  have hscan : (run {} {} ("scan" :: unlistable)).err = scanSays := by decide +kernel
  have hgenerate : (run {} {} ("generate" :: unlistable)).err = generateSays := by decide +kernel
  refine ⟨hscan, hgenerate, ?_⟩
  rw [hscan, hgenerate]
  rintro ⟨message, hs, hg⟩
  -- one text leaves room for a longer message than the other
  have hlengths : scanSays.length = 164 ∧ generateSays.length = 132 := by decide +kernel
  have herror : "Error: ".length = 7 ∧ "\n".length = 1 := by decide
  have hwarning : "warning: ".length = 9 ∧ " (emitting an empty manifest)\n".length = 30 := by decide
  rw [hs, hg] at hlengths
  simp only [String.length_append] at hlengths
  omega

end RouteShortcuts.CommandLine
