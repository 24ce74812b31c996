/-
  RouteShortcuts.Proofs.CommandLine.Warnings — when denied warnings fail a run.

  A run prints its warnings in three places: a line for each file that was passed over, one if
  `generate` gives an empty manifest because no files could be listed, and with `--verbose` one for
  each directory that the search could not open. Its status looks at the first alone. So with
  `--deny-warnings` a run may end well with a warning exactly if it degrades (`Degrades`) or says
  what it skipped (`ReportsSkipped`).

  Proved: a note is no warning and a warning is one, whatever it says (`warns_noteLine`,
  `warns_warningLine`); what either command prints and how it ends (`scan_ends`, `generate_ends`);
  and when the promise of the flag holds (`denied_warnings_iff`).
-/

import Mathlib.Data.List.Basic
import RouteShortcuts.CommandLine.Run
import RouteShortcuts.Proofs.CommandLine.Flags

namespace RouteShortcuts.CommandLine

open RouteShortcuts.Files RouteShortcuts.Styled

/-! ## Lines -/

/-- Does a line of the text begin with `warning:`? -/
def warns (text : String) : Bool := (text.toList.splitOn '\n').any ("warning:".toList.isPrefixOf ·)

theorem warns_line (line rest : String) :
    warns (line ++ "\n" ++ rest) = (warns line || warns rest) := by
  have hsplit : ∀ front back : List Char, (front ++ '\n' :: back).splitOn '\n' =
      front.splitOn '\n' ++ back.splitOn '\n' :=
    fun front back => List.splitOnP_append_cons front back (by decide)
  have htext : (line ++ "\n" ++ rest).toList = line.toList ++ '\n' :: rest.toList := by simp
  rw [warns, htext, hsplit, List.any_append, warns, warns]

theorem warns_of_one_line {line : String} (h : '\n' ∉ line.toList) :
    warns line = "warning:".toList.isPrefixOf line.toList := by
  rw [warns, List.splitOn_eq_singleton h, List.any_cons, List.any_nil, Bool.or_false]

/-- What follows does not change how the first line begins. -/
theorem warns_warning (message : String) : warns ("warning:" ++ message) = true := by
  have htext : ("warning:" ++ message).toList =
      'w' :: 'a' :: 'r' :: 'n' :: 'i' :: 'n' :: 'g' :: ':' :: message.toList := by
    simp
  obtain ⟨first, rest, hsplit⟩ := List.exists_cons_of_ne_nil (List.splitOn_ne_nil '\n' message.toList)
  simp [warns, htext, List.splitOn_cons_eq_if_modifyHead, hsplit]

theorem warns_note {message : String} (h : '\n' ∉ message.toList) :
    warns ("Note: " ++ message) = false := by
  have hline : '\n' ∉ ("Note: " ++ message).toList := by simp [h]
  rw [warns_of_one_line hline, String.toList_append]
  rfl

/-! ## Reports -/

theorem render_append (colours : Bool) (s t : Styled) :
    (s ++ t).render colours = s.render colours ++ t.render colours := by
  rw [render, List.map_append, String.join_append, render, render]

theorem render_plain (colours : Bool) (s : String) : render colours (plain s) = s := by
  simp [render, plain, Piece.render, padded]

theorem warns_noteLine {message : String} (h : '\n' ∉ message.toList) (rest : Styled) :
    warns (render false (noteLine message ++ rest)) = warns (rest.render false) := by
  have hnote : render false (noteLine message) = "Note: " ++ message ++ "\n" := by
    simp [render, noteLine, plain, Piece.render, padded]
  rw [render_append, hnote, warns_line, warns_note h, Bool.false_or]

theorem warns_warningLine (message : String) (rest : Styled) :
    warns (render false (warningLine message ++ rest)) = true := by
  have hwarning : render false (warningLine message) = "warning:" ++ (" " ++ message) ++ "\n" := by
    simp [render, warningLine, plain, inked, Piece.render, padded, String.append_assoc]
  rw [render_append, hwarning, warns_line, warns_warning, Bool.true_or]

theorem warns_warningLines (warnings : List FileWarning) :
    warns ((warningLines warnings).render false) = !warnings.isEmpty := by
  cases warnings with
  | nil => rfl
  | cons w warnings => exact warns_warningLine w.message _

theorem not_mem_toDigits {c : Char} (hc : c.isDigit = false) (n : Nat) : c ∉ Nat.toDigits 10 n := by
  intro h
  rw [Nat.isDigit_of_mem_toDigits (by decide) (by decide) h] at hc
  cases hc

/-- A character that is no digit stands in a number of things only if it stands in their name. -/
theorem not_mem_counted {c : Char} (hc : c.isDigit = false) (hblank : c ≠ ' ') {n : Nat}
    {one many : String} (ho : c ∉ one.toList) (hm : c ∉ many.toList) :
    c ∉ (counted n one many).toList := by
  unfold counted
  split <;> simp [not_mem_toDigits hc, hblank, ho, hm]

theorem not_mem_foundMessage {c : Char} (hc : c.isDigit = false)
    (hwords : c ∉ "Found shortcuts in route files".toList) (shortcuts files : Nat) :
    c ∉ (foundMessage shortcuts files).toList := by
  have hword : ∀ word : String, word.toList ⊆ "Found shortcuts in route files".toList →
      c ∉ word.toList :=
    fun _ hsub hmem => hwords (hsub hmem)
  have hblank : c ≠ ' ' := by
    rintro rfl
    exact hwords (by decide)
  have hs : c ∉ (counted shortcuts "shortcut" "shortcuts").toList :=
    not_mem_counted hc hblank (hword _ (by decide)) (hword _ (by decide))
  have hf : c ∉ (counted files "route file" "route files").toList :=
    not_mem_counted hc hblank (hword _ (by decide)) (hword _ (by decide))
  simp only [foundMessage, String.toList_append, List.mem_append, not_or]
  exact ⟨⟨⟨hword _ (by decide), hs⟩, hword _ (by decide)⟩, hf⟩

/-- What is noted on the way to the options is no warning. -/
theorem warns_options (d : Disk) (a : ScanArguments) (rest : Styled) :
    warns (render false ((a.options d).1 ++ rest)) = warns (rest.render false) := by
  unfold ScanArguments.options
  split
  · rfl
  · dsimp only
    unfold ScanArguments.configNote
    split
    · exact warns_noteLine (by decide) rest
    · rfl

/-- What is noted of a search warns exactly if that is asked for and a directory could not be opened. -/
theorem warns_searchNotes (a : ScanArguments) (s : Discovery.Search) (rest : Styled) :
    warns (render false (a.searchNotes s ++ rest)) =
      ((a.verbose && !s.skipped.isEmpty) || warns (rest.render false)) := by
  unfold ScanArguments.searchNotes
  cases a.verbose with
  | false => rfl
  | true =>
    cases hs : s.skipped with
    | nil => simp [skippedLines, skippedNote]
    | cons first skipped =>
      simp only [if_true, skippedLines, List.flatMap_cons, List.append_assoc]
      exact warns_warningLine first.message _

/-! ## How a run ends -/

section

variable (d : Disk) (a : ScanArguments)

/-- Whether a scan of these files warns. -/
theorem scan_ends : (scan d a).status = .error ∨ ∃ options outcome, (a.options d).2 = .ok options ∧
    Scan.project d options a.rootPath = .ok outcome ∧ (scan d a).status = a.status outcome.warnings ∧
    warns ((scan d a).err.render false) =
      ((a.verbose && !(a.search d options).skipped.isEmpty) || !outcome.warnings.isEmpty) := by
  have hnotes := warns_options d a
  unfold scan
  split
  · exact Or.inl rfl
  · rename_i notes options ho
    rw [ho] at hnotes ⊢
    split
    · exact Or.inl rfl
    · rename_i outcome hp
      refine Or.inr ⟨options, outcome, rfl, hp, rfl, ?_⟩
      dsimp only
      rw [List.append_assoc, hnotes, warns_searchNotes, warns_warningLines]

/-- What `generate` says about a scan: the warning that there was none, what was found, the files
passed over. -/
def scanSaid (a : ScanArguments) (options : Options)
    (scanned : Except DiscoveryFault Outcome) : Styled :=
  (outcomeOrEmpty scanned).2 ++
    (if a.verbose then
      noteLine (foundMessage (Manifest.entries options (outcomeOrEmpty scanned).1.shortcuts).length
      (outcomeOrEmpty scanned).1.filesScanned) else []) ++
    warningLines (outcomeOrEmpty scanned).1.warnings

theorem warns_scanSaid (options : Options) (scanned : Except DiscoveryFault Outcome) :
    warns ((scanSaid a options scanned).render false) =
      match scanned with
      | .ok outcome => !outcome.warnings.isEmpty
      | .error _ => true := by
  unfold scanSaid
  cases scanned with
  | error fault => exact warns_warningLine _ _
  | ok outcome =>
    simp only [outcomeOrEmpty, List.nil_append]
    split
    · rw [warns_noteLine (not_mem_foundMessage (by decide) (by decide) _ _), warns_warningLines]
    · exact warns_warningLines outcome.warnings

/-- A manifest is given, or the run fails. -/
theorem generate_cases (format : ManifestFormat) (output : Option String) :
    (generate d a format output).status = .error ∨ ∃ options, (a.options d).2 = .ok options ∧
      (generate d a format output).status =
        a.status (outcomeOrEmpty (Scan.project d options a.rootPath)).1.warnings ∧
      (generate d a format output).err = (a.options d).1 ++
        (a.searchNotes (a.search d options) ++ scanSaid a options
          (Scan.project d options a.rootPath)) := by
  unfold generate
  split
  · exact Or.inl rfl
  · rename_i notes options ho
    rw [ho]
    have herr : ∀ r s t u : Styled, notes ++ r ++ s ++ t ++ u = notes ++ (r ++ (s ++ t ++ u)) := by
      intro r s t u
      simp only [List.append_assoc]
    cases output with
    | none => exact Or.inr ⟨options, rfl, rfl, herr _ _ _ _⟩
    | some path =>
      dsimp only
      split
      · exact Or.inl rfl
      · exact Or.inr ⟨options, rfl, rfl, herr _ _ _ _⟩

theorem generate_ends (format : ManifestFormat) (output : Option String) :
    (generate d a format output).status = .error ∨ ∃ options, (a.options d).2 = .ok options ∧
      ((∃ outcome, Scan.project d options a.rootPath = .ok outcome ∧
          (generate d a format output).status = a.status outcome.warnings ∧
          warns ((generate d a format output).err.render false) =
            ((a.verbose && !(a.search d options).skipped.isEmpty) || !outcome.warnings.isEmpty)) ∨
        ∃ fault, Scan.project d options a.rootPath = .error fault ∧
          (generate d a format output).status = .success ∧
          warns ((generate d a format output).err.render false) = true) := by
  rcases generate_cases d a format output with hfail | ⟨options, ho, hstatus, herr⟩
  · exact Or.inl hfail
  refine Or.inr ⟨options, ho, ?_⟩
  have hwarns := warns_searchNotes a (a.search d options)
    (scanSaid a options (Scan.project d options a.rootPath))
  rw [← warns_options d a, ← herr, warns_scanSaid] at hwarns
  cases hp : Scan.project d options a.rootPath with
  | ok outcome =>
    rw [hp] at hstatus hwarns
    exact Or.inl ⟨outcome, rfl, hstatus, hwarns⟩
  | error fault =>
    rw [hp] at hstatus hwarns
    refine Or.inr ⟨fault, rfl, hstatus.trans ?_, by rw [hwarns, Bool.or_true]⟩
    simp [ScanArguments.status, outcomeOrEmpty]

end

/-! ## The flag -/

/-- The arguments ask for a scan, or for the manifest of one. -/
def AsksForScan (args : List String) (a : ScanArguments) : Prop :=
  Invocation.ofArguments args = .ok (.scan a) ∨
    ∃ format output, Invocation.ofArguments args = .ok (.generate a format output)

/-- A manifest is given, but of no scan: the files could not be listed. -/
def Degrades (d : Disk) (args : List String) : Prop :=
  ∃ a format output options fault, Invocation.ofArguments args = .ok (.generate a format output) ∧
    (generate d a format output).status ≠ .error ∧ (a.options d).2 = .ok options ∧
    Scan.project d options a.rootPath = .error fault

/-- With `--verbose` the search says of a directory that it could not open it. -/
def ScanArguments.ReportsSkipped (d : Disk) (a : ScanArguments) : Prop :=
  a.verbose = true ∧ ∃ options, (a.options d).2 = .ok options ∧ (a.search d options).skipped ≠ []

/-- The run is one that says so. -/
def ReportsSkipped (d : Disk) (args : List String) : Prop :=
  ∃ a, AsksForScan args a ∧ a.ReportsSkipped d

section

variable {d : Disk} {e : Environment} {args : List String} {a : ScanArguments}

theorem reportsSkipped_iff {options : Options} (ho : (a.options d).2 = .ok options) :
    a.ReportsSkipped d ↔ (a.verbose && !(a.search d options).skipped.isEmpty) = true := by
  have hsome : (a.search d options).skipped ≠ [] ↔ (!(a.search d options).skipped.isEmpty) = true := by
    simp
  rw [Bool.and_eq_true, ← hsome]
  constructor
  · rintro ⟨hv, options', ho', hskipped⟩
    rw [ho] at ho'
    cases ho'
    exact ⟨hv, hskipped⟩
  · exact fun h => ⟨h.1, options, ho, h.2⟩

theorem denied_status (ha : a.denyWarnings = true) (warnings : List FileWarning) :
    (a.status warnings).code = 0 ↔ warnings = [] := by
  cases warnings <;> simp [ScanArguments.status, ha, ExitStatus.code]

/-- What is asked for is one thing. -/
theorem reportsSkipped_of_asks (hasks : AsksForScan args a) :
    ReportsSkipped d args ↔ a.ReportsSkipped d := by
  have hone : ∀ {b : ScanArguments}, AsksForScan args b → b = a := by
    intro b hb
    rcases hasks with h | ⟨_, _, h⟩
    · rcases hb with hb | ⟨_, _, hb⟩
      · exact (Invocation.scan.inj (Except.ok.inj (h.symm.trans hb))).symm
      · cases h.symm.trans hb
    · rcases hb with hb | ⟨_, _, hb⟩
      · cases h.symm.trans hb
      · exact (Invocation.generate.inj (Except.ok.inj (h.symm.trans hb))).1.symm
  exact ⟨fun ⟨b, hb, hsays⟩ => hone hb ▸ hsays, fun hsays => ⟨a, hasks, hsays⟩⟩

theorem denies_of_asks (hasks : AsksForScan args a) (hflag : "--deny-warnings" ∈ args) :
    a.denyWarnings = true := by
  rcases hasks with h | ⟨format, output, h⟩
  · obtain ⟨a', ha, hi | ⟨format, output, hi⟩⟩ := denies_of_given h hflag
    · cases hi
      exact ha
    · cases hi
  · obtain ⟨a', ha, hi | ⟨format, output, hi⟩⟩ := denies_of_given h hflag
    · cases hi
    · cases hi
      exact ha

/-- Help and the version are no errors, and print none. -/
theorem stopped_quiet {stop : Stop} (h : Invocation.ofArguments args = .error stop)
    (hcode : (run d e args).status.code = 0) : warns (run d e args).err = false := by
  have hrun : run d e args = (stopped d stop).finish e.usageColours := by rw [run, h]
  rw [hrun] at hcode ⊢
  cases stop with
  | help | version => rfl
  | fault f l used => cases hcode

@[simp] theorem finish_status (colours : Bool) (r : Result) :
    (r.finish colours).status = r.status := rfl

@[simp] theorem finish_disk (colours : Bool) (r : Result) : (r.finish colours).disk = r.disk := rfl

@[simp] theorem finish_err (colours : Bool) (r : Result) :
    (r.finish colours).err = r.err.render colours := rfl

theorem finish_scan (h : Invocation.ofArguments args = .ok (.scan a)) :
    run d e args = (scan d a).finish e.reportColours := by
  rw [run, h]
  simp only [Invocation.isUsage, Bool.false_eq_true, if_false, perform]

theorem finish_generate {format : ManifestFormat} {output : Option String}
    (h : Invocation.ofArguments args = .ok (.generate a format output)) :
    run d e args = (generate d a format output).finish e.reportColours := by
  rw [run, h]
  simp only [Invocation.isUsage, Bool.false_eq_true, if_false, perform]

theorem run_scan (hc : e.reportColours = false) (h : Invocation.ofArguments args = .ok (.scan a)) :
    run d e args = (scan d a).finish false := by
  rw [finish_scan h, hc]

theorem run_generate {format : ManifestFormat} {output : Option String} (hc : e.reportColours = false)
    (h : Invocation.ofArguments args = .ok (.generate a format output)) :
    run d e args = (generate d a format output).finish false := by
  rw [finish_generate h, hc]

/-- A scan that denies warnings and ends well has one exactly if it says what it skipped. -/
theorem scan_quiet_iff (ha : a.denyWarnings = true) :
    ((scan d a).status.code = 0 → warns ((scan d a).err.render false) = false) ↔
      ¬ ((scan d a).status.code = 0 ∧ a.ReportsSkipped d) := by
  rcases scan_ends d a with hfail | ⟨options, outcome, ho, -, hstatus, hwarns⟩
  · rw [hfail]
    exact iff_of_true (fun hcode => by cases hcode) fun h => by cases h.1
  · rw [hstatus, denied_status ha, hwarns, reportsSkipped_iff ho]
    cases outcome.warnings <;> simp

/-- A manifest that denies warnings and ends well has one exactly if it is of no scan, or says what the
scan skipped. -/
theorem generate_quiet_iff {format : ManifestFormat} {output : Option String}
    (ha : a.denyWarnings = true) :
    ((generate d a format output).status.code = 0 →
      warns ((generate d a format output).err.render false) = false) ↔
      (¬ ∃ options fault, (generate d a format output).status ≠ .error ∧ (a.options d).2 = .ok options ∧
        Scan.project d options a.rootPath = .error fault) ∧
      ¬ ((generate d a format output).status.code = 0 ∧ a.ReportsSkipped d) := by
  rcases generate_ends d a format output with
    hfail | ⟨options, ho, ⟨outcome, hp, hstatus, hwarns⟩ | ⟨fault, hp, hstatus, hwarns⟩⟩
  · rw [hfail]
    exact iff_of_true (fun hcode => by cases hcode)
      ⟨by rintro ⟨_, _, hne, -⟩; exact hne rfl, fun h => by cases h.1⟩
  · have hscanned : ¬ ∃ options fault, (generate d a format output).status ≠ .error ∧
        (a.options d).2 = .ok options ∧ Scan.project d options a.rootPath = .error fault := by
      rintro ⟨options', fault, -, ho', hp'⟩
      rw [ho] at ho'
      cases ho'
      rw [hp] at hp'
      cases hp'
    rw [and_iff_right hscanned, hstatus, denied_status ha, hwarns, reportsSkipped_iff ho]
    cases outcome.warnings <;> simp
  · refine iff_of_false (fun h => ?_) ?_
    · rw [hstatus, hwarns] at h
      cases h rfl
    · exact fun h => h.1 ⟨options, fault, by rw [hstatus]; decide, ho, hp⟩

/-- Files that were passed over fail a run that denies warnings. -/
theorem passed_over_fails (hc : e.reportColours = false) (ha : a.denyWarnings = true)
    (hasks : AsksForScan args a) {options : Options} {outcome : Outcome}
    (ho : (a.options d).2 = .ok options) (hp : Scan.project d options a.rootPath = .ok outcome)
    (hw : outcome.warnings ≠ []) : (run d e args).status.code ≠ 0 := by
  have hdenied : (a.status outcome.warnings).code ≠ 0 := fun hcode => hw ((denied_status ha _).mp hcode)
  rcases hasks with h | ⟨format, output, h⟩
  · rw [run_scan hc h, finish_status]
    rcases scan_ends d a with hfail | ⟨options', outcome', ho', hp', hstatus, -⟩
    · rw [hfail]
      decide
    · rw [ho] at ho'
      cases ho'
      rw [hp] at hp'
      cases hp'
      rwa [hstatus]
  · rw [run_generate hc h, finish_status]
    rcases generate_ends d a format output with
      hfail | ⟨options', ho', ⟨outcome', hp', hstatus, -⟩ | ⟨fault, hp', -, -⟩⟩
    · rw [hfail]
      decide
    · rw [ho] at ho'
      cases ho'
      rw [hp] at hp'
      cases hp'
      rwa [hstatus]
    · rw [ho] at ho'
      cases ho'
      rw [hp] at hp'
      cases hp'

end

/-- With colours off and `--deny-warnings` among the arguments, a run that ends with status 0 has
printed no line that begins with `warning:`, exactly unless it gave an empty manifest because the
files could not be listed, or ended so with `--verbose` after its search could not open a directory.
A run that passes files over never ends with status 0. -/
theorem denied_warnings_iff (d : Disk) (e : Environment) (args : List String)
    (hc : e.reportColours = false) (hflag : "--deny-warnings" ∈ args) :
    (((run d e args).status.code = 0 → warns (run d e args).err = false) ↔
      ¬ Degrades d args ∧ ¬ ((run d e args).status.code = 0 ∧ ReportsSkipped d args)) ∧
      ∀ a options outcome, AsksForScan args a → (a.options d).2 = .ok options →
        Scan.project d options a.rootPath = .ok outcome → outcome.warnings ≠ [] →
        (run d e args).status.code ≠ 0 := by
  refine ⟨?_, fun a _ _ hasks ho hp hw =>
    passed_over_fails hc (denies_of_asks hasks hflag) hasks ho hp hw⟩
  cases h : Invocation.ofArguments args with
  | error stop =>
    refine iff_of_true (stopped_quiet h) ⟨?_, ?_⟩
    · rintro ⟨a, format, output, _, _, hi, -⟩
      rw [h] at hi
      cases hi
    · rintro ⟨-, a, hasks, -⟩
      rcases hasks with hi | ⟨format, output, hi⟩ <;> (rw [h] at hi; cases hi)
  | ok i =>
    obtain ⟨a, ha, rfl | ⟨format, output, rfl⟩⟩ := denies_of_given h hflag
    · have hno : ¬ Degrades d args := by
        rintro ⟨a, format, output, _, _, hi, -⟩
        rw [h] at hi
        cases hi
      rw [run_scan hc h, finish_status, finish_err, and_iff_right hno,
        reportsSkipped_of_asks (Or.inl h)]
      exact scan_quiet_iff ha
    · rw [run_generate hc h, finish_status, finish_err,
        reportsSkipped_of_asks (Or.inr ⟨format, output, h⟩)]
      refine (generate_quiet_iff ha).trans (and_congr_left' (not_congr ⟨?_, ?_⟩))
      · rintro ⟨options, fault, hend⟩
        exact ⟨a, format, output, options, fault, h, hend⟩
      · rintro ⟨a', format', output', options, fault, hi, hend⟩
        rw [h] at hi
        cases hi
        exact ⟨options, fault, hend⟩

/-- A project with a file that is no text, and a scan of it. -/
def unreadableDisk : Disk := { top := .directory [("a.ts", .file ⟨#[255]⟩)] }

def denyingScan : List String := ["scan", "--deny-warnings", "--route-files", "*.ts"]

theorem an_unreadable_file_fails_a_denying_scan :
    (run unreadableDisk {} denyingScan).status.code = 1 ∧ ¬ Degrades unreadableDisk denyingScan := by
  have hcode : (run unreadableDisk {} denyingScan).status.code = 1 := by decide +kernel
  have hquiet := (denied_warnings_iff unreadableDisk {} denyingScan rfl (by decide)).1.mp fun h => by
    rw [hcode] at h
    cases h
  exact ⟨hcode, hquiet.1⟩

/-- A manifest of files that cannot be listed, because the pattern is no glob. -/
def denyingManifest : List String := ["generate", "--deny-warnings", "--route-files", "["]

theorem a_bad_pattern_warns_and_ends_well : "--deny-warnings" ∈ denyingManifest ∧
    (run {} {} denyingManifest).status.code = 0 ∧ warns (run {} {} denyingManifest).err = true := by
  decide +kernel

/-- A project in which one directory may not be read. -/
def barredDisk : Disk where
  top := .directory [("src", .directory [("a.ts", .file "".toUTF8)])]
  barred := [["src"]]

def verboseScan : List String := ["scan", "--verbose", "--deny-warnings", "--route-files", "**/*.ts"]

/-- What a search could not open is said and not denied. -/
theorem a_barred_directory_warns_and_ends_well :
    (run barredDisk {} verboseScan).status.code = 0 ∧ (run barredDisk {} verboseScan).err =
      "Note: No .shortcutsrc.json found, using default configuration\n"
        ++ "warning: Cannot access path: IO error for operation on /src: "
        ++ "Permission denied (os error 13)\n"
        ++ "Note: 1 path(s) skipped due to access errors\n" := by
  decide +kernel

end RouteShortcuts.CommandLine
