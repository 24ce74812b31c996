/-
  RouteShortcuts.Proofs.CommandLine.Payload — one manifest, wherever it is handed over.

  A run of `generate` prints its manifest or writes it to a file. Notes and warnings go to the other
  stream, and what is printed beside a file is no manifest, so nothing gets between the text and its
  reader: colours do not show in it, and what the program says about its work stands elsewhere. The
  text itself depends on the tree, the format and the arguments that choose what is scanned, and on
  nothing else (`payload`).

  Proved: a run fails before it could say anything on its output, or hands over the payload
  (`Handed`, `generate_handed`); hence `payload_on_every_channel`, which also compares any two runs
  that scan the same.
-/

import RouteShortcuts.Proofs.CommandLine.Warnings
import RouteShortcuts.Proofs.Files.Writing

namespace RouteShortcuts.CommandLine

open RouteShortcuts.Files RouteShortcuts.Styled

/-- The entries of a manifest: of what a scan found, or none if there was no scan. -/
def entriesOf (options : Options) : Except DiscoveryFault Outcome → List ManifestEntry
  | .ok outcome => Manifest.entries options outcome.shortcuts
  | .error _ => []

/-- The manifest of a project, with the newline at its end. -/
def payload (d : Disk) (a : ScanArguments) (format : ManifestFormat) (options : Options) : String :=
  Manifest.render format (entriesOf options (Scan.project d options a.rootPath)) ++ "\n"

/-- A run hands over this text and no more, as its output or as the content of a file. -/
def Delivers (f : Finish) (output : Option String) (text : String) : Prop :=
  match output with
  | none => f.out = text
  | some path => f.disk.read path = .ok text.toUTF8

/-- Which settings change what a run says of its work, but not its work. -/
def ScanArguments.saying (a : ScanArguments) (verbose denyWarnings : Bool) : ScanArguments :=
  { a with verbose, denyWarnings }

theorem entriesOf_eq (options : Options) (scanned : Except DiscoveryFault Outcome) :
    Manifest.entries options (outcomeOrEmpty scanned).1.shortcuts = entriesOf options scanned := by
  cases scanned <;> rfl

theorem status_ne_error (a : ScanArguments) (warnings : List FileWarning) :
    a.status warnings ≠ .error := by
  unfold ScanArguments.status
  split <;> simp

/-! ## What is asked for -/

section

variable (a : ScanArguments) (verbose denyWarnings : Bool)

@[simp] theorem saying_rootPath : (a.saying verbose denyWarnings).rootPath = a.rootPath := rfl

@[simp] theorem saying_override (c : Config) :
    (a.saying verbose denyWarnings).override c = a.override c := rfl

theorem saying_options (d : Disk) :
    ((a.saying verbose denyWarnings).options d).2 = (a.options d).2 := by
  unfold ScanArguments.options
  rw [saying_rootPath]
  cases Settings.load d a.rootPath with
  | error fault => rfl
  | ok loaded => simp only [saying_override]

end

/-! ## How a run hands over its manifest -/

section

variable {d : Disk} {a : ScanArguments} {format : ManifestFormat} {output : Option String}

theorem writeManifest_read {path text : String} {d' : Disk}
    (h : writeManifest d path text = (d', .ok ())) :
    d'.read path = .ok (text ++ "\n").toUTF8 := by
  unfold writeManifest at h
  split at h
  · cases h
  · split at h
    · rename_i hw
      cases h
      exact Disk.read_write hw
    · cases h

/-- How a run ends: without options, without a file to write to, or with the manifest handed over. -/
inductive Handed (d : Disk) (a : ScanArguments) (format : ManifestFormat) :
    Option String → Result → Prop
  | unconfigured {output : Option String} {message : String} {r : Result} :
    (a.options d).2 = .error message →
      r.status = .error → r.out = [] → r.disk = d → Handed d a format output r
  | unwritten {path : String} {options : Options} {r : Result} : (a.options d).2 = .ok options →
      r.status = .error → r.out = [] → Handed d a format (some path) r
  | printed {options : Options} {r : Result} : (a.options d).2 = .ok options → r.status ≠ .error →
      r.out = plain (payload d a format options) → Handed d a format none r
  | written {path : String} {options : Options} {r : Result} : (a.options d).2 = .ok options →
    r.status ≠ .error →
      r.disk.read path = .ok (payload d a format options).toUTF8 → Handed d a format (some path) r

theorem generate_handed : Handed d a format output (generate d a format output) := by
  unfold generate
  split
  · rename_i ho
    exact .unconfigured (by rw [ho]) rfl rfl rfl
  · rename_i notes options ho
    have hoptions : (a.options d).2 = .ok options := by rw [ho]
    dsimp only
    rw [entriesOf_eq]
    cases output with
    | none => exact .printed hoptions (status_ne_error a _) rfl
    | some path =>
      dsimp only
      split
      · exact .unwritten hoptions rfl rfl
      · rename_i hw
        exact .written hoptions (status_ne_error a _) (writeManifest_read hw)

theorem Handed.delivers {r : Result} (h : Handed d a format output r) {colours : Bool}
    (hr : (r.finish colours).status ≠ .error) :
    ∃ options, (a.options d).2 = .ok options ∧
      Delivers (r.finish colours) output (payload d a format options) := by
  rw [finish_status] at hr
  cases h with
  | unconfigured _ hs | unwritten _ hs => exact absurd hs hr
  | @printed options _ ho _ hout =>
    refine ⟨options, ho, ?_⟩
    show r.out.render colours = _
    rw [hout, render_plain]
  | @written path options _ ho _ hread => exact ⟨options, ho, hread⟩

theorem Handed.silent {r : Result} (h : Handed d a format output r) {colours : Bool}
    (hr : (r.finish colours).status = .error) : (r.finish colours).out = "" := by
  rw [finish_status] at hr
  have hout : r.out = [] := by
    cases h with
    | unconfigured _ _ hout | unwritten _ _ hout => exact hout
    | printed _ hs | written _ hs => exact absurd hr hs
  show r.out.render colours = ""
  rw [hout]
  rfl

theorem Handed.untouched {r : Result} (h : Handed d a format output r) {message : String}
    (ho : (a.options d).2 = .error message) (colours : Bool) :
    (r.finish colours).status = .error ∧ (r.finish colours).disk = d := by
  cases h with
  | unconfigured _ hs _ hd => exact ⟨hs, hd⟩
  | unwritten ho' | printed ho' | written ho' =>
    rw [ho] at ho'
    cases ho'

end

/-- A run of `generate` that fails prints nothing, and leaves the disk as it was if there are no
options. Any other run hands over the payload, be it printed or written; and any two runs on the
same tree that differ in nothing but where they hand it over, what they say beside and in their
environment hand over the same text. -/
theorem payload_on_every_channel {args : List String} {a : ScanArguments} {format : ManifestFormat}
    {output : Option String} (h : Invocation.ofArguments args = .ok (.generate a format output))
    (d : Disk) (e : Environment) :
    ((run d e args).status = .error → (run d e args).out = "") ∧
    (∀ message, (a.options d).2 = .error message →
      (run d e args).status = .error ∧ (run d e args).disk = d) ∧
    ((run d e args).status ≠ .error →
      ∃ options, (a.options d).2 = .ok options ∧
        Delivers (run d e args) output (payload d a format options)) ∧
    (∀ e' args' output' verbose denyWarnings,
      Invocation.ofArguments args' = .ok (.generate (a.saying verbose denyWarnings) format output') →
        (run d e args).status ≠ .error → (run d e' args').status ≠ .error →
          ∃ text, Delivers (run d e args) output text ∧ Delivers (run d e' args') output' text) := by
  have hhanded : Handed d a format output (generate d a format output) := generate_handed
  rw [finish_generate h]
  refine ⟨hhanded.silent, ?_, hhanded.delivers, ?_⟩
  · intro message ho
    exact hhanded.untouched ho e.reportColours
  · intro e' args' output' verbose denyWarnings h' hr hr'
    rw [finish_generate h'] at hr' ⊢
    obtain ⟨options, ho, hdelivers⟩ := hhanded.delivers hr
    obtain ⟨options', ho', hdelivers'⟩ := generate_handed.delivers hr'
    rw [saying_options, ho] at ho'
    cases ho'
    exact ⟨payload d a format options, hdelivers, hdelivers'⟩

def mixedText : String :=
  "\x7b\"routeFiles\": [\"old/*.ts\", \"src/*.ts\"], "
    ++ "\"routeExportPattern\": \"a\", \"functionName\": \"f\"\x7d"

def pairText : String :=
  "export const a = f(\"/a\", \x7bname: \"A\"\x7d), aa = f(\"/\", \x7bname: \"B\"\x7d)"

/-- A project with two shortcuts, and a file that is no text. -/
def mixedDisk : Disk where
  top := .directory
    [(Settings.fileName, .file mixedText.toUTF8), ("old", .directory [("b.ts", .file ⟨#[0xff]⟩)]),
      ("src", .directory [("a.ts", .file pairText.toUTF8)])]

/-- Two ways to ask for the manifest of a project. -/
def printing : List String := ["generate"]

def writing : List String := ["generate", "--output", "out/m.json", "--verbose", "--deny-warnings"]

theorem a_manifest_is_printed_and_written :
    (∃ text, Delivers (run mixedDisk {} printing) none text ∧
      Delivers (run mixedDisk { forceColours := some "1" } writing) (some "out/m.json") text) ∧
    (run mixedDisk {} printing).err =
      "warning: Failed to read /old/b.ts: stream did not contain valid UTF-8\n" ∧
    (run mixedDisk {} writing).out = "✓ Wrote 2 shortcuts to out/m.json\n" := by
  have hprinting : Invocation.ofArguments printing = .ok (.generate {} .json none) := by decide +kernel
  obtain ⟨-, -, -, hsame⟩ := payload_on_every_channel hprinting mixedDisk {}
  refine ⟨?_, by decide +kernel, by decide +kernel⟩
  exact hsame { forceColours := some "1" } writing (some "out/m.json") true true (by decide +kernel)
    (by decide +kernel) (by decide +kernel)

end RouteShortcuts.CommandLine
