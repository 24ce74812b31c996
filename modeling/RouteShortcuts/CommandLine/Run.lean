/-
  RouteShortcuts.CommandLine.Run — what the program does.

  A run reads its arguments and the file system and leaves two texts, a status and the file system as
  it is afterwards. Only `init` and `generate` with an output write a file. A pattern that cannot be
  followed fails a scan; `generate` gives an empty manifest then, so that a build that needs one goes
  on.
-/

import RouteShortcuts.CommandLine.Reader
import RouteShortcuts.CommandLine.Report
import RouteShortcuts.Settings

namespace RouteShortcuts.CommandLine

open RouteShortcuts.Files RouteShortcuts.Styled

inductive ExitStatus where
  | success
  | failure
  | error
  deriving DecidableEq, Repr

def ExitStatus.code : ExitStatus → Nat
  | .success => 0
  | .failure => 1
  | .error => 2

/-- The variables that decide on colours: one forces them, one forbids them. -/
structure Environment where
  forceColours : Option String := none
  noColours : Option String := none
  deriving DecidableEq, Repr

namespace Environment

def forced (e : Environment) : Bool :=
  match e.forceColours with
  | some v => v != "0"
  | none => false

/-- Do reports have colours? Without a terminal they must be forced. -/
def reportColours (e : Environment) : Bool := e.forced

/-- Does usage have colours? Here a variable that forbids them goes first, unless it is empty. -/
def usageColours (e : Environment) : Bool := e.forced && (e.noColours.getD "" == "")

end Environment

structure Result where
  disk : Disk
  out : Styled := []
  err : Styled := []
  status : ExitStatus := .success

/-! ## Scans -/

namespace ScanArguments

def rootPath (a : ScanArguments) : String := a.root.getD "."

/-- A configuration with what the arguments say in the place of what it says. -/
def override (a : ScanArguments) (c : Config) : Config :=
  { c with
    routeFiles := if a.routeFiles.isEmpty then c.routeFiles else a.routeFiles
    functionName := a.functionName.getD c.functionName
    defaultIcon := a.defaultIcon.getD c.defaultIcon }

/-- What is noted when no file configures the project. -/
def configNote (a : ScanArguments) (l : Loaded) : Styled :=
  if a.verbose ∧ !l.fromFile then
    noteLine "No .shortcutsrc.json found, using default configuration"
  else []

/-- The options of a scan, and what is noted on the way to them. -/
def options (d : Disk) (a : ScanArguments) : Styled × Except String Options :=
  match Settings.load d a.rootPath with
  | .error fault => ([], .error fault.report)
  | .ok loaded =>
    (a.configNote loaded,
      match (a.override loaded.config).resolve with
      | .error fault => .error fault.report
      | .ok options => .ok options)

def search (d : Disk) (a : ScanArguments) (options : Options) : Discovery.Search :=
  Discovery.search d a.rootPath options.routeFiles

/-- What is noted of a search: the directories that could not be opened, and how many they were if
there is a list of files. -/
def searchNotes (a : ScanArguments) (s : Discovery.Search) : Styled :=
  if a.verbose then
    skippedLines s.skipped ++ if s.fault.isNone then skippedNote s.skipped else []
  else []

/-- The status of a run that came to its end with these warnings. -/
def status (a : ScanArguments) (warnings : List FileWarning) : ExitStatus :=
  if a.denyWarnings ∧ !warnings.isEmpty then .failure else .success

end ScanArguments

def failed (d : Disk) (notes : Styled) (message : String) : Result :=
  { disk := d, err := notes ++ errorLine message, status := .error }

/-- Lists the shortcuts of a project. -/
def scan (d : Disk) (a : ScanArguments) : Result :=
  match a.options d with
  | (notes, .error message) => failed d notes message
  | (notes, .ok options) =>
    let notes := notes ++ a.searchNotes (a.search d options)
    match Scan.project d options a.rootPath with
    | .error fault => failed d notes (fault.message ++ ": " ++ fault.reason)
    | .ok outcome =>
      let root := match d.canonical a.rootPath with
        | .ok path => path
        | .error _ => a.rootPath
      { disk := d
        out := scanReport root outcome
        err := notes ++ warningLines outcome.warnings
        status := a.status outcome.warnings }

/-! ## Manifests -/

/-- Makes the directories that a file needs. -/
def makeRoom (d : Disk) (path : String) : Except String Disk :=
  match parent? path with
  | none => .ok d
  | some above =>
    if above = "" then .ok d
    else
      match d.makeDirectories (pieces above).length above with
      | .ok d => .ok d
      | .error refusal =>
        .error ("Failed to create directory: " ++ above ++ ": " ++ refusal.message)

/-- Writes a manifest to a file. Directories that were made stay even if the file is refused. -/
def writeManifest (d : Disk) (path text : String) : Disk × Except String Unit :=
  match makeRoom d path with
  | .error message => (d, .error message)
  | .ok d =>
    match d.write path (text ++ "\n").toUTF8 with
    | .ok d => (d, .ok ())
    | .error refusal =>
      (d, .error ("Failed to write manifest: " ++ path ++ ": " ++ refusal.message))

/-- What a scan found, and a warning if there was none. -/
def outcomeOrEmpty : Except DiscoveryFault Outcome → Outcome × Styled
  | .ok outcome => (outcome, [])
  | .error fault => ({}, warningLine (fault.message ++ " (emitting an empty manifest)"))

/-- Gives the manifest of a project. -/
def generate (d : Disk) (a : ScanArguments) (format : ManifestFormat) (output : Option String) :
    Result :=
  match a.options d with
  | (notes, .error message) => failed d notes message
  | (notes, .ok options) =>
    let notes := notes ++ a.searchNotes (a.search d options)
    let (outcome, warning) := outcomeOrEmpty (Scan.project d options a.rootPath)
    let entries := Manifest.entries options outcome.shortcuts
    let text := Manifest.render format entries
    let found :=
      if a.verbose then noteLine (foundMessage entries.length outcome.filesScanned) else []
    let err := notes ++ warning ++ found ++ warningLines outcome.warnings
    match output with
    | none =>
      { disk := d, out := plain (text ++ "\n"), err := err, status := a.status outcome.warnings }
    | some path =>
      match writeManifest d path text with
      | (d, .error message) => failed d notes message
      | (d, .ok ()) =>
        { disk := d
          out := successLine
            ("Wrote " ++ counted entries.length "shortcut" "shortcuts" ++ " to " ++ path)
          err := err
          status := a.status outcome.warnings }

/-! ## The configuration file -/

/-- Writes the default configuration, unless there is a configuration file. -/
def init (d : Disk) : Result :=
  if d.exists? Settings.fileName then failed d [] (Settings.fileName ++ " already exists")
  else
    match d.write Settings.fileName (({} : Config).text ++ "\n").toUTF8 with
    | .ok d => { disk := d, out := successLine ("Created " ++ Settings.fileName) }
    | .error refusal => failed d [] refusal.message

/-! ## Runs -/

/-- What a run leaves, its texts as they are printed. -/
structure Finish where
  disk : Disk
  out : String := ""
  err : String := ""
  status : ExitStatus := .success

def Result.finish (colours : Bool) (r : Result) : Finish where
  disk := r.disk
  out := r.out.render colours
  err := r.err.render colours
  status := r.status

/-- The end of a run whose arguments ask for nothing more. -/
def stopped (d : Disk) (s : Stop) : Result :=
  match s with
  | .fault .. => { disk := d, err := s.report, status := .error }
  | _ => { disk := d, out := s.report }

/-- Does what is asked for. Serving is a matter of `Rpc`; here it does nothing. -/
def perform (d : Disk) : Invocation → Result
  | .none => stopped d (.help false none)
  | .scan arguments => scan d arguments
  | .generate arguments format output => generate d arguments format output
  | .init => init d
  | .serve => { disk := d }

/-- Are the colours of what is asked for those of usage? -/
def Invocation.isUsage : Invocation → Bool
  | .none => true
  | _ => false

def run (d : Disk) (e : Environment) (args : List String) : Finish :=
  match Invocation.ofArguments args with
  | .error stop => (stopped d stop).finish e.usageColours
  | .ok i => (perform d i).finish (if i.isUsage then e.usageColours else e.reportColours)

end RouteShortcuts.CommandLine
