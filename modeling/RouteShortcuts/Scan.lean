/-
  RouteShortcuts.Scan — searching files for shortcuts.

  Files are read and searched one after another. A file that cannot be read or is no script becomes a
  warning, and the scan goes on.
-/

import RouteShortcuts.Config
import RouteShortcuts.Declaration
import RouteShortcuts.Discovery
import RouteShortcuts.Script.Source

namespace RouteShortcuts

open RouteShortcuts.Files

structure Outcome where
  filesScanned : Nat := 0
  shortcuts : List Shortcut := []
  warnings : List FileWarning := []
  deriving DecidableEq, Repr

/-- Why a file is passed over. -/
inductive SourceProblem where
  | unreadable (refusal : Refusal)
  | unparsable (fault : Script.SourceFault)

def SourceProblem.warning (file : String) : SourceProblem → FileWarning
  | .unreadable refusal => ⟨file, "Failed to read " ++ file ++ ": " ++ refusal.message⟩
  | .unparsable fault => ⟨file, "Failed to parse " ++ file ++ ": " ++ fault.message⟩

namespace Scan

/-- What the search in a module goes by. -/
def rule (options : Options) : Declaration.Rule where
  accepts := options.routeExportPattern.occursIn
  function := options.functionName

def shortcutsOf (options : Options) (file code : String) :
    Except Script.SourceFault (List Shortcut) :=
  (Script.parseSource file code).map (Declaration.collect (rule options) file)

def file (d : Disk) (options : Options) (path : String) : Except SourceProblem (List Shortcut) :=
  match d.readText path with
  | .error refusal => .error (.unreadable refusal)
  | .ok code =>
    match shortcutsOf options path code with
    | .ok shortcuts => .ok shortcuts
    | .error fault => .error (.unparsable fault)

/-- Adds what one more file gives. -/
def addFile (d : Disk) (options : Options) (o : Outcome) (path : String) : Outcome :=
  match file d options path with
  | .ok shortcuts =>
    { o with filesScanned := o.filesScanned + 1, shortcuts := o.shortcuts ++ shortcuts }
  | .error problem =>
    { o with filesScanned := o.filesScanned + 1, warnings := o.warnings ++ [problem.warning path] }

def files (d : Disk) (options : Options) (paths : List String) : Outcome :=
  paths.foldl (addFile d options) {}

def project (d : Disk) (options : Options) (root : String) : Except DiscoveryFault Outcome :=
  (Discovery.files d root options.routeFiles).map (files d options)

end Scan
end RouteShortcuts
