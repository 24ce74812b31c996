/-
  RouteShortcuts.Settings — the configuration file of a project.

  The file is looked for in a directory and in those above it, up to the first that holds `.git`. A
  project without one has the default configuration.
-/

import RouteShortcuts.Config
import RouteShortcuts.Files.Disk

namespace RouteShortcuts

open RouteShortcuts.Files

/-- The configuration of a project, and whether a file says so. -/
structure Loaded where
  config : Config
  fromFile : Bool
  deriving DecidableEq, Repr

/-- Why a configuration file is not taken. -/
inductive SettingsFault where
  | unreadable (path : String) (refusal : Refusal)
  | malformed (path : String) (fault : Json.Fault)
  | invalid (fault : InvalidExportPattern)

/-- What is wrong, without the reason. -/
def SettingsFault.message : SettingsFault → String
  | .unreadable path _ => "Failed to read config file: " ++ Text.quoteString path
  | .malformed path _ => "Failed to parse config file: " ++ Text.quoteString path
  | .invalid fault => fault.message

/-- What is wrong, and the reason. -/
def SettingsFault.report (f : SettingsFault) : String :=
  match f with
  | .unreadable _ refusal => f.message ++ ": " ++ refusal.message
  | .malformed _ fault => f.message ++ ": " ++ fault.message
  | .invalid fault => fault.report

namespace Settings

def fileName : String := ".shortcutsrc.json"

/-- A directory and those above it, nearest first. -/
def upward (directory : String) : Nat → List String
  | 0 => [directory]
  | n + 1 =>
    match parent? directory with
    | some above => directory :: upward above n
    | none => [directory]

/-- Looks for the file in one directory after another. -/
def search (d : Disk) : List String → Option String
  | [] => none
  | directory :: above =>
    if d.exists? (join directory fileName) then some (join directory fileName)
    else if d.exists? (join directory ".git") then none
    else search d above

/-- The configuration file that holds for a directory. -/
def find? (d : Disk) (directory : String) : Option String :=
  let start := match d.canonical directory with
    | .ok path => path
    | .error _ => directory
  search d (upward start (components start).length)

/-- The configuration that holds for a directory. -/
def load (d : Disk) (directory : String) : Except SettingsFault Loaded :=
  match find? d directory with
  | none => .ok ⟨{}, false⟩
  | some path =>
    match d.readText path with
    | .error refusal => .error (.unreadable path refusal)
    | .ok text =>
      match Config.read text with
      | .error fault => .error (.malformed path fault)
      | .ok config =>
        match config.exportPattern with
        | .error fault => .error (.invalid fault)
        | .ok _ => .ok ⟨config, true⟩

end Settings
end RouteShortcuts
