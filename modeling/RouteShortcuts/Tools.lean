/-
  RouteShortcuts.Tools — the tools that an assistant may call.

  Every project has a session of its own, by the canonical path of its root. The first scan of a root
  makes it; when the configuration of the project has changed, the next scan makes a new one, and the
  numbers of passes go on above that of the result that the old one held. Asking for the manifest or
  for the configuration changes nothing.
-/

import RouteShortcuts.Session
import RouteShortcuts.Settings

namespace RouteShortcuts

open RouteShortcuts.Files
open RouteShortcuts.Json (Value)

inductive Tool where
  | detectShortcuts
  | getConfig
  | getManifest
  deriving DecidableEq, Repr

namespace Tool

def all : List Tool := [.detectShortcuts, .getConfig, .getManifest]

def name : Tool → String
  | .detectShortcuts => "detect_shortcuts"
  | .getConfig => "get_config"
  | .getManifest => "get_manifest"

def description : Tool → String
  | .detectShortcuts =>
    "Scan route files for createShortcutRoute declarations. Returns detected shortcuts, the "
      ++ "generated manifest entries and per-file warnings."
  | .getConfig => "Get the shortcut detection configuration for a project."
  | .getManifest =>
    "Get the manifest shortcuts from the last detect_shortcuts call for a project. Does not rescan; "
      ++ "returns an empty manifest with generation 0 if the project was never scanned."

def ofName? (name : String) : Option Tool := all.find? (·.name == name)

end Tool

inductive ToolFault where
  | settings (fault : SettingsFault)
  | config (fault : InvalidExportPattern)
  | scan (fault : DiscoveryFault)

def ToolFault.message : ToolFault → String
  | .settings fault => "Failed to load config: " ++ fault.message
  | .config fault => "Invalid config: " ++ fault.message
  | .scan fault => "Scan failed: " ++ fault.message

/-- A project: its session, and the configuration that the session was made with. -/
structure Project where
  root : String
  config : Config
  session : Session

structure Workspace where
  projects : List Project := []

namespace Workspace

/-- The root by which a project is known: canonical, or as given if there is no such directory. -/
def rootOf (d : Disk) (root : String) : String :=
  match d.canonical root with
  | .ok path => path
  | .error _ => root

def find? (w : Workspace) (root : String) : Option Project :=
  w.projects.find? fun p => samePath p.root root

/-- Puts a project in the place of the one with its root. -/
def put (w : Workspace) (p : Project) : Workspace :=
  { w with projects := p :: w.projects.filter fun q => !samePath q.root p.root }

/-- The number of the result that is held for a root; 0 if there is none. -/
def generation (w : Workspace) (root : String) : Nat :=
  match w.find? root with
  | some p => p.session.current.generation
  | none => 0

/-- The session of a root, made anew unless it was made with this configuration. -/
def sessionFor (w : Workspace) (root : String) (config : Config) :
    Except InvalidExportPattern Session :=
  match w.find? root with
  | some p => if p.config = config then .ok p.session else fresh
  | none => fresh
where
  fresh : Except InvalidExportPattern Session := do
    let options ← config.resolve
    return ({ root, options } : Session).startingAfter (w.generation root)

/-- The configuration of a project, as it is on the disk now. -/
def getConfig (d : Disk) (root : String) : Except ToolFault Loaded :=
  match Settings.load d root with
  | .ok loaded => .ok loaded
  | .error fault => .error (.settings fault)

/-- Scans a project. Its session is kept even if the scan fails. -/
def detectShortcuts (d : Disk) (w : Workspace) (root : String) :
    Except ToolFault Snapshot × Workspace :=
  let root := rootOf d root
  match Settings.load d root with
  | .error fault => (.error (.settings fault), w)
  | .ok loaded =>
    match w.sessionFor root loaded.config with
    | .error fault => (.error (.config fault), w)
    | .ok session =>
      let (result, session) := session.rescan d
      let w := w.put ⟨root, loaded.config, session⟩
      match result with
      | .ok snapshot => (.ok snapshot, w)
      | .error fault => (.error (.scan fault), w)

/-- The result that is held for a project; the empty one if it was never scanned. -/
def getManifest (d : Disk) (w : Workspace) (root : String) : Snapshot :=
  match w.find? (rootOf d root) with
  | some p => p.session.current
  | none => {}

/-! ## Calls with their answers as JSON -/

def configValue (loaded : Loaded) : Value :=
  .object [("fromFile", .bool loaded.fromFile), ("config", loaded.config.toValue)]

def manifestValue (snapshot : Snapshot) : Value :=
  .object [("generation", .nat snapshot.generation),
    ("manifest", Manifest.toValue snapshot.manifest)]

def call (d : Disk) (w : Workspace) (tool : Tool) (root : String) :
    Except ToolFault Value × Workspace :=
  match tool with
  | .getConfig => ((getConfig d root).map configValue, w)
  | .getManifest => (.ok (manifestValue (w.getManifest d root)), w)
  | .detectShortcuts =>
    let (result, w) := w.detectShortcuts d root
    (result.map Snapshot.toValue, w)

end Workspace
end RouteShortcuts
