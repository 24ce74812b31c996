/-
  RouteShortcuts.Session — the latest result of a project that is scanned again and again.

  Every pass takes a number when it begins. Its result is kept only if its number is above that of the
  result that is held, so a slow pass never replaces the result of a later one.
-/

import RouteShortcuts.Manifest
import RouteShortcuts.Scan

namespace RouteShortcuts

open RouteShortcuts.Files
open RouteShortcuts.Json (Value)

/-- The result of a pass; number 0 stands for none. -/
structure Snapshot where
  generation : Nat := 0
  filesScanned : Nat := 0
  shortcuts : List Shortcut := []
  manifest : List ManifestEntry := []
  warnings : List FileWarning := []
  deriving DecidableEq, Repr

def Snapshot.toValue (s : Snapshot) : Value :=
  .object
    [("generation", .nat s.generation), ("filesScanned", .nat s.filesScanned),
     ("shortcuts", shortcutsValue s.shortcuts), ("manifest", Manifest.toValue s.manifest),
     ("warnings", warningsValue s.warnings)]

/-- A project's options, the number of the last pass that began, and the result that is held. -/
structure Session where
  root : String
  options : Options
  lastPass : Nat := 0
  current : Snapshot := {}

namespace Session

/-- A session whose passes are numbered from the one after `generation`. -/
def startingAfter (s : Session) (generation : Nat) : Session := { s with lastPass := generation }

/-- Takes the number of a new pass. -/
def beginPass (s : Session) : Nat × Session :=
  (s.lastPass + 1, { s with lastPass := s.lastPass + 1 })

def snapshot (s : Session) (generation : Nat) (o : Outcome) : Snapshot where
  generation := generation
  filesScanned := o.filesScanned
  shortcuts := o.shortcuts
  manifest := Manifest.entries s.options o.shortcuts
  warnings := o.warnings

/-- Keeps a result if its number is above that of the one that is held. -/
def commit (s : Session) (snap : Snapshot) : Bool × Session :=
  if snap.generation ≤ s.current.generation then (false, s) else (true, { s with current := snap })

/-- A whole pass; if it fails, only its number is used up. -/
def rescan (d : Disk) (s : Session) : Except DiscoveryFault Snapshot × Session :=
  let (generation, s) := s.beginPass
  match Scan.project d s.options s.root with
  | .error fault => (.error fault, s)
  | .ok outcome =>
    let (_, s) := s.commit (s.snapshot generation outcome)
    (.ok s.current, s)

end Session
end RouteShortcuts
