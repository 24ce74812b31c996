/-
  RouteShortcuts.Files.Disk — a file system: looking up, reading and writing by path.

  Links are followed wherever they stand on the way, at most `linkLimit` of them. A relative path
  starts at the working directory. Some directories may not be read (`Volume.barred`): what they hold is
  there and can be named, but is not listed.
-/

import RouteShortcuts.Files.Search

namespace RouteShortcuts.Files

/-- A tree, and the directories in it that may not be read. -/
structure Volume where
  top : Entry := Entry.empty
  barred : List Location := []

instance : Coe Entry Volume := ⟨fun top => { top }⟩

/-- A file system and the working directory in it. -/
structure Disk extends Volume where
  working : Location := []

/-- How many links are followed for one path. -/
def linkLimit : Nat := 40

/-- The most octets in a name. -/
def nameLimit : Nat := 255

/-- The most octets in a path. -/
def pathLimit : Nat := 4095

/-- Where a path leads: to an entry, or to a name that is free in a directory. -/
inductive Target where
  | present (at_ : Location) (entry : Entry)
  | absent (directory : Location) (name : String)

namespace Disk

def start (d : Disk) (path : String) : Location := if isAbsolute path then [] else d.working

/-- Goes on from the directory at `dir` by `names`; `jump` goes on from where a link leads. The last
name may be a link that is not followed, or may be free. -/
def walkNames (top : Entry) (follow : Bool) (jump : Location → List String → Except Refusal Target)
    (dir : Location) : List String → Except Refusal Target
  | [] =>
    match top.at? dir with
    | some entry => .ok (.present dir entry)
    | none => .error .notFound
  | name :: rest =>
    match top.at? dir with
    | none => .error .notFound
    | some (.directory entries) =>
      if name = "" ∨ name = "." then walkNames top follow jump dir rest
      else if name = ".." then walkNames top follow jump dir.dropLast rest
      else if nameLimit < name.utf8ByteSize then .error .nameTooLong
      else
        match find? name entries with
        | none => if rest.all (· == "") then .ok (.absent dir name) else .error .notFound
        | some (.link target) =>
          if rest = [] ∧ !follow then .ok (.present (dir ++ [name]) (.link target))
          else jump (if isAbsolute target then [] else dir) (pieces target ++ rest)
        | some _ => walkNames top follow jump (dir ++ [name]) rest
    | some _ => .error .notDirectory

/-- Goes on from a directory by names, over at most so many links. -/
def walk (top : Entry) (follow : Bool) : Nat → Location → List String → Except Refusal Target
  | 0 => walkNames top follow fun _ _ => .error .tooManyLinks
  | links + 1 => walkNames top follow (walk top follow links)

/-- Names without slashes behind them. -/
def withoutSlashes (names : List String) : List String := (names.reverse.dropWhile (· == "")).reverse

/-- Goes on from a directory to where a file is written. A slash at the end, be it that of a link, asks
for a directory, so the file is refused if there is a place for it. -/
def walkToWrite (top : Entry) (links : Nat) (dir : Location) (names : List String) :
    Except Refusal Target :=
  if names.getLast? = some "" then
    match walk top false links dir (withoutSlashes names) with
    | .ok _ => .error .isDirectory
    | .error r => .error r
  else
    match links with
    | 0 => walkNames top true (fun _ _ => .error .tooManyLinks) dir names
    | links + 1 => walkNames top true (walkToWrite top links) dir names

/-- Goes along a path by its names, if the system takes it for a path. -/
def along (d : Disk) (path : String) (go : Location → List String → Except Refusal Target) :
    Except Refusal Target :=
  if path.toList.contains '\x00' then .error .badName
  else if path = "" then .error .notFound
  else if pathLimit < path.utf8ByteSize then .error .nameTooLong
  else go (d.start path) (pieces path)

def target (d : Disk) (follow : Bool) (path : String) : Except Refusal Target :=
  d.along path (walk d.top follow linkLimit)

/-- The entry that a path leads to. -/
def lookup (d : Disk) (follow : Bool) (path : String) : Except Refusal (Location × Entry) :=
  match d.target follow path with
  | .ok (.present place entry) => .ok (place, entry)
  | .ok (.absent ..) => .error .notFound
  | .error r => .error r

/-- The path without links and without `..`. -/
def canonical (d : Disk) (path : String) : Except Refusal String :=
  (d.lookup true path).map fun found => found.1.path

def exists? (d : Disk) (path : String) : Bool :=
  match d.lookup true path with
  | .ok _ => true
  | .error _ => false

def read (d : Disk) (path : String) : Except Refusal ByteArray :=
  match d.lookup true path with
  | .ok (_, .file content) => .ok content
  | .ok (place, _) => .error (if d.barred.contains place then .denied else .isDirectory)
  | .error r => .error r

def readText (d : Disk) (path : String) : Except Refusal String := do
  match String.fromUTF8? (← d.read path) with
  | some text => return text
  | none => throw .notText

/-- Why the directory at a place cannot be opened by a path. -/
def refuses (d : Disk) (place : Location) (path : String) : Option Refusal :=
  if pathLimit < path.utf8ByteSize then some .nameTooLong
  else if d.barred.contains place then some .denied
  else none

/-- What a walk from a path comes to. A link at the path itself is followed if it leads to a directory;
links below it are not. -/
def itemsUnder (d : Disk) (path : String) : List Item :=
  match d.lookup false path with
  | .ok (_, .link _) =>
    match d.lookup true path with
    | .ok (place, .directory entries) => Entry.items d.refuses place path (.directory entries)
    | _ => []
  | .ok (place, entry) => entry.items d.refuses place path
  | .error _ => []

def filesUnder (d : Disk) (path : String) : List String := (d.itemsUnder path).filterMap Item.file?

/-- The directories at or below a path that cannot be opened. -/
def skippedUnder (d : Disk) (path : String) : List Skipped :=
  (d.itemsUnder path).filterMap Item.skipped?

def change (d : Disk) (place : Location) (f : List (String × Entry) → List (String × Entry)) : Disk :=
  { d with top := d.top.update f place }

/-- Writes a file, in the place of the one that is there. -/
def write (d : Disk) (path : String) (content : ByteArray) : Except Refusal Disk := do
  match ← d.along path (walkToWrite d.top linkLimit) with
  | .absent dir name => return d.change dir (put name (.file content))
  | .present _ (.directory _) => throw .isDirectory
  | .present place _ =>
    match place.getLast? with
    | some name => return d.change place.dropLast (put name (.file content))
    | none => throw .isDirectory

/-- Makes a directory, which may be read. -/
def makeDirectory (d : Disk) (path : String) : Except Refusal Disk := do
  match ← d.target false path with
  | .absent dir name =>
    return { d.change dir (put name Entry.empty) with barred := d.barred.filter (· != dir ++ [name]) }
  | .present .. => throw .exists

def makeLink (d : Disk) (path goal : String) : Except Refusal Disk := do
  match ← d.target false path with
  | .absent dir name => return d.change dir (put name (.link goal))
  | .present .. => throw .exists

def isDirectory (d : Disk) (path : String) : Bool :=
  match d.lookup true path with
  | .ok (_, .directory _) => true
  | _ => false

/-- Makes a directory and those above it that are not there. -/
def makeDirectories (d : Disk) : Nat → String → Except Refusal Disk
  | 0, _ => .ok d
  | fuel + 1, path =>
    if path = "" ∨ d.isDirectory path then .ok d
    else
      match d.makeDirectory path with
      | .ok d => .ok d
      | .error .notFound =>
        match parent? path with
        | none => .error .notFound
        | some above =>
          match makeDirectories d fuel above with
          | .error r => .error r
          | .ok d =>
            match d.makeDirectory path with
            | .ok d' => .ok d'
            | .error r => if d.isDirectory path then .ok d else .error r
      | .error r => .error r

/-- Removes what is at a path, and all below it; a link is removed itself. -/
def remove (d : Disk) (path : String) : Disk :=
  match d.lookup false path with
  | .ok (place, _) =>
    match place.getLast? with
    | some name => d.change place.dropLast (erase name)
    | none => d
  | .error _ => d

end Disk
end RouteShortcuts.Files
