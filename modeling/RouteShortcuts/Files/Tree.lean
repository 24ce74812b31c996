/-
  RouteShortcuts.Files.Tree — files, directories and symbolic links.

  A directory is a list of named entries in no particular order; of several entries with one name the
  first counts. A place in the tree is the list of names that lead to it from the top.
-/

import RouteShortcuts.Files.Path

namespace RouteShortcuts.Files

/-- What a name in a directory stands for. -/
inductive Entry where
  | file (content : ByteArray)
  | link (target : String)
  | directory (entries : List (String × Entry))

/-- A place in the tree. -/
abbrev Location := List String

def find? (name : String) : List (String × Entry) → Option Entry
  | [] => none
  | (n, e) :: rest => if n = name then some e else find? name rest

/-- Puts an entry in the place of the one with its name, or at the end. -/
def put (name : String) (entry : Entry) : List (String × Entry) → List (String × Entry)
  | [] => [(name, entry)]
  | (n, e) :: rest => if n = name then (n, entry) :: rest else (n, e) :: put name entry rest

def erase (name : String) (entries : List (String × Entry)) : List (String × Entry) :=
  entries.filter (·.1 != name)

namespace Entry

def empty : Entry := .directory []

/-- The entry at a place, links not followed. -/
def at? : Location → Entry → Option Entry
  | [], e => some e
  | name :: rest, .directory entries => (find? name entries).bind (at? rest)
  | _ :: _, _ => none

/-- Changes the directory at a place; where there is none nothing changes. -/
def update (change : List (String × Entry) → List (String × Entry)) : Location → Entry → Entry
  | [], .directory entries => .directory (change entries)
  | name :: rest, .directory entries =>
    match find? name entries with
    | some e => .directory (put name (update change rest e) entries)
    | none => .directory entries
  | _, e => e

def isDirectory : Entry → Bool
  | .directory _ => true
  | _ => false

end Entry

def Location.path (l : Location) : String := "/" ++ "/".intercalate l

end RouteShortcuts.Files
