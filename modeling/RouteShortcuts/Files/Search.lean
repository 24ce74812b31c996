/-
  RouteShortcuts.Files.Search — walking down a tree for its files.

  A walk opens each directory by its path. Where that is refused the walk notes the path and goes on
  beside it, so it comes to two kinds of items: files, and directories that it could not open. Items
  come by the names of the entries in each directory. Links are not followed.
-/

import RouteShortcuts.Files.Tree

namespace RouteShortcuts.Files

inductive Refusal where
  | notFound
  | notDirectory
  | isDirectory
  | exists
  | tooManyLinks
  | nameTooLong
  | denied
  | badName
  | notText
  deriving DecidableEq, Repr

def Refusal.message : Refusal → String
  | .notFound => "No such file or directory (os error 2)"
  | .notDirectory => "Not a directory (os error 20)"
  | .isDirectory => "Is a directory (os error 21)"
  | .exists => "File exists (os error 17)"
  | .tooManyLinks => "Too many levels of symbolic links (os error 40)"
  | .nameTooLong => "File name too long (os error 36)"
  | .denied => "Permission denied (os error 13)"
  | .badName => "file name contained an unexpected NUL byte"
  | .notText => "stream did not contain valid UTF-8"

structure Skipped where
  path : String
  refusal : Refusal
  deriving DecidableEq, Repr

def Skipped.message (s : Skipped) : String :=
  "Cannot access path: IO error for operation on " ++ s.path ++ ": " ++ s.refusal.message

/-- What a walk comes to. -/
inductive Item where
  | file (path : String)
  | skipped (s : Skipped)
  deriving DecidableEq, Repr

namespace Item

def file? : Item → Option String
  | .file path => some path
  | .skipped _ => none

def skipped? : Item → Option Skipped
  | .file _ => none
  | .skipped s => some s

end Item

section

variable (refuses : Location → String → Option Refusal)

mutual

/-- What a walk comes to from the entry at a place, by a path. `refuses` says which directories it
cannot open. -/
def Entry.items (place : Location) (path : String) : Entry → List Item
  | .file _ => [.file path]
  | .link _ => []
  | .directory entries =>
    match refuses place path with
    | some refusal => [.skipped ⟨path, refusal⟩]
    | none =>
      ((itemsOf place path entries).mergeSort fun a b => decide (a.1 ≤ b.1)).flatMap (·.2)

/-- The same from each entry of a directory, with the name of the entry. -/
def Entry.itemsOf (place : Location) (path : String) : List (String × Entry) → List (String × List Item)
  | [] => []
  | (name, e) :: rest =>
    (name, e.items (place ++ [name]) (join path name)) :: itemsOf place path rest

end

end

end RouteShortcuts.Files
