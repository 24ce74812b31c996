/-
  RouteShortcuts.Discovery — the files that route patterns select.

  A pattern is split into the names at its front, which lead to a directory, and the glob as a
  whole, which is matched against each file there. Files come in the order of the patterns, and by
  name within each; a path that was listed before is not listed again. Directories that cannot be
  opened are skipped, and the search says which.
-/

import RouteShortcuts.Files.Disk
import RouteShortcuts.Glob

namespace RouteShortcuts

open RouteShortcuts.Files

inductive DiscoveryFault where
  | invalidPattern (pattern : String) (flaw : Glob.Flaw)
  | root (path : String) (refusal : Refusal)
  deriving DecidableEq, Repr

/-- The reason alone. -/
def DiscoveryFault.reason : DiscoveryFault → String
  | .invalidPattern pattern flaw => "error parsing glob '" ++ pattern ++ "': " ++ flaw.message
  | .root _ refusal => refusal.message

/-- What is wrong, with the reason. -/
def DiscoveryFault.message (f : DiscoveryFault) : String :=
  match f with
  | .invalidPattern pattern _ => "Invalid route file pattern \"" ++ pattern ++ "\": " ++ f.reason
  | .root path _ => "Cannot access project root " ++ path ++ ": " ++ f.reason

namespace Discovery

/-- Does a piece of a pattern contain a sign of a glob? -/
def isGlobPiece (piece : String) : Bool :=
  piece.toList.any fun c => c == '*' || c == '?' || c == '[' || c == '\x7b'

/-- A pattern without one `./` at its front. -/
def normalize (pattern : String) : String :=
  match pattern.toList with
  | '.' :: '/' :: rest => String.ofList rest
  | _ => pattern

/-- The names at the front of a pattern, as a path. -/
def literalBase (pattern : String) : String :=
  let names := ((pieces pattern).filter (· != "")).takeWhile (!isGlobPiece ·)
  names.foldl join (if isAbsolute pattern then "/" else "")

/-- The path that a glob is matched against: relative patterns match below the root. -/
def candidate (root pattern path : String) : String :=
  if isAbsolute pattern then path else (stripPrefix? root path).getD path

/-- Where the search for a pattern begins. -/
def basePath (root pattern : String) : String := join root (literalBase pattern)

/-- The files that one pattern selects. -/
def filesOfGlob (d : Disk) (root : String) (g : Glob) : List String :=
  let base := basePath root g.pattern
  if d.exists? base then
    (d.filesUnder base).filter fun path => g.isMatch (candidate root g.pattern path)
  else []

/-- The directories that the search for one pattern could not open. -/
def skippedOfGlob (d : Disk) (root : String) (g : Glob) : List Skipped :=
  let base := basePath root g.pattern
  if d.exists? base then d.skippedUnder base else []

/-- Adds the paths that are not listed yet. -/
def addNew (listed paths : List String) : List String :=
  paths.foldl (fun found path => if found.any (samePath path) then found else found ++ [path]) listed

def compile (pattern : String) : Except DiscoveryFault Glob :=
  match Glob.compile (normalize pattern) with
  | .ok g => .ok g
  | .error flaw => .error (.invalidPattern (normalize pattern) flaw)

/-- What a search comes to: the files that it lists, the directories that it could not open, and why
there is no list after all, if it came to a pattern that is none. -/
structure Search where
  listed : List String := []
  skipped : List Skipped := []
  fault : Option DiscoveryFault := none

def Search.result (s : Search) : Except DiscoveryFault (List String) :=
  match s.fault with
  | none => .ok s.listed
  | some fault => .error fault

/-- Goes through the patterns; `s` is what those before came to. -/
def searchPatterns (d : Disk) (root : String) (s : Search) : List String → Search
  | [] => s
  | pattern :: rest =>
    match compile pattern with
    | .ok g =>
      searchPatterns d root
        { s with
          listed := addNew s.listed (filesOfGlob d root g)
          skipped := s.skipped ++ skippedOfGlob d root g } rest
    | .error fault => { s with fault := some fault }

/-- Searches the project at `root` for the files that patterns select. -/
def search (d : Disk) (root : String) (patterns : List String) : Search :=
  match d.canonical root with
  | .ok root => searchPatterns d root {} patterns
  | .error refusal => { fault := some (.root root refusal) }

/-- The files that patterns select in the project at `root`. -/
def files (d : Disk) (root : String) (patterns : List String) :
    Except DiscoveryFault (List String) := (search d root patterns).result

end Discovery
end RouteShortcuts
