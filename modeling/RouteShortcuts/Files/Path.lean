/-
  RouteShortcuts.Files.Path — the texts of paths.

  A path is the text it was given as. Names are separated by slashes; empty names and `.` inside a path
  say nothing, so paths are compared by their components. `..` is a component like any other here:
  only the file system knows where it leads.
-/

namespace RouteShortcuts.Files

inductive Component where
  | top
  | here
  | up
  | name (s : String)
  deriving DecidableEq, Repr

/-- The pieces of a text between slashes. -/
def pieces (path : String) : List String := (path.toList.splitOn '/').map String.ofList

def isAbsolute (path : String) : Bool := path.toList.head? == some '/'

/-- The component that a piece is; the first of a relative path may be `.`. -/
def component? (piece : String) : Option Component :=
  if piece = "" ∨ piece = "." then none
  else if piece = ".." then some .up
  else some (.name piece)

def components (path : String) : List Component :=
  let rest := (pieces path).filterMap component?
  if isAbsolute path then .top :: rest
  else if (pieces path).head? = some "." then .here :: rest
  else rest

/-- Do two texts say the same path? -/
def samePath (a b : String) : Bool := components a == components b

/-- `base` followed by `path`; an absolute path stands for itself. -/
def join (base path : String) : String :=
  if isAbsolute path ∨ base = "" then path
  else if base.toList.getLast? = some '/' then base ++ path
  else base ++ "/" ++ path

/-- A text without pieces at its front that say nothing. -/
def trimFront : List String → List String
  | [] => []
  | piece :: rest => if (component? piece).isNone then trimFront rest else piece :: rest

/-- The pieces after the ones that spell `front`. -/
def dropComponents : List Component → List String → Option (List String)
  | [], rest => some rest
  | _ :: _, [] => none
  | c :: front, piece :: rest =>
    match component? piece with
    | none => dropComponents (c :: front) rest
    | some d => if d = c then dropComponents front rest else none

/-- What follows `base` in an absolute path, if `path` is at or below it. -/
def stripPrefix? (base path : String) : Option String :=
  if isAbsolute base && isAbsolute path then
    (dropComponents ((components base).drop 1) (pieces path)).map fun rest =>
      "/".intercalate (trimFront (trimFront rest).reverse).reverse
  else none

/-- A path without its last component, if it has one that can be taken away. The `.` at the front of a
relative path is a component, so `./a` is in `.`, and `.` in the empty path. -/
def parent? (path : String) : Option String :=
  let here := !isAbsolute path && (pieces path).head? == some "."
  match trimFront (pieces path).reverse with
  | [] => if here then some "" else none
  | _ :: before =>
    let rest := (trimFront before).reverse
    if rest ≠ [] then some ("/".intercalate rest)
    else some (if isAbsolute path then "/" else if here then "." else "")

end RouteShortcuts.Files
