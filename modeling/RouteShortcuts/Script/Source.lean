/-
  RouteShortcuts.Script.Source — source files: their dialects, and why one is not accepted.
-/

import RouteShortcuts.Text.Width
import RouteShortcuts.Script.Grammar

namespace RouteShortcuts.Script

open RouteShortcuts.Text

/-- The last component of a path; slashes at the end do not count. -/
def fileName (path : List Char) : List Char :=
  let back := path.reverse.dropWhile (· == '/')
  (back.takeWhile (· != '/')).reverse

/-- What stands behind the last dot of a file name. A name that begins with its only dot has no
extension, and `..` has none. -/
def extension (path : List Char) : List Char :=
  let name := fileName path
  if name == ['.', '.'] then []
  else
    let back := name.reverse
    match back.dropWhile (· != '.') with
    | [] => []
    | [_] => []
    | _ :: _ => (back.takeWhile (· != '.')).reverse

/-- Markup may stand in every file but those whose extension says that types are asserted with angle
brackets; a name that ends in `.d.ts` marks a file of declarations. -/
def Dialect.ofPath (path : String) : Dialect :=
  let chars := path.toList
  let typed := [['t', 's'], ['m', 't', 's'], ['c', 't', 's']]
  { markup := !typed.contains (extension chars),
    ambient := ".d.ts".toList.isSuffixOf chars }

/-- Why a file is not accepted, and where. -/
structure SourceFault where
  cause : Cause
  position : Position
  deriving DecidableEq, Repr

def SourceFault.message (f : SourceFault) : String :=
  f.cause.message ++ " (line " ++ toString f.position.line ++ ", column "
    ++ toString f.position.column ++ ")"

/-- A byte order mark at the front of a text is no part of it. -/
def dropMark (text : List Char) : List Char :=
  match text with
  | '\uFEFF' :: rest => rest
  | _ => text

/-- Reads the module in a file named `path`. -/
def parseSource (path code : String) : Except SourceFault Module :=
  let text := dropMark code.toList
  match Module.parse (Dialect.ofPath path) text with
  | .ok m => .ok m
  | .error fault => .error ⟨fault.cause, Position.ofOffset text fault.offset⟩

end RouteShortcuts.Script
