/-
  RouteShortcuts.Shortcut — shortcuts as a source file declares them.

  A shortcut is a path of the application with what a launcher shows for it. Only its path and its name
  are always there; `Manifest` fills in the rest.
-/

namespace RouteShortcuts

/-- An icon as it was declared; every field may be left out. -/
structure Icon where
  src : Option String := none
  sizes : Option String := none
  type : Option String := none
  purpose : Option String := none
  deriving DecidableEq, Repr, Inhabited

/-- What a declaration says about a shortcut. -/
structure Details where
  name : String
  shortName : Option String := none
  description : Option String := none
  icons : Option (List Icon) := none
  deriving DecidableEq, Repr, Inhabited

/-- A declared shortcut and the file it was found in. -/
structure Shortcut where
  path : String
  details : Details
  file : String
  deriving DecidableEq, Repr, Inhabited

/-- A file that could not be searched, and why. -/
structure FileWarning where
  file : String
  message : String
  deriving DecidableEq, Repr, Inhabited

def FileWarning.line (w : FileWarning) : String :=
  w.file ++ " - " ++ w.message

end RouteShortcuts
