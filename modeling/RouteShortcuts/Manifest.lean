/-
  RouteShortcuts.Manifest — what a web app manifest says about shortcuts.

  Each shortcut gives one entry, in order, whose fields are all there: a short name is the front of the
  name, a description is made from the name, and the icons are one picture per configured size. An
  empty list of icons is a list, not a missing one.
-/

import RouteShortcuts.Config
import RouteShortcuts.Shortcut.Json

namespace RouteShortcuts

open RouteShortcuts.Json (Value Cause Shape)

structure ManifestEntry where
  name : String
  shortName : String
  description : String
  url : String
  icons : List Icon
  deriving DecidableEq, Repr, Inhabited

/-- How a manifest is written: as JSON, or as a module that exports it. -/
inductive ManifestFormat where
  | json
  | module
  deriving DecidableEq, Repr, Inhabited

namespace Manifest

/-- How many characters of a name make a short name. -/
def shortNameLength : Nat := 12

/-- A text that is there and not empty. -/
def nonEmpty? : Option String → Option String
  | some s => if s = "" then none else some s
  | none => none

/-- The characters before the first `x` of a size; all of them if it has none. -/
def widthOf (size : String) : List Char := size.toList.takeWhile (· != 'x')

/-- `text` with the first occurrence of `old` replaced by `new`. -/
def replaceFirst (old new : List Char) : List Char → List Char
  | [] => []
  | c :: rest =>
    if old.isPrefixOf (c :: rest) then new ++ (c :: rest).drop old.length
    else c :: replaceFirst old new rest

/-- The icon for a size: the default icon with its width put in the place of the first `192`. -/
def defaultIcon (path size : String) : Icon where
  src := some (String.ofList (replaceFirst ['1', '9', '2'] (widthOf size) path.toList))
  sizes := some size
  type := some "image/png"

/-- One icon per configured size. -/
def defaultIcons (options : Options) : List Icon :=
  options.iconSizes.map (defaultIcon options.defaultIcon)

def entry (options : Options) (s : Shortcut) : ManifestEntry where
  name := s.details.name
  shortName := (nonEmpty? s.details.shortName).getD
    (String.ofList (s.details.name.toList.take shortNameLength))
  description := (nonEmpty? s.details.description).getD ("Go to " ++ s.details.name)
  url := s.path
  icons := s.details.icons.getD (defaultIcons options)

def entries (options : Options) (shortcuts : List Shortcut) : List ManifestEntry :=
  shortcuts.map (entry options)

end Manifest

namespace ManifestEntry

def toValue (e : ManifestEntry) : Value :=
  .object
    [("name", .string e.name), ("short_name", .string e.shortName),
     ("description", .string e.description), ("url", .string e.url), ("icons", iconsValue e.icons)]

def shape : Shape := ⟨"ManifestEntry", ["name", "short_name", "description", "url", "icons"], 5⟩

/-- An entry of which parts may still be missing. -/
structure Draft where
  name : Option String := none
  shortName : Option String := none
  description : Option String := none
  url : Option String := none
  icons : Option (List Icon) := none

def Draft.setField (field : String) (v : Value) (d : Draft) : Except Cause Draft := do
  match field with
  | "name" => return { d with name := some (← v.asString) }
  | "short_name" => return { d with shortName := some (← v.asString) }
  | "description" => return { d with description := some (← v.asString) }
  | "url" => return { d with url := some (← v.asString) }
  | "icons" => return { d with icons := some (← v.asList Icon.ofValue) }
  | _ => return d

def ofValue (v : Value) : Except Cause ManifestEntry := do
  let d ← v.decode shape Draft.setField {}
  return ⟨← Json.require "name" d.name, ← Json.require "short_name" d.shortName,
    ← Json.require "description" d.description, ← Json.require "url" d.url,
    ← Json.require "icons" d.icons⟩

end ManifestEntry

namespace Manifest

def toValue (entries : List ManifestEntry) : Value := .array (entries.map ManifestEntry.toValue)

def render (format : ManifestFormat) (entries : List ManifestEntry) : String :=
  match format with
  | .json => (toValue entries).pretty
  | .module => "export default " ++ (toValue entries).pretty

end Manifest

end RouteShortcuts
