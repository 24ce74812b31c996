/-
  RouteShortcuts.Shortcut.Json — shortcuts as JSON values.

  A field that is not there is left out.
-/

import RouteShortcuts.Json.Decode
import RouteShortcuts.Shortcut

namespace RouteShortcuts

open RouteShortcuts.Json (Value Cause Shape)

/-- A member that is left out if its value is not there. -/
def optionalMember (name : String) : Option String → List (String × Value)
  | none => []
  | some s => [(name, .string s)]

namespace Icon

def toValue (i : Icon) : Value :=
  .object (optionalMember "src" i.src ++ optionalMember "sizes" i.sizes
    ++ optionalMember "type" i.type ++ optionalMember "purpose" i.purpose)

def shape : Shape := ⟨"ShortcutIcon", ["src", "sizes", "type", "purpose"], 0⟩

def setField (name : String) (v : Value) (i : Icon) : Except Cause Icon := do
  let s ← v.asOption Value.asString
  match name with
  | "src" => return { i with src := s }
  | "sizes" => return { i with sizes := s }
  | "type" => return { i with type := s }
  | "purpose" => return { i with purpose := s }
  | _ => return i

def ofValue (v : Value) : Except Cause Icon := v.decode shape setField {}

end Icon

def iconsValue (icons : List Icon) : Value := .array (icons.map Icon.toValue)

namespace Details

def toValue (d : Details) : Value :=
  .object ([("name", Value.string d.name)] ++ optionalMember "short_name" d.shortName
    ++ optionalMember "description" d.description
    ++ match d.icons with
      | none => []
      | some icons => [("icons", iconsValue icons)])

def shape : Shape := ⟨"ShortcutConfig", ["name", "short_name", "description", "icons"], 1⟩

/-- Details whose name may still be missing. -/
structure Draft where
  name : Option String := none
  shortName : Option String := none
  description : Option String := none
  icons : Option (List Icon) := none

def Draft.setField (field : String) (v : Value) (d : Draft) : Except Cause Draft := do
  match field with
  | "name" => return { d with name := some (← v.asString) }
  | "short_name" => return { d with shortName := ← v.asOption Value.asString }
  | "description" => return { d with description := ← v.asOption Value.asString }
  | "icons" => return { d with icons := ← v.asOption (Value.asList Icon.ofValue) }
  | _ => return d

def ofValue (v : Value) : Except Cause Details := do
  let d ← v.decode shape Draft.setField {}
  return ⟨← Json.require "name" d.name, d.shortName, d.description, d.icons⟩

end Details

namespace Shortcut

def toValue (s : Shortcut) : Value :=
  .object [("path", .string s.path), ("config", s.details.toValue), ("file", .string s.file)]

def shape : Shape := ⟨"DetectedShortcut", ["path", "config", "file"], 3⟩

/-- A shortcut of which parts may still be missing. -/
structure Draft where
  path : Option String := none
  details : Option Details := none
  file : Option String := none

def Draft.setField (field : String) (v : Value) (d : Draft) : Except Cause Draft := do
  match field with
  | "path" => return { d with path := some (← v.asString) }
  | "config" => return { d with details := some (← Details.ofValue v) }
  | "file" => return { d with file := some (← v.asString) }
  | _ => return d

def ofValue (v : Value) : Except Cause Shortcut := do
  let d ← v.decode shape Draft.setField {}
  return ⟨← Json.require "path" d.path, ← Json.require "config" d.details,
    ← Json.require "file" d.file⟩

end Shortcut

def shortcutsValue (shortcuts : List Shortcut) : Value := .array (shortcuts.map Shortcut.toValue)

def FileWarning.toValue (w : FileWarning) : Value :=
  .object [("filePath", .string w.file), ("message", .string w.message)]

def warningsValue (warnings : List FileWarning) : Value := .array (warnings.map FileWarning.toValue)

end RouteShortcuts
