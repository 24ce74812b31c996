/-
  RouteShortcuts.Config — what the user may set, and the options that follow from it.

  A configuration is written as JSON, in a text (`Config.read`) or as a value (`Config.ofValue`).
  What is not set has a default. `Config.resolve` gives the options of a scan: an empty icon path or
  function name counts as not set, and the export pattern must be a pattern.
-/

import RouteShortcuts.Json.Decode
import RouteShortcuts.Json.Printer
import RouteShortcuts.Json.Reader
import RouteShortcuts.Pattern

namespace RouteShortcuts

open RouteShortcuts.Json (Value Cause Fault Shape)

structure Config where
  /-- Glob patterns, relative to the project, of the files to look at. -/
  routeFiles : List String := ["src/routes/**/*.\x7bjs,jsx,ts,tsx\x7d"]
  defaultIcon : String := "/icons/icon-192.png"
  iconSizes : List String := ["192x192", "512x512"]
  /-- The function that declares a shortcut. -/
  functionName : String := "createShortcutRoute"
  /-- A search pattern for the names of exported variables. -/
  routeExportPattern : String := "(?i)route$"
  deriving DecidableEq, Repr

namespace Config

/-- The settings, by the names that they are written with. -/
inductive Key where
  | routeFiles
  | defaultIcon
  | iconSizes
  | functionName
  | routeExportPattern
  deriving DecidableEq, Repr

def Key.all : List Key :=
  [.routeFiles, .defaultIcon, .iconSizes, .functionName, .routeExportPattern]

def Key.name : Key → String
  | .routeFiles => "routeFiles"
  | .defaultIcon => "defaultIcon"
  | .iconSizes => "iconSizes"
  | .functionName => "functionName"
  | .routeExportPattern => "routeExportPattern"

def Key.ofName? (name : String) : Option Key := Key.all.find? (·.name == name)

/-- What is set so far. -/
structure Draft where
  routeFiles : Option (List String) := none
  defaultIcon : Option String := none
  iconSizes : Option (List String) := none
  functionName : Option String := none
  routeExportPattern : Option String := none

def Draft.has (d : Draft) : Key → Bool
  | .routeFiles => d.routeFiles.isSome
  | .defaultIcon => d.defaultIcon.isSome
  | .iconSizes => d.iconSizes.isSome
  | .functionName => d.functionName.isSome
  | .routeExportPattern => d.routeExportPattern.isSome

/-- What is not set has its default. -/
def Draft.finish (d : Draft) : Config where
  routeFiles := d.routeFiles.getD ({} : Config).routeFiles
  defaultIcon := d.defaultIcon.getD ({} : Config).defaultIcon
  iconSizes := d.iconSizes.getD ({} : Config).iconSizes
  functionName := d.functionName.getD ({} : Config).functionName
  routeExportPattern := d.routeExportPattern.getD ({} : Config).routeExportPattern

/-- Route files are one pattern or a list of patterns; an empty pattern on its own means the
default. -/
def routeFilesOf : Value → Except Cause (List String)
  | .string s => .ok (if s = "" then ({} : Config).routeFiles else [s])
  | v =>
    match v.asList Value.asString with
    | .ok patterns => .ok patterns
    | .error _ => .error (.noVariant "OneOrMany")

def shape : Shape := ⟨"Config", Key.all.map Key.name, 0⟩

/-! ## From a value -/

def Draft.setValue (k : Key) (v : Value) (d : Draft) : Except Cause Draft := do
  match k with
  | .routeFiles => return { d with routeFiles := some (← routeFilesOf v) }
  | .defaultIcon => return { d with defaultIcon := some (← v.asString) }
  | .iconSizes => return { d with iconSizes := some (← v.asList Value.asString) }
  | .functionName => return { d with functionName := some (← v.asString) }
  | .routeExportPattern => return { d with routeExportPattern := some (← v.asString) }

def Draft.setNamed (name : String) (v : Value) (d : Draft) : Except Cause Draft :=
  match Key.ofName? name with
  | some k => d.setValue k v
  | none => .ok d

def ofValue (v : Value) : Except Cause Config := do
  return (← v.decode shape Draft.setNamed {}).finish

/-! ## From a text -/

open RouteShortcuts.Json (Reader)

/-- Fails without a place; the place is where the configuration's own search for its end stops. -/
def orThrow {α : Type} : Except Cause α → Reader α
  | .ok a => return a
  | .error cause => throw ⟨cause, none⟩

def Draft.readValue (k : Key) (d : Draft) : Reader Draft := do
  match k with
  | .routeFiles =>
    let v ← Json.Reader.value (Json.depthLimit - 1)
    return { d with routeFiles := some (← orThrow (routeFilesOf v)) }
  | .defaultIcon => return { d with defaultIcon := some (← Json.Reader.string) }
  | .iconSizes => return { d with iconSizes := some (← Json.Reader.list Json.Reader.string) }
  | .functionName => return { d with functionName := some (← Json.Reader.string) }
  | .routeExportPattern =>
    return { d with routeExportPattern := some (← Json.Reader.string) }

/-- Reads a member; the values of other names are passed over. -/
def Draft.readMember (d : Draft) (name : String) : Reader Draft := do
  match Key.ofName? name with
  | none =>
    Json.Reader.colon
    Json.Reader.skip
    return d
  | some k =>
    if d.has k then throw ⟨.duplicateField name, none⟩
    else
      Json.Reader.colon
      d.readValue k

/-- Reads settings in their order from a list. -/
def Draft.readItems (first : Bool) : List Key → Draft → Reader Draft
  | [], d => return d
  | k :: keys, d => do
    if ← Json.Reader.moreItems first then readItems false keys (← d.readValue k)
    else return d

def reader : Reader Config := do
  match ← Json.Reader.peekToken with
  | none => Json.Reader.failNext .endOfValue
  | some '[' =>
    Json.Reader.drop
    return (← Json.Reader.enclosed (Draft.readItems true Key.all {}) Json.Reader.endList).finish
  | some '\x7b' =>
    Json.Reader.drop
    return (← Json.Reader.members Draft.readMember {}).finish
  | some c => Json.Reader.wrongType ("struct " ++ shape.name) c

def read (text : String) : Except Fault Config := Json.Reader.readAll reader text

/-! ## To a value -/

def toValue (c : Config) : Value :=
  .object
    [("routeFiles", Json.Value.strings c.routeFiles), ("defaultIcon", .string c.defaultIcon),
     ("iconSizes", Json.Value.strings c.iconSizes), ("functionName", .string c.functionName),
     ("routeExportPattern", .string c.routeExportPattern)]

/-- The text that a configuration file is written with. -/
def text (c : Config) : String := c.toValue.pretty

end Config

/-- The options of a scan. -/
structure Options where
  routeFiles : List String
  defaultIcon : String
  iconSizes : List String
  functionName : String
  routeExportPattern : SearchPattern

/-- A configuration whose export pattern is no pattern. -/
structure InvalidExportPattern where
  source : String
  fault : PatternFault

/-- What is wrong, without the reason. -/
def InvalidExportPattern.message (f : InvalidExportPattern) : String :=
  "Invalid regular expression in 'routeExportPattern': \"" ++ f.source ++ "\""

/-- What is wrong, and the reason. -/
def InvalidExportPattern.report (f : InvalidExportPattern) : String :=
  f.message ++ ": " ++ f.fault.message

def orDefault (value fallback : String) : String := if value = "" then fallback else value

namespace Config

def exportPattern (c : Config) : Except InvalidExportPattern SearchPattern :=
  match SearchPattern.compile c.routeExportPattern with
  | .ok p => .ok p
  | .error fault => .error ⟨c.routeExportPattern, fault⟩

/-- The options that a configuration means. -/
def resolve (c : Config) : Except InvalidExportPattern Options := do
  let pattern ← c.exportPattern
  return {
    routeFiles := c.routeFiles
    defaultIcon := orDefault c.defaultIcon ({} : Config).defaultIcon
    iconSizes := c.iconSizes
    functionName := orDefault c.functionName ({} : Config).functionName
    routeExportPattern := pattern }

end Config

end RouteShortcuts
