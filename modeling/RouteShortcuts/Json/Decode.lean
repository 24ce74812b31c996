/-
  RouteShortcuts.Json.Decode — from JSON values to values of other types.

  A structure is written as an object, or as a list of its fields in their order. Members that no
  field is named by do not count.
-/

import RouteShortcuts.Json.Fault

namespace RouteShortcuts.Json

def Value.asString : Value → Except Cause String
  | .string s => .ok s
  | v => .error (.invalidType v.found "a string")

def decodeAll {α : Type} (item : Value → Except Cause α) : List Value → Except Cause (List α)
  | [] => .ok []
  | v :: rest => do
    let a ← item v
    let others ← decodeAll item rest
    return a :: others

def Value.asList {α : Type} (item : Value → Except Cause α) : Value → Except Cause (List α)
  | .array items => decodeAll item items
  | v => .error (.invalidType v.found "a sequence")

/-- A value that may be `null` instead. -/
def Value.asOption {α : Type} (item : Value → Except Cause α) : Value → Except Cause (Option α)
  | .null => .ok none
  | v => (item v).map some

/-- The name of a structure, the names of its fields, and how many of them, from the front, must be
there. -/
structure Shape where
  name : String
  fields : List String
  required : Nat

/-- Sets fields by name; no field is set twice. -/
def decodeMembers {α : Type} (shape : Shape) (set : String → Value → α → Except Cause α) :
    List String → List (String × Value) → α → Except Cause α
  | _, [], a => .ok a
  | seen, (k, v) :: rest, a =>
    if shape.fields.contains k then
      if seen.contains k then .error (.duplicateField k)
      else do decodeMembers shape set (k :: seen) rest (← set k v a)
    else decodeMembers shape set seen rest a

/-- Sets fields in their order. -/
def decodeItems {α : Type} (set : String → Value → α → Except Cause α) :
    List String → List Value → α → Except Cause α
  | k :: fields, v :: rest, a => do decodeItems set fields rest (← set k v a)
  | _, _, a => .ok a

/-- Reads a structure; `start` has no field set. -/
def Value.decode {α : Type} (shape : Shape) (set : String → Value → α → Except Cause α) (start : α) :
    Value → Except Cause α
  | .object members => decodeMembers shape set [] members start
  | .array items => do
    let a ← decodeItems set shape.fields items start
    if items.length < shape.required then
      throw (.invalidLength items.length
        ("struct " ++ shape.name ++ " with " ++ toString shape.fields.length ++ " elements"))
    if shape.fields.length < items.length then
      throw (.invalidLength items.length "fewer elements in array")
    return a
  | v => .error (.invalidType v.found ("struct " ++ shape.name))

/-- A field that must be there. -/
def require {α : Type} (name : String) : Option α → Except Cause α
  | some a => .ok a
  | none => .error (.missingField name)

end RouteShortcuts.Json
