/-
  RouteShortcuts.Json.Fault — why a text or a value is not what it should be.

  Faults of a text carry a place: the line, from 1, and the octets before the place on that line.
-/

import RouteShortcuts.Json.Value

namespace RouteShortcuts.Json

inductive Cause where
  | endOfList
  | endOfObject
  | endOfString
  | endOfValue
  | expectedColon
  | expectedListCommaOrEnd
  | expectedObjectCommaOrEnd
  | expectedWord
  | expectedValue
  | invalidEscape
  | invalidNumber
  | numberOutOfRange
  | controlCharacter
  | keyMustBeString
  | loneSurrogate
  | trailingComma
  | trailingCharacters
  | endOfHexEscape
  | nestedTooDeeply
  | invalidType (found wanted : String)
  | invalidLength (length : Nat) (wanted : String)
  | missingField (name : String)
  | duplicateField (name : String)
  | noVariant (choice : String)
  deriving DecidableEq, Repr

def Cause.message : Cause → String
  | .endOfList => "EOF while parsing a list"
  | .endOfObject => "EOF while parsing an object"
  | .endOfString => "EOF while parsing a string"
  | .endOfValue => "EOF while parsing a value"
  | .expectedColon => "expected \x60:\x60"
  | .expectedListCommaOrEnd => "expected \x60,\x60 or \x60]\x60"
  | .expectedObjectCommaOrEnd => "expected \x60,\x60 or \x60\x7d\x60"
  | .expectedWord => "expected ident"
  | .expectedValue => "expected value"
  | .invalidEscape => "invalid escape"
  | .invalidNumber => "invalid number"
  | .numberOutOfRange => "number out of range"
  | .controlCharacter => "control character (\\u0000-\\u001F) found while parsing a string"
  | .keyMustBeString => "key must be a string"
  | .loneSurrogate => "lone leading surrogate in hex escape"
  | .trailingComma => "trailing comma"
  | .trailingCharacters => "trailing characters"
  | .endOfHexEscape => "unexpected end of hex escape"
  | .nestedTooDeeply => "recursion limit exceeded"
  | .invalidType found wanted => "invalid type: " ++ found ++ ", expected " ++ wanted
  | .invalidLength length wanted => "invalid length " ++ toString length ++ ", expected " ++ wanted
  | .missingField name => "missing field \x60" ++ name ++ "\x60"
  | .duplicateField name => "duplicate field \x60" ++ name ++ "\x60"
  | .noVariant choice => "data did not match any variant of untagged enum " ++ choice

structure Place where
  line : Nat := 1
  column : Nat := 0
  deriving DecidableEq, Repr

def Place.after (p : Place) (c : Char) : Place :=
  if c = '\n' then ⟨p.line + 1, 0⟩ else ⟨p.line, p.column + c.utf8Size⟩

/-- The place after the first octet of a character. -/
def Place.into (p : Place) (c : Char) : Place :=
  if c = '\n' then ⟨p.line + 1, 0⟩ else ⟨p.line, p.column + 1⟩

/-- A cause, and the place if it is known. -/
structure Fault where
  cause : Cause
  place : Option Place := none
  deriving DecidableEq, Repr

def Fault.message (f : Fault) : String :=
  match f.place with
  | none => f.cause.message
  | some p => f.cause.message ++ " at line " ++ toString p.line ++ " column " ++ toString p.column

/-- Gives a fault a place, unless it has one. -/
def Fault.orAt (f : Fault) (p : Place) : Fault := { f with place := f.place.or (some p) }

end RouteShortcuts.Json
