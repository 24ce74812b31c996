/-
  RouteShortcuts.Json.Printer — writes JSON values, on one line or on several.

  In strings the quote, the backslash and control characters are escaped and all else stands as it is.
-/

import RouteShortcuts.Json.Value

namespace RouteShortcuts.Json

def hexPair (n : Nat) : List Char := [Nat.digitChar (n / 16), Nat.digitChar (n % 16)]

/-- A character as it stands in a string. -/
def escape : Char → List Char
  | '"' => ['\\', '"']
  | '\\' => ['\\', '\\']
  | '\x08' => ['\\', 'b']
  | '\x0C' => ['\\', 'f']
  | '\n' => ['\\', 'n']
  | '\r' => ['\\', 'r']
  | '\t' => ['\\', 't']
  | c => if c.toNat < 0x20 then ['\\', 'u', '0', '0'] ++ hexPair c.toNat else [c]

def quote (s : String) : List Char := '"' :: (s.toList.flatMap escape ++ ['"'])

/-- A new line with so many levels of indentation, two blanks each. -/
def newLine (level : Nat) : List Char := '\n' :: List.replicate (2 * level) ' '

def boolChars (b : Bool) : List Char := if b then "true".toList else "false".toList

mutual

/-- A value on one line, without blanks. -/
def Value.compactChars : Value → List Char
  | .null => "null".toList
  | .bool b => boolChars b
  | .number n => n.text.toList
  | .string s => quote s
  | .array items => '[' :: (compactItems items ++ [']'])
  | .object members => '\x7b' :: (compactMembers members ++ ['\x7d'])

def Value.compactItems : List Value → List Char
  | [] => []
  | [v] => v.compactChars
  | v :: rest => v.compactChars ++ ',' :: compactItems rest

def Value.compactMembers : List (String × Value) → List Char
  | [] => []
  | [(k, v)] => quote k ++ ':' :: v.compactChars
  | (k, v) :: rest => quote k ++ ':' :: (v.compactChars ++ ',' :: compactMembers rest)

end

mutual

/-- A value on several lines: items and members on lines of their own, one level further in. -/
def Value.prettyChars (level : Nat) : Value → List Char
  | .null => "null".toList
  | .bool b => boolChars b
  | .number n => n.text.toList
  | .string s => quote s
  | .array [] => ['[', ']']
  | .array items => '[' :: (prettyItems (level + 1) items ++ newLine level ++ [']'])
  | .object [] => ['\x7b', '\x7d']
  | .object members => '\x7b' :: (prettyMembers (level + 1) members ++ newLine level ++ ['\x7d'])

def Value.prettyItems (level : Nat) : List Value → List Char
  | [] => []
  | [v] => newLine level ++ v.prettyChars level
  | v :: rest => newLine level ++ v.prettyChars level ++ ',' :: prettyItems level rest

def Value.prettyMembers (level : Nat) : List (String × Value) → List Char
  | [] => []
  | [(k, v)] => newLine level ++ quote k ++ ':' :: ' ' :: v.prettyChars level
  | (k, v) :: rest =>
    newLine level ++ quote k ++ ':' :: ' ' :: (v.prettyChars level ++ ',' :: prettyMembers level rest)

end

def Value.compact (v : Value) : String := String.ofList v.compactChars

def Value.pretty (v : Value) : String := String.ofList (v.prettyChars 0)

end RouteShortcuts.Json
