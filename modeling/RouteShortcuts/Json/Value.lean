/-
  RouteShortcuts.Json.Value — JSON values.

  The members of an object keep their order. A number keeps what was written: a whole number that fits
  64 bits, or a decimal, whose text is that of the nearest binary floating point number.
-/

import RouteShortcuts.Json.Decimal
import RouteShortcuts.Text.Quoted

namespace RouteShortcuts.Json

open RouteShortcuts.Text

/-- A number: whole, or `significand · 10^exponent` with a sign. -/
inductive Number where
  | whole (n : Int)
  | decimal (negative : Bool) (significand : Nat) (exponent : Int)
  deriving DecidableEq, Repr

/-- Ten to a power that a floating point number can hold. -/
def power (n : Nat) : Float := Float.ofScientific 1 false n

/-- A decimal as a floating point number: the significand times or over a power of ten, in steps of
at most 308. -/
def scaled : Nat → Float → Int → Float
  | 0, f, _ => f
  | n + 1, f, exponent =>
    if 0 ≤ exponent then
      if exponent ≤ 308 then f * power exponent.toNat
      else if f == 0.0 then f else f / 0.0
    else if -308 ≤ exponent then f / power (-exponent).toNat
    else if f == 0.0 then f
    else scaled n (f / power 308) (exponent + 308)

def Number.float : Number → Float
  | .whole n => if n < 0 then -n.natAbs.toUInt64.toFloat else n.natAbs.toUInt64.toFloat
  | .decimal negative significand exponent =>
    let f := scaled 8 significand.toUInt64.toFloat exponent
    if negative then -f else f

def Number.text : Number → String
  | .whole n => toString n
  | n => floatText n.float

/-- Is the number within the range of floating point numbers? -/
def Number.inRange (n : Number) : Bool := n.float.isFinite

inductive Value where
  | null
  | bool (b : Bool)
  | number (n : Number)
  | string (s : String)
  | array (items : List Value)
  | object (members : List (String × Value))
  deriving Inhabited

/-- What stands where something else is wanted. -/
def Value.found : Value → String
  | .null => "null"
  | .bool b => "boolean \x60" ++ toString b ++ "\x60"
  | .number (.whole n) => "integer \x60" ++ toString n ++ "\x60"
  | .number n => "floating point \x60" ++ n.text ++ "\x60"
  | .string s => "string " ++ quoteString s
  | .array _ => "sequence"
  | .object _ => "map"

/-- The value of a member; of several members with one key the last one counts. -/
def lookup? (key : String) (members : List (String × Value)) : Option Value :=
  (members.reverse.find? (·.1 == key)).map (·.2)

/-- Sets a member: in its place if the key is there, at the end if not. -/
def insert (key : String) (value : Value) : List (String × Value) → List (String × Value)
  | [] => [(key, value)]
  | (k, v) :: rest => if k = key then (k, value) :: rest else (k, v) :: insert key value rest

def Value.get? (key : String) : Value → Option Value
  | .object members => lookup? key members
  | _ => none

def Value.nat (n : Nat) : Value := .number (.whole n)

def Value.strings (items : List String) : Value := .array (items.map Value.string)

end RouteShortcuts.Json
