/-
  RouteShortcuts.Script.Token.Number — numbers.

  Only their extent and their faults matter: no number is ever computed with.
-/

import RouteShortcuts.Text.Identifier
import RouteShortcuts.Script.Token.Quoted

namespace RouteShortcuts.Script

/-- A token read off the front of a text, with what is left of it. -/
structure Scanned where
  token : Token
  stop : Nat
  rest : List Char
  /-- Faults that the token is read in spite of, in order. -/
  faults : List Fault := []

namespace Number

open RouteShortcuts.Text
open RouteShortcuts.Script.Quoted (isHexDigit isOctalDigit)

structure Digits where
  /-- The digits, without separators. -/
  digits : List Char
  stop : Nat
  rest : List Char
  /-- Is there a separator that no digit follows? -/
  badSeparator : Bool

def readDigits (isDigit : Char → Bool) (offset : Nat) : List Char → Digits
  | [] => ⟨[], offset, [], false⟩
  | c :: rest =>
    if c = '_' then
      let d := readDigits isDigit (offset + 1) rest
      { d with badSeparator := d.badSeparator || !(rest.head?.any isDigit) }
    else if isDigit c then
      let d := readDigits isDigit (offset + 1) rest
      { d with digits := c :: d.digits }
    else ⟨[], offset, c :: rest, false⟩

def Digits.faults (d : Digits) (start : Nat) : List Fault :=
  if d.badSeparator then [⟨.separatorBetweenDigits, start⟩] else []

/-- A number must not run into a name. -/
def close (stop : Nat) (rest : List Char) (faults : List Fault) : Scanned :=
  match rest with
  | c :: _ => if isNameStart c then ⟨.invalid ⟨.nameAfterNumber, stop⟩, stop, rest, faults⟩
    else ⟨.number, stop, rest, faults⟩
  | [] => ⟨.number, stop, rest, faults⟩

/-- The digits after `0x`, `0o` or `0b`. -/
def scanRadix (isDigit : Char → Bool) (kind : String) (start : Nat) (text : List Char) : Scanned :=
  let d := readDigits isDigit start text
  let faults := d.faults start
  if d.digits.isEmpty then ⟨.invalid ⟨.digitExpected kind, start⟩, d.stop, d.rest, faults⟩
  else match d.rest with
    | 'n' :: rest => ⟨.bigint, d.stop + 1, rest, faults⟩
    | rest => close d.stop rest faults

/-- The exponent, from its `e` if there is one. -/
def scanExponent (offset : Nat) (text : List Char) (faults : List Fault) : Scanned :=
  match text with
  | c :: rest =>
    if c = 'e' ∨ c = 'E' then
      match rest with
      | [] => ⟨.invalid ⟨.exponentExpected, offset + 1⟩, offset + 1, [], faults⟩
      | s :: rest' =>
        let (start, body) := if s = '+' ∨ s = '-' then (offset + 2, rest') else (offset + 1, rest)
        let d := readDigits isAsciiDigit start body
        let faults := faults ++ d.faults start
        if d.digits.isEmpty then
          ⟨.invalid ⟨.digitExpected "a decimal", start⟩, d.stop, d.rest, faults⟩
        else close d.stop d.rest faults
    else close offset text faults
  | [] => close offset text faults

/-- The fraction, from its point if there is one. -/
def scanFraction (offset : Nat) (text : List Char) (faults : List Fault) : Scanned :=
  match text with
  | '.' :: rest =>
    let d := readDigits isAsciiDigit (offset + 1) rest
    scanExponent d.stop d.rest (faults ++ d.faults (offset + 1))
  | _ => scanExponent offset text faults

/-- An octal number in the old form: `010`, also `00`. -/
def closeOctal (start stop : Nat) (rest : List Char) (faults : List Fault) : Scanned :=
  let n := close stop rest faults
  if n.token.isInvalid then n
  else { n with faults := faults ++ [⟨.legacyOctalNumber, start⟩] }

def scanDecimal (start : Nat) (text : List Char) : Scanned :=
  let d := readDigits isAsciiDigit start text
  let faults := d.faults start
  let zero := text.head? = some '0'
  if d.rest.head? = some 'n' ∧ (!zero ∨ d.stop = start + 1) then
    ⟨.bigint, d.stop + 1, d.rest.tail, faults⟩
  else if zero ∧ d.stop ≠ start + 1 then
    if d.digits.all isOctalDigit then closeOctal start d.stop d.rest faults
    else scanFraction d.stop d.rest (faults ++ [⟨.legacyDecimal, start⟩])
  else scanFraction d.stop d.rest faults

/-- Reads a number that begins with a digit. -/
def scan (start : Nat) (text : List Char) : Scanned :=
  match text with
  | '0' :: c :: rest =>
    if c = 'x' ∨ c = 'X' then scanRadix isHexDigit "a hexadecimal" (start + 2) rest
    else if c = 'o' ∨ c = 'O' then scanRadix isOctalDigit "an octal" (start + 2) rest
    else if c = 'b' ∨ c = 'B' then
      scanRadix (fun d => d = '0' || d = '1') "a binary" (start + 2) rest
    else scanDecimal start text
  | _ => scanDecimal start text

end Number
end RouteShortcuts.Script
