/-
  RouteShortcuts.Script.Token.Quoted — the text between quotes: strings and pieces of templates.

  Both are read character by character. `Progress` says where in an escape the reader stands;
  `Progress.take?` lets an unfinished escape have the next character, and `Progress.settle` closes one
  that has ended or broken off. A broken escape ends a string at once; a template is read on to its
  end, since a tag may accept it.
-/

import RouteShortcuts.Text.Ranges
import RouteShortcuts.Script.Token

namespace RouteShortcuts.Script.Quoted

open RouteShortcuts.Text

def isHexDigit (c : Char) : Bool :=
  ('0' ≤ c && c ≤ '9') || ('a' ≤ c && c ≤ 'f') || ('A' ≤ c && c ≤ 'F')

def isOctalDigit (c : Char) : Bool :=
  '0' ≤ c && c ≤ '7'

inductive Kind where
  | string
  | template
  deriving DecidableEq, Repr

/-- Where the reader stands; escapes remember the position of their backslash. -/
inductive Mode where
  | plain
  | escape (first : Nat)
  /-- After a backslash and a carriage return, whose line feed belongs to it. -/
  | joined
  /-- Before `left` more hexadecimal digits; `wanted` is how many there should have been. -/
  | hex (first left value : Nat) (wanted : String)
  /-- After a backslash and a `u`. -/
  | unicode (first : Nat)
  | braced (first count value : Nat)
  | octal (first count value : Nat)
  deriving DecidableEq, Repr

structure Progress where
  mode : Mode := .plain
  /-- The code points so far, latest first; surrogates may be among them. -/
  units : List Nat := []
  /-- The first escape that cannot be read. -/
  fault : Option Fault := none
  /-- Faults that do not keep the text from being read, latest first. -/
  noted : List Fault := []

namespace Progress

def push (p : Progress) (n : Nat) : Progress :=
  { p with mode := .plain, units := n :: p.units }

def fail (p : Progress) (cause : Cause) (offset : Nat) : Progress :=
  { p with mode := .plain, fault := p.fault.or (some ⟨cause, offset⟩) }

/-- An octal escape other than `\0` is a fault: noted in a string, final in a template. -/
def legacy (p : Progress) (kind : Kind) (offset : Nat) : Progress :=
  match kind with
  | .string => { p with noted := ⟨.legacyOctalEscape, offset⟩ :: p.noted }
  | .template => p.fail .legacyOctalEscape offset

/-- The character after a backslash. -/
def escaped (p : Progress) (start : Nat) (c : Char) : Progress :=
  match c with
  | 'n' => p.push 10
  | 'r' => p.push 13
  | 't' => p.push 9
  | 'b' => p.push 8
  | 'v' => p.push 11
  | 'f' => p.push 12
  | 'x' => { p with mode := .hex start 2 0 "2 hex characters" }
  | 'u' => { p with mode := .unicode start }
  | '\r' => { p with mode := .joined }
  | '\n' | '\u2028' | '\u2029' => { p with mode := .plain }
  | c => if isOctalDigit c then { p with mode := .octal start 1 (Ranges.hexValue c) }
    else p.push c.toNat

/-- What an unfinished escape makes of the next character; `none` if it does not belong to it. -/
def take? (p : Progress) (c : Char) : Option Progress :=
  match p.mode with
  | .plain => none
  | .escape start => some (p.escaped start c)
  | .joined => if c = '\n' then some { p with mode := .plain } else none
  | .hex start left value wanted =>
    if isHexDigit c then
      let value := value * 16 + Ranges.hexValue c
      if left ≤ 1 then some (p.push value)
        else some { p with mode := .hex start (left - 1) value wanted }
    else none
  | .unicode start =>
    if c = '\x7b' then some { p with mode := .braced start 0 0 }
    else if isHexDigit c then
      some { p with mode := .hex start 3 (Ranges.hexValue c) "4 hex characters" }
    else none
  | .braced start count value =>
    if isHexDigit c then
      some { p with mode := .braced start (count + 1) (value * 16 + Ranges.hexValue c) }
    else if c = '\x7d' ∧ count ≠ 0 ∧ value ≤ 0x10FFFF then some (p.push value)
    else none
  | .octal start count value =>
    if isOctalDigit c ∧ count < 3 ∧ value * 8 + Ranges.hexValue c ≤ 255 then
      some { p with mode := .octal start (count + 1) (value * 8 + Ranges.hexValue c) }
    else none

/-- Closes an escape that goes no further. -/
def settle (p : Progress) (kind : Kind) : Progress :=
  match p.mode with
  | .plain => p
  | .escape _ | .joined => { p with mode := .plain }
  | .hex start _ _ wanted => p.fail (.badEscape wanted) start
  | .unicode start => p.fail (.badEscape "4 hex characters") start
  | .braced start count value =>
    if count = 0 then p.fail (.badEscape "1-6 hex characters") start
    else if 0x10FFFF < value then
      p.fail (.badEscape "1-6 hex characters in the range 0 to 10FFFF.") start
    else p.fail .badUnicodeEscape start
  | .octal start count value =>
    if count = 1 ∧ value = 0 then p.push 0 else (p.push value).legacy kind start

end Progress

inductive Ending where
  /-- At the closing quote. -/
  | closed
  /-- Before an expression in a template. -/
  | expression
  /-- At the end of the line of a string, or of the whole text. -/
  | cut
  /-- At an escape that cannot be read. -/
  | broken
  deriving DecidableEq, Repr

structure Piece where
  progress : Progress
  ending : Ending
  stop : Nat
  rest : List Char

/-- Reads up to the closing quote; `offset` is the position of the first character. -/
def read (kind : Kind) (quote : Char) (p : Progress) (offset : Nat) : List Char → Piece
  | [] =>
    let p := p.settle kind
    ⟨p, if kind = .string ∧ p.fault.isSome then .broken else .cut, offset, []⟩
  | c :: rest =>
    match p.take? c with
    | some p => read kind quote p (offset + 1) rest
    | none =>
      let p := p.settle kind
      if kind = .string ∧ p.fault.isSome then ⟨p, .broken, offset, c :: rest⟩
      else if c = quote then ⟨p, .closed, offset + 1, rest⟩
      else if c = '\\' then read kind quote { p with mode := .escape offset } (offset + 1) rest
      else if kind = .string ∧ (c = '\n' ∨ c = '\r') then ⟨p, .cut, offset, c :: rest⟩
      else if kind = .template ∧ c = '$' ∧ rest.head? = some '\x7b' then
        ⟨p, .expression, offset + 2, rest.tail⟩
      else read kind quote (p.push c.toNat) (offset + 1) rest

/-- Joins pairs of surrogates; `none` if one stays alone. -/
def join : List Nat → Option (List Char)
  | [] => some []
  | [n] => if 0xD800 ≤ n ∧ n ≤ 0xDFFF then none else some [Char.ofNat n]
  | a :: b :: rest =>
    if 0xD800 ≤ a ∧ a ≤ 0xDBFF ∧ 0xDC00 ≤ b ∧ b ≤ 0xDFFF then
      (join rest).map (Char.ofNat (0x10000 + (a - 0xD800) * 0x400 + (b - 0xDC00)) :: ·)
    else if 0xD800 ≤ a ∧ a ≤ 0xDFFF then none
    else (join (b :: rest)).map (Char.ofNat a :: ·)

/-- The text of a list of code points, latest first. -/
def textOf (units : List Nat) : Option String :=
  (join units.reverse).map String.ofList

end RouteShortcuts.Script.Quoted
