/-
  RouteShortcuts.Script.Token.Word — names and reserved words.

  A name is a run of name characters, each of which may be written as an escape. A word without
  escapes is cut off in one step; only a backslash brings in `readEscaped`.
-/

import RouteShortcuts.Script.Token.Number

namespace RouteShortcuts.Script.Word

open RouteShortcuts.Text
open RouteShortcuts.Script.Quoted (isHexDigit)

/-- Where the reader of a name stands; escapes remember the position of their backslash. -/
inductive Mode where
  | plain
  | escape (first : Nat)
  | unicode (first : Nat)
  | hex (first left value : Nat)
  | braced (first count value : Nat)
  deriving DecidableEq, Repr

structure Progress where
  mode : Mode := .plain
  /-- The characters so far, latest first. -/
  chars : List Char := []
  /-- Faults the name is read in spite of, latest first. -/
  noted : List Fault := []

/-- Adds an escaped character, which has to be one that may stand there. -/
def Progress.push (p : Progress) (first value : Nat) : Progress :=
  let c := Char.ofNat value
  let fits := if p.chars.isEmpty then isNameStart c else isNamePart c
  { mode := .plain, chars := c :: p.chars,
    noted := if fits then p.noted else ⟨.badNameCharacter, first⟩ :: p.noted }

/-- What an escape makes of the next character: the new progress or why it breaks off. -/
def Progress.take (p : Progress) (c : Char) : Except Cause Progress :=
  match p.mode with
  | .plain => .ok p
  | .escape first =>
    if c = 'u' then .ok { p with mode := .unicode first } else .error .unicodeEscapeExpected
  | .unicode first =>
    if c = '\x7b' then .ok { p with mode := .braced first 0 0 }
    else if isHexDigit c then .ok { p with mode := .hex first 3 (Ranges.hexValue c) }
    else .error (.badEscape "4 hex characters")
  | .hex first left value =>
    if isHexDigit c then
      let value := value * 16 + Ranges.hexValue c
      if left ≤ 1 then .ok (p.push first value) else .ok { p with mode := .hex first (left - 1) value }
    else .error (.badEscape "4 hex characters")
  | .braced first count value =>
    if isHexDigit c then
      .ok { p with mode := .braced first (count + 1) (value * 16 + Ranges.hexValue c) }
    else if count = 0 then .error (.badEscape "1-6 hex characters")
    else if 0x10FFFF < value then .error (.badEscape "1-6 hex characters in the range 0 to 10FFFF.")
    else if c = '\x7d' then .ok (p.push first value)
    else .error .badUnicodeEscape

/-- Where a broken escape is reported: at its backslash if nothing that could be one follows. -/
def Progress.faultAt (p : Progress) (cause : Cause) (offset : Nat) : Fault :=
  match p.mode with
  | .escape first => ⟨cause, first⟩
  | _ => ⟨cause, offset⟩

/-- Words that must not be written with an escape. -/
def isPlainOnly (w : String) : Bool :=
  isKeyword w || isReservedInStrict w || w == "await"

def finish (p : Progress) (stop : Nat) (rest : List Char) : Scanned :=
  let name := String.ofList p.chars.reverse
  if isPlainOnly name then ⟨.invalid ⟨.escapeInReservedWord name, stop⟩, stop, rest, p.noted.reverse⟩
  else ⟨.word name true, stop, rest, p.noted.reverse⟩

/-- Reads a name in which an escape occurs. -/
def readEscaped (p : Progress) (offset : Nat) : List Char → Scanned
  | [] =>
    match p.mode with
    | .plain => finish p offset []
    | .escape first => ⟨.invalid ⟨.unicodeEscapeExpected, first⟩, offset, [], p.noted.reverse⟩
    | .braced .. => ⟨.invalid ⟨.badEscape "1-6 hex characters", offset⟩, offset, [], p.noted.reverse⟩
    | _ => ⟨.invalid ⟨.badEscape "4 hex characters", offset⟩, offset, [], p.noted.reverse⟩
  | c :: rest =>
    if p.mode = .plain then
      if c = '\\' then readEscaped { p with mode := .escape offset } (offset + 1) rest
      else if isNamePart c then readEscaped { p with chars := c :: p.chars } (offset + 1) rest
      else finish p offset (c :: rest)
    else match p.take c with
      | .ok p => readEscaped p (offset + 1) rest
      | .error cause => ⟨.invalid (p.faultAt cause offset), offset, c :: rest, p.noted.reverse⟩

/-- Reads a word; `text` begins with one of its characters or with a backslash. -/
def scan (start : Nat) (text : List Char) : Scanned :=
  let chars := text.takeWhile isNamePart
  let stop := start + chars.length
  match text.dropWhile isNamePart with
  | '\\' :: rest =>
    readEscaped { chars := chars.reverse, mode := .escape stop } (stop + 1) rest
  | rest => ⟨.word (String.ofList chars) false, stop, rest, []⟩

end RouteShortcuts.Script.Word
