/-
  RouteShortcuts.Script.Token.Pattern — patterns of characters between slashes.

  Whether a slash opens a pattern depends on where it stands, so the grammar asks for this reading.
  What is between the slashes is not looked at, apart from classes, in which a slash does not end it.
-/

import RouteShortcuts.Script.Token.Number

namespace RouteShortcuts.Script.PatternText

open RouteShortcuts.Text

/-- The text after the closing slash and its offset; `none` if the line ends first. -/
def skipBody (inClass escaped : Bool) (offset : Nat) : List Char → Option (Nat × List Char)
  | [] => none
  | c :: rest =>
    if isLineEnd c then none
    else if escaped then skipBody inClass false (offset + 1) rest
    else if c = '/' ∧ !inClass then some (offset + 1, rest)
    else if c = '[' then skipBody true false (offset + 1) rest
    else if c = ']' then skipBody false false (offset + 1) rest
    else skipBody inClass (c == '\\') (offset + 1) rest

/-- The first character that occurs again later. -/
def firstRepeated : List Char → Option Char
  | [] => none
  | c :: rest => if rest.contains c then some c else firstRepeated rest

def flagFaults (flags : List Char) (start : Nat) : List Fault :=
  let known := flags.filter ("dgimsuvy".toList.contains ·)
  (if flags.length ≠ known.length then [⟨.unknownPatternFlags, start⟩] else [])
    ++ match firstRepeated known with
      | some c => [⟨.repeatedPatternFlag c, start⟩]
      | none => []

/-- Reads a pattern; `text` begins with its slash. -/
def scan (start : Nat) (text : List Char) : Scanned :=
  match skipBody false false (start + 1) text.tail with
  | none =>
    let body := text.takeWhile (!isLineEnd ·)
    ⟨.invalid ⟨.unterminatedPattern, start⟩, start + body.length, text.dropWhile (!isLineEnd ·), []⟩
  | some (stop, rest) =>
    let flags := if rest.head?.any isNameStart then rest.takeWhile isNamePart else []
    ⟨.pattern, stop + flags.length, rest.drop flags.length, flagFaults flags start⟩

end RouteShortcuts.Script.PatternText
