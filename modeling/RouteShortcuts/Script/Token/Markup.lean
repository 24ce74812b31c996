/-
  RouteShortcuts.Script.Token.Markup — what stands between and inside the tags of markup.

  Between tags text runs up to the next tag or expression. Inside a tag, names may hold dashes, and the
  strings of attributes have no escapes and may run over several lines.
-/

import RouteShortcuts.Script.Token.Number
import RouteShortcuts.Script.Token.Blank

namespace RouteShortcuts.Script.MarkupText

open RouteShortcuts.Text

/-- The text up to the next tag or expression. A closing sign that stands alone is a fault. -/
def readText (offset : Nat) : List Char → Scanned
  | [] => ⟨.markupText, offset, [], []⟩
  | c :: rest =>
    if c = '<' ∨ c = '\x7b' then ⟨.markupText, offset, c :: rest, []⟩
    else
      let s := readText (offset + 1) rest
      if c = '>' then
        { s with faults := ⟨.loneMarkupCharacter "`\x7b'>'\x7d` or `&gt;`", offset⟩ :: s.faults }
      else if c = '\x7d' then
        { s with faults := ⟨.loneMarkupCharacter "`\x7b'\x7d'\x7d` or `&rbrace;`", offset⟩ :: s.faults }
      else s

/-- Reads what follows a tag or an expression in markup. -/
def scanChild (start : Nat) (text : List Char) : Scanned :=
  match text with
  | [] => ⟨.endOfText, start, [], []⟩
  | '<' :: '/' :: rest => ⟨.mark .lessSlash, start + 2, rest, []⟩
  | '<' :: rest => ⟨.mark .less, start + 1, rest, []⟩
  | '\x7b' :: rest => ⟨.mark .braceOpen, start + 1, rest, []⟩
  | _ => readText start text

/-- Reads a name in a tag; `text` begins with a name character. -/
def scanName (start : Nat) (text : List Char) : Scanned :=
  let fits := fun c => isNamePart c || c == '-'
  let chars := text.takeWhile fits
  ⟨.markupName (String.ofList chars), start + chars.length, text.dropWhile fits, []⟩

/-- Reads the string of an attribute; `text` begins with its quote. -/
def scanString (start : Nat) (text : List Char) : Scanned :=
  match text with
  | quote :: rest =>
    let chars := rest.takeWhile (· ≠ quote)
    let stop := start + 1 + chars.length
    match rest.dropWhile (· ≠ quote) with
    | _ :: rest => ⟨.string (some (String.ofList chars)), stop + 1, rest, []⟩
    | [] => ⟨.string (some (String.ofList chars)), stop, [], [⟨.unterminatedString, start⟩]⟩
  | [] => ⟨.endOfText, start, [], []⟩

end RouteShortcuts.Script.MarkupText
