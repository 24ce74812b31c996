/-
  RouteShortcuts.Script.Token.Scan — the next token of a script.

  `Lexed.next` skips what separates tokens and reads the longest token that stands there. Two readings
  depend on the grammar: inside types `<` and `>` are read alone (`angles`), and a slash is read as an
  operator, until the grammar asks for a pattern (`Script.Token.Pattern`).
-/

import RouteShortcuts.Text.Quoted
import RouteShortcuts.Script.Token.Blank
import RouteShortcuts.Script.Token.Word

namespace RouteShortcuts.Script

open RouteShortcuts.Text

/-- The longest mark that a text begins with, and its length. -/
def Mark.scan? (angles : Bool) (text : List Char) : Option (Mark × Nat) :=
  match text with
  | '\x7b' :: _ => some (.braceOpen, 1)
  | '\x7d' :: _ => some (.braceClose, 1)
  | '(' :: _ => some (.parenOpen, 1)
  | ')' :: _ => some (.parenClose, 1)
  | '[' :: _ => some (.bracketOpen, 1)
  | ']' :: _ => some (.bracketClose, 1)
  | ';' :: _ => some (.semicolon, 1)
  | ',' :: _ => some (.comma, 1)
  | '.' :: '.' :: '.' :: _ => some (.dots, 3)
  | '.' :: _ => some (.dot, 1)
  | '?' :: '.' :: c :: _ => if isAsciiDigit c then some (.question, 1) else some (.questionDot, 2)
  | '?' :: '.' :: _ => some (.questionDot, 2)
  | '?' :: '?' :: '=' :: _ => some (.nullishAssign, 3)
  | '?' :: '?' :: _ => some (.nullish, 2)
  | '?' :: _ => some (.question, 1)
  | ':' :: _ => some (.colon, 1)
  | '#' :: _ => some (.hash, 1)
  | '@' :: _ => some (.at, 1)
  | '=' :: '=' :: '=' :: _ => some (.same, 3)
  | '=' :: '=' :: _ => some (.equal, 2)
  | '=' :: '>' :: _ => some (.arrow, 2)
  | '=' :: _ => some (.assign, 1)
  | '!' :: '=' :: '=' :: _ => some (.notSame, 3)
  | '!' :: '=' :: _ => some (.notEqual, 2)
  | '!' :: _ => some (.not, 1)
  | '~' :: _ => some (.complement, 1)
  | '+' :: '+' :: _ => some (.increment, 2)
  | '+' :: '=' :: _ => some (.addAssign, 2)
  | '+' :: _ => some (.plus, 1)
  | '-' :: '-' :: _ => some (.decrement, 2)
  | '-' :: '=' :: _ => some (.subAssign, 2)
  | '-' :: _ => some (.minus, 1)
  | '*' :: '*' :: '=' :: _ => some (.powAssign, 3)
  | '*' :: '*' :: _ => some (.power, 2)
  | '*' :: '=' :: _ => some (.mulAssign, 2)
  | '*' :: _ => some (.star, 1)
  | '/' :: '=' :: _ => some (.divAssign, 2)
  | '/' :: _ => some (.slash, 1)
  | '%' :: '=' :: _ => some (.remAssign, 2)
  | '%' :: _ => some (.percent, 1)
  | '&' :: '&' :: '=' :: _ => some (.andAssign, 3)
  | '&' :: '&' :: _ => some (.and, 2)
  | '&' :: '=' :: _ => some (.bitAndAssign, 2)
  | '&' :: _ => some (.bitAnd, 1)
  | '|' :: '|' :: '=' :: _ => some (.orAssign, 3)
  | '|' :: '|' :: _ => some (.or, 2)
  | '|' :: '=' :: _ => some (.bitOrAssign, 2)
  | '|' :: _ => some (.bitOr, 1)
  | '^' :: '=' :: _ => some (.bitXorAssign, 2)
  | '^' :: _ => some (.bitXor, 1)
  | '<' :: rest =>
    if angles then some (.less, 1)
    else match rest with
      | '<' :: '=' :: _ => some (.shiftLeftAssign, 3)
      | '<' :: _ => some (.shiftLeft, 2)
      | '=' :: _ => some (.lessEqual, 2)
      | _ => some (.less, 1)
  | '>' :: rest =>
    if angles then some (.greater, 1)
    else match rest with
      | '>' :: '>' :: '=' :: _ => some (.shiftRightZeroAssign, 4)
      | '>' :: '>' :: _ => some (.shiftRightZero, 3)
      | '>' :: '=' :: _ => some (.shiftRightAssign, 3)
      | '>' :: _ => some (.shiftRight, 2)
      | '=' :: _ => some (.greaterEqual, 2)
      | _ => some (.greater, 1)
  | _ => none

namespace Quoted

/-- Reads a string; `rest` is what follows its opening quote. -/
def scanString (start : Nat) (quote : Char) (rest : List Char) : Scanned :=
  let piece := read .string quote {} (start + 1) rest
  let noted := piece.progress.noted.reverse
  match piece.progress.fault with
  | some fault => ⟨.invalid fault, piece.stop, piece.rest, noted⟩
  | none =>
    let token := Token.string (textOf piece.progress.units)
    if piece.ending = .closed then ⟨token, piece.stop, piece.rest, noted⟩
    else ⟨token, piece.stop, piece.rest, noted ++ [⟨.unterminatedString, start⟩]⟩

/-- Reads a piece of a template, which begins at `start` with a quote or a closing brace. -/
def scanTemplate (start : Nat) (rest : List Char) : Scanned :=
  let piece := read .template '\x60' {} (start + 1) rest
  match piece.ending with
  | .closed => ⟨.template true piece.progress.fault, piece.stop, piece.rest, []⟩
  | .expression => ⟨.template false piece.progress.fault, piece.stop, piece.rest, []⟩
  | _ => ⟨.invalid ⟨.unterminatedTemplate, start⟩, piece.stop, piece.rest, []⟩

end Quoted

/-- The token that a text begins with. -/
def Token.scan (angles : Bool) (start : Nat) (text : List Char) : Scanned :=
  match text with
  | [] => ⟨.endOfText, start, [], []⟩
  | c :: rest =>
    if isNameStart c ∨ c = '\\' then Word.scan start text
    else if isAsciiDigit c then Number.scan start text
    else if c = '.' ∧ rest.head?.any isAsciiDigit then Number.scanFraction start text []
    else if c = '"' ∨ c = '\'' then Quoted.scanString start c rest
    else if c = '\x60' then Quoted.scanTemplate start rest
    else match Mark.scan? angles text with
      | some (m, length) => ⟨.mark m, start + length, text.drop length, []⟩
      | none => ⟨.invalid ⟨.unexpectedCharacter (quoteChar c), start⟩, start + 1, rest, []⟩

structure Lexed where
  token : Token
  start : Nat
  stop : Nat
  /-- The text from the token on. -/
  here : List Char
  /-- The text after the token. -/
  rest : List Char
  /-- Has a line ended since the token before? -/
  newlineBefore : Bool
  /-- Faults met on the way to the token and in it, in order. -/
  faults : List Fault

namespace Lexed

def ofScanned (s : Scanned) (start : Nat) (here : List Char) (newline : Bool)
    (faults : List Fault) : Lexed :=
  ⟨s.token, start, s.stop, here, s.rest, newline, faults ++ s.faults⟩

/-- Lines that a merge has left, seven signs and a blank: what is wrong is reported in place of a token
after them. -/
def isConflict (newline : Bool) (text : List Char) : Bool :=
  newline && ("<<<<<<< ".toList.isPrefixOf text || ">>>>>>> ".toList.isPrefixOf text)

def ofSkipped (angles : Bool) (s : Blank.Skipped) : Lexed :=
  if isConflict s.newline s.rest then
    let line := s.rest.takeWhile (!isLineEnd ·)
    let fault := ⟨.conflictMarker, s.stop⟩
    ⟨.invalid fault, s.stop, s.stop + line.length, s.rest, s.rest.drop line.length, s.newline,
      s.faults ++ [fault]⟩
  else ofScanned (Token.scan angles s.stop s.rest) s.stop s.rest s.newline s.faults

def first (text : List Char) : Lexed :=
  ofSkipped false (Blank.skipFirst text)

def next (angles : Bool) (l : Lexed) : Lexed :=
  ofSkipped angles (Blank.skip .plain false l.stop l.rest)

end Lexed
end RouteShortcuts.Script
