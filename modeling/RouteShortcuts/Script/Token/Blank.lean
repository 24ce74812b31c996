/-
  RouteShortcuts.Script.Token.Blank — what separates tokens: blanks, line ends and comments.

  Besides the two kinds of comments, `<!--` opens a comment to the end of the line, and so does `-->`
  at the start of one; both are faults in a module, and noted. A first line that begins with `#!` is
  skipped too, and so is a line that begins with seven equals signs, which is a fault.
-/

import RouteShortcuts.Text.Identifier
import RouteShortcuts.Script.Token

namespace RouteShortcuts.Script.Blank

open RouteShortcuts.Text

inductive Mode where
  | plain
  /-- In a comment that ends with its line. -/
  | line
  /-- In a comment between slash and star. -/
  | block
  /-- Before `left` more characters of a sign that has been recognised; then on in `next`. -/
  | over (left : Nat) (next : Mode)
  deriving DecidableEq, Repr

structure Skipped where
  stop : Nat
  rest : List Char
  /-- Has a line ended, or does the text begin here? -/
  newline : Bool
  /-- Faults on the way, in order. -/
  faults : List Fault

def Skipped.note (s : Skipped) (cause : Cause) (offset : Nat) : Skipped :=
  { s with faults := ⟨cause, offset⟩ :: s.faults }

/-- What is cut off if a comment or a sign has no end. -/
def Mode.faultsAtEnd (offset : Nat) : Mode → List Fault
  | .block | .over _ .block => [⟨.unterminatedComment, offset⟩]
  | _ => []

/-- The sign that `text` begins with, if it opens a comment: its length, the mode after it, and the
fault in it. Two of the signs open comments only at the start of a line. -/
def sign? (newline : Bool) (text : List Char) : Option (Nat × Mode × Option Cause) :=
  match text with
  | '/' :: '/' :: _ => some (2, .line, none)
  | '/' :: '*' :: _ => some (2, .block, none)
  | '<' :: '!' :: '-' :: '-' :: _ => some (4, .line, some .legacyComment)
  | '-' :: '-' :: '>' :: _ => if newline then some (3, .line, some .legacyComment) else none
  | '=' :: '=' :: '=' :: '=' :: '=' :: '=' :: '=' :: _ =>
    if newline then some (7, .line, some .conflictMarker) else none
  | _ => none

/-- Skips to the next token. `newline` says whether a line has ended since the last token. -/
def skip (mode : Mode) (newline : Bool) (offset : Nat) : List Char → Skipped
  | [] => ⟨offset, [], newline, mode.faultsAtEnd offset⟩
  | c :: rest =>
    match mode with
    | .over left next =>
      if left ≤ 1 then skip next newline (offset + 1) rest
      else skip (.over (left - 1) next) newline (offset + 1) rest
    | .line =>
      if isLineEnd c then skip .plain true (offset + 1) rest
      else skip .line newline (offset + 1) rest
    | .block =>
      if c = '*' ∧ rest.head? = some '/' then skip (.over 1 .plain) newline (offset + 1) rest
      else skip .block (newline || isLineEnd c) (offset + 1) rest
    | .plain =>
      if isLineEnd c then skip .plain true (offset + 1) rest
      else if isBlank c then skip .plain newline (offset + 1) rest
      else match sign? newline (c :: rest) with
        | some (length, next, cause) =>
          let s := skip (.over (length - 1) next) newline (offset + 1) rest
          match cause with
          | some cause => s.note cause offset
          | none => s
        | none => ⟨offset, c :: rest, newline, []⟩

def skipFirst (text : List Char) : Skipped :=
  match text with
  | '#' :: '!' :: rest => skip .line true 2 rest
  | _ => skip .plain true 0 text

end RouteShortcuts.Script.Blank
