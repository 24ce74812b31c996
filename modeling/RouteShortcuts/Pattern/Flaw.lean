/-
  RouteShortcuts.Pattern.Flaw — why a pattern is refused.

  A flaw is a cause with the stretch of the pattern it lies in; `Flaw.report` shows the pattern with
  carets under that stretch. A pattern of several lines is shown between rules, with line numbers.
-/

import RouteShortcuts.Pattern.Tree

namespace RouteShortcuts.Pattern

inductive Cause where
  | classEscapeInvalid
  | classRangeInvalid
  | classRangeLiteral
  | classUnclosed
  | decimalEmpty
  | decimalInvalid
  | escapeHexEmpty
  | escapeHexInvalid
  | escapeHexInvalidDigit
  | escapeUnexpectedEnd
  | escapeUnrecognized
  | flagDanglingNegation
  | flagDuplicate (first : Span)
  | flagRepeatedNegation (first : Span)
  | flagUnexpectedEnd
  | flagUnrecognized
  | groupNameDuplicate (first : Span)
  | groupNameEmpty
  | groupNameInvalid
  | groupNameUnexpectedEnd
  | groupUnclosed
  | groupUnopened
  | nestedTooDeeply
  | repetitionCountInvalid
  | repetitionCountDecimalEmpty
  | repetitionCountUnclosed
  | repetitionMissing
  | wordBoundaryUnclosed
  | wordBoundaryUnrecognized
  | wordBoundaryOrRepetitionEnd
  | propertyLetterInvalid
  | backreference
  | lookAround
  | unicodeNotAllowed
  | invalidText
  | propertyNotFound
  | propertyValueNotFound
  deriving DecidableEq, Repr

/-- How many groups, repetitions and brackets may lie inside each other. -/
def nestingLimit : Nat := 250

def Cause.message : Cause → String
  | .classEscapeInvalid => "invalid escape sequence found in character class"
  | .classRangeInvalid => "invalid character class range, the start must be <= the end"
  | .classRangeLiteral => "invalid range boundary, must be a literal"
  | .classUnclosed => "unclosed character class"
  | .decimalEmpty => "decimal literal empty"
  | .decimalInvalid => "decimal literal invalid"
  | .escapeHexEmpty => "hexadecimal literal empty"
  | .escapeHexInvalid => "hexadecimal literal is not a Unicode scalar value"
  | .escapeHexInvalidDigit => "invalid hexadecimal digit"
  | .escapeUnexpectedEnd => "incomplete escape sequence, reached end of pattern prematurely"
  | .escapeUnrecognized => "unrecognized escape sequence"
  | .flagDanglingNegation => "dangling flag negation operator"
  | .flagDuplicate _ => "duplicate flag"
  | .flagRepeatedNegation _ => "flag negation operator repeated"
  | .flagUnexpectedEnd => "expected flag but got end of regex"
  | .flagUnrecognized => "unrecognized flag"
  | .groupNameDuplicate _ => "duplicate capture group name"
  | .groupNameEmpty => "empty capture group name"
  | .groupNameInvalid => "invalid capture group character"
  | .groupNameUnexpectedEnd => "unclosed capture group name"
  | .groupUnclosed => "unclosed group"
  | .groupUnopened => "unopened group"
  | .nestedTooDeeply =>
    "exceed the maximum number of nested parentheses/brackets (" ++ toString nestingLimit ++ ")"
  | .repetitionCountInvalid => "invalid repetition count range, the start must be <= the end"
  | .repetitionCountDecimalEmpty => "repetition quantifier expects a valid decimal"
  | .repetitionCountUnclosed => "unclosed counted repetition"
  | .repetitionMissing => "repetition operator missing expression"
  | .wordBoundaryUnclosed =>
    "special word boundary assertion is either unclosed or contains an invalid character"
  | .wordBoundaryUnrecognized =>
    "unrecognized special word boundary assertion, valid choices are: "
      ++ "start, end, start-half or end-half"
  | .wordBoundaryOrRepetitionEnd =>
    "found either the beginning of a special word boundary or a bounded repetition on a \\b with "
      ++ "an opening brace, but no closing brace"
  | .propertyLetterInvalid => "invalid Unicode character class"
  | .backreference => "backreferences are not supported"
  | .lookAround => "look-around, including look-ahead and look-behind, is not supported"
  | .unicodeNotAllowed => "Unicode not allowed here"
  | .invalidText => "pattern can match invalid UTF-8"
  | .propertyNotFound => "Unicode property not found"
  | .propertyValueNotFound => "Unicode property value not found"

/-- A second stretch that belongs to the cause: where the thing that is repeated stands first. -/
def Cause.first? : Cause → Option Span
  | .flagDuplicate s | .flagRepeatedNegation s | .groupNameDuplicate s => some s
  | _ => none

structure Flaw where
  cause : Cause
  span : Span
  deriving DecidableEq, Repr

/-- A line without the carriage return before its end. -/
def dropReturn (line : String) : String :=
  if line.toList.getLast? = some '\r' then String.ofList line.toList.dropLast else line

/-- Ended lines without their ends; a text after the last line feed is a line as it stands. -/
def endedLines : List String → List String
  | [] => []
  | [last] => if last = "" then [] else [last]
  | line :: rest => dropReturn line :: endedLines rest

def textLines (text : String) : List String := endedLines (text.splitOn "\n")

/-- The stretches that are marked, in the order of their starts. -/
def Flaw.spans (f : Flaw) : List Span :=
  match f.cause.first? with
  | none => [f.span]
  | some g =>
    if g.start.offset < f.span.start.offset
        ∨ (g.start.offset = f.span.start.offset ∧ g.stop.offset < f.span.stop.offset) then
      [g, f.span]
    else [f.span, g]

def Span.isOneLine (s : Span) : Bool := s.start.line == s.stop.line

def spaces (n : Nat) : List Char := List.replicate n ' '

/-- Carets under stretches of one line, of which `done` columns are written. -/
def carets : Nat → List Span → List Char
  | _, [] => []
  | done, s :: rest =>
    let gap := s.start.column - 1 - done
    let width := max 1 (s.stop.column - s.start.column)
    spaces gap ++ List.replicate width '^' ++ carets (done + gap + width) rest

/-- How many lines a pattern has, an empty last one included. -/
def lineCount (pattern : String) : Nat :=
  (textLines pattern).length + (if pattern.toList.getLast? = some '\n' then 1 else 0)

/-- The width of line numbers; a single line has none. -/
def numberWidth (pattern : String) : Nat :=
  if lineCount pattern ≤ 1 then 0 else (toString (lineCount pattern)).length

/-- A line of the pattern, and the line of carets below it if it has any. -/
def Flaw.showLine (width : Nat) (spans : List Span) (number : Nat) (line : String) : String :=
  let label := toString number
  let lead := if width = 0 then "    "
    else String.ofList (spaces (width - label.length)) ++ label ++ ": "
  let marks := spans.filter fun s => s.isOneLine && s.start.line == number
  let below := if marks.isEmpty then ""
    else String.ofList (spaces (if width = 0 then 4 else width + 2) ++ carets 0 marks) ++ "\n"
  lead ++ line ++ "\n" ++ below

def Flaw.showLines (width : Nat) (spans : List Span) : Nat → List String → String
  | _, [] => ""
  | number, line :: rest => showLine width spans number line ++ showLines width spans (number + 1) rest

/-- A note on a stretch of several lines. -/
def Span.note (s : Span) : String :=
  "on line " ++ toString s.start.line ++ " (column " ++ toString s.start.column ++ ") through line "
    ++ toString s.stop.line ++ " (column " ++ toString (s.stop.column - 1) ++ ")"

def Flaw.report (f : Flaw) (pattern : String) : String :=
  let shown := showLines (numberWidth pattern) f.spans 1 (textLines pattern)
  let head := "regex parse error:\n"
  if pattern.toList.contains '\n' then
    let rule := String.ofList (List.replicate 79 '~') ++ "\n"
    let long := f.spans.filter fun s => !s.isOneLine
    let notes := if long.isEmpty then "" else "\n".intercalate (long.map Span.note) ++ "\n"
    head ++ rule ++ shown ++ rule ++ notes ++ "error: " ++ f.cause.message
  else head ++ shown ++ "error: " ++ f.cause.message

end RouteShortcuts.Pattern
