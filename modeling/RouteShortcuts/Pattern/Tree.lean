/-
  RouteShortcuts.Pattern.Tree — a search pattern as it is written.

  Every part keeps the stretch of text that it was read from, because a pattern that is read but
  means nothing (an unknown property, say) is reported with its place.
-/

namespace RouteShortcuts.Pattern

/-- A place in a pattern: characters before it, its line and its column, both from 1. -/
structure Place where
  offset : Nat := 0
  line : Nat := 1
  column : Nat := 1
  deriving DecidableEq, Repr

def Place.after (p : Place) (c : Char) : Place :=
  if c = '\n' then ⟨p.offset + 1, p.line + 1, 1⟩ else ⟨p.offset + 1, p.line, p.column + 1⟩

/-- A stretch of a pattern, its end not included. -/
structure Span where
  start : Place
  stop : Place
  deriving DecidableEq, Repr

def Span.at (p : Place) : Span := ⟨p, p⟩

/-- From the start of one stretch to the end of another. -/
def Span.to (a b : Span) : Span := ⟨a.start, b.stop⟩

/-- Flags that change how a pattern is understood. -/
inductive Flag where
  | caseless
  | multiLine
  | dotAll
  | swapGreed
  | unicode
  | crlf
  | spaced
  deriving DecidableEq, Repr

/-- An item of a list of flags: a flag, or the sign that turns the flags after it off. -/
inductive FlagItem where
  | flag (span : Span) (f : Flag)
  | negation (span : Span)

def FlagItem.span : FlagItem → Span
  | .flag span _ => span
  | .negation span => span

/-- What a list of flags says about one flag: on, off or nothing. -/
def flagState (f : Flag) : List FlagItem → Bool → Option Bool
  | [], _ => none
  | .negation _ :: rest, _ => flagState f rest true
  | .flag _ g :: rest, negated => if g = f then some !negated else flagState f rest negated

inductive LetterClass where
  | digit
  | space
  | word
  deriving DecidableEq, Repr

inductive AsciiClass where
  | alnum
  | alpha
  | ascii
  | blank
  | cntrl
  | digit
  | graph
  | lower
  | print
  | punct
  | space
  | upper
  | word
  | xdigit
  deriving DecidableEq, Repr

/-- A Unicode property as it is asked for: by its name, or by name and value. -/
inductive PropertyQuery where
  | name (text : String)
  | value (property value : String)
  deriving DecidableEq, Repr

/-- A character on its own; `octet` marks one that two hexadecimal digits stand for. -/
structure Letter where
  span : Span
  char : Char
  octet : Bool := false

inductive SetOperator where
  | intersection
  | difference
  | symmetricDifference
  deriving DecidableEq, Repr

inductive SetTree where
  | empty (span : Span)
  | letter (l : Letter)
  | range (span : Span) (low high : Letter)
  | ascii (span : Span) (negated : Bool) (c : AsciiClass)
  | property (span : Span) (negated : Bool) (q : PropertyQuery)
  | letterClass (span : Span) (negated : Bool) (c : LetterClass)
  | bracketed (span : Span) (negated : Bool) (inner : SetTree)
  | union (span : Span) (items : List SetTree)
  | combined (span : Span) (op : SetOperator) (left right : SetTree)

def SetTree.span : SetTree → Span
  | .empty s | .range s .. | .ascii s .. | .property s .. | .letterClass s .. | .bracketed s ..
  | .union s _ | .combined s .. => s
  | .letter l => l.span

inductive Assertion where
  | lineStart
  | lineEnd
  | textStart
  | textEnd
  | boundary
  | notBoundary
  | wordStart
  | wordEnd
  | wordStartHalf
  | wordEndHalf
  deriving DecidableEq, Repr

inductive Tree where
  | empty (span : Span)
  | flags (span : Span) (items : List FlagItem)
  | letter (l : Letter)
  | dot (span : Span)
  | assertion (span : Span) (a : Assertion)
  | property (span : Span) (negated : Bool) (q : PropertyQuery)
  | letterClass (span : Span) (negated : Bool) (c : LetterClass)
  | bracketed (span : Span) (negated : Bool) (inner : SetTree)
  | repetition (span : Span) (min : Nat) (max : Option Nat) (inner : Tree)
  | group (span : Span) (flags : List FlagItem) (inner : Tree)
  | concat (span : Span) (parts : List Tree)
  | alternation (span : Span) (parts : List Tree)

def Tree.span : Tree → Span
  | .empty s | .flags s _ | .dot s | .assertion s _ | .property s .. | .letterClass s ..
  | .bracketed s .. | .repetition s .. | .group s .. | .concat s _ | .alternation s _ => s
  | .letter l => l.span

end RouteShortcuts.Pattern
