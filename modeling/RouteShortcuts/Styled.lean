/-
  RouteShortcuts.Styled — text for a terminal.

  A line is made of pieces, each in an ink or in none. Without colours the inks do not show. With
  colours a piece in an ink is written between the sequence of the ink and the sequence that ends all
  inks; where its own text ends all inks, the ink begins again.
-/

namespace RouteShortcuts

inductive Ink where
  | bold
  | underlined
  | dimmed
  | cyan
  | green
  | yellow
  | warning
  | alarm
  deriving DecidableEq, Repr

/-- The sequence that begins an ink. -/
def Ink.start : Ink → String
  | .bold => "\x1b[1m"
  | .underlined => "\x1b[1m\x1b[4m"
  | .dimmed => "\x1b[2m"
  | .cyan => "\x1b[36m"
  | .green => "\x1b[32m"
  | .yellow => "\x1b[33m"
  | .warning => "\x1b[1;33m"
  | .alarm => "\x1b[1m\x1b[31m"

/-- The sequence that ends all inks. -/
def inkEnd : String := "\x1b[0m"

/-- A text in an ink, filled up with blanks to a number of characters. -/
structure Piece where
  ink : Option Ink := none
  text : String
  width : Nat := 0
  deriving DecidableEq, Repr

abbrev Styled := List Piece

/-- A text and the blanks that are missing to `width` characters. -/
def padded (width : Nat) (s : String) : String :=
  s ++ String.ofList (List.replicate (width - s.length) ' ')

/-- A text in which the ink begins again wherever all inks end. -/
def Ink.keepOn (ink : Ink) (s : String) : String :=
  (inkEnd ++ ink.start).intercalate (s.splitOn inkEnd)

def Piece.render (colours : Bool) (p : Piece) : String :=
  match p.ink with
  | none => padded p.width p.text
  | some ink =>
    if colours then ink.start ++ padded p.width (ink.keepOn p.text) ++ inkEnd
    else padded p.width p.text

namespace Styled

def render (colours : Bool) (s : Styled) : String := String.join (s.map (Piece.render colours))

def plain (s : String) : Styled := [{ text := s }]

def inked (ink : Ink) (s : String) : Styled := [{ ink := some ink, text := s }]

end Styled
end RouteShortcuts
