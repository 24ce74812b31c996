/-
  RouteShortcuts.Pattern.CharSet — sets of characters, as patterns make them.

  A set is kept as it was put together and asked point by point (`mem`). Sets of octets are the same
  sets asked below 256 only; the reader makes sure that they hold ASCII characters alone.
-/

import RouteShortcuts.Pattern.Tree
import RouteShortcuts.Text.Fold
import RouteShortcuts.Text.Letter
import RouteShortcuts.Text.Writing

namespace RouteShortcuts.Pattern

open RouteShortcuts.Text

inductive CharSet where
  | empty
  | span (low high : Nat)
  | ranges (r : Ranges)
  | words
  | compl (s : CharSet)
  | union (a b : CharSet)
  | inter (a b : CharSet)
  | diff (a b : CharSet)
  | symmetricDiff (a b : CharSet)
  /-- Everything that differs in case only from a member; `ascii` looks at ASCII letters alone. -/
  | caseless (ascii : Bool) (s : CharSet)

namespace CharSet

/-- The forms of an ASCII letter. -/
def asciiVariants (n : Nat) : List Nat :=
  if 65 ≤ n ∧ n ≤ 90 then [n, n + 32]
  else if 97 ≤ n ∧ n ≤ 122 then [n, n - 32]
  else [n]

def mem : CharSet → Nat → Bool
  | empty, _ => false
  | span low high, n => low ≤ n && n ≤ high
  | ranges r, n => r.mem n
  | words, n => isWordPart n
  | compl s, n => !s.mem n
  | union a b, n => a.mem n || b.mem n
  | inter a b, n => a.mem n && b.mem n
  | diff a b, n => a.mem n && !b.mem n
  | symmetricDiff a b, n => a.mem n != b.mem n
  | caseless ascii s, n => (if ascii then asciiVariants n else variants n).any s.mem

def char (c : Char) : CharSet := span c.toNat c.toNat

def ofList (sets : List CharSet) : CharSet := sets.foldl union empty

def ofRanges (sets : List Ranges) : CharSet := ofList (sets.map ranges)

def negateIf (negated : Bool) (s : CharSet) : CharSet := if negated then compl s else s

/-- Does a set of octets hold ASCII characters only? -/
def isAscii (s : CharSet) : Bool := (List.range 128).all fun n => !s.mem (n + 128)

/-- About how many ranges it takes to write a set down. -/
def size : CharSet → Nat
  | empty => 0
  | span _ _ => 1
  | ranges r => r.size
  | words => 770
  | compl s | caseless _ s => s.size
  | union a b | inter a b | diff a b | symmetricDiff a b => a.size + b.size

/-! ## Named classes -/

def ascii : AsciiClass → CharSet
  | .alnum => ofList [span 48 57, span 65 90, span 97 122]
  | .alpha => ofList [span 65 90, span 97 122]
  | .ascii => span 0 127
  | .blank => ofList [span 9 9, span 32 32]
  | .cntrl => ofList [span 0 31, span 127 127]
  | .digit => span 48 57
  | .graph => span 33 126
  | .lower => span 97 122
  | .print => span 32 126
  | .punct => ofList [span 33 47, span 58 64, span 91 96, span 123 126]
  | .space => ofList [span 9 13, span 32 32]
  | .upper => span 65 90
  | .word => ofList [span 48 57, span 65 90, span 95 95, span 97 122]
  | .xdigit => ofList [span 48 57, span 65 70, span 97 102]

def asciiLetterClass : LetterClass → CharSet
  | .digit => ascii .digit
  | .space => ascii .space
  | .word => ascii .word

def white : CharSet := ranges (Ranges.ofText "9-D 20 85 A0 1680 2000-200A 2028-2029 202F 205F 3000")

def letterClass : LetterClass → CharSet
  | .digit => ofRanges digitCategories
  | .space => white
  | .word => words

end CharSet
end RouteShortcuts.Pattern
