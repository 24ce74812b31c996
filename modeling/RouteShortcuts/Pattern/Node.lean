/-
  RouteShortcuts.Pattern.Node — what a pattern means.

  A node takes places in a text to the places where it may stop (`Node.stops`). Repetitions need no
  fuel: a step never goes back, so after as many steps as the text has characters only repetitions
  of nothing are left, and they change no place.
-/

import RouteShortcuts.Pattern.CharSet

namespace RouteShortcuts.Pattern

open RouteShortcuts.Text

inductive LineEnds where
  | none
  | feed
  | feedOrReturn
  deriving DecidableEq, Repr

inductive Look where
  | start (ends : LineEnds)
  | stop (ends : LineEnds)
  | word (kind : Assertion) (unicode : Bool)
  deriving DecidableEq, Repr

inductive Node where
  | nothing
  | one (s : CharSet)
  | look (l : Look)
  | seq (a b : Node)
  | alt (a b : Node)
  | rep (a : Node) (min : Nat) (max : Option Nat)

abbrev Subject := Array Char

def Subject.before (t : Subject) (p : Nat) : Option Char :=
  match p with
  | 0 => Option.none
  | q + 1 => t[q]?

def Subject.after (t : Subject) (p : Nat) : Option Char := t[p]?

def startsLine (t : Subject) (p : Nat) : LineEnds → Bool
  | .none => p == 0
  | .feed => p == 0 || t.before p == some '\n'
  | .feedOrReturn => p == 0 || t.before p == some '\n'
    || (t.before p == some '\r' && t.after p != some '\n')

def endsLine (t : Subject) (p : Nat) : LineEnds → Bool
  | .none => p == t.size
  | .feed => p == t.size || t.after p == some '\n'
  | .feedOrReturn => p == t.size || t.after p == some '\r'
    || (t.after p == some '\n' && t.before p != some '\r')

def isWordAt (unicode : Bool) : Option Char → Bool
  | some c => if unicode then isWordPart c.toNat else (CharSet.ascii .word).mem c.toNat
  | Option.none => false

def Look.holds (t : Subject) (p : Nat) : Look → Bool
  | .start ends => startsLine t p ends
  | .stop ends => endsLine t p ends
  | .word kind unicode =>
    let before := isWordAt unicode (t.before p)
    let after := isWordAt unicode (t.after p)
    match kind with
    | .notBoundary => before == after
    | .wordStart => !before && after
    | .wordEnd => before && !after
    | .wordStartHalf => !before
    | .wordEndHalf => !after
    | _ => before != after

/-- Two sets of places together. -/
def join (a b : List Nat) : List Nat := a ++ b.filter (!a.contains ·)

def iterate (f : List Nat → List Nat) : Nat → List Nat → List Nat
  | 0, places => places
  | n + 1, places => if places.isEmpty then places else iterate f n (f places)

/-- All places that at most so many steps of `f` reach. -/
def reach (f : List Nat → List Nat) : Nat → List Nat → List Nat
  | 0, places => places
  | n + 1, places =>
    let more := join places (f places)
    if more.length = places.length then places else reach f n more

/-- The places where a node may stop if it begins at one of these. -/
def Node.stops (t : Subject) : Node → List Nat → List Nat
  | nothing, places => places
  | one s, places => places.filterMap fun p =>
    match t[p]? with
    | some c => if s.mem c.toNat then some (p + 1) else Option.none
    | Option.none => Option.none
  | look l, places => places.filter fun p => l.holds t p
  | seq a b, places => b.stops t (a.stops t places)
  | alt a b, places => join (a.stops t places) (b.stops t places)
  | rep a min max, places =>
    let enough := t.size + 1
    let more := match max with
      | some m => Nat.min (m - min) enough
      | Option.none => enough
    reach (a.stops t) more (iterate (a.stops t) (Nat.min min enough) places)

def Node.occursIn (n : Node) (text : String) : Bool :=
  let t := text.toList.toArray
  !(n.stops t (List.range (t.size + 1))).isEmpty

/-- About how many octets a node takes when every repetition is written out. This is an estimate, so of
patterns near the limit in size some are taken or refused here that are not elsewhere. -/
def Node.weight : Node → Nat
  | nothing => 0
  | one s => if s.size ≤ 1 then 32 else 64 + 60 * s.size
  | look _ => 32
  | seq a b => a.weight + b.weight
  | alt a b => a.weight + b.weight + 40
  | rep a min max =>
    match max with
    | some m => m * a.weight + (m - min) * 40
    | Option.none => (Nat.max min 1) * a.weight + 40

end RouteShortcuts.Pattern
