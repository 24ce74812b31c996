/-
  RouteShortcuts.Glob — which paths a glob matches.

  A path is matched octet by octet. A part takes what is left of a path to what may be left after it
  (`Token.rests`); a glob matches if nothing may be left. A class matches one octet: a character
  beyond ASCII in it stands for its octets one by one.
-/

import RouteShortcuts.Glob.Token

namespace RouteShortcuts

/-- A glob and the parts it is made of. -/
structure Glob where
  pattern : String
  parts : List Glob.Token

namespace Glob

abbrev Octets := List UInt8

def slash : UInt8 := 47

def octetsOf (s : String) : Octets := s.toUTF8.data.toList

/-- All ends of a list, itself first. -/
def ends : Octets → List Octets
  | [] => [[]]
  | b :: rest => (b :: rest) :: ends rest

/-- What is left after any octets of one name. -/
def restsInName : Octets → List Octets
  | [] => [[]]
  | b :: rest => (b :: rest) :: (if b = slash then [] else restsInName rest)

/-- What is left after each slash. -/
def restsAfterSlash : Octets → List Octets
  | [] => []
  | b :: rest => if b = slash then rest :: restsAfterSlash rest else restsAfterSlash rest

def dropFront : Octets → Octets → Option Octets
  | [], rest => some rest
  | _ :: _, [] => none
  | a :: front, b :: rest => if a = b then dropFront front rest else none

/-- A range of characters as ranges of octets: all but the last octet of the low end and the first
of the high end stand for themselves. -/
def octetRanges (range : Char × Char) : List (UInt8 × UInt8) :=
  let low := octetsOf range.1.toString
  let high := octetsOf range.2.toString
  let single := fun (b : UInt8) => (b, b)
  if range.1 = range.2 then low.map single
  else
    match low.getLast?, high with
    | some last, first :: more => low.dropLast.map single ++ (last, first) :: more.map single
    | _, _ => []

def inRanges (ranges : List (Char × Char)) (b : UInt8) : Bool :=
  (ranges.flatMap octetRanges).any fun r => r.1 ≤ b && b ≤ r.2

def distinct (rests : List Octets) : List Octets := rests.eraseDups

mutual

/-- Is there nothing in a part that a path could match? Such a branch is left out. -/
def Token.isVoid : Token → Bool
  | .alternatives branches => allVoid branches
  | _ => false

def Token.allVoid : List (List Token) → Bool
  | [] => true
  | branch :: rest => rowVoid branch && allVoid rest

def Token.rowVoid : List Token → Bool
  | [] => true
  | t :: rest => t.isVoid && rowVoid rest

end

mutual

/-- What may be left of a path after a part. -/
def Token.rests (path : Octets) : Token → List Octets
  | .literal c => (dropFront (octetsOf c.toString) path).toList
  | .any =>
    match path with
    | [] => []
    | b :: rest => if b = slash then [] else [rest]
  | .star => restsInName path
  | .anyPrefix => distinct (path :: restsAfterSlash path)
  | .anySuffix =>
    match path with
    | [] => []
    | b :: rest => if b = slash then ends rest else []
  | .anyMiddle =>
    match path with
    | [] => []
    | b :: rest => if b = slash then distinct (rest :: restsAfterSlash rest) else []
  | .set negated ranges =>
    match path with
    | [] => []
    | b :: rest => if inRanges ranges b != negated then [rest] else []
  | .alternatives branches =>
    if Token.allVoid branches then [path] else distinct (branchRests path branches)

/-- What may be left after one of the branches. -/
def Token.branchRests (path : Octets) : List (List Token) → List Octets
  | [] => []
  | branch :: rest =>
    (if Token.rowVoid branch then [] else rowRests [path] branch) ++ branchRests path rest

/-- What may be left after parts in a row, from any of these paths. -/
def Token.rowRests (paths : List Octets) : List Token → List Octets
  | [] => paths
  | t :: rest => rowRests (distinct (paths.flatMap fun path => t.rests path)) rest

end

def compile (pattern : String) : Except Flaw Glob :=
  match tokens pattern with
  | .ok parts => .ok ⟨pattern, parts⟩
  | .error f => .error f

/-- Does a glob match a path? `**` alone matches everything. -/
def isMatch (g : Glob) (path : String) : Bool :=
  match g.parts with
  | [.anyPrefix] => true
  | parts => (Token.rowRests [octetsOf path] parts).contains []

end Glob
end RouteShortcuts
