/-
  RouteShortcuts.Pattern.Resolve — from a pattern as it is written to what it means.

  Flags hold from where they are set to the end of the group they are set in. A pattern must not be
  able to stop inside a character, so with the Unicode flag off only ASCII sets are allowed.
-/

import RouteShortcuts.Pattern.Node
import RouteShortcuts.Pattern.Property

namespace RouteShortcuts.Pattern

/-- The flags that hold at a place. -/
structure Mode where
  caseless : Bool := false
  multiLine : Bool := false
  dotAll : Bool := false
  unicode : Bool := true
  crlf : Bool := false

def Mode.apply (m : Mode) (items : List FlagItem) : Mode where
  caseless := (flagState .caseless items false).getD m.caseless
  multiLine := (flagState .multiLine items false).getD m.multiLine
  dotAll := (flagState .dotAll items false).getD m.dotAll
  unicode := (flagState .unicode items false).getD m.unicode
  crlf := (flagState .crlf items false).getD m.crlf

/-- A set with the case flag of the mode taken into account. -/
def Mode.foldCase (m : Mode) (s : CharSet) : CharSet :=
  if m.caseless then .caseless (!m.unicode) s else s

/-- A set of octets must hold ASCII characters alone. -/
def Mode.check (m : Mode) (span : Span) (s : CharSet) : Except Flaw CharSet :=
  if m.unicode || s.isAscii then .ok s else .error ⟨.invalidText, span⟩

def Mode.property (m : Mode) (span : Span) (negated : Bool) (q : PropertyQuery) :
    Except Flaw CharSet :=
  if m.unicode then
    match q.resolve with
    | .ok s => .ok (CharSet.negateIf negated (m.foldCase s))
    | .error cause => .error ⟨cause, span⟩
  else .error ⟨.unicodeNotAllowed, span⟩

def Mode.letterClass (m : Mode) (span : Span) (negated : Bool) (c : LetterClass) :
    Except Flaw CharSet :=
  if m.unicode then .ok (CharSet.negateIf negated (CharSet.letterClass c))
  else m.check span (CharSet.negateIf negated (CharSet.asciiLetterClass c))

/-- The number of a character in a set. -/
def Mode.member (m : Mode) (l : Letter) : Except Flaw Nat :=
  if m.unicode || l.char.toNat < 128 then .ok l.char.toNat
  else if l.octet then .error ⟨.invalidText, l.span⟩
  else .error ⟨.unicodeNotAllowed, l.span⟩

mutual

def SetTree.resolve (m : Mode) : SetTree → Except Flaw CharSet
  | .empty _ => .ok .empty
  | .letter l => do
    let n ← m.member l
    return .span n n
  | .range _ low high => do
    let a ← m.member low
    let b ← m.member high
    return .span a b
  | .ascii span negated c => m.check span (CharSet.negateIf negated (m.foldCase (CharSet.ascii c)))
  | .property span negated q => m.property span negated q
  | .letterClass span negated c => m.letterClass span negated c
  | .bracketed span negated inner => do
    let s ← inner.resolve m
    m.check span (CharSet.negateIf negated (m.foldCase s))
  | .union _ items => do return CharSet.ofList (← resolveAll m items)
  | .combined _ op left right => do
    let a ← left.resolve m
    let b ← right.resolve m
    let a := m.foldCase a
    let b := m.foldCase b
    match op with
    | .intersection => return .inter a b
    | .difference => return .diff a b
    | .symmetricDifference => return .symmetricDiff a b

def SetTree.resolveAll (m : Mode) : List SetTree → Except Flaw (List CharSet)
  | [] => .ok []
  | item :: rest => do
    let s ← item.resolve m
    let others ← resolveAll m rest
    return s :: others

end

def Mode.letter (m : Mode) (l : Letter) : Except Flaw CharSet :=
  if !m.unicode && l.octet && 128 ≤ l.char.toNat then .error ⟨.invalidText, l.span⟩
  else .ok (m.foldCase (CharSet.char l.char))

def Mode.dot (m : Mode) (span : Span) : Except Flaw CharSet :=
  if !m.unicode then .error ⟨.invalidText, span⟩
  else if m.dotAll then .ok (.compl .empty)
  else if m.crlf then .ok (.compl (.union (CharSet.char '\n') (CharSet.char '\r')))
  else .ok (.compl (CharSet.char '\n'))

def Mode.lineEnds (m : Mode) : LineEnds :=
  if !m.multiLine then .none else if m.crlf then .feedOrReturn else .feed

def Mode.look (m : Mode) : Assertion → Look
  | .lineStart => .start m.lineEnds
  | .lineEnd => .stop m.lineEnds
  | .textStart => .start .none
  | .textEnd => .stop .none
  | kind => .word kind m.unicode

mutual

/-- What a part means, and the mode after it. -/
def Tree.resolve (m : Mode) : Tree → Except Flaw (Node × Mode)
  | .empty _ => .ok (.nothing, m)
  | .flags _ items => .ok (.nothing, m.apply items)
  | .letter l => do return (.one (← m.letter l), m)
  | .dot span => do return (.one (← m.dot span), m)
  | .assertion _ a => .ok (.look (m.look a), m)
  | .property span negated q => do return (.one (← m.property span negated q), m)
  | .letterClass span negated c => do return (.one (← m.letterClass span negated c), m)
  | .bracketed span negated inner => do
    let s ← inner.resolve m
    let s ← m.check span (CharSet.negateIf negated (m.foldCase s))
    return (.one s, m)
  | .repetition _ min max inner => do
    let (n, m') ← inner.resolve m
    return (.rep n min max, m')
  | .group _ items inner => do
    let (n, _) ← inner.resolve (m.apply items)
    return (n, m)
  | .concat _ parts => resolveSeq m parts
  | .alternation _ parts => resolveAlt m parts

def Tree.resolveSeq (m : Mode) : List Tree → Except Flaw (Node × Mode)
  | [] => .ok (.nothing, m)
  | part :: rest => do
    let (a, m') ← part.resolve m
    let (b, m'') ← resolveSeq m' rest
    return (.seq a b, m'')

def Tree.resolveAlt (m : Mode) : List Tree → Except Flaw (Node × Mode)
  | [] => .ok (.one .empty, m)
  | part :: rest => do
    let (a, m') ← part.resolve m
    let (b, m'') ← resolveAlt m' rest
    return (.alt a b, m'')

end

/-- One level deeper, unless that is too deep. -/
def deeper (depth : Nat) (span : Span) : Except Flaw Nat :=
  if nestingLimit ≤ depth then .error ⟨.nestedTooDeeply, span⟩ else .ok (depth + 1)

mutual

/-- Classes, unions and operators count as levels of nesting. -/
def SetTree.checkDepth (depth : Nat) : SetTree → Except Flaw Unit
  | .bracketed span _ inner => do inner.checkDepth (← deeper depth span)
  | .union span items => do checkDepthAll (← deeper depth span) items
  | .combined span _ left right => do
    let d ← deeper depth span
    left.checkDepth d
    right.checkDepth d
  | _ => .ok ()

def SetTree.checkDepthAll (depth : Nat) : List SetTree → Except Flaw Unit
  | [] => .ok ()
  | item :: rest => do
    item.checkDepth depth
    checkDepthAll depth rest

end

mutual

/-- Groups, repetitions, classes, rows and alternatives count as levels of nesting. -/
def Tree.checkDepth (depth : Nat) : Tree → Except Flaw Unit
  | .bracketed span _ inner => do inner.checkDepth (← deeper depth span)
  | .repetition span _ _ inner => do inner.checkDepth (← deeper depth span)
  | .group span _ inner => do inner.checkDepth (← deeper depth span)
  | .concat span parts => do checkDepthAll (← deeper depth span) parts
  | .alternation span parts => do checkDepthAll (← deeper depth span) parts
  | _ => .ok ()

def Tree.checkDepthAll (depth : Nat) : List Tree → Except Flaw Unit
  | [] => .ok ()
  | part :: rest => do
    part.checkDepth depth
    checkDepthAll depth rest

end

end RouteShortcuts.Pattern
