/-
  RouteShortcuts.Script.Reader — the state of reading a script, and the steps the grammar is made of.

  The reader stands at one token and can look at the one after it. A fault either stops it (`fail`) or
  is noted (`note`); a script is accepted only if neither happens, and the fault reported is the one
  that stopped the reader, else the first noted one (`Reader.run`). `attempt?` and `lookahead` try a
  reading and take it back; nothing is noted meanwhile.
-/

import RouteShortcuts.Script.Tree
import RouteShortcuts.Script.Token.Scan
import RouteShortcuts.Script.Token.Pattern
import RouteShortcuts.Script.Token.Markup

namespace RouteShortcuts.Script

structure Dialect where
  /-- May expressions hold markup? Then `<T>value` is no assertion. -/
  markup : Bool
  /-- Does the file only declare what is defined elsewhere? -/
  ambient : Bool
  deriving DecidableEq, Repr

/-- What the reader is inside of. -/
structure Flags where
  silent : Bool := false
  inType : Bool := false
  /-- Inside a type, but where `<<` and its like are read whole. -/
  anglesJoined : Bool := false
  ambient : Bool := false
  breakAllowed : Bool := false
  continueAllowed : Bool := false
  /-- Between the question mark and the colon of a conditional expression. -/
  inConditional : Bool := false
  colonFollows : Bool := false
  inClass : Bool := false
  inField : Bool := false
  inFunction : Bool := false
  /-- Inside a function that is no arrow. -/
  hasOwnThis : Bool := false
  inParameters : Bool := false
  hasBase : Bool := false
  inPropertyName : Bool := false
  superAllowed : Bool := false
  inGenerator : Bool := false
  inAsync : Bool := false
  inInitializer : Bool := false
  allowIn : Bool := true
  noConditionalTypes : Bool := false
  topLevel : Bool := true
  elseFollows : Bool := false
  deriving DecidableEq, Repr

structure State where
  dialect : Dialect
  cur : Lexed
  /-- The token after `cur`, once it has been looked at. -/
  ahead : Option Lexed := none
  /-- Extent of the token before `cur`. -/
  prevStart : Nat := 0
  prevStop : Nat := 0
  flags : Flags
  labels : List String := []
  /-- Where the parameters of an arrow might begin. -/
  arrowStart : Option Nat := none
  /-- The first fault that was noted. -/
  noted : Option Fault := none

abbrev Parse := EStateM Fault State

namespace Reader

def flags : Parse Flags := do
  return (← get).flags

def dialect : Parse Dialect := do
  return (← get).dialect

def cur : Parse Lexed := do
  return (← get).cur

def token : Parse Token := do
  return (← get).cur.token

def here : Parse Nat := do
  return (← get).cur.start

def prevStop : Parse Nat := do
  return (← get).prevStop

def newlineBefore : Parse Bool := do
  return (← get).cur.newlineBefore

def note (cause : Cause) (offset : Nat) : Parse Unit :=
  modify fun s => if s.flags.silent then s else { s with noted := s.noted.or (some ⟨cause, offset⟩) }

def noteAll (faults : List Fault) : Parse Unit :=
  match faults with
  | [] => pure ()
  | f :: _ => note f.cause f.offset

def noteHere (cause : Cause) : Parse Unit := do
  note cause (← here)

def anglesApart (s : State) : Bool :=
  s.flags.inType && !s.flags.anglesJoined

def bump : Parse Unit := do
  let s ← get
  match s.ahead with
  | some l => set { s with cur := l, ahead := none, prevStart := s.cur.start, prevStop := s.cur.stop }
  | none =>
    let l := s.cur.next (anglesApart s)
    set { s with cur := l, prevStart := s.cur.start, prevStop := s.cur.stop }
    noteAll l.faults

def peek : Parse Lexed := do
  let s ← get
  match s.ahead with
  | some l => return l
  | none =>
    let l := s.cur.next (anglesApart s)
    set { s with ahead := some l }
    noteAll l.faults
    return l

/-- Reads the current token again, from its first character. -/
def rescan (scan : Nat → List Char → Scanned) : Parse Unit := do
  let s ← get
  let r := scan s.cur.start s.cur.here
  let cur := { s.cur with token := r.token, stop := r.stop, rest := r.rest, faults := r.faults }
  set { s with ahead := none, cur }
  noteAll r.faults

/-- Stops at `offset`. A current token that cannot be read is noted first, and passed; only a pattern
without an end is met again. -/
def fail {α : Type} (cause : Cause) (offset : Nat) : Parse α := do
  match ← token with
  | .invalid f =>
    note f.cause f.offset
    if f.cause != .unterminatedPattern then bump
    throw ⟨cause, offset⟩
  | _ => throw ⟨cause, offset⟩

def failHere {α : Type} (cause : Cause) : Parse α := do
  fail cause (← here)

/-- Stops because the current token is none of those that could stand here. -/
def unexpected {α : Type} (wanted : String) : Parse α := do
  failHere (.unexpected (← token).shown wanted)

def is (m : Mark) : Parse Bool := do
  return (← token).isMark m

def isWord (w : String) : Parse Bool := do
  return (← token).isWord w

def atEnd : Parse Bool := do
  return (← token) == .endOfText

def isOneOf (marks : List Mark) : Parse Bool := do
  match ← token with
  | .mark m => return marks.contains m
  | _ => return false

def isWordOf (words : List String) : Parse Bool := do
  match ← token with
  | .word w _ => return words.contains w
  | _ => return false

def eat (m : Mark) : Parse Bool := do
  if ← is m then
    bump
    return true
  return false

def eatWord (w : String) : Parse Bool := do
  if ← isWord w then
    bump
    return true
  return false

def expect (m : Mark) : Parse Unit := do
  if ← eat m then return
  failHere (.expected m.text (← token).shown)

def expectWord (w : String) : Parse Unit := do
  if ← eatWord w then return
  failHere (.expected w (← token).shown)

def peekIs (m : Mark) : Parse Bool := do
  return (← peek).token.isMark m

def peekIsWord (w : String) : Parse Bool := do
  return (← peek).token.isWord w

/-- Runs `p` inside changed flags. -/
def within {α : Type} (change : Flags → Flags) (p : Parse α) : Parse α := do
  let old ← flags
  modify fun s => { s with flags := change s.flags }
  let restore : Parse Unit := modify fun s => { s with flags := old }
  let a ← tryCatch p fun e => do
    restore
    throw e
  restore
  return a

/-- The result of `p` without its effects; `none` if it stops. -/
def lookahead {α : Type} (p : Parse α) : Parse (Option α) := fun s =>
  match p { s with flags := { s.flags with silent := true } } with
  | .ok a _ => .ok (some a) s
  | .error _ _ => .ok none s

/-- Is `p` true here? Its effects are taken back. -/
def would (p : Parse Bool) : Parse Bool := do
  return (← lookahead p) == some true

/-- Tries `p`; if it stops or has no result, nothing has happened. -/
def attempt? {α : Type} (p : Parse (Option α)) : Parse (Option α) := fun s =>
  match p { s with flags := { s.flags with silent := true } } with
  | .ok (some a) t => .ok (some a) { t with flags := s.flags }
  | .ok none _ => .ok none s
  | .error _ _ => .ok none s

/-- The result of `p`, or the fault that stopped it; its effects stay. -/
def caught {α : Type} (p : Parse α) : Parse (Except Fault α) := fun s =>
  match p s with
  | .ok a t => .ok (.ok a) t
  | .error e t => .ok (.error e) { t with flags := s.flags }

/-- Repeats `step` until it has a result; at most `fuel` times. -/
def repeatUntil {α β : Type} (fuel : Nat) (step : α → Parse (α ⊕ β)) (a : α) : Parse β := do
  match fuel with
  | 0 => failHere .tooDeep
  | fuel + 1 =>
    match ← step a with
    | .inl a => repeatUntil fuel step a
    | .inr b => return b

/-- Runs `p` where an expression may hold `in`. -/
def withIn {α : Type} (p : Parse α) : Parse α :=
  within (fun f => { f with allowIn := true }) p

def inType {α : Type} (p : Parse α) : Parse α :=
  within (fun f => { f with inType := true }) p

/-- Runs `p` with the state that a function body begins with: no labels are visible. -/
def withFreshState {α : Type} (p : Parse α) : Parse α := do
  let s ← get
  set { s with labels := [], arrowStart := none }
  let restore : Parse Unit := modify fun t => { t with labels := s.labels, arrowStart := s.arrowStart }
  let a ← tryCatch p fun e => do
    restore
    throw e
  restore
  return a

/-- Does a statement end here: at a semicolon, a closing brace, the end of a line or of the text? -/
def atStatementEnd : Parse Bool := do
  let l ← cur
  return l.token.isMark .semicolon || l.token.isMark .braceClose || l.token == .endOfText
    || l.newlineBefore

def eatStatementEnd : Parse Bool := do
  if ← eat .semicolon then return true
  atStatementEnd

def expectStatementEnd : Parse Unit := do
  if ← eatStatementEnd then return
  failHere (.expected ";" (← token).shown)

/-- Reads a whole text with `p`. -/
def run {α : Type} (p : Parse α) (dialect : Dialect) (text : List Char) : Except Fault α :=
  let l := Lexed.first text
  let flags : Flags := { ambient := dialect.ambient }
  let s : State := { dialect, cur := l, flags, noted := l.faults.head? }
  match p s with
  | .error fault _ => .error fault
  | .ok a s =>
    match s.noted with
    | some fault => .error fault
    | none => .ok a

end Reader
end RouteShortcuts.Script
