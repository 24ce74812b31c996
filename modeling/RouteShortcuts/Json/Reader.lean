/-
  RouteShortcuts.Json.Reader — reads JSON text.

  A reader takes what it wants and nothing more, so a text is refused at the first place where it is
  wrong, be it the form of the text or the kind of a value. `value` reads any value, `skip` passes
  over one, `string`, `list` and `fields` read values of one kind. Values that are kept may be nested
  `depthLimit` deep; a value that is passed over may be nested at will.
-/

import RouteShortcuts.Json.Fault
import RouteShortcuts.Text.Ranges

namespace RouteShortcuts.Json

open RouteShortcuts.Text

/-- What is left of a text, and where it begins. -/
structure Cursor where
  rest : List Char
  place : Place := {}

abbrev Reader := EStateM Fault Cursor

/-- How deep values may be nested. -/
def depthLimit : Nat := 127

namespace Reader

/-- Fails at the place where the reader is. -/
def failHere {α : Type} (cause : Cause) : Reader α := do throw ⟨cause, some (← get).place⟩

/-- Fails at the next character: its first octet counts as read. -/
def failNext {α : Type} (cause : Cause) : Reader α := do
  let s ← get
  throw ⟨cause, some (match s.rest with
    | [] => s.place
    | c :: _ => s.place.into c)⟩

/-- Fails after a character that was just read; only its first octet counts as read. -/
def failAfter {α : Type} (c : Char) (cause : Cause) : Reader α := do
  let p := (← get).place
  throw ⟨cause, some ⟨p.line, p.column - (c.utf8Size - 1)⟩⟩

def peek : Reader (Option Char) := return (← get).rest.head?

def next : Reader (Option Char) := do
  let s ← get
  match s.rest with
  | [] => return none
  | c :: rest =>
    set (Cursor.mk rest (s.place.after c))
    return some c

def drop : Reader Unit := do
  let _ ← next

def isSpace (c : Char) : Bool := c == ' ' || c == '\n' || c == '\t' || c == '\r'

/-- Goes past the characters at the front that `p` holds of. -/
def dropSpaces : List Char → Place → Cursor
  | [], p => ⟨[], p⟩
  | c :: rest, p => if isSpace c then dropSpaces rest (p.after c) else ⟨c :: rest, p⟩

def skipSpace : Reader Unit := modify fun s => dropSpaces s.rest s.place

/-- The next character that is no blank. -/
def peekToken : Reader (Option Char) := do
  skipSpace
  peek

/-- The rest of a word. -/
def word : List Char → Reader Unit
  | [] => return ()
  | c :: rest => do
    match ← next with
    | none => failHere .endOfValue
    | some d => if d = c then word rest else failAfter d .expectedWord

/-! ## Strings -/

def isHex (c : Char) : Bool :=
  ('0' ≤ c && c ≤ '9') || ('a' ≤ c && c ≤ 'f') || ('A' ≤ c && c ≤ 'F')

/-- The place `n` octets further on. -/
def Place.advance : Nat → List Char → Place → Place
  | 0, _, p => p
  | _, [], p => p
  | n + 1, c :: rest, p =>
    if c.utf8Size ≤ n + 1 then advance (n + 1 - c.utf8Size) rest (p.after c)
    else ⟨p.line, p.column + n + 1⟩
termination_by n _ _ => n
decreasing_by have := c.utf8Size_pos; omega

def Place.endOf (chars : List Char) (p : Place) : Place := chars.foldl Place.after p

def octets (chars : List Char) : Nat := chars.foldl (fun n c => n + c.utf8Size) 0

def hexEscape : Reader Nat := do
  let s ← get
  match s.rest with
  | a :: b :: c :: d :: rest =>
    if isHex a && isHex b && isHex c && isHex d then
      set (Cursor.mk rest ((((s.place.after a).after b).after c).after d))
      return [a, b, c, d].foldl (fun n e => n * 16 + Ranges.hexValue e) 0
    else throw ⟨.invalidEscape, some (Place.advance 4 s.rest s.place)⟩
  | short =>
    if octets short < 4 then throw ⟨.endOfString, some (Place.endOf short s.place)⟩
    else throw ⟨.invalidEscape, some (Place.advance 4 short s.place)⟩

/-- The character that a plain escape stands for. -/
def escapeOf? : Char → Option Char
  | '"' => some '"'
  | '\\' => some '\\'
  | '/' => some '/'
  | 'b' => some '\x08'
  | 'f' => some '\x0C'
  | 'n' => some '\n'
  | 'r' => some '\r'
  | 't' => some '\t'
  | _ => none

/-- Exactly this character, inside a string. -/
def expectInString (c : Char) : Reader Unit := do
  match ← next with
  | none => failHere .endOfString
  | some d => if d = c then return () else failAfter d .endOfHexEscape

/-- An escape by number; a high surrogate needs a low one after it. -/
def unicodeEscape : Reader Char := do
  let n ← hexEscape
  if 0xDC00 ≤ n ∧ n ≤ 0xDFFF then failHere .loneSurrogate
  else if n < 0xD800 ∨ 0xDBFF < n then return Char.ofNat n
  else
    expectInString '\\'
    expectInString 'u'
    let low ← hexEscape
    if low < 0xDC00 ∨ 0xDFFF < low then failHere .loneSurrogate
    else return Char.ofNat ((n - 0xD800) * 0x400 + (low - 0xDC00) + 0x10000)

/-- The characters of a string up to its closing quote. -/
def stringBody : Nat → List Char → Reader (List Char)
  | 0, _ => failHere .endOfString
  | fuel + 1, done => do
    match ← next with
    | none => failHere .endOfString
    | some '"' => return done.reverse
    | some '\\' =>
      match ← next with
      | none => failHere .endOfString
      | some 'u' => stringBody fuel ((← unicodeEscape) :: done)
      | some c =>
        match escapeOf? c with
        | some d => stringBody fuel (d :: done)
        | none => failAfter c .invalidEscape
    | some c => if c.toNat < 0x20 then failHere .controlCharacter else stringBody fuel (c :: done)

/-- The rest of a string; the opening quote is read. -/
def stringRest : Reader String := do
  return String.ofList (← stringBody ((← get).rest.length + 1) [])

/-- Passes over the rest of a string; surrogates need not be paired here. -/
def skipString : Nat → Reader Unit
  | 0 => failHere .endOfString
  | fuel + 1 => do
    match ← peek with
    | none => failHere .endOfString
    | some '"' => drop
    | some '\\' =>
      drop
      match ← next with
      | none => failHere .endOfString
      | some 'u' =>
        let _ ← hexEscape
        skipString fuel
      | some c => if (escapeOf? c).isSome then skipString fuel else failAfter c .invalidEscape
    | some c =>
      if c.toNat < 0x20 then failHere .controlCharacter
      else
        drop
        skipString fuel

/-! ## Numbers -/

def isDigit (c : Char) : Bool := '0' ≤ c && c ≤ '9'

def digitValue (c : Char) : Nat := c.toNat - '0'.toNat

def wordLimit : Nat := Nat.pow 2 64

/-- A decimal, unless it is out of range. -/
def decimal (negative : Bool) (significand : Nat) (exponent : Int) : Reader Number := do
  let n := Number.decimal negative significand exponent
  if n.inRange then return n else failHere .numberOutOfRange

def dropDigits : Nat → Reader Unit
  | 0 => return ()
  | fuel + 1 => do
    match ← peek with
    | some c =>
      if isDigit c then
        drop
        dropDigits fuel
      else return ()
    | none => return ()

/-- The digits of an exponent; `none` if it does not fit 31 bits. -/
def exponentDigits : Nat → Nat → Reader (Option Nat)
  | 0, e => return some e
  | fuel + 1, e => do
    match ← peek with
    | some c =>
      if isDigit c then
        drop
        let e := e * 10 + digitValue c
        if Nat.pow 2 31 ≤ e then return none else exponentDigits fuel e
      else return some e
    | none => return some e

/-- An exponent; the reader is at its letter. -/
def exponentPart (negative : Bool) (significand : Nat) (start : Int) : Reader Number := do
  drop
  let minus := (← peek) = some '-'
  if minus ∨ (← peek) = some '+' then drop
  match ← next with
  | none => failHere .endOfValue
  | some c =>
    if isDigit c then
      let fuel := (← get).rest.length
      match ← exponentDigits fuel (digitValue c) with
      | some e => decimal negative significand (if minus then start - e else start + e)
      | none =>
        if significand ≠ 0 ∧ !minus then failHere .numberOutOfRange
        else
          dropDigits fuel
          return .decimal negative 0 0
    else failAfter c .invalidNumber

/-- What may stand after the digits of a number: an exponent. -/
def afterDigits (negative : Bool) (significand : Nat) (exponent : Int) : Reader Number := do
  match ← peek with
  | some 'e' | some 'E' => exponentPart negative significand exponent
  | _ => decimal negative significand exponent

/-- The digits after a point: the significand and how many digits went into it. Digits that no longer
fit 64 bits are passed over. -/
def fractionDigits : Nat → Nat → Nat → Reader (Nat × Nat)
  | 0, n, count => return (n, count)
  | fuel + 1, n, count => do
    match ← peek with
    | some c =>
      if isDigit c then
        if wordLimit ≤ n * 10 + digitValue c then
          dropDigits (fuel + 1)
          return (n, count)
        else
          drop
          fractionDigits fuel (n * 10 + digitValue c) (count + 1)
      else return (n, count)
    | none => return (n, count)

/-- The part of a number after its point; the reader is at the point. -/
def fraction (negative : Bool) (significand : Nat) (exponent : Int) : Reader Number := do
  drop
  let first ← peek
  let (n, count) ← fractionDigits (← get).rest.length significand 0
  match first with
  | none => failHere .endOfValue
  | some c =>
    if isDigit c then afterDigits negative n (exponent - count)
    else failNext .invalidNumber

/-- The digits of a whole number that fit 64 bits. -/
def wholeDigits : Nat → Nat → Reader (Nat × Bool)
  | 0, n => return (n, true)
  | fuel + 1, n => do
    match ← peek with
    | some c =>
      if isDigit c then
        if wordLimit ≤ n * 10 + digitValue c then return (n, false)
        else
          drop
          wholeDigits fuel (n * 10 + digitValue c)
      else return (n, true)
    | none => return (n, true)

def countDigits : Nat → Nat → Reader Nat
  | 0, count => return count
  | fuel + 1, count => do
    match ← peek with
    | some c =>
      if isDigit c then
        drop
        countDigits fuel (count + 1)
      else return count
    | none => return count

/-- What may stand after the whole part of a number. -/
def afterWhole (negative : Bool) (n : Nat) : Reader Number := do
  match ← peek with
  | some '.' => fraction negative n 0
  | some 'e' | some 'E' => exponentPart negative n 0
  | _ =>
    if !negative then return .whole n
    else if n = 0 ∨ Nat.pow 2 63 < n then return .decimal true n 0
    else return .whole (-n)

/-- A number after its sign. -/
def number (negative : Bool) : Reader Number := do
  match ← next with
  | none => failHere .endOfValue
  | some '0' =>
    match ← peek with
    | some c => if isDigit c then failNext .invalidNumber else afterWhole negative 0
    | none => afterWhole negative 0
  | some c =>
    if isDigit c then
      let fuel := (← get).rest.length
      match ← wholeDigits fuel (digitValue c) with
      | (n, true) => afterWhole negative n
      | (n, false) =>
        let more ← countDigits fuel 0
        match ← peek with
        | some '.' => fraction negative n more
        | _ => afterDigits negative n more
    else failAfter c .invalidNumber

def skipExponent : Reader Unit := do
  drop
  if (← peek) = some '+' ∨ (← peek) = some '-' then drop
  match ← next with
  | some c =>
    if isDigit c then dropDigits (← get).rest.length else failAfter c .invalidNumber
  | none => failHere .invalidNumber

/-- Passes over a number after its sign. -/
def skipNumber : Reader Unit := do
  match ← next with
  | some '0' =>
    match ← peek with
    | some c => if isDigit c then failNext .invalidNumber
    | none => return ()
  | some c =>
    if isDigit c then dropDigits (← get).rest.length else failAfter c .invalidNumber
  | none => failHere .invalidNumber
  match ← peek with
  | some '.' =>
    drop
    match ← peek with
    | some c =>
      if isDigit c then
        dropDigits (← get).rest.length
        match ← peek with
        | some 'e' | some 'E' => skipExponent
        | _ => return ()
      else failNext .invalidNumber
    | none => failNext .invalidNumber
  | some 'e' | some 'E' => skipExponent
  | _ => return ()

/-! ## Lists and objects -/

/-- Is there another item of a list? `first` says that none was read yet. -/
def moreItems (first : Bool) : Reader Bool := do
  match ← peekToken with
  | none => failNext .endOfList
  | some ']' => return false
  | some c =>
    if first then return true
    else if c = ',' then
      drop
      match ← peekToken with
      | some ']' => failNext .trailingComma
      | some _ => return true
      | none => failNext .endOfValue
    else failNext .expectedListCommaOrEnd

/-- Is there another member of an object? If so, its key comes next. -/
def moreMembers (first : Bool) : Reader Bool := do
  match ← peekToken with
  | none => failNext .endOfObject
  | some '\x7d' => return false
  | some c =>
    if first then
      if c = '"' then return true else failNext .keyMustBeString
    else if c = ',' then
      drop
      match ← peekToken with
      | some '"' => return true
      | some '\x7d' => failNext .trailingComma
      | some _ => failNext .keyMustBeString
      | none => failNext .endOfValue
    else failNext .expectedObjectCommaOrEnd

def endList : Reader Unit := do
  match ← peekToken with
  | some ']' => drop
  | some ',' =>
    drop
    match ← peekToken with
    | some ']' => failNext .trailingComma
    | _ => failNext .trailingCharacters
  | some _ => failNext .trailingCharacters
  | none => failNext .endOfList

def endObject : Reader Unit := do
  match ← peekToken with
  | some '\x7d' => drop
  | some ',' => failNext .trailingComma
  | some _ => failNext .trailingCharacters
  | none => failNext .endOfObject

def colon : Reader Unit := do
  match ← peekToken with
  | some ':' => drop
  | some _ => failNext .expectedColon
  | none => failNext .endOfObject

def key : Reader String := do
  drop
  stringRest

/-- Runs `r` and then looks for the end of the list or object that it reads the inside of. A fault of
`r` without a place gets the place where that search stops. -/
def enclosed {α : Type} (r : Reader α) (close : Reader Unit) : Reader α := fun s =>
  match r s with
  | .ok a s =>
    match close s with
    | .ok _ s => .ok a s
    | .error f s => .error (f.orAt s.place) s
  | .error f s =>
    match close s with
    | .ok _ t => .error (f.orAt t.place) t
    | .error _ t => .error (f.orAt t.place) t

def itemsLoop {α : Type} (item : Reader α) : Nat → List α → Reader (List α)
  | 0, done => return done.reverse
  | fuel + 1, done => do
    if ← moreItems done.isEmpty then itemsLoop item fuel ((← item) :: done)
    else return done.reverse

/-- The items of a list; its bracket is read. -/
def items {α : Type} (item : Reader α) : Reader (List α) := do
  enclosed (itemsLoop item ((← get).rest.length + 1) []) endList

/-- The members of an object, each read by `member` once its key is known, folded into a result. -/
def membersLoop {α : Type} (member : α → String → Reader α) : Nat → Bool → α → Reader α
  | 0, _, a => return a
  | fuel + 1, first, a => do
    if ← moreMembers first then
      let k ← key
      membersLoop member fuel false (← member a k)
    else return a

/-- The members of an object; its brace is read. -/
def members {α : Type} (member : α → String → Reader α) (start : α) : Reader α := do
  enclosed (membersLoop member ((← get).rest.length + 1) true start) endObject

/-! ## Values -/

/-- A value whose first character, `c`, comes next. Lists and objects have readers of their own. -/
def scalar (c : Char) : Reader Value := do
  match c with
  | 'n' =>
    drop
    word ['u', 'l', 'l']
    return .null
  | 't' =>
    drop
    word ['r', 'u', 'e']
    return .bool true
  | 'f' =>
    drop
    word ['a', 'l', 's', 'e']
    return .bool false
  | '-' =>
    drop
    return .number (← number true)
  | '"' =>
    drop
    return .string (← stringRest)
  | _ => if isDigit c then return .number (← number false) else failNext .expectedValue

/-- A value, given what reads the inside of a list and of an object. -/
def valueWith (list object : Reader Value) : Reader Value := do
  match ← peekToken with
  | none => failNext .endOfValue
  | some '[' => list
  | some '\x7b' => object
  | some c => scalar c

/-- Any value, with lists and objects nested no deeper than `depth`. -/
def value : Nat → Reader Value
  | 0 => valueWith (failNext .nestedTooDeeply) (failNext .nestedTooDeeply)
  | depth + 1 =>
    valueWith
      (do
        drop
        return .array (← items (value depth)))
      (do
        drop
        return .object (← members (fun found k => do
          colon
          return insert k (← value depth) found) []))

/-- Fails because another kind of value is wanted than the one that comes next. -/
def wrongType {α : Type} (wanted : String) (c : Char) : Reader α := do
  match c with
  | '[' => failHere (.invalidType "sequence" wanted)
  | '\x7b' => failHere (.invalidType "map" wanted)
  | _ =>
    let v ← scalar c
    failHere (.invalidType v.found wanted)

def string : Reader String := do
  match ← peekToken with
  | none => failNext .endOfValue
  | some '"' =>
    drop
    stringRest
  | some c => wrongType "a string" c

/-- A list, at a depth at which lists may still stand. -/
def list {α : Type} (item : Reader α) : Reader (List α) := do
  match ← peekToken with
  | none => failNext .endOfValue
  | some '[' =>
    drop
    items item
  | some c => wrongType "a sequence" c

/-- What is open around a value that is passed over. -/
inductive Bracket where
  | list
  | object
  deriving DecidableEq

/-- Goes past the ends of what is open, up to the next value. `comma` says that a comma may come. The
result is what is still open; if nothing is, the value has ended. -/
def skipEnds : Bool → List Bracket → Reader (List Bracket)
  | _, [] => return []
  | comma, b :: outer => do
    match ← peekToken with
    | none => failNext (if b = .list then .endOfList else .endOfObject)
    | some c =>
      if c = ',' ∧ comma then
        drop
        return b :: outer
      else if (c = ']' ∧ b = .list) ∨ (c = '\x7d' ∧ b = .object) then
        drop
        skipEnds true outer
      else if comma then
        failNext (if b = .list then .expectedListCommaOrEnd else .expectedObjectCommaOrEnd)
      else return b :: outer

/-- Passes over the key of a member and its colon. -/
def skipKey : Reader Unit := do
  match ← peekToken with
  | some '"' => drop
  | some _ => failNext .keyMustBeString
  | none => failNext .endOfObject
  skipString ((← get).rest.length + 1)
  colon

def skipScalar (c : Char) : Reader Unit := do
  match c with
  | 'n' =>
    drop
    word ['u', 'l', 'l']
  | 't' =>
    drop
    word ['r', 'u', 'e']
  | 'f' =>
    drop
    word ['a', 'l', 's', 'e']
  | '-' =>
    drop
    skipNumber
  | '"' =>
    drop
    skipString ((← get).rest.length + 1)
  | _ => if isDigit c then skipNumber else failNext .expectedValue

def skipLoop : Nat → List Bracket → Reader Unit
  | 0, _ => return ()
  | fuel + 1, outer => do
    let stack ← (do
      match ← peekToken with
      | none => failNext .endOfValue
      | some '[' =>
        drop
        skipEnds false (.list :: outer)
      | some '\x7b' =>
        drop
        skipEnds false (.object :: outer)
      | some c =>
        skipScalar c
        skipEnds true outer)
    match stack with
    | [] => return ()
    | .list :: _ => skipLoop fuel stack
    | .object :: _ =>
      skipKey
      skipLoop fuel stack

def skip : Reader Unit := do skipLoop ((← get).rest.length + 1) []

/-- Nothing but blanks may follow. -/
def finish : Reader Unit := do
  match ← peekToken with
  | some _ => failNext .trailingCharacters
  | none => return ()

def readAll {α : Type} (r : Reader α) (text : String) : Except Fault α :=
  match (do
    let a ← r
    finish
    return a : Reader α).run ⟨text.toList, {}⟩ with
  | .ok a _ => .ok a
  | .error f _ => .error f

end Reader

def Value.read (text : String) : Except Fault Value := Reader.readAll (Reader.value depthLimit) text

end RouteShortcuts.Json
