/-
  RouteShortcuts.Pattern.Reader — reads a pattern.

  The reader walks over the characters once. `ignoring` says whether blanks and comments between the
  parts of a pattern count for nothing; a group restores what held before it. Every loop takes one
  unit of `fuel` per character it is about to read, so the length of the pattern is enough.
-/

import RouteShortcuts.Pattern.Flaw
import RouteShortcuts.Text.Letter

namespace RouteShortcuts.Pattern

open RouteShortcuts.Text

/-- What the reader has not read yet, where it is, and what it knows. -/
structure State where
  rest : List Char
  place : Place := {}
  ignoring : Bool := false
  names : List (String × Span) := []

abbrev Reader := EStateM Flaw State

namespace Reader

def fail {α : Type} (span : Span) (cause : Cause) : Reader α := throw ⟨cause, span⟩

def here : Reader Place := return (← get).place

/-- The empty stretch where the reader is. -/
def point : Reader Span := return Span.at (← here)

def peek : Reader (Option Char) := return (← get).rest.head?

def atEnd : Reader Bool := return (← get).rest.isEmpty

/-- The character where the reader is, `c`, has not been read yet: its stretch. -/
def spanOf (c : Char) : Reader Span := do
  let p ← here
  return ⟨p, p.after c⟩

def bump : Reader Unit := do
  let s ← get
  match s.rest with
  | [] => return ()
  | c :: rest => set { s with rest, place := s.place.after c }

/-- Goes past characters up to the end of the line. -/
def bumpLine : Nat → Reader Unit
  | 0 => return ()
  | fuel + 1 => do
    match ← peek with
    | none => return ()
    | some c =>
      bump
      if c = '\n' then return () else bumpLine fuel

def bumpSpaceLoop : Nat → Reader Unit
  | 0 => return ()
  | fuel + 1 => do
    match ← peek with
    | some '#' => bumpLine (fuel + 1); bumpSpaceLoop fuel
    | some c => if isWhite c then do bump; bumpSpaceLoop fuel else return ()
    | none => return ()

/-- Goes past blanks and comments where they count for nothing. -/
def bumpSpace : Reader Unit := do
  let s ← get
  if s.ignoring then bumpSpaceLoop s.rest.length else return ()

def bumpAndSpace : Reader Unit := do
  bump
  bumpSpace

/-- Goes past these characters if they come next. -/
def bumpIf (word : List Char) : Reader Bool := do
  let s ← get
  if word.isPrefixOf s.rest then
    set { s with rest := s.rest.drop word.length, place := word.foldl Place.after s.place }
    return true
  else return false

/-- The character after the next one, blanks left out where they count for nothing. -/
def peekSecond : Reader (Option Char) := do
  let s ← get
  let tail := s.rest.drop 1
  if s.ignoring then
    let shown := tail.dropWhile isWhite
    match shown with
    | [] => return tail.head?
    | '#' :: comment =>
      match comment.dropWhile isWhite with
      | [] => return tail.head?
      | c :: _ => return some c
    | c :: _ => return some c
  else return tail.head?

/-! ## Escapes -/

/-- Characters with a meaning of their own, which a backslash takes away. -/
def isMeta (c : Char) : Bool :=
  "\\.+*?()|[]\x7b\x7d^$#&-~".toList.contains c

/-- ASCII characters that a backslash may stand before without need. -/
def isEscapable (c : Char) : Bool :=
  isMeta c || (c.toNat < 128 && !isAsciiLetter c && !isAsciiDigit c && c != '<' && c != '>')

def isHex (c : Char) : Bool :=
  isAsciiDigit c || ('a' ≤ c && c ≤ 'f') || ('A' ≤ c && c ≤ 'F')

/-- The character whose number these digits write, if it is one. -/
def scalar? (digits : List Char) : Option Char :=
  let n := digits.foldl (fun n c => n * 16 + Ranges.hexValue c) 0
  if n.isValidChar then some (Char.ofNat n) else none

def hexDigits (first : Bool) : Nat → List Char → Reader (List Char)
  | 0, done => return done.reverse
  | count + 1, done => do
    unless first do bumpAndSpace
    match ← peek with
    | none => fail (← point) .escapeUnexpectedEnd
    | some c =>
      unless isHex c do fail (← spanOf c) .escapeHexInvalidDigit
      hexDigits false count (c :: done)

/-- Hexadecimal digits up to a closing brace. -/
def hexBrace (opening : Place) : Nat → List Char → Reader (List Char)
  | 0, done => return done.reverse
  | fuel + 1, done => do
    bumpAndSpace
    match ← peek with
    | none => fail ⟨opening, ← here⟩ .escapeUnexpectedEnd
    | some '\x7d' => return done.reverse
    | some c =>
      unless isHex c do fail (← spanOf c) .escapeHexInvalidDigit
      hexBrace opening fuel (c :: done)

/-- A character given by its number; the reader is at the letter that says how it is written. -/
def hexLetter (start : Place) (kind : Char) : Reader Letter := do
  bumpAndSpace
  match ← peek with
  | none => fail (← point) .escapeUnexpectedEnd
  | some '\x7b' =>
    let opening ← here
    let digits ← hexBrace opening (← get).rest.length []
    let stop ← here
    bumpAndSpace
    if digits.isEmpty then fail ⟨opening, ← here⟩ .escapeHexEmpty
    match scalar? digits with
    | none => fail ⟨opening.after '\x7b', stop⟩ .escapeHexInvalid
    | some c => return ⟨⟨start, ← here⟩, c, false⟩
  | some _ =>
    let first ← here
    let count := if kind = 'x' then 2 else if kind = 'u' then 4 else 8
    let digits ← hexDigits true count []
    bumpAndSpace
    match scalar? digits with
    | none => fail ⟨first, ← here⟩ .escapeHexInvalid
    | some c => return ⟨⟨start, ← here⟩, c, kind = 'x'⟩

/-- The characters of a property's name, up to the closing brace. -/
def propertyName : Nat → List Char → Reader (List Char)
  | 0, done => return done.reverse
  | fuel + 1, done => do
    bumpAndSpace
    match ← peek with
    | none => fail (← point) .escapeUnexpectedEnd
    | some '\x7d' => return done.reverse
    | some c => propertyName fuel (c :: done)

/-- The text before the first place where `sign` stands, and the text after the sign. -/
def splitAt? (sign : List Char) : List Char → Option (List Char × List Char)
  | [] => none
  | c :: rest =>
    if sign.isPrefixOf (c :: rest) then some ([], (c :: rest).drop sign.length)
    else (splitAt? sign rest).map fun (before, after) => (c :: before, after)

/-- A property with a value has a sign between them; of several signs `!=` counts before `:` and
`:` before `=`. -/
def query (name : List Char) : PropertyQuery :=
  match (splitAt? ['!', '='] name).or ((splitAt? [':'] name).or (splitAt? ['='] name)) with
  | some (property, value) => .value (String.ofList property) (String.ofList value)
  | none => .name (String.ofList name)

/-- A Unicode property; the reader is at the letter `p` or `P`. -/
def property : Reader PropertyQuery := do
  bumpAndSpace
  match ← peek with
  | none => fail (← point) .escapeUnexpectedEnd
  | some '\x7b' =>
    let name ← propertyName (← get).rest.length []
    bump
    return query name
  | some '\\' => fail (← spanOf '\\') .propertyLetterInvalid
  | some c =>
    bumpAndSpace
    return .name c.toString

/-- Part of a pattern or of a class: a character, a condition or a set. -/
inductive Primitive where
  | letter (l : Letter)
  | dot (span : Span)
  | assertion (span : Span) (a : Assertion)
  | property (span : Span) (negated : Bool) (q : PropertyQuery)
  | letterClass (span : Span) (negated : Bool) (c : LetterClass)

def Primitive.span : Primitive → Span
  | .letter l => l.span
  | .dot s | .assertion s _ | .property s .. | .letterClass s .. => s

def Primitive.tree : Primitive → Tree
  | .letter l => .letter l
  | .dot s => .dot s
  | .assertion s a => .assertion s a
  | .property s n q => .property s n q
  | .letterClass s n c => .letterClass s n c

def isBoundaryLetter (c : Char) : Bool := isAsciiLetter c || c == '-'

def boundaryName : Nat → List Char → Reader (List Char)
  | 0, done => return done.reverse
  | fuel + 1, done => do
    match ← peek with
    | none => return done.reverse
    | some c =>
      if isBoundaryLetter c then
        bumpAndSpace
        boundaryName fuel (c :: done)
      else return done.reverse

/-- The kind of a word boundary, named in braces. What stands in the braces may be the count of a
repetition instead; then nothing is read. -/
def boundaryKind? (start : Place) : Reader (Option Assertion) := do
  let before ← get
  bumpAndSpace
  match ← peek with
  | none => fail ⟨start, ← here⟩ .wordBoundaryOrRepetitionEnd
  | some c =>
    if isBoundaryLetter c then
      let inside ← here
      let name ← boundaryName (← get).rest.length []
      unless (← peek) = some '\x7d' do fail ⟨before.place, ← here⟩ .wordBoundaryUnclosed
      let stop ← here
      bump
      match String.ofList name with
      | "start" => return some .wordStart
      | "end" => return some .wordEnd
      | "start-half" => return some .wordStartHalf
      | "end-half" => return some .wordEndHalf
      | _ => fail ⟨inside, stop⟩ .wordBoundaryUnrecognized
    else
      set before
      return none

/-- An escape; the reader is at the backslash. -/
def escape : Reader Primitive := do
  let start ← here
  bump
  match ← peek with
  | none => fail ⟨start, ← here⟩ .escapeUnexpectedEnd
  | some c =>
    if isAsciiDigit c then fail ⟨start, (← here).after c⟩ .backreference
    else if c = 'x' ∨ c = 'u' ∨ c = 'U' then return .letter (← hexLetter start c)
    else if c = 'p' ∨ c = 'P' then
      let q ← property
      return .property ⟨start, ← here⟩ (c = 'P') q
    else
      bump
      let span : Span := ⟨start, ← here⟩
      if isEscapable c then return .letter ⟨span, c, false⟩
      match c with
      | 'd' => return .letterClass span false .digit
      | 's' => return .letterClass span false .space
      | 'w' => return .letterClass span false .word
      | 'D' => return .letterClass span true .digit
      | 'S' => return .letterClass span true .space
      | 'W' => return .letterClass span true .word
      | 'a' => return .letter ⟨span, '\x07', false⟩
      | 'f' => return .letter ⟨span, '\x0C', false⟩
      | 't' => return .letter ⟨span, '\t', false⟩
      | 'n' => return .letter ⟨span, '\n', false⟩
      | 'r' => return .letter ⟨span, '\r', false⟩
      | 'v' => return .letter ⟨span, '\x0B', false⟩
      | 'A' => return .assertion span .textStart
      | 'z' => return .assertion span .textEnd
      | 'b' =>
        if (← peek) = some '\x7b' then
          match ← boundaryKind? start with
          | some kind => return .assertion ⟨start, ← here⟩ kind
          | none => return .assertion span .boundary
        else return .assertion span .boundary
      | 'B' => return .assertion span .notBoundary
      | '<' => return .assertion span .wordStart
      | '>' => return .assertion span .wordEnd
      | _ => fail span .escapeUnrecognized

/-- A single character, condition or set outside brackets; `c` comes next. -/
def primitive (c : Char) : Reader Primitive := do
  if c = '\\' then escape
  else
    let span ← spanOf c
    bump
    match c with
    | '.' => return .dot span
    | '^' => return .assertion span .lineStart
    | '$' => return .assertion span .lineEnd
    | _ => return .letter ⟨span, c, false⟩

/-! ## Bracketed classes -/

def asciiClass? : String → Option AsciiClass
  | "alnum" => some .alnum
  | "alpha" => some .alpha
  | "ascii" => some .ascii
  | "blank" => some .blank
  | "cntrl" => some .cntrl
  | "digit" => some .digit
  | "graph" => some .graph
  | "lower" => some .lower
  | "print" => some .print
  | "punct" => some .punct
  | "space" => some .space
  | "upper" => some .upper
  | "word" => some .word
  | "xdigit" => some .xdigit
  | _ => none

/-- A named class such as `[:alpha:]`; if there is none, nothing is read. -/
def namedClass? : Reader (Option SetTree) := do
  let before ← get
  let opened ← bumpIf ['[', ':']
  if opened then
    let negated ← bumpIf ['^']
    let inside := (← get).rest
    let name := inside.takeWhile (· != ':')
    let _ ← bumpIf name
    let closed ← bumpIf [':', ']']
    match closed, asciiClass? (String.ofList name) with
    | true, some c => return some (.ascii ⟨before.place, ← here⟩ negated c)
    | _, _ =>
      set before
      return none
  else return none

def Primitive.item : Primitive → Reader SetTree
  | .letter l => return .letter l
  | .property s n q => return .property s n q
  | .letterClass s n c => return .letterClass s n c
  | p => fail p.span .classEscapeInvalid

def Primitive.bound : Primitive → Reader Letter
  | .letter l => return l
  | p => fail p.span .classRangeLiteral

/-- One character or escape inside brackets. -/
def setPrimitive : Reader Primitive := do
  match ← peek with
  | some '\\' => escape
  | some c =>
    let span ← spanOf c
    bump
    return .letter ⟨span, c, false⟩
  | none => fail (← point) .classUnclosed

/-- An item inside brackets that are open since `opening`: a character, a set or a range. -/
def setItem (opening : Span) : Reader SetTree := do
  let first ← setPrimitive
  bumpSpace
  match ← peek with
  | none => fail opening .classUnclosed
  | some '-' =>
    let second ← peekSecond
    if second = some ']' ∨ second = some '-' then first.item
    else
      bumpAndSpace
      if ← atEnd then fail opening .classUnclosed
      let last ← setPrimitive
      let low ← first.bound
      let high ← last.bound
      let span := first.span.to last.span
      if high.char < low.char then fail span .classRangeInvalid
      return .range span low high
  | some _ => first.item

/-- The stretch of items in a row, most recent first; `start` is where they would begin. -/
def itemsSpan (start : Span) : List SetTree → Span
  | [] => start
  | last :: before => (before.getLast?.getD last).span.to last.span

def union (start : Span) (items : List SetTree) : SetTree :=
  match items with
  | [] => .empty start
  | [item] => item
  | _ => .union (itemsSpan start items) items.reverse

/-- Dashes at the front of a class stand for themselves. -/
def leadingDashes (opening : Place) : Nat → List SetTree → Reader (List SetTree)
  | 0, items => return items
  | fuel + 1, items => do
    match ← peek with
    | some '-' =>
      let span ← spanOf '-'
      bumpAndSpace
      if ← atEnd then fail (Span.at opening) .classUnclosed
      leadingDashes opening fuel (.letter ⟨span, '-', false⟩ :: items)
    | _ => return items

/-- The front of a class: is it negated, and which characters stand for themselves because they come
first? Also the stretch that is shown if the class is not closed. -/
def setFront : Reader (Bool × Span × Span × List SetTree) := do
  let opening ← here
  bumpAndSpace
  if ← atEnd then fail ⟨opening, ← here⟩ .classUnclosed
  let negated := (← peek) = some '^'
  if negated then
    bumpAndSpace
    if ← atEnd then fail ⟨opening, ← here⟩ .classUnclosed
  let start ← point
  let dashes ← leadingDashes opening (← get).rest.length []
  if dashes.isEmpty ∧ (← peek) = some ']' then
    let span ← spanOf ']'
    bumpAndSpace
    if ← atEnd then fail ⟨opening, ← here⟩ .classUnclosed
    return (negated, ⟨opening, ← here⟩, start, [.letter ⟨span, ']', false⟩])
  return (negated, ⟨opening, ← here⟩, start, dashes)

/-- A set that waits for its right side. -/
abbrev Waiting := Option (SetOperator × SetTree)

def Waiting.close (w : Waiting) (right : SetTree) : SetTree :=
  match w with
  | none => right
  | some (op, left) => .combined (left.span.to right.span) op left right

/-- The sign of a set operator, if one comes next; it is read. -/
def setOperator? : Reader (Option SetOperator) := do
  if ← bumpIf ['&', '&'] then return some .intersection
  if ← bumpIf ['-', '-'] then return some .difference
  if ← bumpIf ['~', '~'] then return some .symmetricDifference
  return none

/-- The items of a class up to its closing bracket. `shown` is the stretch that is shown if there is
none, `start` the place where the items began. -/
def setBody : Nat → Span → Span → Waiting → List SetTree → Reader SetTree
  | 0, shown, _, _, _ => fail shown .classUnclosed
  | fuel + 1, shown, start, waiting, items => do
    bumpSpace
    match ← peek with
    | none => fail shown .classUnclosed
    | some '[' =>
      match ← namedClass? with
      | some c => setBody fuel shown start waiting (c :: items)
      | none =>
        let opening ← here
        let (negated, innerShown, innerStart, innerItems) ← setFront
        let inner ← setBody fuel innerShown innerStart none innerItems
        setBody fuel shown start waiting (.bracketed ⟨opening, ← here⟩ negated inner :: items)
    | some ']' =>
      bump
      return waiting.close (union start items)
    | some _ =>
      match ← setOperator? with
      | some op => setBody fuel shown (← point) (some (op, waiting.close (union start items))) []
      | none => setBody fuel shown start waiting ((← setItem shown) :: items)

/-- A bracketed class; the reader is at its opening bracket. -/
def bracketed : Reader Tree := do
  let opening ← here
  let (negated, shown, start, items) ← setFront
  let inner ← setBody ((← get).rest.length + 1) shown start none items
  return .bracketed ⟨opening, ← here⟩ negated inner

/-! ## Repetitions -/

/-- The part that a repetition operator repeats: the last one, unless it is none. -/
def repeated : List Tree → Reader (Tree × List Tree)
  | [] => do fail (← point) .repetitionMissing
  | .empty _ :: _ => do fail (← point) .repetitionMissing
  | .flags .. :: _ => do fail (← point) .repetitionMissing
  | part :: before => return (part, before)

/-- Goes past the sign that makes a repetition lazy. -/
def bumpLazy : Reader Unit := do
  let _ ← bumpIf ['?']

def digitsLoop : Nat → List Char → Reader (List Char)
  | 0, done => return done.reverse
  | fuel + 1, done => do
    match ← peek with
    | some c =>
      if isAsciiDigit c then
        bumpAndSpace
        digitsLoop fuel (c :: done)
      else return done.reverse
    | none => return done.reverse

def bumpWhite (spaced : Bool) : Nat → Reader Unit
  | 0 => return ()
  | fuel + 1 => do
    match ← peek with
    | some c =>
      if isWhite c then
        bump
        if spaced then bumpSpace
        bumpWhite spaced fuel
      else return ()
    | none => return ()

/-- A count of repetitions, or what is wrong with it. -/
def count : Reader (Except Flaw Nat) := do
  bumpWhite false (← get).rest.length
  let start ← here
  let digits ← digitsLoop (← get).rest.length []
  let span : Span := ⟨start, ← here⟩
  bumpWhite true (← get).rest.length
  let n := digits.foldl (fun n c => n * 10 + (c.toNat - '0'.toNat)) 0
  if digits.isEmpty then return .error ⟨.repetitionCountDecimalEmpty, span⟩
  if Nat.pow 2 32 ≤ n then return .error ⟨.decimalInvalid, span⟩
  return .ok n

def orFail {α : Type} : Except Flaw α → Reader α
  | .ok a => return a
  | .error flaw => throw flaw

/-- A repetition with counts in braces; the reader is at the opening brace. -/
def counted (parts : List Tree) : Reader (List Tree) := do
  let start ← here
  let (part, before) ← repeated parts
  bumpAndSpace
  if ← atEnd then fail ⟨start, ← here⟩ .repetitionCountUnclosed
  let first ← count
  if ← atEnd then fail ⟨start, ← here⟩ .repetitionCountUnclosed
  let (min, max) ← (do
    if (← peek) = some ',' then
      bumpAndSpace
      if ← atEnd then fail ⟨start, ← here⟩ .repetitionCountUnclosed
      if (← peek) = some '\x7d' then return (← orFail first, none)
      else
        let least ← orFail first
        let most ← orFail (← count)
        return (least, some most)
    else
      let n ← orFail first
      return (n, some n))
  unless (← peek) = some '\x7d' do fail ⟨start, ← here⟩ .repetitionCountUnclosed
  bumpAndSpace
  bumpLazy
  let stop ← here
  if max.any (· < min) then fail ⟨start, stop⟩ .repetitionCountInvalid
  return .repetition ⟨part.span.start, stop⟩ min max part :: before

/-- A repetition with a sign; the reader is at the sign. -/
def signed (min : Nat) (max : Option Nat) (parts : List Tree) : Reader (List Tree) := do
  let (part, before) ← repeated parts
  bump
  bumpLazy
  return .repetition ⟨part.span.start, ← here⟩ min max part :: before

/-! ## Groups -/

def flag (c : Char) : Reader Flag := do
  match c with
  | 'i' => return .caseless
  | 'm' => return .multiLine
  | 's' => return .dotAll
  | 'U' => return .swapGreed
  | 'u' => return .unicode
  | 'R' => return .crlf
  | 'x' => return .spaced
  | _ => fail (← spanOf c) .flagUnrecognized

def sameItem : FlagItem → FlagItem → Bool
  | .negation _, .negation _ => true
  | .flag _ f, .flag _ g => f = g
  | _, _ => false

/-- Flags up to a colon or a closing parenthesis; most recent first. -/
def flags : Nat → List FlagItem → Reader (List FlagItem)
  | 0, items => return items.reverse
  | fuel + 1, items => do
    match ← peek with
    | none => fail (← point) .flagUnexpectedEnd
    | some c =>
      if c = ':' ∨ c = ')' then
        match items with
        | .negation span :: _ => fail span .flagDanglingNegation
        | _ => return items.reverse
      else
        let span ← spanOf c
        let item ← (do
          if c = '-' then return FlagItem.negation span else return FlagItem.flag span (← flag c))
        match items.find? (sameItem item) with
        | some old =>
          match item with
          | .negation _ => fail span (.flagRepeatedNegation old.span)
          | .flag .. => fail span (.flagDuplicate old.span)
        | none =>
          bump
          flags fuel (item :: items)

def isNameChar (first : Bool) (c : Char) : Bool :=
  c == '_' || isAlphabetic c.toNat
    || (!first && (c == '.' || c == '[' || c == ']' || isNumeric c.toNat))

def nameChars : Nat → List Char → Reader (List Char)
  | 0, done => return done.reverse
  | fuel + 1, done => do
    match ← peek with
    | none => fail (← point) .groupNameUnexpectedEnd
    | some '>' => return done.reverse
    | some c =>
      unless isNameChar done.isEmpty c do fail (← spanOf c) .groupNameInvalid
      bump
      nameChars fuel (c :: done)

/-- The name of a group, up to its closing bracket; no two groups have one name. -/
def groupName : Reader Unit := do
  let start ← here
  let name ← nameChars ((← get).rest.length + 1) []
  let stop ← here
  bump
  if name.isEmpty then fail (Span.at start) .groupNameEmpty
  let text := String.ofList name
  let s ← get
  match s.names.find? (·.1 == text) with
  | some (_, old) => fail ⟨start, stop⟩ (.groupNameDuplicate old)
  | none => set { s with names := (text, ⟨start, stop⟩) :: s.names }

/-- What an opening parenthesis begins: flags for what follows, or a group with flags of its own. -/
inductive Opening where
  | flags (span : Span) (items : List FlagItem)
  | group (flags : List FlagItem)

/-- The front of a group; the reader is at the parenthesis. -/
def groupFront : Reader Opening := do
  let opening ← spanOf '('
  bump
  bumpSpace
  for sign in [['?', '='], ['?', '!'], ['?', '<', '='], ['?', '<', '!']] do
    if ← bumpIf sign then fail ⟨opening.start, ← here⟩ .lookAround
  let inner ← point
  if ← bumpIf ['?', 'P', '<'] then
    groupName
    return .group []
  else if ← bumpIf ['?', '<'] then
    groupName
    return .group []
  else if ← bumpIf ['?'] then
    if ← atEnd then fail opening .groupUnclosed
    let items ← flags ((← get).rest.length + 1) []
    let closed := (← peek) = some ')'
    bump
    if closed then
      if items.isEmpty then fail inner .repetitionMissing
      return .flags ⟨opening.start, ← here⟩ items
    else return .group items
  else return .group []

/-! ## Patterns -/

/-- Parts in a row, most recent first, as one pattern. -/
def concat (start stop : Place) (parts : List Tree) : Tree :=
  match parts with
  | [] => .empty ⟨start, stop⟩
  | [part] => part
  | _ => .concat ⟨start, stop⟩ parts.reverse

/-- Alternatives, most recent first, as one pattern. -/
def alternation (start stop : Place) (branches : List Tree) : Tree :=
  match branches with
  | [branch] => branch
  | _ => .alternation ⟨start, stop⟩ branches.reverse

/-- How deep a group lies: the stretch of its parenthesis, or none outside all groups. -/
abbrev Within := Option Span

/-- The alternatives up to the end of a group or of the pattern. `first` is where the first one
began, `start` where the one that is being read began. -/
def branches : Nat → Within → Place → Place → List Tree → List Tree → Reader Tree
  | 0, _, first, _, _, _ => do fail ⟨first, ← here⟩ .groupUnclosed
  | fuel + 1, within, first, start, done, parts => do
    bumpSpace
    match ← peek with
    | none =>
      match within with
      | some opening => fail opening .groupUnclosed
      | none =>
        let stop ← here
        return alternation first stop (concat start stop parts :: done)
    | some ')' =>
      match within with
      | none => fail (← spanOf ')') .groupUnopened
      | some _ =>
        let stop ← here
        return alternation first stop (concat start stop parts :: done)
    | some '|' =>
      let branch := concat start (← here) parts
      bump
      branches fuel within first (← here) (branch :: done) []
    | some '(' =>
      let opening ← spanOf '('
      match ← groupFront with
      | .flags span items =>
        match flagState .spaced items false with
        | some v => modify fun s => { s with ignoring := v }
        | none => pure ()
        branches fuel within first start done (.flags span items :: parts)
      | .group items =>
        let before := (← get).ignoring
        modify fun s => { s with ignoring := (flagState .spaced items false).getD before }
        let inside ← here
        let inner ← branches fuel (some opening) inside inside [] []
        modify fun s => { s with ignoring := before }
        bump
        branches fuel within first start done (.group ⟨opening.start, ← here⟩ items inner :: parts)
    | some '[' => branches fuel within first start done ((← bracketed) :: parts)
    | some '?' => branches fuel within first start done (← signed 0 (some 1) parts)
    | some '*' => branches fuel within first start done (← signed 0 none parts)
    | some '+' => branches fuel within first start done (← signed 1 none parts)
    | some '\x7b' => branches fuel within first start done (← counted parts)
    | some c => branches fuel within first start done ((← primitive c).tree :: parts)

end Reader

def Tree.read (pattern : String) : Except Flaw Tree :=
  let chars := pattern.toList
  match (Reader.branches (chars.length + 1) none {} {} [] []).run { rest := chars } with
  | .ok tree _ => .ok tree
  | .error flaw _ => .error flaw

end RouteShortcuts.Pattern
