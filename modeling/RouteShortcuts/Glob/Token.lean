/-
  RouteShortcuts.Glob.Token — glob patterns: their parts, and how they are read.

  `*` and `?` stay within a name, `**` as a whole name spans directories, braces hold alternatives and
  brackets hold classes; a backslash takes the meaning of the next character away.
-/

namespace RouteShortcuts.Glob

inductive Token where
  | literal (c : Char)
  | any
  | star
  /-- `**` at the front. -/
  | anyPrefix
  /-- `/**` at the end. -/
  | anySuffix
  /-- `/**/` in the middle. -/
  | anyMiddle
  | set (negated : Bool) (ranges : List (Char × Char))
  | alternatives (branches : List (List Token))

inductive Flaw where
  | unclosedClass
  | invalidRange (low high : Char)
  | unopenedAlternatives
  | unclosedAlternatives
  | danglingEscape
  deriving DecidableEq, Repr

def Flaw.message : Flaw → String
  | .unclosedClass => "unclosed character class; missing ']'"
  | .invalidRange low high =>
    "invalid range; '" ++ low.toString ++ "' > '" ++ high.toString ++ "'"
  | .unopenedAlternatives =>
    "unopened alternate group; missing '\x7b' (maybe escape '\x7d' with '[\x7d]'?)"
  | .unclosedAlternatives =>
    "unclosed alternate group; missing '\x7d' (maybe escape '\x7b' with '[\x7b]'?)"
  | .danglingEscape => "dangling '\\'"

/-! ## Classes -/

/-- The inside of a class as far as it is read: its ranges, most recent first, and whether a dash
waits for the end of a range. -/
structure ClassDraft where
  ranges : List (Char × Char) := []
  dash : Bool := false

/-- Takes one more character of a class. -/
def ClassDraft.push (d : ClassDraft) (c : Char) : Except Flaw ClassDraft :=
  match d.ranges with
  | [] => .ok ⟨[(c, c)], false⟩
  | (low, _) :: before =>
    if d.dash then
      if c < low then .error (.invalidRange low c) else .ok ⟨(low, c) :: before, false⟩
    else if c = '-' then .ok { d with dash := true }
    else .ok ⟨(c, c) :: d.ranges, false⟩

/-- A dash that nothing follows stands for itself. -/
def ClassDraft.finish (d : ClassDraft) : List (Char × Char) :=
  (if d.dash then ('-', '-') :: d.ranges else d.ranges).reverse

/-- The inside of a class up to its bracket, and what follows. A bracket that comes first is a member
of the class. -/
def readClass : List Char → ClassDraft → Except Flaw (List (Char × Char) × List Char)
  | [], _ => .error .unclosedClass
  | c :: rest, d =>
    if c = ']' ∧ !d.ranges.isEmpty then .ok (d.finish, rest)
    else
      match d.push c with
      | .ok d => readClass rest d
      | .error f => .error f

/-! ## Reading -/

/-- The branches of a group that is open: the ones that are done, and the parts of the one that is
being read, most recent first. -/
structure Branches where
  done : List (List Token) := []
  current : List Token := []

/-- What is read so far: the innermost open branches, and those of the groups around it. -/
structure Draft where
  inner : Branches := {}
  outer : List Branches := []

def Draft.push (d : Draft) (t : Token) : Draft :=
  { d with inner := { d.inner with current := t :: d.inner.current } }

/-- Two stars that do not span directories. -/
def Draft.pushStars (d : Draft) : Draft := (d.push .star).push .star

def Draft.openGroup (d : Draft) : Draft := ⟨{}, d.inner :: d.outer⟩

def Branches.close (b : Branches) : List (List Token) := (b.current.reverse :: b.done).reverse

def Draft.closeGroup (d : Draft) : Except Flaw Draft :=
  match d.outer with
  | [] => .error .unopenedAlternatives
  | b :: outer => .ok (Draft.push ⟨b, outer⟩ (.alternatives d.inner.close))

/-- A comma ends a branch; outside all groups it stands for itself. -/
def Draft.comma (d : Draft) : Draft :=
  match d.outer with
  | [] => d.push (.literal ',')
  | _ => { d with inner := ⟨d.inner.current.reverse :: d.inner.done, []⟩ }

/-- What may follow two stars. -/
inductive Following where
  | nothing
  | separator
  | other

def following (inGroup : Bool) : List Char → Following
  | [] => .nothing
  | c :: _ =>
    if c = '/' then .separator
    else if inGroup && (c = ',' || c = '\x7d') then .nothing
    else .other

/-- A slash and two stars after it become one part; it takes the place of the slash. -/
def Draft.replaceLast (d : Draft) (t : Token) : Draft :=
  match d.inner.current with
  | .anyPrefix :: _ | .anySuffix :: _ => d
  | _ :: before => { d with inner := { d.inner with current := t :: before } }
  | [] => d.push t

/-- Two stars; `previous` is the character before them. The result says whether the separator after
them is taken too. -/
def Draft.twoStars (d : Draft) (previous : Option Char) (rest : List Char) : Draft × Bool :=
  if d.inner.current.isEmpty then
    match following false rest with
    | .nothing => (d.push .anyPrefix, false)
    | .separator => (d.push .anyPrefix, true)
    | .other => (d.pushStars, false)
  else if previous ≠ some '/'
      ∧ (d.outer.isEmpty ∨ (previous ≠ some ',' ∧ previous ≠ some '\x7b')) then (d.pushStars, false)
  else
    match following (!d.outer.isEmpty) rest with
    | .nothing => (d.replaceLast .anySuffix, false)
    | .separator => (d.replaceLast .anyMiddle, true)
    | .other => (d.pushStars, false)

/-- Reads the rest of a glob. Every step reads a character, so the length of the text is enough
fuel. -/
def readTokens : Nat → Option Char → List Char → Draft → Except Flaw Draft
  | 0, _, _, d => .ok d
  | _, _, [], d => .ok d
  | fuel + 1, previous, c :: rest, d =>
    match c with
    | '?' => readTokens fuel (some c) rest (d.push .any)
    | '*' =>
      match rest with
      | '*' :: rest =>
        let (d, taken) := d.twoStars previous rest
        if taken then readTokens fuel (some '/') (rest.drop 1) d
        else readTokens fuel (some '*') rest d
      | _ => readTokens fuel (some c) rest (d.push .star)
    | '[' =>
      let (negated, inside) := match rest with
        | '!' :: r => (true, r)
        | '^' :: r => (true, r)
        | r => (false, r)
      match readClass inside {} with
      | .ok (ranges, rest) => readTokens fuel (some ']') rest (d.push (.set negated ranges))
      | .error f => .error f
    | '\x7b' => readTokens fuel (some c) rest d.openGroup
    | '\x7d' =>
      match d.closeGroup with
      | .ok d => readTokens fuel (some c) rest d
      | .error f => .error f
    | ',' => readTokens fuel (some c) rest d.comma
    | '\\' =>
      match rest with
      | [] => .error .danglingEscape
      | e :: rest => readTokens fuel (some e) rest (d.push (.literal e))
    | c => readTokens fuel (some c) rest (d.push (.literal c))

def tokens (pattern : String) : Except Flaw (List Token) :=
  let chars := pattern.toList
  match readTokens chars.length none chars {} with
  | .error f => .error f
  | .ok d => if d.outer.isEmpty then .ok d.inner.current.reverse else .error .unclosedAlternatives

end RouteShortcuts.Glob
