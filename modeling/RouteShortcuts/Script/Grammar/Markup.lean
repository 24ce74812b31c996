/-
  RouteShortcuts.Script.Grammar.Markup — elements of markup.

  What follows a tag is read as a child of the element around it, or as ordinary code where an
  expression goes on. A child that cannot be read ends the children: the closing tag is then missing.
-/

import RouteShortcuts.Script.Grammar.Calls

namespace RouteShortcuts.Script.Grammar

open Reader

/-- Moves on to what follows a tag or an expression in markup. -/
def bumpToChild : Parse Unit := do
  let s ← get
  let r := MarkupText.scanChild s.cur.stop s.cur.rest
  set { s with ahead := none, prevStart := s.cur.start, prevStop := s.cur.stop,
               cur := Lexed.ofScanned r s.cur.stop s.cur.rest false [] }
  noteAll r.faults

/-- Ends a tag or an expression, before code or before a child. -/
def closeWith (m : Mark) (codeFollows : Bool) : Parse Unit := do
  if !(← is m) then failHere (.expected m.text (← token).shown)
  if codeFollows then bump else bumpToChild

/-- One name in a tag; it may hold dashes. -/
def tagWord : Parse String := do
  match ← token with
  | .word .. =>
    rescan MarkupText.scanName
    match ← token with
    | .markupName w =>
      bump
      return w
    | _ => unexpected "jsx identifier"
  | .markupName w =>
    bump
    return w
  | _ => unexpected "jsx identifier"

/-- The name of an element: with a namespace, or with members. -/
def elementName (r : Rules) : Parse String := do
  let first ← tagWord
  if ← eat .colon then
    let second ← tagWord
    return first ++ ":" ++ second
  repeatUntil r.fuel (fun acc : String => do
    if ← eat .dot then
      return .inl (acc ++ "." ++ (← tagWord))
    return .inr acc) first

/-- An expression in braces; `true` if code follows it. `none` if there is nothing in the braces. -/
def expressionInBraces (r : Rules) (codeFollows : Bool) : Parse (Option Expr) :=
  within (fun f => { f with anglesJoined := false, inType := false, colonFollows := false,
                            inConditional := false }) do
    bump
    let e ← if ← is .braceClose then pure none
      else
        let _ ← eat .dots
        some <$> withIn (expression r)
    closeWith .braceClose codeFollows
    return e

/-- The value of an attribute; its equals sign is next. -/
def attributeValue (r : Rules) : Parse (Option Expr) := do
  bump
  match ← token with
  | .string _ =>
    rescan MarkupText.scanString
    bump
    return none
  | .invalid _ =>
    let l ← cur
    if l.here.head? = some '"' ∨ l.here.head? = some '\'' then
      rescan MarkupText.scanString
      bump
      return none
    else failHere .attributeValue
  | .mark .braceOpen =>
    let pos ← here
    let e ← expressionInBraces r true
    if e.isNone then note .emptyAttribute pos
    return e
  | .mark .less => some <$> r.markup true
  | _ => failHere .attributeValue

/-- An attribute: the expression in it. -/
def tagAttribute (r : Rules) : Parse (Option Expr) := do
  if ← eat .braceOpen then
    expect .dots
    let e ← withIn r.assign
    expect .braceClose
    return some e
  let _ ← tagWord
  if ← eat .colon then
    let _ ← tagWord
  if ← is .assign then attributeValue r else return none

def attributes (r : Rules) : Parse (List Expr) := do
  let found ← listUntil r (return (← isOneOf [.greater, .slash]) || (← atEnd)) (tagAttribute r)
  return found.filterMap id

/-- A child of an element; `none` at the closing tag. -/
def child (r : Rules) : Parse (Option (List Expr)) := do
  match ← token with
  | .markupText =>
    bumpToChild
    return some []
  | .mark .braceOpen => return some (← expressionInBraces r false).toList
  | .mark .less => return some [← r.markup false]
  | _ => return none

/-- Children up to one that is none. -/
def children (r : Rules) : Parse (List Expr) :=
  repeatUntil r.fuel (fun acc : List Expr => do
    match ← caught (child r) with
    | .ok (some es) => return .inl (es.reverse ++ acc)
    | _ => return .inr acc.reverse) []

/-- An element, or a fragment without a name; `codeFollows` if it is part of an expression. -/
def element (r : Rules) (codeFollows : Bool) : Parse Expr :=
  within (fun f => { f with anglesJoined := false }) do
    let pos ← here
    expect .less
    if ← is .greater then
      bumpToChild
      let parts ← children r
      expect .lessSlash
      closeWith .greater codeFollows
      return .markup pos parts
    let opened ← elementName r
    if ← is .less then
      let _ ← attempt? (some <$> typeArguments r)
    let parts ← attributes r
    if ← eat .slash then
      closeWith .greater codeFollows
      return .markup pos parts
    if !(← is .greater) then expect .greater
    bumpToChild
    let inner ← children r
    expect .lessSlash
    let closing ← here
    let closed ← elementName r
    closeWith .greater codeFollows
    if closed != opened then fail (.closingTag opened) closing
    return .markup pos (parts ++ inner)

end RouteShortcuts.Script.Grammar
