/-
  RouteShortcuts.Script.Grammar.Bindings — names and patterns that are bound, and parameters.

  Parameters are read up to the closing parenthesis, which is left for the caller.
-/

import RouteShortcuts.Script.Grammar.Names

namespace RouteShortcuts.Script.Grammar

open Reader

/-- Words that may stand before a parameter. -/
def accessWords : List String := ["public", "protected", "private", "readonly"]

/-- Passes a word such as `readonly` if a name or a pattern follows it. -/
def eatAccessWord : Parse Bool := do
  if ← isWordOf accessWords then
    let next := (← peek).token
    if next.isAnyWord || next.isMark .braceOpen || next.isMark .bracketOpen then
      bump
      return true
  return false

def typeAfter (r : Rules) (m : Mark) : Parse Bool :=
  inType do
    if ← eat m then
      r.type
      return true
    return false

def typeAnnotation? (r : Rules) : Parse Bool := do
  if ← is .colon then
    inType do
      bump
      r.type
    return true
  return false

/-- A bound name or pattern with its default value. -/
def bindingElement (r : Rules) : Parse Expr := do
  let target ← r.binding false
  if ← eat .assign then
    let value ← withIn r.assign
    if (← flags).ambient then note .overloadInitializer target.start
    return .assign true target value
  return target

/-- A question mark after a pattern, which only ambient code may have. -/
def patternMark : Parse Unit := do
  if (← dialect).ambient || (← flags).ambient then
    let _ ← eat .question

def arrayBinding (r : Rules) : Parse Expr := do
  let pos ← here
  bump
  let elements ← listUntil r (is .bracketClose) (do
    let start ← here
    if ← eat .comma then return Expr.hole start
    if ← eat .dots then
      let inner ← r.binding false
      if !(← is .bracketClose) then
        let comma ← here
        expect .comma
        if ← is .bracketClose then note .commaAfterRest comma
      return Expr.spread start inner
    let e ← bindingElement r
    if !(← is .bracketClose) then expect .comma
    return e)
  expect .bracketClose
  patternMark
  return .array pos elements none

def bindingProperty (r : Rules) : Parse Property := do
  let pos ← here
  if ← eat .dots then return .spread pos (← r.binding false)
  let key ← propertyKey r
  if ← eat .colon then return .keyValue key (← bindingElement r)
  match key with
  | .name pos (.ident w) =>
    if ← eat .assign then return .withDefault pos w (← withIn r.assign)
    if isReserved w then note .reservedShorthand pos
    return .shorthand pos w
  | _ => unexpected "an identifier"

/-- A rest element takes a name, and nothing comes after it. -/
def checkRestProperties (trailing : Option Nat) : List Property → Parse Unit
  | [] => pure ()
  | [.spread _ (.ident ..)] =>
    match trailing with
    | some comma => note .commaAfterRest comma
    | none => pure ()
  | [.spread pos _] => fail .dotsWithoutName pos
  | p :: rest => do
    if let .spread pos _ := p then note .restParameterLast pos
    checkRestProperties trailing rest

def objectBinding (r : Rules) : Parse Expr := do
  let pos ← here
  bump
  let (properties, trailing) ← commaList r .braceClose (bindingProperty r)
  bump
  checkRestProperties trailing properties
  patternMark
  return .object pos properties trailing

def binding (r : Rules) (letReserved : Bool) : Parse Expr := do
  match ← token with
  | .word .. => bindingName letReserved
  | .mark .bracketOpen => arrayBinding r
  | .mark .braceOpen => objectBinding r
  | _ => unexpected "yield, an identifier, [ or \x7b"

def isNameExpr : Expr → Bool
  | .ident .. => true
  | _ => false

/-- A parameter without dots. -/
def parameter (r : Rules) : Parse Expr := do
  let pos ← here
  let access ← eatAccessWord
  let target ← r.binding false
  let optional ← eat .question
  if optional && !isNameExpr target && !(← dialect).ambient && !(← flags).ambient then
    noteHere .optionalBindingPattern
  let _ ← typeAnnotation? r
  let p ← if ← eat .assign then do
      if optional && isNameExpr target then note .parameterWithQuestionAndInitializer target.start
      let value ← r.assign
      if (← flags).ambient then note .overloadInitializer pos
      pure (Expr.assign true target value)
    else pure target
  if access then note .parameterProperty pos
  return p

/-- A rest parameter; the dots have been passed. -/
def restParameter (r : Rules) (pos : Nat) : Parse Expr := do
  let target ← r.binding false
  if ← eat .assign then
    let _ ← r.assign
    note .restInitializer target.start
  let _ ← typeAnnotation? r
  if ← eat .question then note .restOptional pos
  return .spread pos target

/-- Parameters, each read by `one` or begun with dots, up to the closing parenthesis. -/
def parametersOf (r : Rules) (decorators : Parse Unit) (one : Parse Expr) : Parse (List Expr) := do
  let ps ← repeatUntil r.fuel (fun acc : List Expr => do
    if ← is .parenClose then return .inr acc.reverse
    if let .spread rest _ :: _ := acc then note .restParameterLast rest
    decorators
    let pos ← here
    let p ← if ← eat .dots then restParameter r pos else one
    if ← is .parenClose then return .inr (p :: acc).reverse
    let comma ← here
    expect .comma
    if let .spread .. := p then
      if ← is .parenClose then note .commaAfterRest comma
    return .inl (p :: acc)) []
  return ps

end RouteShortcuts.Script.Grammar
