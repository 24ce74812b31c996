/-
  RouteShortcuts.Script.Grammar.Arrows — parentheses and arrows.

  What stands in parentheses may turn out to be the parameters of an arrow. Each item is read so that
  both are possible: an item with a type or a question mark after it can only be a parameter.
-/

import RouteShortcuts.Script.Grammar.Targets
import RouteShortcuts.Script.Grammar.Calls

namespace RouteShortcuts.Script.Grammar

open Reader

inductive ParenItem where
  /-- An expression, or three dots with one. -/
  | expr (value : Expr)
  /-- A parameter for certain. -/
  | param (value : Expr)

def ParenItem.value : ParenItem → Expr
  | .expr e | .param e => e

def ParenItem.isParam : ParenItem → Bool
  | .param _ => true
  | .expr _ => false

/-- The branches of a conditional expression; its question mark has been passed. -/
def conditionalRest (r : Rules) (test : Expr) : Parse Expr := do
  let yes ← within (fun f => { f with inConditional := true, colonFollows := true, allowIn := true })
    r.assign
  expect .colon
  let no ← within (fun f => { f with inConditional := true, colonFollows := false }) r.assign
  return .conditional test yes no

/-- The right side of an assignment, if an assigning operator is next. -/
def assignmentRest (r : Rules) (target : Expr) : Parse Expr := do
  match ← token with
  | .mark .assign =>
    checkAssigned target
    if !isTargetForm target then fail .badTarget target.start
    bump
    return .assign true target (← r.assign)
  | .mark m =>
    if m.isUpdate then
      checkReference target
      if !isTargetForm target then fail .badTarget target.start
      match target with
      | .array .. | .object .. => fail .badTarget target.start
      | _ => pure ()
      bump
      return .assign false target (← r.assign)
    return target
  | _ => return target

/-- The binary operators after a first operand that is still to be read. -/
def operation (r : Rules) : Parse Expr := do
  let left ← operand
  if ← isFreshArrow left then return left
  r.operators left 0
where
  /-- An operand that is missing before an operator is noted, and reading goes on. -/
  operand : Parse Expr := do
    match ← caught r.unary with
    | .ok e => return e
    | .error fault =>
      match ← token with
      | .invalid f =>
        bump
        throw f
      | t =>
        let allowIn := (← flags).allowIn
        if (← atBinaryMark) || t.isWord "instanceof" || (allowIn && t.isWord "in") then
          let pos ← here
          note .expressionExpected pos
          return .invalid pos
        throw fault

def itemExpression (r : Rules) : Parse Expr := do
  let pos ← here
  let dotsBeforeName ← if ← is .dots then peekIsName else pure false
  if dotsBeforeName then
    bump
    return .spread pos (← operation r)
  if ← atName then
    let e ← operation r
    assignmentRest r e
  else argument r

/-- The question mark after an item: is it the mark of a parameter that may be left out? -/
def itemMark (r : Rules) (e : Expr) : Parse (Expr × Bool) := do
  if !(← is .question) then return (e, false)
  let next := (← peek).token
  if next.isMark .comma || next.isMark .assign || next.isMark .parenClose || next.isMark .colon then
    bump
    match e with
    | .spread pos _ => note .restOptional pos
    | _ => pure ()
    match e with
    | .ident .. | .spread _ (.ident ..) => return (e, true)
    | e => fail .optionalBindingPattern e.start
  match e with
  | .spread .. => return (e, false)
  | e =>
    bump
    return (← conditionalRest r e, false)

def checkParameter : Expr → Parse Unit
  | .spread _ e => checkPattern .bound e
  | e => checkPattern .bound e

def parenItem (r : Rules) : Parse ParenItem := do
  let start ← here
  modify fun s => { s with arrowStart := some start }
  let access ← eatAccessWord
  let e ← itemExpression r
  let (e, optional) ← itemMark r e
  let item ← if optional || (← is .colon) then do
      checkParameter e
      let _ ← typeAnnotation? r
      if ← eat .assign then
        pure (ParenItem.param (.assign true e (← r.assign)))
      else pure (ParenItem.param e)
    else pure (ParenItem.expr e)
  if access then note .parameterProperty start
  return item

/-- Checks that items are parameters, and gives them back as such. -/
def parametersOfItems (trailing : Option Nat) : List ParenItem → Parse Unit
  | [] => pure ()
  | [.expr (.spread _ e)] => do
    if let .assign .. := e then note .restInitializer e.start
    if let some comma := trailing then note .commaAfterRest comma
    checkPattern .bound e
  | [.param (.spread ..)] => do
    if let some comma := trailing then note .commaAfterRest comma
  | .expr (.spread pos _) :: rest => do
    note .restParameterLast pos
    parametersOfItems trailing rest
  | .param (.spread pos _) :: rest => do
    note .restParameterLast pos
    parametersOfItems trailing rest
  | .expr e :: rest => do
    checkPattern .bound e
    parametersOfItems trailing rest
  | .param _ :: rest => parametersOfItems trailing rest

/-- An arrow whose parameters are `items`; its mark has been passed. -/
def arrowOfItems (r : Rules) (pos : Nat) (isAsync : Bool) (items : List ParenItem)
    (trailing : Option Nat) : Parse Expr := do
  parametersOfItems trailing items
  let params := items.map ParenItem.value
  checkAllBoundNames params
  return .arrow pos params (← arrowBody r isAsync)

/-- Items in parentheses, with the position of a comma after the last. -/
def parenItems (r : Rules) : Parse (List ParenItem × Option Nat) := do
  expect .parenOpen
  let result ← repeatUntil r.fuel (fun acc : List ParenItem => do
    if ← is .parenClose then return .inr (acc.reverse, none)
    let item ← parenItem r
    let item ← asyncArrow acc item
    if ← is .parenClose then return .inr ((item :: acc).reverse, none)
    let comma ← here
    expect .comma
    if ← is .parenClose then return .inr ((item :: acc).reverse, some comma)
    return .inl (item :: acc)) []
  expect .parenClose
  return result
where
  /-- The parameters of an arrow in an item end at its mark. -/
  asyncArrow (acc : List ParenItem) (item : ParenItem) : Parse ParenItem := do
    match acc, item with
    | [], .expr (.ident pos w) =>
      if ← is .arrow then
        bump
        return .expr (← arrowOfItems r pos false [.expr (.ident pos w)] none)
      return item
    | _, _ => return item

/-- An arrow with a type after its parameters, in a branch of a conditional expression: the colon may
also belong to that. -/
def typedArrowInConditional (r : Rules) (pos : Nat) (isAsync : Bool) (items : List ParenItem)
    (colonFollows : Bool) : Parse (Option Expr) := do
  typeOrPredicate r .colon
  expect .arrow
  let e ← arrowOfItems r pos isAsync items none
  if colonFollows && !(← is .colon) then unexpected "fail"
  return some e

def returnType (r : Rules) : Parse (Option Unit) := do
  typeOrPredicate r .colon
  if ← is .arrow then return some ()
  return none

/-- An arrow body in braces ends the expression; an operator after it is a fault. -/
def afterArrow (r : Rules) (hasBlock : Bool) (e : Expr) : Parse Expr := do
  if hasBlock && (← atBinaryMark) then
    noteHere .semicolonExpected
    r.operators e 0
  else return e

/-- Defaults without a pattern around them, in an object in parentheses. -/
def noteStrayDefaults : List Property → Parse Unit
  | [] => pure ()
  | .withDefault pos _ _ :: rest => do
    note .assignmentProperty pos
    noteStrayDefaults rest
  | _ :: rest => noteStrayDefaults rest

def noteStrayDefaultsOf : List ParenItem → Parse Unit
  | [] => pure ()
  | .expr (.object _ ps _) :: rest => do
    noteStrayDefaults ps
    noteStrayDefaultsOf rest
  | .expr (.spread _ (.object _ ps _)) :: rest => do
    noteStrayDefaults ps
    noteStrayDefaultsOf rest
  | _ :: rest => noteStrayDefaultsOf rest

/-- Items that are no parameters: arguments after `async`, or an expression in parentheses. -/
def parenthesized (pos : Nat) (isAsync : Bool) (items : List ParenItem) : Parse Expr := do
  noteStrayDefaultsOf items
  if items.any ParenItem.isParam then fail .notExpression pos
  let values := items.map ParenItem.value
  if isAsync then return .call (.ident pos "async") values
  match values with
  | [] => fail .emptyParentheses pos
  | [.spread _ e] => fail .spreadInParentheses e.start
  | [e] => return .paren pos e
  | es =>
    match es.find? (fun e => e matches .spread ..) with
    | some e => fail .spreadInParentheses e.start
    | none => return .paren pos (.sequence es)

/-- Parentheses, or an arrow that begins with them. `pos` is where the expression begins, at `async` or
at the parenthesis, which is next. -/
def parenOrArrow (r : Rules) (pos : Nat) (canBeArrow isAsync : Bool) : Parse Expr := do
  let (items, trailing) ←
    within (fun f => { f with colonFollows := false, allowIn := true }) (parenItems r)
  let f ← flags
  if f.inConditional && (← is .colon) then
    if let some e ← attempt? (typedArrowInConditional r pos isAsync items f.colonFollows) then
      return e
  let typed ← if !f.colonFollows && (← is .colon) then attempt? (returnType r) else pure none
  if items.any ParenItem.isParam || typed.isSome || (← is .arrow) then
    if ← newlineBefore then fail .lineBreakBeforeArrow pos
    if !canBeArrow then fail .arrowMisplaced pos
    expect .arrow
    let hasBlock ← is .braceOpen
    let e ← arrowOfItems r pos isAsync items trailing
    afterArrow r hasBlock e
  else parenthesized pos isAsync items

/-- The head of `async <T>(x) => …`, from its type parameters on. -/
def genericAsyncHead (r : Rules) : Parse (Option (List Expr)) := do
  let tag ← typeParameters r .function
  if tag && (← dialect).markup then return none
  expect .parenOpen
  let ps ← parameters r
  expect .parenClose
  if ← is .colon then typeOrPredicate r .colon
  expect .arrow
  return some ps

/-- A name, or an arrow that begins with one. -/
def nameOrArrow (r : Rules) (canBeArrow : Bool) : Parse Expr := do
  let pos ← here
  let f ← flags
  let w ← name (!f.inGenerator)
  if f.inField && w == "arguments" then note .argumentsInField pos
  if canBeArrow && w == "async" && !(← newlineBefore) then
    if ← is .less then
      if let some ps ← attempt? (genericAsyncHead r) then
        return .arrow pos ps (← arrowBody r true)
    if ← atName then
      let param ← bindingName false
      if param.isNamed "as" && !(← is .arrow) then
        inType r.type
        return .typed pos .as (.ident pos "async")
      expect .arrow
      return .arrow pos [param] (← arrowBody r true)
  if canBeArrow && (← is .arrow) then
    if isReservedBinding w then note .reservedBinding pos
    bump
    return .arrow pos [.ident pos w] (← arrowBody r false)
  return .ident pos w

end RouteShortcuts.Script.Grammar
