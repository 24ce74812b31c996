/-
  RouteShortcuts.Script.Grammar.Types — types.

  Types leave nothing in the tree, so these rules only pass them. `<` and `>` are read alone inside a
  type, also where an expression is inside of one.
-/

import RouteShortcuts.Script.Grammar.Bindings

namespace RouteShortcuts.Script.Grammar

open Reader

/-- Words that may stand before a type parameter, a member or a type: the next one of `words`, if what
follows on the same line can be modified by it. -/
def modifier? (words : List String) (stopAtBlock : Bool) : Parse (Option String) := do
  match ← token with
  | .endOfText => failHere .endOfText
  | .word w _ =>
    if !words.contains w then return none
    if stopAtBlock && w == "static" && (← peekIs .braceOpen) then return none
    attempt? do
      bump
      if ← newlineBefore then return none
      match ← token with
      | .mark .bracketOpen | .mark .braceOpen | .mark .star | .mark .dots | .mark .hash
      | .word .. | .string _ | .number | .bigint => return some w
      | _ => return none
  | _ => return none

def separatedList (r : Rules) (done : Parse Bool) (element : Parse Unit) : Parse Nat :=
  repeatUntil r.fuel (fun n : Nat => do
    if ← done then return .inr n
    element
    if ← eat .comma then return .inl (n + 1)
    if ← done then return .inr (n + 1)
    expect .comma
    return .inl (n + 1)) 0

/-- Reads a mark again that was read together with what follows it, if it opens a list of types. -/
def splitAngle : Parse Unit := do
  if ← is .shiftLeft then rescan (Token.scan true)

/-- Types between angle brackets; the current token opens them. -/
def typeArguments (r : Rules) : Parse Unit := do
  let pos ← here
  let count ← inType do
    splitAngle
    expect .less
    separatedList r (is .greater) r.type
  expect .greater
  if count == 0 then note .emptyTypeArguments pos

/-- `<` and `>` are read alone again, if an expression around has joined them. -/
def typeArgumentsApart (r : Rules) : Parse Unit :=
  within (fun f => { f with anglesJoined := false }) (typeArguments r)

/-- A type after a word, if the word stands here. -/
def typeAfterWord (r : Rules) (w : String) : Parse Bool :=
  inType do
    if ← eatWord w then
      r.type
      return true
    return false

/-- Where type parameters stand decides which words may come before them. -/
inductive ParameterPlace where
  /-- Of an interface or an alias: `in` and `out`, but not `const`. -/
  | type
  /-- Of a class: all of them. -/
  | classes
  /-- Of a function: `const` alone. -/
  | function
  deriving DecidableEq, Repr

def ParameterPlace.fault? (place : ParameterPlace) (w : String) : Option Cause :=
  if w == "const" then
    if place = .type then
      some (.typeParameterModifier
        "can only appear on a type parameter of a function, method or class" w)
    else none
  else if w == "in" || w == "out" then
    if place = .function then
      some (.typeParameterModifier
        "can only appear on a type parameter of a class, interface or type alias" w)
    else none
  else some (.typeParameterModifier "cannot appear on a type parameter" w)

/-- One type parameter. Is it restricted by a type? -/
def typeParameter (r : Rules) (place : ParameterPlace) : Parse Bool := do
  repeatUntil r.fuel (fun _ : Unit => do
    let pos ← here
    match ← modifier? ("abstract" :: "const" :: "override" :: "in" :: "out" :: accessWords) false with
    | some w =>
      if let some cause := place.fault? w then note cause pos
      return .inl ()
    | none => return .inr ()) ()
  let _ ← anyName
  let restricted ← typeAfterWord r "extends"
  let _ ← typeAfter r .assign
  return restricted

/-- Type parameters between angle brackets. Could they be a tag of markup: is there one parameter, with
neither a restriction nor a comma after it? -/
def typeParameters (r : Rules) (place : ParameterPlace) : Parse Bool :=
  inType do
    let pos ← here
    if !(← is .less) then unexpected "< (jsx tag start)"
    bump
    let (count, tag) ← repeatUntil r.fuel (fun (count, tag) => do
      if ← is .greater then return .inr (count, tag)
      let restricted ← typeParameter r place
      if ← eat .comma then return .inl (count + 1, false)
      if ← is .greater then return .inr (count + 1, count == 0 && !restricted)
      expect .comma
      return .inl (count + 1, tag)) (0, false)
    expect .greater
    if count == 0 then note .emptyTypeParameters pos
    return tag

def typeParameters? (r : Rules) (place : ParameterPlace) : Parse Bool := do
  if ← is .less then typeParameters r place else return false

/-- A name with dots in it; reserved words may stand after a dot if `free`. -/
def entityName (r : Rules) (free : Bool) : Parse Unit := do
  let _ ← anyName
  repeatUntil r.fuel (fun _ : Unit => do
    if ← eat .dot then
      let _ ← if free then anyName else name false
      return .inl ()
    return .inr ()) ()

def argumentsOnLine (r : Rules) : Parse Unit := do
  if !(← newlineBefore) && (← is .less) then typeArgumentsApart r

def typeReference (r : Rules) : Parse Unit := do
  let pos ← here
  let access ← eatAccessWord
  entityName r true
  argumentsOnLine r
  if access then note .parameterProperty pos

/-- A type after `mark`, or a predicate such as `x is T` and `asserts x`. -/
def typeOrPredicate (r : Rules) (m : Mark) : Parse Unit :=
  inType do
    expect m
    let asserts ← if ← isWord "asserts" then peekIsName else pure false
    if asserts then bump
    let isPredicate ← if ← atName then do
        let next ← peek
        pure (next.token.isWord "is" && !next.newlineBefore)
      else pure false
    if !asserts && !isPredicate then r.type
    else
      let _ ← anyName
      if isPredicate then
        bump
        inType r.type

/-- Parameters in a type, with their parentheses: the opening one is next. -/
def signatureParameters (r : Rules) : Parse Nat := do
  expect .parenOpen
  let ps ← parametersOf r (pure ()) (parameter r)
  refuseDefaults ps
  expect .parenClose
  return ps.length
where
  /-- A default value is no part of a type. -/
  refuseDefaults : List Expr → Parse Unit
    | [] => pure ()
    | .assign .. :: _ =>
      unexpected
        "an identifier, [ for an array pattern, \x7b for an object patter or ... for a rest pattern"
    | _ :: rest => refuseDefaults rest

def functionType (r : Rules) (constructed : Bool) : Parse Unit := do
  if constructed then
    let _ ← eatWord "abstract"
    expectWord "new"
  let _ ← typeParameters? r .function
  let _ ← signatureParameters r
  typeOrPredicate r .arrow

/-- Passes what a parameter may begin with. -/
def skipParameterStart (r : Rules) : Parse Bool := do
  let _ ← eatAccessWord
  match ← token with
  | .word w _ =>
    if isReserved w && w != "this" then return false
    bump
    return true
  | .mark .braceOpen | .mark .bracketOpen =>
    let _ ← r.binding false
    return true
  | _ => return false

/-- Does an opening parenthesis begin the parameters of a function type? -/
def startsParameters (r : Rules) : Parse Bool := do
  bump
  if ← isOneOf [.parenClose, .dots] then return true
  if ← skipParameterStart r then
    if ← isOneOf [.colon, .comma, .assign, .question] then return true
    if ← eat .parenClose then return ← is .arrow
  return false

def startsFunctionType (r : Rules) : Parse Bool := do
  if ← is .less then return true
  if ← is .parenOpen then would (startsParameters r) else return false

def memberEnd : Parse Unit := do
  if ← eat .comma then return
  expectStatementEnd

/-- `[key: T]: U`; the opening bracket is next. -/
def startsIndexSignature : Parse Bool := do
  bump
  let _ ← eatAccessWord
  if !(← atName) then return false
  bump
  isOneOf [.colon, .comma]

def indexSignature? (r : Rules) : Parse Bool := do
  if !(← is .bracketOpen) then return false
  if !(← would startsIndexSignature) then return false
  bump
  let pos ← here
  let _ ← anyName
  if ← eat .comma then note .indexSignature pos else expect .colon
  inType r.type
  expect .bracketClose
  let _ ← typeAnnotation? r
  memberEnd
  return true

def signatureKey (r : Rules) : Parse Unit := do
  if ← eat .bracketOpen then
    let _ ← r.assign
    expect .bracketClose
  else match ← token with
    | .string _ | .number | .bigint => bump
    | .mark .hash =>
      let _ ← privateName
    | _ =>
      let _ ← anyName

/-- `get x(): T` or `set x(v: T)`. -/
def accessorSignature (r : Rules) : Parse (Option Unit) := do
  let isGetter ← eatWord "get"
  if !isGetter then expectWord "set"
  signatureKey r
  if isGetter then
    expect .parenOpen
    expect .parenClose
    let _ ← typeAnnotation? r
    memberEnd
    return some ()
  let pos ← here
  let count ← signatureParameters r
  if count == 0 then fail .setterParameters pos
  memberEnd
  return some ()

def callSignature (r : Rules) : Parse Unit := do
  let _ ← typeParameters? r .function
  let _ ← signatureParameters r
  if ← is .colon then typeOrPredicate r .colon
  memberEnd

def typeMember (r : Rules) : Parse Unit := do
  if ← isOneOf [.parenOpen, .less] then return ← callSignature r
  if ← isWord "new" then
    let next := (← peek).token
    if next.isMark .parenOpen || next.isMark .less then
      bump
      return ← callSignature r
  let pos ← here
  let readonly := (← modifier? ["readonly"] false).isSome
  if ← indexSignature? r then return
  if !readonly then
    if (← isWordOf ["get", "set"]) then
      if (← attempt? (accessorSignature r)).isSome then return
  signatureKey r
  let _ ← eat .question
  if ← isOneOf [.parenOpen, .less] then
    if readonly then fail .readonlyMethod pos
    callSignature r
  else
    let _ ← typeAnnotation? r
    memberEnd

def typeMembers (r : Rules) : Parse Unit := do
  expect .braceOpen
  let _ ← listUntil r (is .braceClose) (typeMember r)
  expect .braceClose

/-- Does an opening brace begin a mapped type? -/
def startsMappedType : Parse Bool := do
  bump
  if (← eat .plus) || (← eat .minus) then return ← isWord "readonly"
  let _ ← eatWord "readonly"
  if !(← eat .bracketOpen) then return false
  if !(← atName) then return false
  bump
  isWord "in"

def mappedType (r : Rules) : Parse Unit := do
  expect .braceOpen
  if ← isOneOf [.plus, .minus] then
    bump
    expectWord "readonly"
  else
    let _ ← eatWord "readonly"
  expect .bracketOpen
  let _ ← anyName
  expectWord "in"
  r.type
  if ← eatWord "as" then r.type
  expect .bracketClose
  if ← isOneOf [.plus, .minus] then
    bump
    expect .question
  else
    let _ ← eat .question
  let _ ← typeAfter r .colon
  expectStatementEnd
  expect .braceClose

/-- The name of a tuple element, with its colon. -/
def elementLabel : Parse (Option Unit) := do
  let _ ← eat .dots
  let _ ← anyName
  let _ ← eat .question
  expect .colon
  return some ()

inductive ElementKind where
  | required
  | optional
  | rest
  deriving DecidableEq, Repr

def tupleElement (r : Rules) : Parse ElementKind := do
  let _ ← attempt? elementLabel
  if ← eat .dots then
    r.type
    return .rest
  r.type
  if ← eat .question then return .optional
  return .required

/-- Does a required element follow an optional one? -/
def requiredAfterOptional : List ElementKind → Bool
  | [] => false
  | k :: rest => (k == .optional && rest.contains .required) || requiredAfterOptional rest

def tupleType (r : Rules) : Parse Unit := do
  let pos ← here
  expect .bracketOpen
  let kinds ← repeatUntil r.fuel (fun acc : List ElementKind => do
    if ← is .bracketClose then return .inr acc.reverse
    let k ← tupleElement r
    if ← eat .comma then return .inl (k :: acc)
    if ← is .bracketClose then return .inr (k :: acc).reverse
    expect .comma
    return .inl (k :: acc)) []
  expect .bracketClose
  if requiredAfterOptional kinds then fail .requiredAfterOptional pos

/-- `import("module").Name`. -/
def importType (r : Rules) : Parse Unit := do
  bump
  expect .parenOpen
  if !(← token).isString then noteHere .stringExpected
  bump
  if ← eat .comma then
    if ← is .braceOpen then
      let _ ← r.assign
      let _ ← eat .comma
  expect .parenClose
  if ← eat .dot then entityName r false
  if ← is .less then typeArgumentsApart r

/-- `typeof x.y`. -/
def queryType (r : Rules) : Parse Unit := do
  bump
  if ← isWord "import" then importType r else entityName r true
  argumentsOnLine r

/-- The pieces of a template type; the current token is the first piece. -/
def templateType (r : Rules) : Parse Unit :=
  repeatUntil r.fuel (fun _ : Unit => do
    match ← token with
    | .template last _ =>
      bump
      if last then return .inr ()
      r.type
      if !(← is .braceClose) then expect .braceClose
      rescan fun start text => Quoted.scanTemplate start text.tail
      return .inl ()
    | _ => failHere .unterminatedTemplate) ()

/-- Types with names of their own. -/
def typeWords : List String :=
  ["void", "null", "any", "boolean", "bigint", "never", "number", "object", "string", "symbol",
   "unknown", "undefined", "intrinsic"]

def thisType (r : Rules) : Parse Unit := do
  bump
  if !(← newlineBefore) && (← isWord "is") then
    bump
    inType r.type

/-- A type without operators. -/
def primaryType (r : Rules) : Parse Unit := do
  match ← token with
  | .endOfText => failHere .endOfText
  | .word w _ =>
    if w == "this" then thisType r
    else if w == "typeof" then queryType r
    else if w == "import" then importType r
    else if w == "true" || w == "false" then bump
    else if w == "asserts" && (← peekIsWord "this") then
      bump
      thisType r
    else if typeWords.contains w && !(← peekIs .dot) then bump
    else if !isKeyword w || ["void", "null", "break"].contains w then typeReference r
    else unexpectedType
  | .string _ | .number | .bigint => bump
  | .template .. => templateType r
  | .mark .minus =>
    bump
    match ← token with
    | .number | .bigint => bump
    | _ => unexpected "numeric literal or bigint literal"
  | .mark .braceOpen =>
    if ← would startsMappedType then mappedType r else typeMembers r
  | .mark .bracketOpen => tupleType r
  | .mark .parenOpen =>
    bump
    r.type
    expect .parenClose
  | _ => unexpectedType
where
  unexpectedType : Parse Unit :=
    unexpected <|
      "an identifier, void, yield, null, await, break, a string literal, a numeric literal, true, "
        ++ "false, `, -, import, this, typeof, \x7b, [, ("

/-- A type with `[]` and `[K]` after it. -/
def postfixType (r : Rules) : Parse Unit := do
  primaryType r
  repeatUntil r.fuel (fun _ : Unit => do
    if ← newlineBefore then return .inr ()
    if ← eat .bracketOpen then
      if !(← eat .bracketClose) then
        r.type
        expect .bracketClose
      return .inl ()
    return .inr ()) ()

/-- The restriction of an inferred type, unless it is the test of a conditional type. -/
def inferredRestriction (r : Rules) : Parse (Option Unit) := do
  expectWord "extends"
  within (fun f => { f with noConditionalTypes := true }) r.plainType
  if (← flags).noConditionalTypes || !(← is .question) then return some ()
  return none

/-- A type with its operators before it: `keyof`, `unique`, `readonly`, `infer`. -/
def operandType (r : Rules) : Parse Unit := do
  if ← isWordOf ["keyof", "unique", "readonly"] then
    bump
    r.operandType
  else if ← isWord "infer" then
    bump
    let _ ← anyName
    let _ ← attempt? (inferredRestriction r)
  else if ← atEnd then failHere .endOfText
  else postfixType r

/-- Types joined by one mark, which may also stand before the first. -/
def joinedType (r : Rules) (m : Mark) (part : Parse Unit) : Parse Unit := do
  let _ ← eat m
  part
  repeatUntil r.fuel (fun _ : Unit => do
    if ← eat m then
      part
      return .inl ()
    return .inr ()) ()

/-- A type that no `extends` follows. -/
def plainType (r : Rules) : Parse Unit := do
  if ← startsFunctionType r then functionType r false
  else if ← isWord "new" then functionType r true
  else if (← isWord "abstract") && (← peekIsWord "new") then functionType r true
  else joinedType r .bitOr (joinedType r .bitAnd r.operandType)

/-- A type, which may depend on a test. -/
def wholeType (r : Rules) : Parse Unit :=
  within (fun f => { f with noConditionalTypes := false }) do
    r.plainType
    if ← newlineBefore then return
    if ← eatWord "extends" then
      within (fun f => { f with noConditionalTypes := true }) r.plainType
      expect .question
      r.type
      expect .colon
      r.type

/-- Names in `extends` and `implements` clauses, up to the body. -/
def heritage (r : Rules) : Parse Nat :=
  separatedList r
    (return (← is .braceOpen) || (← isWordOf ["implements", "extends"]))
    (do
      entityName r true
      if ← is .less then typeArguments r)

end RouteShortcuts.Script.Grammar
