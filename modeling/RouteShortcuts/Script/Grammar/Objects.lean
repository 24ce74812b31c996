/-
  RouteShortcuts.Script.Grammar.Objects — object and array literals.
-/

import RouteShortcuts.Script.Grammar.Functions

namespace RouteShortcuts.Script.Grammar

open Reader

/-- An expression after dots, or without them. -/
def argument (r : Rules) : Parse Expr := do
  let pos ← here
  if ← eat .dots then return .spread pos (← r.assign)
  r.assign

def arguments (r : Rules) : Parse (List Expr) :=
  within (fun f => { f with colonFollows := false }) do
    expect .parenOpen
    let (args, _) ← commaList r .parenClose (withIn (argument r))
    expect .parenClose
    return args

def arrayLiteral (r : Rules) : Parse Expr := do
  let pos ← here
  bump
  let (elements, trailing) ← repeatUntil r.fuel (fun acc : List Expr => do
    if ← is .bracketClose then return .inr (acc.reverse, none)
    let start ← here
    if ← eat .comma then return .inl (.hole start :: acc)
    let e ← withIn (argument r)
    if ← is .bracketClose then return .inr ((e :: acc).reverse, none)
    let comma ← here
    expect .comma
    if ← is .bracketClose then return .inr ((e :: acc).reverse, some comma)
    return .inl (e :: acc)) []
  expect .bracketClose
  return .array pos elements trailing

/-- A method of an object or a class, from its parameters on. -/
def methodRest (r : Rules) (params : Parse (List Expr)) (isAsync isGenerator : Bool) :
    Parse (List Expr × Option (List Stmt)) :=
  within (fun f => { f with superAllowed := true, inField := false })
    (functionRest r params isAsync isGenerator)

def objectMethod (r : Rules) (kind : MethodKind) (key : Key) (params : Parse (List Expr))
    (isAsync isGenerator : Bool) : Parse Property := do
  let (ps, body) ← methodRest r params isAsync isGenerator
  return .method kind key ps (body.getD [])

def propertyStarts : String :=
  "... , *,  (, [, :, , ?, =, an identifier, public, protected, private, readonly, <."

/-- May the current token come after the key of a property? -/
def followsKey (key : Key) : Parse Bool := do
  match ← token with
  | .mark .parenOpen | .mark .bracketOpen | .mark .colon | .mark .comma | .mark .question
  | .mark .assign | .mark .star | .mark .less => return true
  | .word .. | .string _ | .number | .bigint => return true
  | .mark .braceClose =>
    match key with
    | .name _ (.ident _) => return true
    | _ => return false
  | _ => return false

/-- A property whose key is the word `w` alone: a short form, or an accessor or a method that the word
introduces. -/
def propertyOfWord (r : Rules) (access : Option Nat) (pos : Nat) (w : String) : Parse Property := do
  let mark ← here
  if ← eat .question then note .optionalMember mark
  if ← isOneOf [.assign, .comma, .braceClose] then
    if isReserved w then note .reservedShorthand pos
    if ← eat .assign then return .withDefault pos w (← withIn r.assign)
    return .shorthand pos w
  if w == "get" || w == "set" || w == "async" then
    if let some start := access then note .modifierMisplaced start
    let isGenerator ← if w == "async" then eat .star else pure false
    let key ← propertyKey r
    if w == "get" then objectMethod r .getter key (getterParameters r key.start) false false
    else if w == "set" then objectMethod r .setter key (setterParameters r key.start) false false
    else objectMethod r .plain key (parameters r) true isGenerator
  else unexpected propertyStarts

def property (r : Rules) : Parse Property := do
  let pos ← here
  if ← eat .dots then return .spread pos (← withIn r.assign)
  if ← eat .star then
    let key ← propertyKey r
    return ← objectMethod r .plain key (parameters r) false true
  let access ← eatAccessWord
  let key ← propertyKey r
  if !(← followsKey key) then
    noteHere .semicolonExpected
    return .keyValue key (.invalid key.start)
  if ← eat .colon then return .keyValue key (← withIn r.assign)
  if ← isOneOf [.less, .parenOpen] then
    return ← objectMethod r .plain key (parameters r) false false
  match key with
  | .name start (.ident w) => propertyOfWord r (if access then some pos else none) start w
  | _ => unexpected propertyStarts

def objectLiteral (r : Rules) : Parse Expr :=
  within (fun f => { f with colonFollows := false }) do
    let pos ← here
    bump
    let (properties, trailing) ← commaList r .braceClose (property r)
    bump
    return .object pos properties trailing

end RouteShortcuts.Script.Grammar
