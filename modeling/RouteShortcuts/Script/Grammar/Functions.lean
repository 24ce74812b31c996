/-
  RouteShortcuts.Script.Grammar.Functions — blocks and functions.
-/

import RouteShortcuts.Script.Grammar.Types

namespace RouteShortcuts.Script.Grammar

open Reader

/-- Reads up to a closing brace and passes it. The end of the text is noted in its place. -/
def untilBrace {α : Type} (r : Rules) (one : Parse α) : Parse (List α) :=
  repeatUntil r.fuel (fun acc : List α => do
    if ← atEnd then
      noteHere (.expected "\x7d" "<eof>")
      return .inr acc.reverse
    if ← eat .braceClose then return .inr acc.reverse
    return .inl ((← one) :: acc)) []

def block (r : Rules) : Parse (List Stmt) := do
  expect .braceOpen
  untilBrace r (r.statement true)

/-- What a function body is inside of. -/
def bodyFlags (isAsync isGenerator isArrow : Bool) (f : Flags) : Flags :=
  { f with inAsync := isAsync, inGenerator := isGenerator, inFunction := true,
           hasOwnThis := f.hasOwnThis || !isArrow, breakAllowed := false, continueAllowed := false,
           inInitializer := false, inField := false, topLevel := false, inParameters := false }

def blockFlags (f : Flags) : Flags :=
  { f with inConditional := false, colonFollows := false, allowIn := true, inType := false }

/-- A function body in braces, or `none` if the function ends without one. -/
def functionBody? (r : Rules) (isAsync isGenerator : Bool) : Parse (Option (List Stmt)) := do
  if (← flags).ambient && (← is .braceOpen) then noteHere .ambientBody
  withFreshState do
    within (blockFlags ∘ bodyFlags isAsync isGenerator false) do
      if !(← is .braceOpen) then
        if ← eatStatementEnd then return none
      return some (← block r)

/-- The body of an arrow: a block or an expression. -/
def arrowBody (r : Rules) (isAsync : Bool) : Parse (List Stmt) := do
  if ← is .braceOpen then
    if (← flags).ambient then noteHere .ambientBody
    withFreshState do
      within (blockFlags ∘ bodyFlags isAsync false true) (block r)
  else
    withFreshState do
      within (bodyFlags isAsync false true) do
        return [.expr (← r.assign)]

/-- Notes default values in the parameters of a function without a body. -/
def noteDefaults : List Expr → Parse Unit
  | [] => pure ()
  | .assign _ target _ :: _ => note .overloadInitializer target.start
  | _ :: rest => noteDefaults rest

/-- Parameters of a function, each with its decorators. -/
def parameters (r : Rules) : Parse (List Expr) :=
  parametersOf r (do let _ ← r.decorators) (parameter r)

/-- A function from its parameters on, which `params` reads. -/
def functionRest (r : Rules) (params : Parse (List Expr)) (isAsync isGenerator : Bool) :
    Parse (List Expr × Option (List Stmt)) :=
  within (fun f => { f with inAsync := isAsync, inGenerator := isGenerator, colonFollows := false }) do
    let _ ← inType (typeParameters? r .function)
    expect .parenOpen
    let ps ← within (fun f => { f with inParameters := true, inFunction := false }) params
    expect .parenClose
    if ← is .colon then typeOrPredicate r .colon
    let body ← functionBody? r isAsync isGenerator
    if body.isNone then noteDefaults ps
    return (ps, body)

/-- A function declaration, from its `function` on; `pos` is where it begins. -/
def functionDeclaration (r : Rules) (pos : Nat) (isAsync : Bool) : Parse Expr := do
  bump
  let isGenerator ← eat .star
  let _ ← bindingName false
  let (ps, body) ← functionRest r (parameters r) isAsync isGenerator
  return .function pos ps (body.getD [])

/-- A function declaration after `export default`, which may have no name. -/
def defaultFunction (r : Rules) (pos : Nat) (isAsync : Bool) : Parse Expr := do
  bump
  let isGenerator ← eat .star
  let _ ← bindingName? false
  let (ps, body) ← functionRest r (parameters r) isAsync isGenerator
  return .function pos ps (body.getD [])

def functionExpression (r : Rules) (pos : Nat) (isAsync : Bool) : Parse Expr := do
  bump
  let isGenerator ← eat .star
  let _ ← within (fun f => { f with inAsync := isAsync, inGenerator := isGenerator })
    (bindingName? false)
  let (ps, body) ← functionRest r (parameters r) isAsync isGenerator
  match body with
  | some body => return .function pos ps body
  | none => unexpected "\x7b"

/-- Is a parameter anything but `this`, which only carries a type? -/
def isNotThis : Expr → Bool
  | .ident _ "this" => false
  | _ => true

def getterParameters (r : Rules) (key : Nat) : Parse (List Expr) := do
  let ps ← parameters r
  if ps.any isNotThis then note .getterParameters key
  return ps

/-- Parameters of a setter: exactly one. -/
def setterParameters (r : Rules) (key : Nat) : Parse (List Expr) := do
  let ps ← parameters r
  if (ps.filter isNotThis).length != 1 then note .setterParameters key
  if let .spread pos _ :: _ := ps then note .setterRest pos
  return ps

end RouteShortcuts.Script.Grammar
