/-
  RouteShortcuts.Script.Grammar.Names — names, and the keys of properties.

  Code is always strict and always a module's, so the words that strict code keeps are no names, and
  `await` is none either.
-/

import RouteShortcuts.Script.Grammar.Rules

namespace RouteShortcuts.Script.Grammar

open Reader

/-- Is a word not a name where one is used? -/
def isReserved (w : String) : Bool :=
  isKeyword w || isReservedInStrict w || w == "await"

def atName : Parse Bool := do
  match ← token with
  | .word w _ => return !isReserved w
  | _ => return false

def peekIsName : Parse Bool := do
  match (← peek).token with
  | .word w _ => return !isReserved w
  | _ => return false

/-- Any word, reserved or not. -/
def anyName : Parse String := do
  match ← token with
  | .word w _ =>
    bump
    return w
  | _ => failHere .nameExpected

/-- A name that is bound or referred to. Words that strict code keeps are noted. -/
def name (yieldAllowed : Bool) : Parse String := do
  match ← token with
  | .word w _ =>
    if isReservedInStrict w || w == "enum" then noteHere (.reservedName w)
    if w == "await" then
      let f ← flags
      if f.ambient then
        bump
        return w
      else if f.inInitializer then failHere .nameExpected
      else failHere .awaitAsName
    else if (isKeyword w && w != "this") || (w == "yield" && !yieldAllowed) then
      failHere .nameExpected
    else
      bump
      return w
  | _ => failHere .nameExpected

/-- `eval` and `arguments` are never bound in strict code. -/
def isReservedBinding (w : String) : Bool :=
  w == "eval" || w == "arguments"

def bindingName (letReserved : Bool) : Parse Expr := do
  if letReserved && (← isWord "let") then
    unexpected "let is reserved in const, let, class declaration"
  let pos ← here
  let w ← name true
  if isReservedBinding w then note .reservedBinding pos
  let f ← flags
  if f.inField && w == "arguments" then note .argumentsInField pos
  return .ident pos w

def bindingName? (letReserved : Bool) : Parse (Option Expr) := do
  if (← atName) || (← isWord "this") then
    return some (← bindingName letReserved)
  return none

def privateName : Parse (Nat × String) := do
  let pos ← here
  bump
  if (← here) != (← prevStop) then fail .blankAfterHash pos
  return (pos, ← anyName)

/-- A name after a dot, which may be private. -/
def memberName : Parse Key := do
  if ← is .hash then
    let (pos, w) ← privateName
    return .name pos (.hidden w)
  let pos ← here
  return .name pos (.ident (← anyName))

def propertyKey (r : Rules) : Parse Key :=
  within (fun f => { f with inPropertyName := true }) do
    let pos ← here
    match ← token with
    | .string value =>
      bump
      return .name pos (.string value)
    | .number | .bigint =>
      bump
      return .name pos .number
    | .word w _ =>
      bump
      return .name pos (.ident w)
    | .mark .bracketOpen =>
      bump
      let inner ← here
      let first ← withIn r.assign
      let e ← if ← is .comma then
          let rest ← listUntil r (return !(← is .comma)) (do
            bump
            withIn r.assign)
          note .commaInKey inner
          pure (Expr.sequence (first :: rest))
        else pure first
      expect .bracketClose
      return .computed pos e
    | _ => unexpected "identifier, string literal, numeric literal or [ for the computed key"

def memberKey (r : Rules) : Parse Key := do
  if ← is .hash then
    let (pos, w) ← privateName
    if w == "constructor" then note .privateConstructor pos
    return .name pos (.hidden w)
  propertyKey r

end RouteShortcuts.Script.Grammar
