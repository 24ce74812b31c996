/-
  RouteShortcuts.Script.Grammar.Calls — members, calls, templates, and type arguments before them.

  `f<T>(x)` begins like a comparison. Type arguments are tried first, and taken back unless what follows
  them fits.
-/

import RouteShortcuts.Script.Grammar.Objects

namespace RouteShortcuts.Script.Grammar

open Reader

def isBinaryMark : Mark → Bool
  | .equal | .same | .notEqual | .notSame | .less | .greater | .lessEqual | .greaterEqual => true
  | .shiftLeft | .shiftRight | .shiftRightZero | .plus | .minus | .star | .slash | .percent => true
  | .power | .bitAnd | .bitOr | .bitXor | .and | .or | .nullish => true
  | _ => false

/-- Is an operator between two operands next, one that is no word? -/
def atBinaryMark : Parse Bool := do
  match ← token with
  | .mark m => return isBinaryMark m
  | _ => return false

/-- May an expression begin with the current token? -/
def startsExpression : Parse Bool := do
  match ← token with
  | .string _ | .number | .bigint | .pattern | .template .. => return true
  | .mark .parenOpen | .mark .bracketOpen | .mark .braceOpen | .mark .plus | .mark .minus => return true
  | .mark .complement | .mark .not | .mark .increment | .mark .decrement | .mark .less => return true
  | .mark .hash | .mark .slash | .mark .divAssign => return true
  | .word "import" _ =>
    let next := (← peek).token
    return next.isMark .parenOpen || next.isMark .dot || next.isMark .less
  | .word w _ =>
    return !isReserved w || ["this", "null", "super", "true", "false", "function", "class", "new",
      "delete", "typeof", "void", "await", "yield"].contains w
  | _ => return false

def atTemplate : Parse Bool := do
  match ← token with
  | .template .. => return true
  | _ => return false

/-- The expressions in a template; the current token is its first piece. -/
def templateParts (r : Rules) (tagged : Bool) : Parse (List Expr) :=
  repeatUntil r.fuel (fun acc : List Expr => do
    match ← token with
    | .template last fault =>
      if !tagged then
        if let some f := fault then fail f.cause f.offset
      bump
      if last then return .inr acc.reverse
      let e ← withIn (expression r)
      if !(← is .braceClose) then expect .braceClose
      rescan fun start text => Quoted.scanTemplate start text.tail
      return .inl (e :: acc)
    | .invalid f => fail f.cause f.offset
    | _ => failHere .unterminatedTemplate) []

def template (r : Rules) (tagged : Bool) : Parse (List Expr) :=
  within (fun f => { f with colonFollows := false }) (templateParts r tagged)

/-- Does an expression end in an optional chain, seen through `!`? -/
def endsInChain : Expr → Bool
  | .typed _ .nonNull e => endsInChain e
  | e => e.isChain

def callOf (callee : Expr) (args : List Expr) : Expr :=
  if endsInChain callee then .chainCall callee args else .call callee args

def memberOf (object : Expr) (key : Key) : Expr :=
  if endsInChain object then .chainMember object key else .member object key

def isKeywordObject : Expr → Bool
  | .base _ | .importer _ => true
  | _ => false

/-- Type arguments with the call or the template they belong to; `true` if more may follow. -/
def typedCall (r : Rules) (noCall : Bool) (callee : Expr) : Parse (Option (Expr × Bool)) := do
  typeArgumentsApart r
  if !noCall && (← is .parenOpen) then return some (callOf callee (← arguments r), true)
  if ← atTemplate then return some (.tagged callee (← template r true), true)
  if (← is .assign) || (← isWordOf ["as", "satisfies"]) then
    return some (.typed callee.start .instantiation callee, false)
  return none

/-- Type arguments that stand alone: what follows does not go on like a comparison. -/
def loneTypeArguments (r : Rules) : Parse (Option Unit) := do
  typeArgumentsApart r
  if (← is .parenOpen) || (← atTemplate) then return none
  if (← newlineBefore) || (← atBinaryMark) || !(← startsExpression) then return some ()
  return none

def afterNonNull (object : Expr) : Parse Expr := do
  match object with
  | .base pos => fail (.nonNullAfter "super") pos
  | .importer pos => fail (.nonNullAfter "import") pos
  | e => return .typed e.start .nonNull e

/-- One step of members and calls after `object`: `inl` if another may follow. -/
def subscriptAfter (r : Rules) (noCall noComputed typed : Bool) (object : Expr) :
    Parse (Expr ⊕ Expr) := do
  if let .importer _ := object then
    if !(← isOneOf [.dot, .parenOpen]) then unexpected "`.` or `(`"
  let chained ← eat .questionDot
  if chained && (← isOneOf [.less, .shiftLeft]) then typeArgumentsApart r
  if !noComputed && (← is .bracketOpen) then
    bump
    let pos ← here
    let key := Key.computed pos (← withIn (expression r))
    expect .bracketClose
    return .inl (if chained then .chainMember object key else memberOf object key)
  if (chained || !noCall) && (← is .parenOpen) then
    let args ← arguments r
    return .inl (if chained then .chainCall object args else callOf object args)
  if chained && (← atTemplate) then failHere .optionalTemplate
  let dotted ← if chained then pure true else eat .dot
  if dotted then
    let key ← memberName
    return .inl (if chained then .chainMember object key else memberOf object key)
  match object with
  | .base _ => failHere .superMisplaced
  | e =>
    if ← atTemplate then
      if endsInChain e then failHere .optionalTemplate
      return .inl (.tagged e (← template r true))
    return .inr (if typed then .typed e.start .instantiation e else e)

def subscript (r : Rules) (noCall noComputed : Bool) (object : Expr) : Parse (Expr ⊕ Expr) := do
  if !(← newlineBefore) && (← is .not) then
    bump
    return .inl (← afterNonNull object)
  if ← isOneOf [.less, .shiftLeft] then
    if !isKeywordObject object then
      if let some (e, more) ← attempt? (typedCall r noCall object) then
        return if more then .inl e else .inr e
    let typed ← attempt? (loneTypeArguments r)
    subscriptAfter r noCall noComputed typed.isSome object
  else subscriptAfter r noCall noComputed false object

/-- All members and calls after `object`. -/
def subscripts (r : Rules) (noCall noComputed : Bool) (object : Expr) : Parse Expr :=
  repeatUntil r.fuel (subscript r noCall noComputed) object

/-- `import.meta`, or `import` where it is called; the word has been passed. -/
def importExpression (r : Rules) (pos : Nat) (noCall : Bool) : Parse Expr := do
  if ← eat .dot then
    match ← anyName with
    | "meta" => subscripts r noCall false (.metaProperty pos)
    | "defer" | "source" => subscripts r noCall false (.importer pos)
    | _ => unexpected "meta"
  else subscripts r noCall false (.importer pos)

/-- Is `e` an arrow that began where one was looked for? Nothing may follow it then. -/
def isFreshArrow (e : Expr) : Parse Bool := do
  return e.isArrow && (← get).arrowStart == some e.start

def typeArgumentsOfCall (r : Rules) : Parse (Option Unit) := do
  typeArgumentsApart r
  if ← is .parenOpen then return some ()
  return none

/-- `new` with its class and arguments, or members without calls. -/
def members (r : Rules) (primary : Parse Expr) (afterNew : Bool) : Parse Expr :=
  within (fun f => { f with anglesJoined := true }) do
    let pos ← here
    if ← eatWord "new" then
      if ← eat .dot then
        if ← eatWord "target" then
          let f ← flags
          if !f.hasOwnThis && !f.inParameters && !f.inClass then note .newTargetMisplaced pos
          return ← subscripts r true false (.metaProperty pos)
        else unexpected "target"
      let callee ← r.members true
      if ← isFreshArrow callee then return callee
      if afterNew && callee.isChain then fail .optionalNew callee.start
      if ← isOneOf [.less, .shiftLeft] then
        let _ ← attempt? (typeArgumentsOfCall r)
      if !afterNew || (← is .parenOpen) then
        let args ← if ← is .parenOpen then arguments r else pure []
        return ← subscripts r true false (.construct pos callee args)
      return .construct pos callee []
    if ← eatWord "super" then return ← subscripts r true false (.base pos)
    if ← eatWord "import" then return ← importExpression r pos true
    let object ← primary
    if ← isFreshArrow object then return object
    subscripts r true false object

/-- Everything up to calls. -/
def leftHandSide (r : Rules) : Parse Expr := do
  let pos ← here
  if (← dialect).markup && (← is .less) then return ← r.markup true
  if ← eatWord "super" then return ← subscripts r false false (.base pos)
  if ← eatWord "import" then return ← importExpression r pos false
  let callee ← r.members false
  if ← isFreshArrow callee then return callee
  let typed ← if ← isOneOf [.less, .shiftLeft] then attempt? (typeArgumentsOfCall r) else pure none
  if ← is .parenOpen then
    let args ← arguments r
    return ← subscripts r false false (callOf callee args)
  if typed.isSome then expect .parenOpen
  return callee

end RouteShortcuts.Script.Grammar
