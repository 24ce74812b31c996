/-
  RouteShortcuts.Script.Grammar.Operators — expressions from single tokens up to assignments.
-/

import RouteShortcuts.Script.Grammar.Arrows

namespace RouteShortcuts.Script.Grammar

open Reader

/-- A pattern of characters, where a slash may begin one. -/
def patternLiteral (pos : Nat) : Parse Expr := do
  rescan PatternText.scan
  if (← token) == .pattern then
    bump
    return .literal pos
  failHere .expressionExpected

def peekIsOnLine (p : Token → Bool) : Parse Bool := do
  let l ← peek
  return p l.token && !l.newlineBefore

/-- A word at the start of an expression. -/
def wordExpression (r : Rules) (classExpression : Parse Expr) (pos : Nat) (canBeArrow : Bool)
    (w : String) : Parse Expr := do
  if ["this", "null", "true", "false"].contains w then
    bump
    return .literal pos
  if w == "function" then return ← functionExpression r pos false
  if w == "class" then return ← classExpression
  if w == "async" then
    if ← peekIsOnLine (·.isWord "function") then
      bump
      return ← functionExpression r pos true
    if canBeArrow && (← peekIsOnLine (·.isMark .parenOpen)) then
      bump
      return ← parenOrArrow r pos canBeArrow true
  if isReserved w then failHere .expressionExpected
  nameOrArrow r canBeArrow

/-- An expression without operators, members and calls. -/
def primary (r : Rules) (classExpression : Parse Expr) : Parse Expr := do
  let pos ← here
  let canBeArrow := (← get).arrowStart == some pos
  match ← token with
  | .string value =>
    bump
    return .string pos value
  | .number | .bigint =>
    bump
    return .literal pos
  | .template .. => return .template pos (← template r false)
  | .mark .bracketOpen =>
    within (fun f => { f with colonFollows := false }) (arrayLiteral r)
  | .mark .braceOpen => objectLiteral r
  | .mark .parenOpen => parenOrArrow r pos canBeArrow false
  | .mark .slash | .mark .divAssign => patternLiteral pos
  | .mark .at => classExpression
  | .mark .hash =>
    let (pos, w) ← privateName
    return .privateName pos w
  | .word w _ => wordExpression r classExpression pos canBeArrow w
  | _ => failHere .expressionExpected

def unaryWord? : String → Option UnaryOp
  | "delete" => some .delete
  | "void" => some .void
  | "typeof" => some .typeof
  | _ => none

def unaryMark? : Mark → Option UnaryOp
  | .plus => some .plus
  | .minus => some .minus
  | .complement => some .complement
  | .not => some .not
  | _ => none

/-- An operator before its operand. A missing operand is noted. -/
def unaryOperation (r : Rules) (pos : Nat) (op : UnaryOp) : Parse Expr := do
  bump
  let start ← here
  match ← caught r.unary with
  | .ok e => return .unary pos op e
  | .error f =>
    note f.cause f.offset
    return .unary pos op (.invalid start)

/-- `++` or `--` before its operand. -/
def updateBefore (r : Rules) (pos : Nat) : Parse Expr := do
  bump
  let e ← r.unary
  checkReference e
  return .update pos e

def awaitExpression (r : Rules) (pos : Nat) : Parse Expr := do
  bump
  if ← is .star then failHere .awaitStar
  let f ← flags
  if f.inFunction && !f.inAsync then note .awaitOutsideAsync pos
  if f.inParameters && !f.inFunction then note .awaitInParameter pos
  return .await pos (← r.unary)

/-- `<T>x`, where there is no markup. -/
def assertion (r : Rules) (pos : Nat) : Parse Expr := do
  bump
  if ← eatWord "const" then
    expect .greater
    return .typed pos .constant (← r.unary)
  inType r.type
  expect .greater
  return .typed pos .assertion (← r.unary)

/-- An operand with the operators that take one. -/
def unary (r : Rules) : Parse Expr := do
  let pos ← here
  match ← token with
  | .mark .less =>
    if (← dialect).markup then updateAfter r pos else assertion r pos
  | .mark .increment | .mark .decrement => updateBefore r pos
  | .mark m =>
    match unaryMark? m with
    | some op => unaryOperation r pos op
    | none => updateAfter r pos
  | .word "await" _ => awaitExpression r pos
  | .word w _ =>
    match unaryWord? w with
    | some op => unaryOperation r pos op
    | none => updateAfter r pos
  | _ => updateAfter r pos
where
  /-- `++` or `--` after its operand, on the same line. -/
  updateAfter (r : Rules) (pos : Nat) : Parse Expr := do
    let e ← leftHandSide r
    if e.isArrow then return e
    if ← newlineBefore then return e
    if ← isOneOf [.increment, .decrement] then
      checkReference e
      bump
      return .update pos e
    return e

def binaryMark? : Mark → Option BinaryOp
  | .or => some .or
  | .nullish => some .nullish
  | .and => some .and
  | .bitOr => some .bitOr
  | .bitXor => some .bitXor
  | .bitAnd => some .bitAnd
  | .equal => some .equal
  | .notEqual => some .notEqual
  | .same => some .same
  | .notSame => some .notSame
  | .less => some .less
  | .greater => some .greater
  | .lessEqual => some .lessEqual
  | .greaterEqual => some .greaterEqual
  | .shiftLeft => some .shiftLeft
  | .shiftRight => some .shiftRight
  | .shiftRightZero => some .shiftRightZero
  | .plus => some .add
  | .minus => some .sub
  | .star => some .mul
  | .slash => some .div
  | .percent => some .rem
  | .power => some .pow
  | _ => none

def binaryOperator? : Parse (Option BinaryOp) := do
  match ← token with
  | .mark m => return binaryMark? m
  | .word "instanceof" _ => return some .instanceOf
  | .word "in" _ => return if (← flags).allowIn then some .inside else none
  | _ => return none

/-- Reads a mark that begins with `<` or `>` again, after a type. -/
def joinAngle : Parse Unit := do
  if ← isOneOf [.less, .greater] then rescan (Token.scan false)

/-- `as T` and `satisfies T` after an operand; `as` or `satisfies` is next. -/
def typeAfterOperand (r : Rules) (use : TypeUse) (e : Expr) : Parse Expr := do
  if use == .as && (← peekIsWord "const") then
    bump
    bump
    return .typed e.start .constant e
  inType do
    bump
    r.type
  joinAngle
  return .typed e.start use e

def isLogical : Expr → Bool
  | .binary .and _ _ | .binary .or _ _ => true
  | _ => false

def isNullish : Expr → Bool
  | .binary .nullish _ _ => true
  | _ => false

def isUnaryOperand : Expr → Bool
  | .unary .. | .await .. => true
  | _ => false

/-- `??` does not mix with `&&` and `||` unless there are parentheses. -/
def checkNullish (op : BinaryOp) (left right : Expr) : Parse Unit := do
  if op == .nullish then
    if isLogical left then note .mixedNullish left.start
    if isLogical right then note .mixedNullish right.start
  if (op == .and || op == .or) && isNullish left then note .mixedNullish left.start

/-- One more operator after `left`, if it binds tighter than `level`: `inl` if there was one. -/
def operatorStep (r : Rules) (level : Nat) (left : Expr) : Parse (Expr ⊕ Expr) := do
  if level < BinaryOp.inside.precedence && !(← newlineBefore) then
    if ← isWord "as" then return .inl (← typeAfterOperand r .as left)
    if ← isWord "satisfies" then return .inl (← typeAfterOperand r .satisfies left)
  match ← binaryOperator? with
  | none => return .inr left
  | some op =>
    if op.precedence ≤ level then return .inr left
    bump
    if op == .pow && isUnaryOperand left then failHere .unaryBeforePower
    let first ← r.unary
    let right ← r.operators first (if op == .pow then op.precedence - 1 else op.precedence)
    checkNullish op left right
    return .inl (.binary op left right)

/-- Operators after a first operand that bind tighter than `level`. -/
def operators (r : Rules) (left : Expr) (level : Nat) : Parse Expr :=
  repeatUntil r.fuel (operatorStep r level) left

/-- `test ? yes : no`, or only the test. -/
def conditional (r : Rules) : Parse Expr := do
  let test ← operation r
  if ← isFreshArrow test then return test
  if ← eat .question then conditionalRest r test else return test

def yieldExpression (r : Rules) : Parse Expr := do
  let pos ← here
  let f ← flags
  bump
  if f.inParameters && !f.inFunction then fail .yieldInParameter pos
  let ended ← atStatementEnd
  if ended || (← isOneOf [.parenClose, .bracketClose, .comma, .colon]) || (← isWordOf ["in", "of"]) then
    return .yield pos []
  let _ ← eat .star
  return .yield pos [← r.assign]

/-- An arrow with type parameters. Where there is markup, they must not look like a tag. -/
def genericArrow (r : Rules) (base : Parse Expr) : Parse (Option Expr) := do
  let pos ← here
  let tag ← typeParameters r .function
  if tag && (← dialect).markup then return none
  match ← base with
  | .arrow _ ps body => return some (.arrow pos ps body)
  | _ => unexpected "("

/-- Is an expression of this form no target, whatever follows it? -/
def isFinished : Expr → Bool
  | .conditional .. | .binary .. | .unary .. | .update .. => true
  | _ => false

/-- An expression without commas, that does not begin with type parameters. -/
def assignmentBase (r : Rules) : Parse Expr := do
  if (← flags).inGenerator && (← isWord "yield") then return ← yieldExpression r
  match ← token with
  | .invalid f =>
    bump
    throw f
  | t =>
    let pos ← here
    let mayBeArrow := match t with
      | .word w _ => !isKeyword w
      | .mark .parenOpen => true
      | _ => false
    modify fun s => { s with arrowStart := if mayBeArrow then some pos else none }
    let e ← conditional r
    if ← isFreshArrow e then return e
    if isFinished e then return e
    assignmentRest r e

/-- An expression without commas. -/
def assignment (r : Rules) : Parse Expr := do
  if ← is .less then
    if (← peek).token.isAnyWord then
      if let some e ← attempt? (within (fun f => { f with anglesJoined := false })
          (genericArrow r (assignmentBase r))) then
        return e
  assignmentBase r

end RouteShortcuts.Script.Grammar
