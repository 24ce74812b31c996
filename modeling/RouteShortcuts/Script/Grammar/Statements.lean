/-
  RouteShortcuts.Script.Grammar.Statements — statements and declarations.
-/

import RouteShortcuts.Script.Grammar.Classes
import RouteShortcuts.Script.Grammar.Operators

namespace RouteShortcuts.Script.Grammar

open Reader

/-- A statement inside another one, where nothing may be declared. -/
def inner (r : Rules) : Parse Stmt :=
  within (fun f => { f with topLevel := false }) (r.statement false)

def expressionIn (r : Rules) : Parse Expr :=
  withIn (expression r)

def parenthesizedTest (r : Rules) : Parse Expr := do
  expect .parenOpen
  let e ← expressionIn r
  expect .parenClose
  return e

/-- Does a declaration follow `let`? -/
def letDeclares : Parse Bool := do
  match (← peek).token with
  | .word w _ => return !isKeyword w
  | .mark .bracketOpen | .mark .braceOpen => return true
  | _ => return false

def declarator (r : Rules) (kind : VarKind) (inLoop : Bool) : Parse Declarator := do
  let start ← here
  let target ← r.binding (kind == .scoped || kind == .constant)
  if isNameExpr target then
    let _ ← eat .not
  let _ ← typeAnnotation? r
  if inLoop && (← isWordOf ["in", "of"]) then return ⟨target, none⟩
  if ← eat .assign then return ⟨target, some (← r.assign)⟩
  if (← flags).ambient then return ⟨target, none⟩
  if kind == .constant then
    note .uninitializedConst start
    return ⟨target, none⟩
  if isNameExpr target then return ⟨target, none⟩
  fail .uninitializedPattern start

def declarators (r : Rules) (kind : VarKind) (inLoop : Bool) (wordStop : Nat) :
    Parse (List Declarator) :=
  repeatUntil r.fuel (fun acc : List Declarator => do
    if ← is .semicolon then
      let s ← get
      note .trailingComma (if s.prevStop == wordStop then wordStop else s.prevStart)
      return .inr acc.reverse
    let d ← declarator r kind inLoop
    if ← eat .comma then return .inl (d :: acc)
    return .inr (d :: acc).reverse) []

def varKind : String → VarKind
  | "const" => .constant
  | "let" => .scoped
  | _ => .varying

/-- What stands where a statement should have ended is passed, after it has been noted. -/
def passRest (r : Rules) : Parse Unit := do
  noteHere .semicolonExpected
  let _ ← caught (expression r)
  repeatUntil r.fuel (fun _ : Unit => do
    if ← eatStatementEnd then return .inr ()
    bump
    if (← token).isInvalid then return .inr ()
    return .inl ()) ()

/-- `var`, `let` or `const` with what it declares, and the end of the statement. -/
def varStatement (r : Rules) : Parse Stmt := do
  let kind ← match ← token with
    | .word w _ => pure (varKind w)
    | _ => pure .varying
  bump
  let wordStop ← prevStop
  let ds ← withIn (declarators r kind false wordStop)
  if !(← eatStatementEnd) then passRest r
  return .vars kind ds

/-- Does the rest of the head of a loop come next, where a name should be declared? -/
def atLoopRest (r : Rules) : Parse Bool := do
  if ← isWordOf ["in", "of"] then
    would do
      bump
      let _ ← r.assign
      is .parenClose
  else return false

/-- `var`, `let` or `const` in the head of a loop. -/
def varInLoop (r : Rules) : Parse Stmt := do
  let kind ← match ← token with
    | .word w _ => pure (varKind w)
    | _ => pure .varying
  bump
  let wordStop ← prevStop
  if ← atLoopRest r then
    note .emptyDeclaration wordStop
    return .vars kind []
  let ds ← within (fun f => { f with allowIn := kind != .varying && f.allowIn }) do
    within (fun f => { f with allowIn := false }) (declarators r kind true wordStop)
  return .vars kind ds

def noteUsing (start : Nat) : List Declarator → Parse Unit
  | [] => pure ()
  | ⟨target, value⟩ :: rest => do
    if !isNameExpr target then note .usingPattern start
    if value.isNone then note .usingUninitialized start
    noteUsing start rest

def usingStatement (r : Rules) (start : Nat) : Parse Stmt := do
  bump
  let wordStop ← prevStop
  let ds ← withIn (declarators r .varying false wordStop)
  noteUsing start ds
  expectStatementEnd
  return .vars .disposable ds

/-- Does `using` declare something: does a name follow on the same line? -/
def usingDeclares : Parse Bool := do
  let l ← peek
  match l.token with
  | .word w _ => return !l.newlineBefore && !isKeyword w
  | _ => return false

/-- Does `await using` with a name stand here? -/
def awaitUsing : Parse Bool := do
  bump
  if ← newlineBefore then return false
  if !(← isWord "using") then return false
  usingDeclares

def returnStatement (r : Rules) : Parse Stmt := do
  let start ← here
  bump
  let parts ← if ← atStatementEnd then pure [] else do pure [← expressionIn r]
  expectStatementEnd
  if !(← flags).inFunction then note .returnMisplaced start
  return .control parts []

def throwStatement (r : Rules) : Parse Stmt := do
  bump
  if ← newlineBefore then failHere .lineBreakAfterThrow
  let e ← expressionIn r
  expectStatementEnd
  return .control [e] []

def jumpStatement (isBreak : Bool) : Parse Stmt := do
  let start ← here
  bump
  let label ← if ← eatStatementEnd then pure none else do
    let w ← name true
    expectStatementEnd
    pure (some w)
  let s ← get
  let known := match label with
    | some w => s.labels.contains w
    | none => true
  if isBreak then
    if !known then note .breakUnknownLabel start
    else if label.isNone && !s.flags.breakAllowed then note .breakMisplaced start
  else if !s.flags.continueAllowed then note .continueMisplaced start
  else if !known then note .continueUnknownLabel start
  return .control [] []

def loopBody (r : Rules) : Parse Stmt :=
  within (fun f => { f with breakAllowed := true, continueAllowed := true }) (inner r)

def whileStatement (r : Rules) : Parse Stmt := do
  bump
  let test ← parenthesizedTest r
  return .control [test] [← loopBody r]

def doStatement (r : Rules) : Parse Stmt := do
  bump
  let body ← loopBody r
  expectWord "while"
  let test ← parenthesizedTest r
  let _ ← eat .semicolon
  return .control [test] [body]

/-- Expressions of the head of a loop: test and step, after the first semicolon. -/
def stepHead (r : Rules) : Parse (List Expr) := do
  let test ← if ← eat .semicolon then pure [] else do
    let e ← expressionIn r
    let _ ← eat .semicolon
    pure [e]
  let step ← if ← is .parenClose then pure [] else do pure [← expressionIn r]
  return test ++ step

/-- What a loop runs over, from its `in` or `of` on. -/
def eachHead (r : Rules) : Parse (List Expr) := do
  let isOf ← isWord "of"
  bump
  if isOf then return [← withIn r.assign] else return [← expressionIn r]

/-- What a `for` declares, if it runs over something: one name, without a value. -/
def checkLoopDeclaration : Stmt → Parse Unit
  | .vars _ [⟨target, value⟩] => do
    if value.isSome then note .loopInitializer target.start
  | .vars _ ds =>
    match ds with
    | [] => pure ()
    | ⟨target, _⟩ :: _ => note .severalLoopBindings target.start
  | _ => pure ()

/-- Does a name that `using` declares follow in the head of a loop? -/
def usingInLoop : Parse Bool := do
  if !(← isWord "using") then return false
  let l ← peek
  match l.token with
  | .word w _ => return !l.newlineBefore && !isKeyword w && w != "of"
  | _ => return false

/-- The head of a `for`, inside its parentheses; `true` if it runs over something. -/
def forHead (r : Rules) : Parse (List Expr × List Stmt × Bool) := do
  let declares ← if ← isWordOf ["const", "var"] then pure true
    else if ← isWord "let" then letDeclares else pure false
  if declares then
    let s ← varInLoop r
    if ← isWordOf ["in", "of"] then
      checkLoopDeclaration s
      return (← eachHead r, [s], true)
    expect .semicolon
    return (← stepHead r, [s], false)
  if ← eat .semicolon then return (← stepHead r, [], false)
  if ← (do if ← isWord "await" then peekIsWord "using" else usingInLoop) then
    if ← isWord "await" then bump
    bump
    let target ← bindingName false
    let _ ← typeAnnotation? r
    if ← isWord "in" then noteHere .usingInForIn
    if ← isWordOf ["in", "of"] then
      return (← eachHead r, [.vars .disposable [⟨target, none⟩]], true)
    expect .assign
    let value ← r.assign
    expect .semicolon
    return (← stepHead r, [.vars .disposable [⟨target, some value⟩]], false)
  let first ← within (fun f => { f with allowIn := false }) (expression r)
  if ← isWordOf ["in", "of"] then
    checkAssigned first
    let isIn ← isWord "in"
    match first with
    | .array pos .. | .object pos .. => if isIn then note .loopPattern pos
    | _ => pure ()
    return (first :: (← eachHead r), [], true)
  expect .semicolon
  return (first :: (← stepHead r), [], false)

def forStatement (r : Rules) : Parse Stmt := do
  bump
  let start ← here
  let isAwait ← eatWord "await"
  expect .parenOpen
  let (parts, declared, each) ← forHead r
  expect .parenClose
  let body ← loopBody r
  if isAwait && !each then fail .awaitLoop start
  return .control parts (declared ++ [body])

/-- `if` with its branches. A chain of `else if` is read in one loop. -/
def ifStatement (r : Rules) : Parse Stmt := do
  let (parts, body) ← repeatUntil r.fuel (fun (parts, body) => do
    bump
    let test ← parenthesizedTest r
    let yes ← inner r
    let parts := parts ++ [test]
    let body := body ++ [yes]
    if ← eatWord "else" then
      if ← isWord "if" then return .inl (parts, body)
      return .inr (parts, body ++ [← inner r])
    return .inr (parts, body)) (([] : List Expr), ([] : List Stmt))
  return .control parts body

/-- Statements after a `case` or a `default`. -/
def caseBody (r : Rules) : Parse (List Stmt) :=
  listUntil r (return (← atEnd) || (← is .braceClose) || (← isWordOf ["case", "default"]))
    (within (fun f => { f with topLevel := false }) (r.statement true))

def switchStatement (r : Rules) : Parse Stmt := do
  bump
  let value ← parenthesizedTest r
  expect .braceOpen
  let (parts, body) ← within (fun f => { f with breakAllowed := true }) do
    repeatUntil r.fuel (fun ((parts, body), hasDefault) => do
      if ← eatWord "case" then
        let test ← expressionIn r
        expect .colon
        return .inl ((parts ++ [test], body ++ (← caseBody r)), hasDefault)
      if ← eatWord "default" then
        if hasDefault then failHere .repeatedDefault
        expect .colon
        return .inl ((parts, body ++ (← caseBody r)), true)
      return .inr (parts, body)) (([value], ([] : List Stmt)), false)
  expect .braceClose
  return .control parts body

def handler? (r : Rules) : Parse (Option (List Stmt)) := do
  if !(← eatWord "catch") then return none
  if ← eat .parenOpen then
    let _ ← r.binding false
    let _ ← typeAnnotation? r
    expect .parenClose
  return some (← block r)

def finalizer? (r : Rules) : Parse (Option (List Stmt)) := do
  if ← eatWord "finally" then return some (← block r)
  return none

def tryStatement (r : Rules) : Parse Stmt := do
  bump
  let body ← block r
  let pos ← here
  let handler ← handler? r
  let finalizer ← finalizer? r
  if handler.isNone && finalizer.isNone then note .semicolonExpected pos
  return .control [] (body ++ handler.getD [] ++ finalizer.getD [])

def withStatement (r : Rules) : Parse Stmt := do
  noteHere .withStatement
  noteHere .withInStrictCode
  bump
  let object ← parenthesizedTest r
  return .control [object] [← inner r]

def strayHandler (r : Rules) : Parse Stmt := do
  let pos ← here
  note .semicolonExpected pos
  let _ ← caught (handler? r)
  let _ ← caught (finalizer? r)
  return .expr (.invalid pos)

/-- A statement behind a label, which has been passed with its colon. -/
def labelled (r : Rules) (pos : Nat) (label : String) : Parse Stmt := do
  let known := (← get).labels.contains label
  modify fun s => { s with labels := label :: s.labels }
  let body ← within (fun f => { f with breakAllowed := true }) do
    if ← isWord "function" then
      let start ← here
      let e ← functionDeclaration r start false
      return .declaration e
    inner r
  if known then note (.repeatedLabel label) pos
  modify fun s => { s with labels := s.labels.erase label }
  return .control [] [body]

/-! ## Declarations of types -/

/-- Enumerations, from their names on. -/
def enumeration (r : Rules) : Parse Stmt := do
  let w ← anyName
  expect .braceOpen
  let values ← repeatUntil r.fuel (fun acc : List Expr => do
    if ← is .braceClose then return .inr acc.reverse
    let start ← here
    match ← token with
    | .string _ => bump
    | .number =>
      bump
      note .numericEnumMember start
    | .mark .bracketOpen =>
      bump
      let _ ← expression r
      note .computedEnumMember start
      expect .bracketClose
    | _ =>
      let _ ← anyName
    let value ← if ← eat .assign then do pure [← r.assign] else pure []
    if !(← isOneOf [.comma, .braceClose]) && value.isEmpty then
      let pos ← here
      bump
      modify fun s => { s with cur := { s.cur with token := .mark .comma } }
      note .semicolonExpected pos
    if ← eat .comma then return .inl (value ++ acc)
    if ← is .braceClose then return .inr (value ++ acc).reverse
    expect .comma
    return .inl (value ++ acc)) []
  expect .braceClose
  return .enumeration w values

/-- Names that no interface may have. -/
def builtInTypes : List String :=
  ["string", "null", "number", "object", "any", "unknown", "boolean", "bigint", "symbol", "void",
   "never", "intrinsic"]

/-- Interfaces, from their names on. -/
def interface (r : Rules) : Parse Stmt := do
  let pos ← here
  let w ← anyName
  if builtInTypes.contains w then note .interfaceName pos
  let _ ← typeParameters? r .type
  if ← eatWord "extends" then
    let _ ← heritage r
  if ← isWord "extends" then
    noteHere .repeatedExtends
    let _ ← listUntil r (return (← atEnd) || (← is .braceOpen)) bump
  inType (typeMembers r)
  return .typeOnly

/-- Type aliases, from their names on. -/
def typeAlias (r : Rules) : Parse Stmt := do
  let _ ← anyName
  let _ ← typeParameters? r .type
  inType do
    expect .assign
    r.type
  expectStatementEnd
  return .typeOnly

/-- Items of a namespace, in braces. -/
def namespaceBody (r : Rules) : Parse (List Stmt) := do
  expect .braceOpen
  untilBrace r r.item

/-- Namespaces, from their names on. -/
def namespaceDeclaration (r : Rules) : Parse Stmt := do
  entityName' r
  return .namespace (← namespaceBody r)
where
  entityName' (r : Rules) : Parse Unit := do
    let _ ← anyName
    repeatUntil r.fuel (fun _ : Unit => do
      if ← eat .dot then
        let _ ← anyName
        return .inl ()
      return .inr ()) ()

/-- Modules named by a string, and additions to the global names. -/
def ambientModule (r : Rules) : Parse Stmt := do
  if (← isWord "global") || (← token).isString then bump
  else unexpected "global or a string literal"
  if ← is .braceOpen then return .namespace (← namespaceBody r)
  expectStatementEnd
  return .typeOnly

/-- A declaration that the word `w` begins. `next` if the word is still to be passed; then it is taken
for a declaration whatever follows. -/
def wordDeclaration? (r : Rules) (start : Nat) (w : String) (next : Bool) : Parse (Option Stmt) := do
  let pass : Parse Unit := if next then bump else pure ()
  let onLine ← if next then pure true else do pure !(← newlineBefore)
  match w with
  | "abstract" =>
    if next || (onLine && (← isWord "class")) then
      pass
      return some (.declaration (← classRest r start true))
    return none
  | "enum" =>
    if next || (← atName) then
      pass
      return some (← enumeration r)
    return none
  | "interface" =>
    if next || (← atName) then
      pass
      return some (← interface r)
    return none
  | "module" =>
    if !onLine then return none
    pass
    if (← token).isString then return some (← ambientModule r)
    if next || (← atName) then return some (← namespaceDeclaration r)
    return none
  | "namespace" =>
    if next || (← atName) then
      pass
      return some (← namespaceDeclaration r)
    return none
  | "type" =>
    if next || (onLine && (← atName)) then
      pass
      return some (← typeAlias r)
    return none
  | _ => return none

/-- What `declare` declares; the word has been passed. -/
def ambientDeclaration? (r : Rules) (start : Nat) : Parse (Option Stmt) := do
  if (← flags).ambient && !(← dialect).ambient then note .ambientTwice start
  within (fun f => { f with ambient := true }) do
    let pos ← here
    match ← token with
    | .word w _ =>
      if w == "function" then
        return some (.declaration (← functionDeclaration r pos false))
      if w == "class" then
        return some (.declaration (← classRest r pos true))
      if w == "const" && (← peekIsWord "enum") then
        bump
        bump
        return some (← enumeration r)
      if w == "const" || w == "var" || w == "let" then
        return some (← varStatement r)
      if w == "global" then return some (← ambientModule r)
      wordDeclaration? r start w true
    | _ => return none

/-- What an expression statement declares that is only a word. -/
def declarationAfter? (r : Rules) (start : Nat) (w : String) : Parse (Option Stmt) := do
  if w == "declare" then ambientDeclaration? r start
  else if w == "global" then
    if ← is .braceOpen then return some (.namespace (← namespaceBody r)) else return none
  else wordDeclaration? r start w false

/-! ## Statements -/

/-- An expression that stands as a statement, or a labelled statement, or a declaration that begins with
a word that is not reserved. -/
def expressionStatement (r : Rules) : Parse Stmt := do
  let e ← expressionIn r
  if let .ident pos w := e then
    if ← eat .colon then return ← labelled r pos w
    if let some s ← declarationAfter? r pos w then return s
  if ← eatStatementEnd then return .expr e
  if ← atBinaryMark then
    noteHere .semicolonExpected
    return .expr (← r.operators e 0)
  failHere .statementEndExpected

/-- Does a name follow the word on the same line? -/
def nameOnLine : Parse Bool := do
  let l ← peek
  return l.token.isAnyWord && !l.newlineBefore

/-- A statement that the word `w` begins, if it does. -/
def wordStatement? (r : Rules) (declares : Bool) (start : Nat) (w : String) :
    Parse (Option Stmt) := do
  match w with
  | "break" => return some (← jumpStatement true)
  | "continue" => return some (← jumpStatement false)
  | "debugger" =>
    bump
    expectStatementEnd
    return some (.control [] [])
  | "do" => return some (← doStatement r)
  | "for" => return some (← forStatement r)
  | "function" =>
    if !declares then noteHere .declarationNotAllowed
    return some (.declaration (← functionDeclaration r start false))
  | "class" =>
    if !declares then noteHere .declarationNotAllowed
    return some (.declaration (← classRest r start true))
  | "if" => return some (← ifStatement r)
  | "return" => return some (← returnStatement r)
  | "switch" => return some (← switchStatement r)
  | "throw" => return some (← throwStatement r)
  | "catch" => return some (← strayHandler r)
  | "finally" => return some (← strayHandler r)
  | "try" => return some (← tryStatement r)
  | "with" => return some (← withStatement r)
  | "while" => return some (← whileStatement r)
  | "var" => return some (← varStatement r)
  | "const" =>
    if ← peekIsWord "enum" then
      bump
      bump
      return some (← enumeration r)
    if declares then return some (← varStatement r) else return none
  | "let" =>
    if declares && (← letDeclares) then return some (← varStatement r) else return none
  | "using" =>
    if declares && (← usingDeclares) then return some (← usingStatement r start) else return none
  | "await" =>
    if declares && (← would awaitUsing) then
      bump
      return some (← usingStatement r start)
    return none
  | "interface" =>
    if ← nameOnLine then
      bump
      return some (← interface r)
    return none
  | "type" =>
    if ← nameOnLine then
      bump
      return some (← typeAlias r)
    return none
  | "enum" =>
    if ← nameOnLine then
      bump
      return some (← enumeration r)
    return none
  | "async" =>
    let l ← peek
    if l.token.isWord "function" && !l.newlineBefore then
      bump
      return some (.declaration (← functionDeclaration r start true))
    return none
  | _ => return none

/-- A statement after its decorators; `declares` where declarations may stand. -/
def statementBody (r : Rules) (declares : Bool) : Parse Stmt := do
  let start ← here
  match ← token with
  | .word w _ =>
    match ← wordStatement? r declares start w with
    | some s => return s
    | none => expressionStatement r
  | .mark .braceOpen =>
    return .control [] (← within (fun f => { f with topLevel := false, allowIn := true }) (block r))
  | .mark .semicolon =>
    bump
    return .control [] []
  | _ => expressionStatement r

/-- A statement that is no item of a module: `import` and `export` begin none, unless `import` is called
or asked for its properties. -/
def statement (r : Rules) (declares : Bool) : Parse Stmt := do
  let _ ← r.decorators
  if ← isWord "import" then
    let next := (← peek).token
    if next.isMark .parenOpen || next.isMark .dot then
      let e ← expressionIn r
      let _ ← eatStatementEnd
      return .expr e
    failHere .moduleSyntaxMisplaced
  if ← isWord "export" then failHere .moduleSyntaxMisplaced
  statementBody r declares

end RouteShortcuts.Script.Grammar
