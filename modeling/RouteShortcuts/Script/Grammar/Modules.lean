/-
  RouteShortcuts.Script.Grammar.Modules — what a module imports and exports.
-/

import RouteShortcuts.Script.Grammar.Statements

namespace RouteShortcuts.Script.Grammar

open Reader

/-- A name as a module exports it: a word or a string. -/
inductive ExportName where
  | word (pos : Nat) (name : String)
  | string (pos : Nat) (value : Option String)
  deriving DecidableEq, Repr

def exportName : Parse ExportName := do
  let pos ← here
  match ← token with
  | .string value =>
    bump
    return .string pos value
  | .word w _ =>
    bump
    return .word pos w
  | _ => unexpected "identifier or string"

def sourceString : Parse Unit := do
  if (← token).isString then bump else unexpected "a string literal"

/-- `with` or `assert` and an object, behind the name of a module. -/
def importAttributes (r : Rules) : Parse Unit := do
  if !(← newlineBefore) then
    if (← eatWord "assert") || (← eatWord "with") then
      if ← is .braceOpen then
        let _ ← objectLiteral r
      else expect .braceOpen

def fromClause (r : Rules) : Parse Unit := do
  expectWord "from"
  sourceString
  importAttributes r
  expectStatementEnd

/-- Behind the word `type` at the front of a name in a list: what is `type` here? -/
inductive TypeWord where
  /-- It marks the name after it; the words up to `as` have been read. -/
  | marks (name : ExportName)
  /-- It marks a name, and all has been read. -/
  | done (name : ExportName)

/-- Reads on behind `type` in a list of names. `local_` reads a name that is bound. -/
def afterTypeWord (typePos : Nat) (bound : Parse Unit) : Parse TypeWord := do
  let pos ← here
  let first ← anyName
  if first != "as" then return .marks (.word pos first)
  if !(← token).isAnyWord then return .done (.word pos "as")
  let asWord ← isWord "as"
  bound
  if asWord && (← token).isAnyWord then
    bound
    return .done (.word pos "as")
  return .done (.word typePos "type")

/-- One exported name of a list: the name inside of the module. -/
def exportSpecifier : Parse ExportName := do
  let inner ← exportName
  let inner ← match inner with
    | .word pos "type" =>
      if (← token).isAnyWord then
        match ← afterTypeWord pos (do let _ ← anyName) with
        | .done name => return name
        | .marks name => pure name
      else pure inner
    | inner => pure inner
  if ← eatWord "as" then
    let _ ← exportName
  return inner

/-- Without a source, exported names are names of the module: no keywords, no strings. -/
def checkOwnNames : List ExportName → Parse Unit
  | [] => pure ()
  | .word pos w :: rest => do
    if isKeyword w then note (.exportedReserved w) pos
    checkOwnNames rest
  | .string pos _ :: rest => do
    note .exportedString pos
    checkOwnNames rest

def exportList (r : Rules) : Parse Stmt := do
  expect .braceOpen
  let (names, _) ← commaList r .braceClose exportSpecifier
  expect .braceClose
  if ← isWord "from" then fromClause r
  else
    checkOwnNames names
    let _ ← eatStatementEnd
  return .exportNames

/-- `import x = y`, from the equals sign on. -/
def importAlias (r : Rules) : Parse Unit := do
  expect .assign
  if (← isWord "require") && (← peekIs .parenOpen) then
    bump
    bump
    sourceString
    expect .parenClose
  else entityName r false
  expectStatementEnd

def importSpecifier : Parse Unit := do
  let bound : Parse Unit := do
    let _ ← bindingName false
  let outer ← exportName
  let outer ← match outer with
    | .word pos "type" =>
      if (← token).isAnyWord then
        match ← afterTypeWord pos bound with
        | .done _ => return
        | .marks name => pure name
      else pure outer
    | outer => pure outer
  if ← eatWord "as" then bound
  else if let .string pos value := outer then fail (.importedString (value.getD "")) pos

/-- The part of an import behind its default name. -/
def importList (r : Rules) : Parse Unit := do
  if ← eat .star then
    expectWord "as"
    let _ ← bindingName false
  else if ← eat .braceOpen then
    let _ ← commaList r .braceClose importSpecifier
    expect .braceClose

/-- The default name of an import, and the words `type`, `defer` and `source` before it. Is the whole
item an alias, and has been read? -/
def importDefault (r : Rules) : Parse Bool := do
  let first ← bindingName false
  let typeOnly ← if first.isNamed "type" then do
      if ← isOneOf [.braceOpen, .star] then return false
      if ← atName then
        let fromIsName ← if ← isWord "from" then peekIsWord "from" else pure true
        if fromIsName then
          let _ ← bindingName false
          pure true
        else
          let assigned ← peekIs .assign
          if assigned then
            let _ ← anyName
          pure assigned
      else pure false
    else pure false
  if ← is .assign then
    importAlias r
    return true
  if !typeOnly && (first.isNamed "defer" || first.isNamed "source") then
    if first.isNamed "defer" && (← is .star) then return false
    if ← atName then
      let fromIsName ← if ← isWord "from" then peekIsWord "from" else pure true
      if fromIsName then
        let _ ← bindingName false
  if !(← isWord "from") then expect .comma
  return false

/-- An import; the word is next. -/
def importItem (r : Rules) : Parse Stmt := do
  let next := (← peek).token
  if next.isMark .parenOpen || next.isMark .dot then
    let e ← expressionIn r
    let _ ← eatStatementEnd
    return .expr e
  bump
  if (← token).isString then
    bump
    importAttributes r
    let _ ← eatStatementEnd
    return .importing
  if ← atName then
    if ← importDefault r then return .importing
  importList r
  expectWord "from"
  sourceString
  importAttributes r
  expectStatementEnd
  return .importing

def exportDefault (r : Rules) (decorated : Bool) : Parse Stmt := do
  let pos ← here
  if ← is .at then
    let _ ← r.decorators
    if decorated then fail .decoratorSplit pos
  let start ← here
  match ← token with
  | .word "abstract" _ =>
    if ← peekIsOnLine (·.isWord "class") then
      bump
      return .exportDefault (.declaration (← classRest r start false))
    defaultExpression
  | .word "interface" _ =>
    if (← peek).token.isAnyWord then
      bump
      return .exportDefault (← interface r)
    defaultExpression
  | .word "class" _ => return .exportDefault (.declaration (← classRest r start false))
  | .word "async" _ =>
    if ← peekIsOnLine (·.isWord "function") then
      bump
      return .exportDefault (.declaration (← defaultFunction r start true))
    defaultExpression
  | .word "function" _ => return .exportDefault (.declaration (← defaultFunction r start false))
  | _ => defaultExpression
where
  defaultExpression : Parse Stmt := do
    let e ← withIn r.assign
    expectStatementEnd
    return .exportDefault (.expr e)

/-- `*` behind `export`: everything of another module, or a name for it. -/
def exportAll (r : Rules) : Parse Stmt := do
  bump
  if ← eatWord "as" then
    let _ ← exportName
  fromClause r
  return .exportNames

def exportedDeclaration? (r : Rules) : Parse (Option Stmt) := do
  let start ← here
  match ← token with
  | .word "class" _ => return some (.declaration (← classRest r start true))
  | .word "async" _ =>
    if ← peekIsOnLine (·.isWord "function") then
      bump
      return some (.declaration (← functionDeclaration r start true))
    return none
  | .word "function" _ => return some (.declaration (← functionDeclaration r start false))
  | .word "const" _ =>
    if ← peekIsWord "enum" then
      bump
      bump
      return some (← enumeration r)
    return some (← varStatement r)
  | .word "var" _ => return some (← varStatement r)
  | .word "let" _ => if ← letDeclares then return some (← varStatement r) else return none
  | _ => return none

/-- What stands behind `export` and its decorators. -/
def exportRest (r : Rules) (decorated : Bool) : Parse Stmt := do
  let typeOnly ← eatWord "type"
  if !typeOnly then
    if ← eatWord "default" then return ← exportDefault r decorated
  let pos ← here
  if ← is .at then
    let _ ← r.decorators
    if decorated then fail .decoratorSplit pos
  if !typeOnly then
    if let some s ← exportedDeclaration? r then return .exporting s
  if ← is .star then exportAll r else exportList r

/-- An export; the word is next. -/
def exportItem (r : Rules) (decorated : Bool) : Parse Stmt := do
  bump
  if ← atEnd then failHere .endOfText
  let start ← here
  if ← eatWord "declare" then
    if let some s ← ambientDeclaration? r start then return .exporting s
  if let .word w _ := ← token then
    if let some s ← attempt? (wordDeclaration? r start w true) then return .exporting s
  if ← eatWord "import" then
    if (← isWord "type") && (← peekIsName) then bump
    let _ ← anyName
    importAlias r
    return .importing
  if ← eat .assign then
    let e ← expression r
    expectStatementEnd
    return .exportDefault (.expr e)
  if ← eatWord "as" then
    expectWord "namespace"
    let _ ← name false
    expectStatementEnd
    return .exportNames
  exportRest r decorated

/-- An item of a module or of a namespace. -/
def item (r : Rules) : Parse Stmt := do
  let decorated ← r.decorators
  if ← isWord "import" then return ← importItem r
  if ← isWord "export" then return ← exportItem r decorated
  statementBody r true

def wholeModule (r : Rules) : Parse Module :=
  listUntil r atEnd r.item

end RouteShortcuts.Script.Grammar
