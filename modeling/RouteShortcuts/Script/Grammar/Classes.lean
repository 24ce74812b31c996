/-
  RouteShortcuts.Script.Grammar.Classes — decorators, classes and their members.
-/

import RouteShortcuts.Script.Grammar.Calls

namespace RouteShortcuts.Script.Grammar

open Reader

def decorator (r : Rules) : Parse Unit := do
  bump
  if ← eat .parenOpen then
    let _ ← expression r
    expect .parenClose
  else
    let pos ← here
    let w ← name false
    let _ ← subscripts r false true (.ident pos w)
  if ← is .less then
    let _ ← attempt? (typeArgumentsOfCall r)
  if ← is .parenOpen then
    let _ ← arguments r

def decorators (r : Rules) : Parse Bool := do
  let found ← listUntil r (return !(← is .at)) (decorator r)
  return !found.isEmpty

/-- What has been read before the key of a member. -/
structure MemberHead where
  start : Nat
  access : Bool := false
  declared : Option Nat := none
  isStatic : Bool := false
  staticAt : Option Nat := none
  isAbstract : Bool := false
  isOverride : Bool := false
  readonly : Option Nat := none
  /-- The last modifier. -/
  lastModifier : Option Nat := none

def isConstructorKey : Key → Bool
  | .name _ (.ident w) => w == "constructor"
  | .name _ (.string (some w)) => w == "constructor"
  | _ => false

def isHiddenKey : Key → Bool
  | .name _ (.hidden _) => true
  | _ => false

/-- Is the member a method, now that its key has been read? -/
def atMethod : Parse Bool :=
  isOneOf [.parenOpen, .less]

/-- Is the member a field, now that its key has been read? At the end of a line it is one only if
`lineEnd`. -/
def atField (lineEnd : Bool) : Parse Bool := do
  if ← isOneOf [.not, .colon, .assign, .braceClose] then return true
  if lineEnd then atStatementEnd else is .semicolon

/-- A field, from its type on. -/
def field (r : Rules) (head : MemberHead) (key : Key) (optional : Bool) : Parse Property := do
  if isConstructorKey key then fail .constructorField key.start
  if isHiddenKey key && head.access then note (.privateModifier "accessibility") key.start
  if !optional then
    let _ ← eat .not
  let _ ← typeAnnotation? r
  within (fun f => { f with allowIn := true, inField := true }) do
    let value ← if ← eat .assign then do pure [← r.assign] else pure []
    if !(← eatStatementEnd) then noteHere .semicolonExpected
    if head.isAbstract && !value.isEmpty then note .abstractInitializer key.start
    return .field key value

/-- A method, from its parameters on. -/
def method (r : Rules) (head : MemberHead) (kind : MethodKind) (key : Key)
    (params : Parse (List Expr)) (isAsync isGenerator : Bool) : Parse Property := do
  if isHiddenKey key && head.access then note (.privateModifier "accessibility") key.start
  let (ps, body) ← methodRest r params isAsync isGenerator
  if head.isAbstract && body.isSome then note .abstractBody head.start
  return .method kind key ps (body.getD [])

def constructorParameter (r : Rules) : Parse Expr := do
  let access := (← modifier? ["public", "protected", "private"] false).isSome
  let override := (← modifier? ["override"] false).isSome
  let readonly := (← modifier? ["readonly"] false).isSome
  let p ← parameter r
  if access || override || readonly then
    match p with
    | .ident .. | .assign _ (.ident ..) _ => return p
    | p => fail .parameterPropertyPattern p.start
  return p

/-- A constructor, from its parameters on. -/
def constructorRest (r : Rules) (head : MemberHead) (key : Key) : Parse Property := do
  if head.isOverride then note (.constructorModifier "override") head.start
  if ← is .less then
    noteHere .constructorTypeParameters
    let _ ← typeParameters r .function
  expect .parenOpen
  let ps ← within (fun f => { f with inParameters := true })
    (parametersOf r (do let _ ← r.decorators) (constructorParameter r))
  expect .parenClose
  if ← is .colon then
    let pos ← here
    let _ ← typeAnnotation? r
    note .constructorType pos
  let body ← functionBody? r false false
  if body.isNone then noteDefaults ps
  if let some pos := head.staticAt then note (.constructorModifier "static") pos
  match body with
  | some body => return .method .constructor key ps body
  | none => return .field key []

/-- A block that runs when the class is made; its brace is next. -/
def initializer (r : Rules) : Parse Property := do
  expect .braceOpen
  let body ← withFreshState do
    within (fun f => { f with inInitializer := true, inField := true, superAllowed := true,
                              breakAllowed := false, continueAllowed := false, inAsync := false })
      (untilBrace r (r.statement true))
  return .initializer body

/-- Modifiers before a key, in any order; what is out of order is noted. -/
def memberModifiers (r : Rules) (head : MemberHead) : Parse MemberHead :=
  repeatUntil r.fuel (fun head : MemberHead => do
    let pos ← here
    match ← modifier? ["abstract", "readonly", "override", "static"] true with
    | none => return .inr head
    | some w =>
      let head := { head with lastModifier := some pos }
      match w with
      | "abstract" =>
        if head.isAbstract then note (.modifierRepeated "abstract") pos
        else if head.isOverride then note (.modifierOrder "abstract" "override") pos
        return .inl { head with isAbstract := true }
      | "override" =>
        if head.isOverride then note (.modifierRepeated "override") pos
        else if head.readonly.isSome then note (.modifierOrder "override" "readonly") pos
        else if !(← flags).hasBase then note .overrideWithoutBase pos
        return .inl { head with isOverride := true }
      | "readonly" =>
        if head.readonly.isSome then note (.modifierRepeated "readonly") pos
        return .inl { head with readonly := some pos }
      | _ =>
        if head.isOverride then note (.modifierOrder "static" "override") pos
        return .inl { head with isStatic := true }) head

/-- An accessor, or an asynchronous method: `w` is the word that introduces it, which has been read. -/
def introducedMethod (r : Rules) (head : MemberHead) (w : String) (wordAt : Nat) : Parse Property := do
  if w == "async" then
    let isGenerator ← eat .star
    let key ← memberKey r
    if isConstructorKey key then fail (.constructorModifier "an async function") key.start
    if head.readonly.isSome then fail .readonlyMethod head.start
    let _ ← eat .question
    method r head .plain key (parameters r) true isGenerator
  else
    let key ← memberKey r
    if head.readonly.isSome then note .readonlyAccessor wordAt
    if isConstructorKey key then note .constructorAccessor wordAt
    if w == "get" then method r head .getter key (getterParameters r wordAt) false false
    else method r head .setter key (setterParameters r wordAt) false false

def memberFromKey (r : Rules) (head : MemberHead) : Parse Property := do
  let generator ← eat .star
  if generator then
    let key ← memberKey r
    if head.readonly.isSome then note .readonlyMethod head.start
    if isConstructorKey key then note (.constructorModifier "a generator") head.start
    return ← method r head .plain key (parameters r) false true
  let readonlyName ← isOneOf [.not, .colon]
  let (key, head) ← match head.readonly, readonlyName with
    | some pos, true => pure (Key.name pos (.ident "readonly"), { head with readonly := none })
    | _, _ => do pure ((← memberKey r), head)
  let optional ← eat .question
  if ← atMethod then
    if let some pos := head.declared then note .ambientModifier pos
    if head.readonly.isSome then fail .readonlyMethod head.start
    if isConstructorKey key then return ← constructorRest r head key
    return ← method r head .plain key (parameters r) false false
  let nextLineGenerator := (← newlineBefore) && (← is .star)
  let introducer ← match key with
    | .name _ (.ident w) =>
      if (w == "get" || w == "set") && !(← atField false) && !nextLineGenerator then pure (some w)
      else pure none
    | _ => pure none
  if introducer.isNone && (← atField true) then return ← field r head key optional
  match key, introducer with
  | _, some w => introducedMethod r head w key.start
  | .name pos (.ident "async"), none =>
    if ← newlineBefore then unexpected "* for generator, private key, identifier or async"
    introducedMethod r head "async" pos
  | _, _ => unexpected "* for generator, private key, identifier or async"

/-- A member whose key is a word that could have been a modifier: `static() {}`, `declare = 1`. -/
def memberNamed? (r : Rules) (head : MemberHead) (pos : Nat) (w : String) (lineEnd : Bool) :
    Parse (Option Property) := do
  let key := Key.name pos (.ident w)
  if ← atMethod then return some (← method r head .plain key (parameters r) false false)
  if (← atField lineEnd) || (← is .question) then
    let optional ← eat .question
    return some (← field r head key optional)
  return none

/-- The word at the front of a member, if it is `w`: its position. -/
def eatModifier (w : String) : Parse (Option Nat) := do
  let pos ← here
  if ← eatWord w then return some pos
  return none

def memberFromModifiers (r : Rules) (head : MemberHead) : Parse Property := do
  let head ← memberModifiers r head
  if head.isStatic && (← is .braceOpen) then
    if head.access then noteHere .modifierMisplaced
    if let some pos := head.declared then note .modifierMisplaced pos
    return ← initializer r
  if (← isWord "static") && (← peekIs .braceOpen) then
    if let some pos := head.lastModifier then note .modifierMisplaced pos
    bump
    return ← initializer r
  if ← isWord "accessor" then
    if ← peekIsOnLine' then bump
  if !head.isAbstract && !head.isOverride && !head.access then
    if ← indexSignature? r then return .field (.name head.start .number) []
  memberFromKey r head
where
  /-- Does a key follow on the same line? -/
  peekIsOnLine' : Parse Bool := do
    let l ← peek
    if l.newlineBefore then return false
    match l.token with
    | .word .. | .string _ | .number | .bigint => return true
    | .mark .bracketOpen | .mark .hash => return true
    | _ => return false

def classMember (r : Rules) : Parse Property := do
  let start ← here
  let _ ← r.decorators
  let head : MemberHead := { start }
  let declared ← eatModifier "declare"
  let access := (← modifier? ["public", "protected", "private"] false).isSome
  let declared ← if declared.isSome then pure declared else eatModifier "declare"
  let head := { head with access }
  if let some pos := declared then
    if let some p ← memberNamed? r head pos "declare" true then return p
  let head := { head with declared }
  let staticAt ← eatModifier "static"
  match staticAt with
  | some pos =>
    if !(← is .braceOpen) then
      if let some p ← memberNamed? r head pos "static" false then return p
    memberFromModifiers r { head with isStatic := true, staticAt }
  | none => memberFromModifiers r head

/-- Constructors without a body are only declared, and read as fields without a value. -/
def isConstructorWithBody : Property → Bool
  | .method .constructor .. => true
  | _ => false

/-- Members up to the closing brace, which is not passed. -/
def classMembers (r : Rules) : Parse (List Property) := do
  let (members, _) ← repeatUntil r.fuel (fun (acc, hasConstructor) => do
    if (← is .braceClose) || (← atEnd) then return .inr ((acc : List Property).reverse, hasConstructor)
    if ← eat .semicolon then return .inl (acc, hasConstructor)
    let pos ← here
    let m ← within (fun f => { f with superAllowed := true }) (classMember r)
    let isConstructor := isConstructorWithBody m && !(← flags).ambient
    if isConstructor && hasConstructor then note .repeatedConstructor pos
    return .inl (m :: acc, hasConstructor || isConstructor)) ([], false)
  return members

def baseClass (r : Rules) : Parse Expr := do
  let e ← leftHandSide r
  if ← is .less then typeArguments r
  return e

/-- A class, from the word on; `named` if it needs a name. -/
def classRest (r : Rules) (pos : Nat) (named : Bool) : Parse Expr :=
  within (fun f => { f with inClass := true }) do
    expectWord "class"
    let _ ← if named then some <$> bindingName true else bindingName? true
    let _ ← typeParameters? r .classes
    let base ← if ← eatWord "extends" then do
        let e ← baseClass r
        if ← eat .comma then
          let more ← here
          let count ← heritage r
          if count != 0 then note .severalBases more
        pure [e]
      else pure []
    let again ← here
    if ← eatWord "extends" then
      note .repeatedExtends again
      let _ ← baseClass r
    if ← eatWord "implements" then
      let _ ← heritage r
    let again ← here
    if ← eatWord "implements" then
      note .repeatedImplements again
      let _ ← heritage r
    let again ← here
    if ← eatWord "extends" then
      note .extendsAfterImplements again
      let _ ← baseClass r
    expect .braceOpen
    let members ← within (fun f => { f with hasBase := !base.isEmpty }) (classMembers r)
    if ← atEnd then noteHere (.expected "\x7d" "<eof>") else expect .braceClose
    return .classExpr pos base members

/-- A class as an expression, perhaps with decorators. -/
def classExpression (r : Rules) : Parse Expr := do
  let pos ← here
  let _ ← r.decorators
  classRest r pos false

end RouteShortcuts.Script.Grammar
