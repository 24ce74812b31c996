/-
  RouteShortcuts.Script.Grammar.Targets — expressions that turn out to be patterns.

  The left side of an assignment and the parameters of an arrow are read as expressions first. These
  checks say what keeps such an expression from being a pattern.
-/

import RouteShortcuts.Script.Grammar.Names

namespace RouteShortcuts.Script.Grammar

open Reader

/-- A name or a member, in parentheses or with a type attached. -/
def isSimpleTarget : Expr → Bool
  | .ident _ w => !isReservedBinding w
  | .paren _ e => isSimpleTarget e
  | .member object _ =>
    match object with
    | .member .. => isSimpleTarget object
    | .chainMember .. | .chainCall .. => false
    | _ => true
  | .typed _ use e => use != .constant && isSimpleTarget e
  | _ => false

/-- May an expression of this form be assigned to at all? -/
def isTargetForm : Expr → Bool
  | .ident .. | .member .. | .chainMember .. | .chainCall .. | .paren .. | .invalid .. => true
  | .array .. | .object .. => true
  | .typed _ use _ => use != .constant
  | _ => false

inductive PatternKind where
  /-- What is bound: a parameter. -/
  | bound
  /-- What is assigned to. -/
  | assigned
  deriving DecidableEq, Repr

/-- Elements of an assigned pattern that are no patterns themselves: is the expression one that is
judged as a simple target? -/
def isJudgedAsTarget : Expr → Bool
  | .member .. | .call .. | .construct .. | .literal .. | .string .. | .ident .. | .function .. => true
  | .classExpr .. | .paren .. | .template .. => true
  | .typed _ use _ => use == .as
  | _ => false

mutual

/-- Notes what keeps `e` from being a pattern inside of a pattern. -/
def checkPattern (kind : PatternKind) : Expr → Parse Unit
  | .invalid _ => pure ()
  | .array _ elements trailing => checkElements kind trailing elements
  | .object _ properties trailing => checkProperties kind trailing properties
  | .assign true _ _ => pure ()
  | e => do
    if kind = .assigned && isJudgedAsTarget e then
      if !isSimpleTarget e then note .notAssignable e.start
    else match e with
      | .ident .. => pure ()
      | e => note .notPattern e.start

def checkElements (kind : PatternKind) (trailing : Option Nat) : List Expr → Parse Unit
  | [] => pure ()
  | [.spread _ inner] => do
    if let .assign .. := inner then note .restInitializer inner.start
    if let some comma := trailing then note .commaAfterRest comma
    checkPattern kind inner
  | .hole _ :: rest => checkElements kind trailing rest
  | .spread pos _ :: rest => do
    note .restParameterLast pos
    checkElements kind trailing rest
  | e :: rest => do
    checkPattern kind e
    checkElements kind trailing rest

def checkProperties (kind : PatternKind) (trailing : Option Nat) : List Property → Parse Unit
  | [] => pure ()
  | .keyValue _ value :: rest => do
    checkPattern kind value
    checkProperties kind trailing rest
  | .shorthand .. :: rest => checkProperties kind trailing rest
  | .withDefault .. :: rest => checkProperties kind trailing rest
  | .spread pos inner :: rest => do
    if !rest.isEmpty then note .restParameterLast pos
    match kind, inner with
    | .bound, .ident .. => pure ()
    | .bound, _ => note .dotsWithoutName pos
    | .assigned, inner => checkPattern kind inner
    if let some comma := trailing then note .commaAfterRest comma
    checkProperties kind trailing rest
  | .method _ key _ _ :: _ => fail .notPattern key.start
  | .field key _ :: _ => fail .notPattern key.start
  | .initializer _ :: rest => checkProperties kind trailing rest

end

mutual

/-- Notes names that strict code does not bind. -/
def checkBoundNames : Expr → Parse Unit
  | .ident pos w => do
    if isReservedBinding w then note .reservedBinding pos
  | .array _ elements _ => checkAllBoundNames elements
  | .object _ properties _ => checkPropertyNames properties
  | .spread _ inner => checkBoundNames inner
  | .assign _ target _ => checkBoundNames target
  | _ => pure ()

def checkAllBoundNames : List Expr → Parse Unit
  | [] => pure ()
  | e :: rest => do
    checkBoundNames e
    checkAllBoundNames rest

def checkPropertyNames : List Property → Parse Unit
  | [] => pure ()
  | .keyValue _ value :: rest => do
    checkBoundNames value
    checkPropertyNames rest
  | .shorthand pos w :: rest => do
    if isReservedBinding w then note .reservedBinding pos
    checkPropertyNames rest
  | .withDefault pos w _ :: rest => do
    if isReservedBinding w then note .reservedBinding pos
    checkPropertyNames rest
  | .spread _ inner :: rest => do
    checkBoundNames inner
    checkPropertyNames rest
  | _ :: rest => checkPropertyNames rest

end

/-- Notes an expression that cannot be counted up or assigned to. -/
def checkReference (e : Expr) : Parse Unit := do
  if !isSimpleTarget e then note .badReferenceTarget e.start

/-- The left side of `=`, or of `of` and `in` in the head of a loop. -/
def checkAssigned (e : Expr) : Parse Unit :=
  match e with
  | .invalid _ => pure ()
  | .array .. | .object .. => checkPattern .assigned e
  | e => checkReference e

end RouteShortcuts.Script.Grammar
