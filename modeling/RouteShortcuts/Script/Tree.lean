/-
  RouteShortcuts.Script.Tree — the syntax tree of a script module.

  The tree keeps what a script computes with. Types leave no trace in it, apart from the expressions
  they are attached to (`Expr.typed`). Parentheses are nodes of their own (`Expr.paren`), so that a
  reader of the tree decides what they mean.

  Patterns are written like the expressions they take apart, and share their nodes: the target of an
  assignment, a parameter and the left side of a declarator are all `Expr`. A spread is then a rest
  element, an assignment a default value.

  Positions are offsets in characters. `Expr.start` is the first character of a node; most nodes
  record it, the others begin with their first part.
-/

namespace RouteShortcuts.Script

inductive VarKind where
  | varying
  | scoped
  | constant
  | disposable
  deriving DecidableEq, Repr

inductive UnaryOp where
  | delete
  | void
  | typeof
  | plus
  | minus
  | complement
  | not
  deriving DecidableEq, Repr

inductive BinaryOp where
  | or
  | nullish
  | and
  | bitOr
  | bitXor
  | bitAnd
  | equal
  | notEqual
  | same
  | notSame
  | less
  | greater
  | lessEqual
  | greaterEqual
  | inside
  | instanceOf
  | shiftLeft
  | shiftRight
  | shiftRightZero
  | add
  | sub
  | mul
  | div
  | rem
  | pow
  deriving DecidableEq, Repr

/-- How tightly an operator binds; `or` and `nullish` share the loosest level. -/
def BinaryOp.precedence : BinaryOp → Nat
  | or | nullish => 1
  | and => 2
  | bitOr => 3
  | bitXor => 4
  | bitAnd => 5
  | equal | notEqual | same | notSame => 6
  | less | greater | lessEqual | greaterEqual | inside | instanceOf => 7
  | shiftLeft | shiftRight | shiftRightZero => 8
  | add | sub => 9
  | mul | div | rem => 10
  | pow => 11

/-- What a type has been attached to an expression with. -/
inductive TypeUse where
  | as
  | satisfies
  | constant
  | assertion
  | nonNull
  | instantiation
  deriving DecidableEq, Repr

/-- The name of a property, where it is not computed. The text of a string may have unpaired
surrogates; it is then no string of characters. -/
inductive KeyName where
  | ident (name : String)
  | string (value : Option String)
  | number
  | hidden (name : String)
  deriving DecidableEq, Repr

inductive MethodKind where
  | plain
  | getter
  | setter
  | constructor
  deriving DecidableEq, Repr

mutual

inductive Expr where
  | ident (pos : Nat) (name : String)
  /-- `none` where the text has an unpaired surrogate and so is no string of characters. -/
  | string (pos : Nat) (value : Option String)
  /-- `this`, `null`, booleans, numbers and patterns of characters. -/
  | literal (pos : Nat)
  | privateName (pos : Nat) (name : String)
  /-- `new.target`, `import.meta`. -/
  | metaProperty (pos : Nat)
  /-- `super`, as the object of a member or a call. -/
  | base (pos : Nat)
  /-- `import`, as it is called. -/
  | importer (pos : Nat)
  /-- An element that is left out of an array. -/
  | hole (pos : Nat)
  /-- What stands where an expression was missing. -/
  | invalid (pos : Nat)
  /-- An argument, an array element or a parameter after three dots. -/
  | spread (pos : Nat) (inner : Expr)
  /-- The last field is the position of a comma after the last element. -/
  | array (pos : Nat) (elements : List Expr) (trailing : Option Nat)
  | object (pos : Nat) (properties : List Property) (trailing : Option Nat)
  | paren (pos : Nat) (inner : Expr)
  | sequence (parts : List Expr)
  | call (callee : Expr) (args : List Expr)
  | construct (pos : Nat) (callee : Expr) (args : List Expr)
  | member (object : Expr) (key : Key)
  /-- A member access or a call in an optional chain. -/
  | chainMember (object : Expr) (key : Key)
  | chainCall (callee : Expr) (args : List Expr)
  | unary (pos : Nat) (op : UnaryOp) (operand : Expr)
  | update (pos : Nat) (operand : Expr)
  | binary (op : BinaryOp) (left right : Expr)
  /-- `plain` is false for `+=` and its like. -/
  | assign (plain : Bool) (target value : Expr)
  | conditional (test yes no : Expr)
  | yield (pos : Nat) (value : List Expr)
  | await (pos : Nat) (value : Expr)
  | template (pos : Nat) (parts : List Expr)
  | tagged (tag : Expr) (parts : List Expr)
  | function (pos : Nat) (params : List Expr) (body : List Stmt)
  | arrow (pos : Nat) (params : List Expr) (body : List Stmt)
  | classExpr (pos : Nat) (extending : List Expr) (members : List Property)
  | typed (pos : Nat) (use : TypeUse) (inner : Expr)
  /-- A markup element: the expressions in its attributes and children. -/
  | markup (pos : Nat) (parts : List Expr)

inductive Key where
  | name (pos : Nat) (value : KeyName)
  | computed (pos : Nat) (value : Expr)

/-- A property of an object, or a member of a class. -/
inductive Property where
  | keyValue (key : Key) (value : Expr)
  | shorthand (pos : Nat) (name : String)
  /-- `name = value`, which only a pattern may hold. -/
  | withDefault (pos : Nat) (name : String) (value : Expr)
  | method (kind : MethodKind) (key : Key) (params : List Expr) (body : List Stmt)
  | spread (pos : Nat) (value : Expr)
  /-- A field of a class, its value if it has one. -/
  | field (key : Key) (value : List Expr)
  /-- A block that runs when a class is made. -/
  | initializer (body : List Stmt)

inductive Declarator where
  | mk (target : Expr) (value : Option Expr)

inductive Stmt where
  | expr (value : Expr)
  | vars (kind : VarKind) (declarators : List Declarator)
  /-- Functions and classes, as they are declared. -/
  | declaration (value : Expr)
  /-- Blocks, branches, loops, jumps: the expressions they look at and the statements they hold. -/
  | control (parts : List Expr) (body : List Stmt)
  | enumeration (name : String) (values : List Expr)
  | namespace (items : List Stmt)
  /-- Interfaces, type aliases and declarations of what is defined elsewhere. -/
  | typeOnly
  | importing
  | exporting (declared : Stmt)
  | exportDefault (declared : Stmt)
  /-- Names exported from a list, or from another module. -/
  | exportNames

end

/-- A whole module, in the order of the text. -/
abbrev Module := List Stmt

instance : Inhabited Expr := ⟨.invalid 0⟩

namespace Expr

def start : Expr → Nat
  | .ident p _ | .string p _ | .literal p | .privateName p _ | .metaProperty p | .base p
  | .importer p | .hole p | .invalid p | .spread p _ | .array p _ _ | .object p _ _ | .paren p _
  | .construct p _ _ | .unary p _ _ | .update p _ | .yield p _ | .await p _ | .template p _
  | .function p _ _ | .arrow p _ _ | .classExpr p _ _ | .typed p _ _ | .markup p _ => p
  | .sequence parts => startOfFirst parts
  | .call e _ | .member e _ | .chainMember e _ | .chainCall e _ | .binary _ e _
  | .conditional e _ _ | .tagged e _ | .assign _ e _ => e.start
where
  startOfFirst : List Expr → Nat
    | [] => 0
    | e :: _ => e.start

/-- The expression inside any number of parentheses. -/
def unparen : Expr → Expr
  | .paren _ e => e.unparen
  | e => e

def isArrow : Expr → Bool
  | .arrow .. => true
  | _ => false

def isNamed (name : String) : Expr → Bool
  | .ident _ n => n == name
  | _ => false

/-- Member accesses and calls that belong to an optional chain. -/
def isChain : Expr → Bool
  | .chainMember .. | .chainCall .. => true
  | _ => false

end Expr

def Key.start : Key → Nat
  | .name p _ | .computed p _ => p

def Key.isNamed (key : Key) (name : String) : Bool :=
  match key with
  | .name _ (.ident n) => n == name
  | .name _ (.string (some n)) => n == name
  | _ => false

end RouteShortcuts.Script
