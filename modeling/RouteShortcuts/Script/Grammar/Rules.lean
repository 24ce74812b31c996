/-
  RouteShortcuts.Script.Grammar.Rules — the rules of the grammar that call each other.

  Expressions hold functions, functions hold statements, statements hold expressions. Each rule is an
  ordinary definition that takes the rules it needs as a record; `Script.Grammar` ties the knot. Every
  round through the record uses up one unit of fuel, and `fuel` is what is left for the loops of a
  rule.
-/

import RouteShortcuts.Script.Reader

namespace RouteShortcuts.Script

structure Rules where
  fuel : Nat
  /-- An expression without commas. -/
  assign : Parse Expr
  unary : Parse Expr
  /-- The operators after a first operand, as long as they bind tighter than a level. -/
  operators : Expr → Nat → Parse Expr
  /-- `new` and member accesses without calls; `true` directly after `new`. -/
  members : Bool → Parse Expr
  /-- A name or a pattern that is bound; `true` where `let` is no name. -/
  binding : Bool → Parse Expr
  type : Parse Unit
  /-- A type that no `extends` follows. -/
  plainType : Parse Unit
  /-- A type without `|` and `&`. -/
  operandType : Parse Unit
  /-- A statement; `true` where declarations may stand. -/
  statement : Bool → Parse Stmt
  /-- An item of a module or a namespace. -/
  item : Parse Stmt
  /-- Decorators, if there are any. -/
  decorators : Parse Bool
  /-- An element of markup; `true` where an expression goes on after it. -/
  markup : Bool → Parse Expr

namespace Grammar

open Reader

/-- Repeats `element` until `done`, collecting the results. -/
def listUntil {α : Type} (r : Rules) (done : Parse Bool) (element : Parse α) : Parse (List α) :=
  repeatUntil r.fuel (fun acc : List α => do
    if ← done then return .inr acc.reverse
    return .inl ((← element) :: acc)) []

/-- Elements separated by commas, up to `close`, which is not passed. A comma may stand at the end. The
second result is the position of that comma. -/
def commaList {α : Type} (r : Rules) (close : Mark) (element : Parse α) :
    Parse (List α × Option Nat) :=
  repeatUntil r.fuel (fun acc : List α => do
    if ← is close then return .inr (acc.reverse, none)
    let a ← element
    if ← is close then return .inr ((a :: acc).reverse, none)
    let comma ← here
    expect .comma
    if ← is close then return .inr ((a :: acc).reverse, some comma)
    return .inl (a :: acc)) []

/-- An expression with commas. -/
def expression (r : Rules) : Parse Expr := do
  let first ← r.assign
  if ← is .comma then
    let rest ← listUntil r (return !(← is .comma)) (do
      bump
      r.assign)
    return .sequence (first :: rest)
  return first

end Grammar
end RouteShortcuts.Script
