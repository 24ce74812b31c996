/-
  RouteShortcuts.Script.Grammar — scripts as modules.

  `rules` ties the rules of the grammar together: with `n` units of fuel, a rule may call the others as
  they are with `n - 1`. Every call through the record happens at a token, and only a bounded number of
  them at the same one, so a text never runs out of the fuel that `Module.parse` gives it.
-/

import RouteShortcuts.Script.Grammar.Modules
import RouteShortcuts.Script.Grammar.Markup

namespace RouteShortcuts.Script

open Reader

namespace Grammar

def tooDeep {α : Type} : Parse α := failHere .tooDeep

/-- The rules with `n` units of fuel. -/
def rules : Nat → Rules
  | 0 =>
    { fuel := 0, assign := tooDeep, unary := tooDeep, operators := fun _ _ => tooDeep,
      members := fun _ => tooDeep, binding := fun _ => tooDeep, type := tooDeep,
      plainType := tooDeep, operandType := tooDeep, statement := fun _ => tooDeep, item := tooDeep,
      decorators := tooDeep, markup := fun _ => tooDeep }
  | n + 1 =>
    { fuel := n
      assign := fun s => assignment (rules n) s
      unary := fun s => unary (rules n) s
      operators := fun left level s => operators (rules n) left level s
      members := fun afterNew s =>
        members (rules n) (primary (rules n) (classExpression (rules n))) afterNew s
      binding := fun letReserved s => binding (rules n) letReserved s
      type := fun s => wholeType (rules n) s
      plainType := fun s => plainType (rules n) s
      operandType := fun s => operandType (rules n) s
      statement := fun declares s => statement (rules n) declares s
      item := fun s => item (rules n) s
      decorators := fun s => decorators (rules n) s
      markup := fun codeFollows s => element (rules n) codeFollows s }

def fuelFor (length : Nat) : Nat :=
  32 * (length + 8)

end Grammar

def Module.parse (dialect : Dialect) (text : List Char) : Except Fault Module :=
  Reader.run (Grammar.wholeModule (Grammar.rules (Grammar.fuelFor text.length))) dialect text

end RouteShortcuts.Script
