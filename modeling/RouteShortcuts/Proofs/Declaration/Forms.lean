/-
  RouteShortcuts.Proofs.Declaration.Forms — the two forms of a declaration say the same.

  `function(path)(config)` and `function(path, config)` hand on the same two arguments, whatever
  these are, and no argument behind them is looked at (`CallOf`, `CallOf.matchCall`). So a variable
  declares the same shortcut, or none, in either form (`Reformed`), and in a module any of the
  exported variables may be written in the other form, while the rest stay as they are
  (`ReformedItem`).

  Proved: `forms_are_interchangeable`, for every module and every choice of its variables. Variable
  by variable the same is declared, so no shortcut is gained, lost or moved, and nothing that was
  passed over is taken.
-/

import Mathlib.Data.List.Forall2
import RouteShortcuts.Proofs.Declaration.Meaning

namespace RouteShortcuts.Declaration

open RouteShortcuts.Script

/-! ## Calls -/

/-- A call of `function` with these two arguments in one of the two forms, and with any arguments
behind them. -/
inductive CallOf (function : String) (path config : Expr) : Expr → Prop
  /-- `function(path, config, more...)` -/
  | direct {e : Expr} {more : List Expr} :
    CallsByName function e (path :: config :: more) → CallOf function path config e
  /-- `function(path, inner...)(config, outer...)` -/
  | curried {e callee : Expr} {inner outer : List Expr} : Wraps (.call callee (config :: outer)) e →
      CallsByName function callee (path :: inner) → CallOf function path config e

section

variable {function : String} {path config e : Expr}

theorem CallOf.matchCall (h : CallOf function path config e) :
    matchCall function e = some ⟨some path, some config⟩ := by
  cases h with
  | direct h => exact matchCall_of_shortcutCall (.direct h)
  | curried he hc => exact matchCall_of_shortcutCall (.curried he hc)

/-! ## Declarators -/

/-- A declarator and one that says the same in another form, or the same declarator. -/
inductive Reformed (function : String) : Declarator → Declarator → Prop
  | same (d : Declarator) : Reformed function d d
  | call {target path config e e' : Expr} : CallOf function path config e →
    CallOf function path config e' →
      Reformed function (.mk target (some e)) (.mk target (some e'))

theorem ofDeclarator_call {rule : Rule} {file : String} {target : Expr}
    (h : CallOf rule.function path config e) :
    ofDeclarator rule file (.mk target (some e)) = match target with
      | .ident _ name =>
        if rule.accepts name then (extract (some path) (some config)).map fun found =>
          ⟨found.1, found.2, file⟩ else none
      | _ => none := by
  unfold ofDeclarator
  cases target with
  | ident pos name =>
    simp only [h.matchCall]
    cases extract (some path) (some config) <;> rfl
  | _ => rfl

theorem Reformed.declares {rule : Rule} {file : String} {d d' : Declarator}
    (h : Reformed rule.function d d') : ofDeclarator rule file d' = ofDeclarator rule file d := by
  cases h with
  | same => rfl
  | call he he' => rw [ofDeclarator_call he, ofDeclarator_call he']

end

/-! ## Modules -/

/-- An item, and one that exports the same variables, some of them in another form. -/
inductive ReformedItem (function : String) : Stmt → Stmt → Prop
  | same (item : Stmt) : ReformedItem function item item
  | exports (kind : VarKind) {ds ds' : List Declarator} : List.Forall₂ (Reformed function) ds ds' →
      ReformedItem function (.exporting (.vars kind ds)) (.exporting (.vars kind ds'))

section

variable {rule : Rule} {file : String}

theorem map_ofDeclarator_congr {ds ds' : List Declarator}
    (h : List.Forall₂ (Reformed rule.function) ds ds') :
    ds'.map (ofDeclarator rule file) = ds.map (ofDeclarator rule file) := by
  induction h with
  | nil => rfl
  | cons hd _ ih => rw [List.map_cons, List.map_cons, hd.declares, ih]

theorem ReformedItem.exported {item item' : Stmt} (h : ReformedItem rule.function item item') :
    (exported item').map (ofDeclarator rule file) = (exported item).map (ofDeclarator rule file) := by
  cases h with
  | same => rfl
  | exports kind hds =>
    simp only [Declaration.exported]
    by_cases hk : kind = .disposable
    · rw [if_pos hk, if_pos hk]
    · rw [if_neg hk, if_neg hk, map_ofDeclarator_congr hds]

/-- In a module any calls may be written in the other form, with or without further arguments: each
exported variable declares what it declared, or nothing if it declared nothing, and so does the
module. -/
theorem forms_are_interchangeable (rule : Rule) (file : String) {module module' : Module}
    (h : List.Forall₂ (ReformedItem rule.function) module module') :
    (module'.flatMap exported).map (ofDeclarator rule file) =
      (module.flatMap exported).map (ofDeclarator rule file) ∧
    collect rule file module' = collect rule file module := by
  have hsame : (module'.flatMap exported).map (ofDeclarator rule file) =
      (module.flatMap exported).map (ofDeclarator rule file) := by
    induction h with
    | nil => rfl
    | cons hitem _ ih =>
      rw [List.flatMap_cons, List.flatMap_cons, List.map_append, List.map_append,
        hitem.exported, ih]
  refine ⟨hsame, ?_⟩
  -- what is collected are the shortcuts among what the variables declare
  have hcollect : ∀ m : Module, collect rule file m =
      ((m.flatMap exported).map (ofDeclarator rule file)).filterMap id := by
    intro m
    rw [collect, List.filterMap_map]
    rfl
  rw [hcollect, hcollect, hsame]

end

/-- The configuration in the calls of the two modules below. -/
def cartConfig : Expr := .object 0 [.keyValue (.name 0 (.ident "name")) (.string 0 (some "Cart"))] none

/-- Three variables with calls in the curried form, among the arguments some that are not looked at
and two spreads. -/
def curriedModule : Module :=
  [.exporting (.vars .constant [
    .mk (.ident 0 "a") (some
      (.call (.call (.ident 0 "f") [.string 0 (some "/a"), .literal 0]) [cartConfig, .literal 0])),
    .mk (.ident 0 "b") (some (.call (.call (.ident 0 "f") [.spread 0 (.ident 0 "p")]) [cartConfig])),
    .mk (.ident 0 "c")
      (some (.call (.call (.ident 0 "f") [.string 0 (some "/c")]) [.spread 0 cartConfig]))])]

/-- The same, but for the first and the last call, which are in the direct form. -/
def mixedModule : Module :=
  [.exporting (.vars .constant [
    .mk (.ident 0 "a") (some (.call (.ident 0 "f") [.string 0 (some "/a"), cartConfig])),
    .mk (.ident 0 "b") (some (.call (.call (.ident 0 "f") [.spread 0 (.ident 0 "p")]) [cartConfig])),
    .mk (.ident 0 "c")
      (some (.call (.ident 0 "f") [.string 0 (some "/c"), .spread 0 cartConfig, .literal 0]))])]

theorem mixed_forms_declare_the_same : List.Forall₂ (ReformedItem "f") curriedModule mixedModule ∧
    collect ⟨fun _ => true, "f"⟩ "cart.ts" mixedModule = [⟨"/a", { name := "Cart" }, "cart.ts"⟩] := by
  have hname : Wraps (.ident 0 "f") (.ident 0 "f") := wraps_iff.mpr rfl
  have hcalls : ∀ args, CallsByName "f" (.call (.ident 0 "f") args) args := fun args =>
    ⟨_, 0, wraps_iff.mpr rfl, hname⟩
  have hmodules : List.Forall₂ (ReformedItem "f") curriedModule mixedModule :=
    .cons (.exports .constant
      (.cons (.call (.curried (wraps_iff.mpr rfl) (hcalls _)) (.direct (hcalls _)))
      (.cons (.same _)
        (.cons (.call (.curried (wraps_iff.mpr rfl) (hcalls _)) (.direct (hcalls _))) .nil)))) .nil
  refine ⟨hmodules, ?_⟩
  rw [(forms_are_interchangeable ⟨fun _ => true, "f"⟩ "cart.ts" hmodules).2]
  decide

end RouteShortcuts.Declaration
