/-
  RouteShortcuts.Proofs.Declaration.Parentheses — parentheses do not matter to what a module declares.

  Each step of the search looks inside the parentheses of the expression it is at. So in a tree
  without parentheses (`Expr.erase`) it finds what it finds in the tree as it was written, itself
  without parentheses (`isNamed_erase` … `ofDeclarator_erase`). Only the test for a spread looks at
  an expression as it stands: a spread in parentheses is taken for an argument, and without them it
  is not (`plain?_erase`). A spread is no literal, so nothing is read of it either way.

  Proved: a module without its parentheses declares what the module declares (`collect_erase`), and so
  does every module that is the same without them (`collect_ignores_parentheses`).
-/

import RouteShortcuts.Proofs.Declaration.Meaning
import RouteShortcuts.Proofs.Pattern.Defaults
import RouteShortcuts.Proofs.Script.Parentheses

namespace RouteShortcuts.Declaration

open RouteShortcuts.Script

section

variable {move : Nat → Nat}

/-! ## Calls -/

/-- The arguments of a call without their parentheses. -/
def CallArguments.erase (move : Nat → Nat) (args : CallArguments) : CallArguments :=
  ⟨args.path.map (Expr.erase move), args.config.map (Expr.erase move)⟩

theorem isNamed_erase (function : String) (callee : Expr) :
    isNamed function (callee.erase move) = isNamed function callee := by
  unfold isNamed
  rw [Expr.unparen_erase]
  cases h : callee.unparen with
  | paren pos inner => exact absurd h (unparen_ne_paren callee pos inner)
  | _ => rfl

theorem matchCall_erase (function : String) (value : Expr) :
    matchCall function (value.erase move) =
      (matchCall function value).map (CallArguments.erase move) := by
  unfold matchCall
  rw [Expr.unparen_erase]
  cases h : value.unparen with
  | paren pos inner => exact absurd h (unparen_ne_paren value pos inner)
  | call callee args =>
    simp only [Expr.erase, eraseExprs_eq, isNamed_erase, Expr.unparen_erase]
    by_cases hn : isNamed function callee = true
    · simp only [hn, if_true, Option.map_some, CallArguments.erase, List.getElem?_map]
    · simp only [hn, Bool.false_eq_true, if_false]
      cases hc : callee.unparen with
      | paren pos inner => exact absurd hc (unparen_ne_paren callee pos inner)
      | call inner innerArgs =>
        simp only [Expr.erase, eraseExprs_eq, isNamed_erase]
        by_cases hi : isNamed function inner = true
        · simp only [hi, if_true, Option.map_some, CallArguments.erase, List.getElem?_map]
        · simp only [hi, Bool.false_eq_true, if_false, Option.map_none]
      | _ => rfl
  | _ => rfl

/-! ## Literals -/

theorem stringLiteral?_erase (e : Expr) : stringLiteral? (e.erase move) = stringLiteral? e := by
  unfold stringLiteral?
  rw [Expr.unparen_erase]
  cases h : e.unparen with
  | paren pos inner => exact absurd h (unparen_ne_paren e pos inner)
  | _ => rfl

theorem isSpread_erase (e : Expr) : isSpread (e.erase move) = isSpread e.unparen := by
  rw [← Expr.erase_unparen]
  cases h : e.unparen with
  | paren pos inner => exact absurd h (unparen_ne_paren e pos inner)
  | _ => rfl

/-- A spread in parentheses is taken for an argument, and without them it is not. -/
theorem plain?_erase (given : Option Expr) :
    plain? (given.map (Expr.erase move)) = (plain? given).map (Expr.erase move) ∨
      plain? (given.map (Expr.erase move)) = none ∧ ∃ pos inner,
        plain? given = some (.spread pos inner) := by
  cases given with
  | none => exact Or.inl rfl
  | some e =>
    simp only [plain?, Option.map_some, isSpread_erase, Expr.unparen_erase]
    by_cases hs : isSpread e = true
    · have hbare : e.unparen = e := by
        obtain ⟨pos, inner, rfl⟩ := isSpread_iff.mp hs
        rfl
      rw [hbare, hs]
      exact Or.inl rfl
    · simp only [hs, Bool.false_eq_true, if_false, Option.map_some]
      by_cases hu : isSpread e.unparen = true
      · obtain ⟨pos, inner, hu'⟩ := isSpread_iff.mp hu
        rw [if_pos hu, hu']
        exact Or.inr ⟨rfl, pos, inner, rfl⟩
      · rw [if_neg hu]
        exact Or.inl rfl

/-- What is read of an expression is not changed by the parentheses inside it. -/
def ReadsErased {α : Type} (move : Nat → Nat) (read : Expr → Option α) : Prop :=
  ∀ e : Expr, read (e.unparen.erase move) = read e.unparen

theorem text_readsErased : ReadsErased move stringLiteral? := fun e => stringLiteral?_erase e.unparen

/-- What is read of an argument, if nothing is read of a spread. -/
theorem plain?_bind_erase {α : Type} {read : Expr → Option α}
    (hspread : ∀ pos inner, read (.spread pos inner) = none)
    (hread : ReadsErased move read) (given : Option Expr) :
    (plain? (given.map (Expr.erase move))).bind read = (plain? given).bind read := by
  rcases @plain?_erase move given with h | ⟨h, pos, inner, hs⟩
  · rw [h, Option.bind_map]
    cases hp : plain? given with
    | none => rfl
    | some bare =>
      obtain ⟨e, -, -, hw⟩ := plain?_iff.mp hp
      rw [← wraps_iff.mp hw]
      exact hread e
  · rw [h, hs, Option.bind_some, hspread]
    rfl

/-! ## Properties -/

theorem valueOf?_erase {α : Type} {key : String} {read : Expr → Option α}
    (hread : ReadsErased move read) (p : Property) :
    valueOf? key read (p.erase move) = valueOf? key read p := by
  cases p with
  | keyValue k value =>
    cases k with
    | computed => rfl
    | name pos name =>
      cases name with
      | ident name =>
        simp only [valueOf?, namedValue?, Property.erase, Key.erase, Expr.unparen_erase,
          Option.bind_some, hread value]
      | string | number | hidden => rfl
  | shorthand | withDefault | method | spread | field | initializer => rfl

/-- What is said last of a key. -/
theorem lastValue_erase {α : Type} {key : String} {read : Expr → Option α}
    (hread : ReadsErased move read) (ps : List Property) :
    (namedValues (ps.map (Property.erase move))).foldl
        (fun found (name, value) => if name == key then (read value).or found else found) none =
      (namedValues ps).foldl (fun found (name, value) => if name == key then (read value).or found
        else found) none := by
  rw [foldl_namedValues, foldl_namedValues, List.foldl_map]
  simp only [valueOf?_erase hread]

theorem lastString_erase (key : String) (ps : List Property) :
    lastString key (ps.map (Property.erase move)) = lastString key ps :=
  lastValue_erase text_readsErased ps

/-! ## Icons -/

theorem icon_erase (ps : List Property) : icon (ps.map (Property.erase move)) = icon ps := by
  simp only [icon, lastString_erase]

/-- The icon of an object literal. -/
def readIcon : Expr → Option Icon
  | .object _ ps _ => some (icon ps)
  | _ => none

theorem icon?_eq (e : Expr) : icon? e = (plain? (some e)).bind readIcon := by
  unfold icon?
  cases plain? (some e) with
  | none => rfl
  | some bare => cases bare <;> rfl

theorem icon_readsErased : ReadsErased move readIcon := by
  intro e
  cases h : e.unparen with
  | paren pos inner => exact absurd h (unparen_ne_paren e pos inner)
  | object pos ps trailing => simp only [Expr.erase, eraseProperties_eq, readIcon, icon_erase]
  | _ => rfl

theorem icon?_erase (e : Expr) : icon? (e.erase move) = icon? e := by
  rw [icon?_eq, icon?_eq]
  exact plain?_bind_erase (fun _ _ => rfl) icon_readsErased (some e)

theorem icons_erase (elements : List Expr) :
    icons (elements.map (Expr.erase move)) = icons elements := by
  unfold icons
  rw [List.filterMap_map]
  exact List.filterMap_congr fun e _ => icon?_erase e

theorem icons_readsErased : ReadsErased move readIcons := by
  intro e
  cases h : e.unparen with
  | paren pos inner => exact absurd h (unparen_ne_paren e pos inner)
  | array pos elements trailing => simp only [Expr.erase, eraseExprs_eq, readIcons, icons_erase]
  | _ => rfl

theorem lastIcons_erase (ps : List Property) :
    lastIcons (ps.map (Property.erase move)) = lastIcons ps := by
  rw [lastIcons_eq_foldl, lastIcons_eq_foldl]
  exact lastValue_erase icons_readsErased ps

/-! ## Declarations -/

theorem details?_erase (ps : List Property) :
    details? (ps.map (Property.erase move)) = details? ps := by
  simp only [details?, lastString_erase, lastIcons_erase]

/-- The details in an object literal. -/
def readDetails : Expr → Option Details
  | .object _ ps _ => details? ps
  | _ => none

theorem extract_eq (path config : Option Expr) : extract path config =
    ((plain? config).bind readDetails).bind fun details =>
      ((plain? path).bind stringLiteral?).bind fun p =>
      if p = "" then none else some (p, details) := by
  unfold extract
  cases plain? config with
  | none => rfl
  | some bare =>
    cases bare with
    | object pos ps trailing =>
      simp only [Option.bind_some, readDetails]
      cases details? ps with
      | none => rfl
      | some details => cases (plain? path).bind stringLiteral? <;> rfl
    | _ => rfl

theorem details_readsErased : ReadsErased move readDetails := by
  intro e
  cases h : e.unparen with
  | paren pos inner => exact absurd h (unparen_ne_paren e pos inner)
  | object pos ps trailing => simp only [Expr.erase, eraseProperties_eq, readDetails, details?_erase]
  | _ => rfl

theorem extract_erase (path config : Option Expr) :
    extract (path.map (Expr.erase move)) (config.map (Expr.erase move)) = extract path config := by
  rw [extract_eq, extract_eq, plain?_bind_erase (fun _ _ => rfl) details_readsErased,
    plain?_bind_erase (fun _ _ => rfl) text_readsErased]

theorem ofDeclarator_erase (rule : Rule) (file : String) (d : Declarator) :
    ofDeclarator rule file (d.erase move) = ofDeclarator rule file d := by
  obtain ⟨target, value⟩ := d
  cases target with
  | ident pos name =>
    cases value with
    | none => rfl
    | some value =>
      simp only [Declarator.erase, Expr.erase, eraseValue, ofDeclarator, matchCall_erase]
      cases matchCall rule.function value with
      | none => rfl
      | some args => simp only [Option.map_some, CallArguments.erase, extract_erase]
  | _ => rfl

theorem exported_erase (item : Stmt) :
    exported (item.erase move) = (exported item).map (Declarator.erase move) := by
  cases item with
  | exporting declared =>
    cases declared with
    | vars kind ds =>
      simp only [Stmt.erase, exported, eraseDeclarators_eq]
      by_cases hk : kind = .disposable
      · simp only [hk, if_true, List.map_nil]
      · simp only [hk, if_false]
    | _ => rfl
  | _ => rfl

/-- A module without its parentheses declares what the module declares. -/
theorem collect_erase (move : Nat → Nat) (rule : Rule) (file : String) (module : Module) :
    collect rule file (eraseStmts move module) = collect rule file module := by
  unfold collect
  rw [eraseStmts_eq, List.flatMap_map]
  simp only [exported_erase, ← List.map_flatMap, List.filterMap_map]
  exact List.filterMap_congr fun d _ => ofDeclarator_erase rule file d

end

/-- A module without its parentheses has none, and declares what the module declares. So do two modules
that differ in nothing but parentheses and the places of their parts. -/
theorem collect_ignores_parentheses (options : Options) (file : String) (move : Nat → Nat)
    (module : Module) :
    parenFreeStmts (eraseStmts move module) = true ∧
      collect (Scan.rule options) file (eraseStmts move module) =
        collect (Scan.rule options) file module ∧
      ∀ other : Module, eraseStmts move other = eraseStmts move module →
        collect (Scan.rule options) file other = collect (Scan.rule options) file module := by
  refine ⟨parenFree_eraseStmts move module, collect_erase move (Scan.rule options) file module, ?_⟩
  intro other h
  calc collect (Scan.rule options) file other
      _ = collect (Scan.rule options) file (eraseStmts move other) :=
        (collect_erase move _ file other).symm
      _ = collect (Scan.rule options) file (eraseStmts move module) := by rw [h]
      _ = collect (Scan.rule options) file module := collect_erase move _ file module

/-- A declaration in the curried form, with `wrap` around every expression that is looked at. -/
def cartModule (wrap : Expr → Expr) : Module :=
  let name (key : String) : Key := .name 0 (.ident key)
  let text (s : String) : Expr := wrap (.string 0 (some s))
  let icon : Expr := wrap (.object 0 [.keyValue (name "src") (text "/cart.png")] none)
  let config : Expr := wrap (.object 0 [.keyValue (name "name") (text "Cart"),
    .keyValue (name "icons") (wrap (.array 0 [icon] none))] none)
  let callee : Expr := wrap (.call (wrap (.ident 0 "createShortcutRoute")) [text "/cart"])
  [.exporting (.vars .constant [.mk (.ident 0 "cartRoute") (some (wrap (.call callee [config])))])]

/-- What it declares in `cart.ts`. -/
def cartShortcut : Shortcut :=
  ⟨"/cart", { name := "Cart", icons := some [{ src := some "/cart.png" }] }, "cart.ts"⟩

theorem cart_in_parentheses : ∃ options, ({} : Config).resolve = .ok options ∧
    collect (Scan.rule options) "cart.ts" (cartModule fun e => .paren 0 (.paren 0 e)) =
      [cartShortcut] := by
  obtain ⟨options, hresolve, hfunction, haccepts⟩ := default_options
  have hname : options.routeExportPattern.occursIn "cartRoute" = true := haccepts "cart"
  have hplain : collect (Scan.rule options) "cart.ts" (cartModule id) = [cartShortcut] := by
    have hrule : Scan.rule options = ⟨options.routeExportPattern.occursIn, "createShortcutRoute"⟩ := by
      rw [Scan.rule, hfunction]
    simp only [hrule, collect, cartModule, List.flatMap_cons, List.flatMap_nil, exported,
      reduceCtorEq, if_false, List.append_nil, List.filterMap_cons, List.filterMap_nil,
      ofDeclarator, hname, if_true, id_eq]
    rfl
  have hsame : eraseStmts id (cartModule fun e => .paren 0 (.paren 0 e)) =
    eraseStmts id (cartModule id) := rfl
  exact ⟨options, hresolve,
    ((collect_ignores_parentheses options "cart.ts" id (cartModule id)).2.2 _ hsame).trans hplain⟩

end RouteShortcuts.Declaration
