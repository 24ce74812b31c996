/-
  RouteShortcuts.Proofs.Script.Parentheses — trees without their parentheses.

  `erase` takes the parentheses out of a tree, wherever they stand, and moves what is left: a text that
  has no parentheses has its parts in other places. What is left has none (`parenFree_erase`).

  The target of a declarator is a pattern, and patterns have no parentheses of their own: a target that
  is written as `Expr.paren` is no name in parentheses. So one around a whole target stays, and only the
  expressions inside lose theirs.
-/

import RouteShortcuts.Script.Tree

namespace RouteShortcuts.Script

/-! ## Erasure -/

mutual

/-- An expression without its parentheses; `move` says where each part goes. -/
def Expr.erase (move : Nat → Nat) : Expr → Expr
  | .paren _ inner => inner.erase move
  | .ident pos name => .ident (move pos) name
  | .string pos value => .string (move pos) value
  | .literal pos => .literal (move pos)
  | .privateName pos name => .privateName (move pos) name
  | .metaProperty pos => .metaProperty (move pos)
  | .base pos => .base (move pos)
  | .importer pos => .importer (move pos)
  | .hole pos => .hole (move pos)
  | .invalid pos => .invalid (move pos)
  | .spread pos inner => .spread (move pos) (inner.erase move)
  | .array pos elements trailing => .array (move pos) (eraseExprs move elements) (trailing.map move)
  | .object pos properties trailing =>
    .object (move pos) (eraseProperties move properties) (trailing.map move)
  | .sequence parts => .sequence (eraseExprs move parts)
  | .call callee args => .call (callee.erase move) (eraseExprs move args)
  | .construct pos callee args => .construct (move pos) (callee.erase move) (eraseExprs move args)
  | .member object key => .member (object.erase move) (key.erase move)
  | .chainMember object key => .chainMember (object.erase move) (key.erase move)
  | .chainCall callee args => .chainCall (callee.erase move) (eraseExprs move args)
  | .unary pos op operand => .unary (move pos) op (operand.erase move)
  | .update pos operand => .update (move pos) (operand.erase move)
  | .binary op left right => .binary op (left.erase move) (right.erase move)
  | .assign plain target value => .assign plain (target.erase move) (value.erase move)
  | .conditional test yes no => .conditional (test.erase move) (yes.erase move) (no.erase move)
  | .yield pos value => .yield (move pos) (eraseExprs move value)
  | .await pos value => .await (move pos) (value.erase move)
  | .template pos parts => .template (move pos) (eraseExprs move parts)
  | .tagged tag parts => .tagged (tag.erase move) (eraseExprs move parts)
  | .function pos params body => .function (move pos) (eraseExprs move params) (eraseStmts move body)
  | .arrow pos params body => .arrow (move pos) (eraseExprs move params) (eraseStmts move body)
  | .classExpr pos extending members =>
    .classExpr (move pos) (eraseExprs move extending) (eraseProperties move members)
  | .typed pos use inner => .typed (move pos) use (inner.erase move)
  | .markup pos parts => .markup (move pos) (eraseExprs move parts)

def Key.erase (move : Nat → Nat) : Key → Key
  | .name pos value => .name (move pos) value
  | .computed pos value => .computed (move pos) (value.erase move)

def Property.erase (move : Nat → Nat) : Property → Property
  | .keyValue key value => .keyValue (key.erase move) (value.erase move)
  | .shorthand pos name => .shorthand (move pos) name
  | .withDefault pos name value => .withDefault (move pos) name (value.erase move)
  | .method kind key params body =>
    .method kind (key.erase move) (eraseExprs move params) (eraseStmts move body)
  | .spread pos value => .spread (move pos) (value.erase move)
  | .field key value => .field (key.erase move) (eraseExprs move value)
  | .initializer body => .initializer (eraseStmts move body)

def Declarator.erase (move : Nat → Nat) : Declarator → Declarator
  | .mk (.paren pos target) value => .mk (.paren (move pos) (target.erase move)) (eraseValue move value)
  | .mk target value => .mk (target.erase move) (eraseValue move value)

def Stmt.erase (move : Nat → Nat) : Stmt → Stmt
  | .expr value => .expr (value.erase move)
  | .vars kind declarators => .vars kind (eraseDeclarators move declarators)
  | .declaration value => .declaration (value.erase move)
  | .control parts body => .control (eraseExprs move parts) (eraseStmts move body)
  | .enumeration name values => .enumeration name (eraseExprs move values)
  | .namespace items => .namespace (eraseStmts move items)
  | .typeOnly => .typeOnly
  | .importing => .importing
  | .exporting declared => .exporting (declared.erase move)
  | .exportDefault declared => .exportDefault (declared.erase move)
  | .exportNames => .exportNames

def eraseValue (move : Nat → Nat) : Option Expr → Option Expr
  | none => none
  | some e => some (e.erase move)

def eraseExprs (move : Nat → Nat) : List Expr → List Expr
  | [] => []
  | e :: rest => e.erase move :: eraseExprs move rest

def eraseProperties (move : Nat → Nat) : List Property → List Property
  | [] => []
  | p :: rest => p.erase move :: eraseProperties move rest

def eraseDeclarators (move : Nat → Nat) : List Declarator → List Declarator
  | [] => []
  | d :: rest => d.erase move :: eraseDeclarators move rest

/-- The items of a module, or of a block, without their parentheses. -/
def eraseStmts (move : Nat → Nat) : List Stmt → List Stmt
  | [] => []
  | item :: rest => item.erase move :: eraseStmts move rest

end

theorem eraseExprs_eq (move : Nat → Nat) (es : List Expr) :
    eraseExprs move es = es.map (Expr.erase move) := by
  induction es with
  | nil => rfl
  | cons e es ih => rw [eraseExprs, ih, List.map_cons]

theorem eraseProperties_eq (move : Nat → Nat) (ps : List Property) :
    eraseProperties move ps = ps.map (Property.erase move) := by
  induction ps with
  | nil => rfl
  | cons p ps ih => rw [eraseProperties, ih, List.map_cons]

theorem eraseDeclarators_eq (move : Nat → Nat) (ds : List Declarator) :
    eraseDeclarators move ds = ds.map (Declarator.erase move) := by
  induction ds with
  | nil => rfl
  | cons d ds ih => rw [eraseDeclarators, ih, List.map_cons]

theorem eraseStmts_eq (move : Nat → Nat) (items : List Stmt) :
    eraseStmts move items = items.map (Stmt.erase move) := by
  induction items with
  | nil => rfl
  | cons item items ih => rw [eraseStmts, ih, List.map_cons]

/-! ## Trees without parentheses -/

mutual

/-- No part of an expression stands in parentheses. -/
def Expr.parenFree : Expr → Bool
  | .paren .. => false
  | .ident .. | .string .. | .literal .. | .privateName .. | .metaProperty .. | .base
    .. | .importer .. | .hole ..
  | .invalid .. => true
  | .spread _ e | .unary _ _ e | .update _ e | .await _ e | .typed _ _ e => e.parenFree
  | .array _ es _ | .sequence es | .yield _ es | .template _ es | .markup _ es => parenFreeExprs es
  | .object _ ps _ => parenFreeProperties ps
  | .call e es | .construct _ e es | .chainCall e es | .tagged e es => e.parenFree && parenFreeExprs es
  | .member e key | .chainMember e key => e.parenFree && key.parenFree
  | .binary _ e e' | .assign _ e e' => e.parenFree && e'.parenFree
  | .conditional test yes no => test.parenFree && yes.parenFree && no.parenFree
  | .function _ es body | .arrow _ es body => parenFreeExprs es && parenFreeStmts body
  | .classExpr _ es ps => parenFreeExprs es && parenFreeProperties ps

def Key.parenFree : Key → Bool
  | .name .. => true
  | .computed _ e => e.parenFree

def Property.parenFree : Property → Bool
  | .shorthand .. => true
  | .keyValue key e => key.parenFree && e.parenFree
  | .withDefault _ _ e | .spread _ e => e.parenFree
  | .method _ key es body => key.parenFree && parenFreeExprs es && parenFreeStmts body
  | .field key es => key.parenFree && parenFreeExprs es
  | .initializer body => parenFreeStmts body

/-- Parentheses around a whole target are not those of an expression. -/
def Declarator.parenFree : Declarator → Bool
  | .mk (.paren _ target) value => target.parenFree && parenFreeValue value
  | .mk target value => target.parenFree && parenFreeValue value

def Stmt.parenFree : Stmt → Bool
  | .typeOnly | .importing | .exportNames => true
  | .expr e | .declaration e => e.parenFree
  | .vars _ ds => parenFreeDeclarators ds
  | .control es body => parenFreeExprs es && parenFreeStmts body
  | .enumeration _ es => parenFreeExprs es
  | .namespace items => parenFreeStmts items
  | .exporting item | .exportDefault item => item.parenFree

def parenFreeValue : Option Expr → Bool
  | none => true
  | some e => e.parenFree

def parenFreeExprs : List Expr → Bool
  | [] => true
  | e :: rest => e.parenFree && parenFreeExprs rest

def parenFreeProperties : List Property → Bool
  | [] => true
  | p :: rest => p.parenFree && parenFreeProperties rest

def parenFreeDeclarators : List Declarator → Bool
  | [] => true
  | d :: rest => d.parenFree && parenFreeDeclarators rest

def parenFreeStmts : List Stmt → Bool
  | [] => true
  | item :: rest => item.parenFree && parenFreeStmts rest

end

theorem Declarator.parenFree_mk {target : Expr} {value : Option Expr} (ht : target.parenFree = true)
    (hv : parenFreeValue value = true) : (Declarator.mk target value).parenFree = true := by
  cases target with
  | paren pos inner => cases ht
  | _ => exact Bool.and_eq_true_iff.mpr ⟨ht, hv⟩

section

variable (move : Nat → Nat)

mutual

/-- Nothing is left in parentheses. -/
theorem Expr.parenFree_erase : (e : Expr) → (e.erase move).parenFree = true
  | .paren _ e => e.parenFree_erase
  | .ident .. | .string .. | .literal .. | .privateName .. | .metaProperty .. | .base
    .. | .importer .. | .hole ..
  | .invalid .. => rfl
  | .spread _ e | .unary _ _ e | .update _ e | .await _ e | .typed _ _ e => e.parenFree_erase
  | .array _ es _ | .sequence es | .yield _ es | .template _ es | .markup _ es =>
    parenFree_eraseExprs es
  | .object _ ps _ => parenFree_eraseProperties ps
  | .call e es | .construct _ e es | .chainCall e es | .tagged e es =>
    Bool.and_eq_true_iff.mpr ⟨e.parenFree_erase, parenFree_eraseExprs es⟩
  | .member e key | .chainMember e key =>
    Bool.and_eq_true_iff.mpr ⟨e.parenFree_erase, key.parenFree_erase⟩
  | .binary _ e e' | .assign _ e e' => Bool.and_eq_true_iff.mpr ⟨e.parenFree_erase, e'.parenFree_erase⟩
  | .conditional test yes no =>
    Bool.and_eq_true_iff.mpr ⟨Bool.and_eq_true_iff.mpr ⟨test.parenFree_erase, yes.parenFree_erase⟩,
      no.parenFree_erase⟩
  | .function _ es body | .arrow _ es body =>
    Bool.and_eq_true_iff.mpr ⟨parenFree_eraseExprs es, parenFree_eraseStmts body⟩
  | .classExpr _ es ps =>
    Bool.and_eq_true_iff.mpr ⟨parenFree_eraseExprs es, parenFree_eraseProperties ps⟩

theorem Key.parenFree_erase : (key : Key) → (key.erase move).parenFree = true
  | .name .. => rfl
  | .computed _ e => e.parenFree_erase

theorem Property.parenFree_erase : (p : Property) → (p.erase move).parenFree = true
  | .shorthand .. => rfl
  | .keyValue key e => Bool.and_eq_true_iff.mpr ⟨key.parenFree_erase, e.parenFree_erase⟩
  | .withDefault _ _ e | .spread _ e => e.parenFree_erase
  | .method _ key es body => Bool.and_eq_true_iff.mpr
      ⟨Bool.and_eq_true_iff.mpr ⟨key.parenFree_erase, parenFree_eraseExprs es⟩,
        parenFree_eraseStmts body⟩
  | .field key es => Bool.and_eq_true_iff.mpr ⟨key.parenFree_erase, parenFree_eraseExprs es⟩
  | .initializer body => parenFree_eraseStmts body

theorem Declarator.parenFree_erase : (d : Declarator) → (d.erase move).parenFree = true
  | .mk target value => by
    have ht : (target.erase move).parenFree = true := target.parenFree_erase
    have hv : parenFreeValue (eraseValue move value) = true := parenFree_eraseValue value
    cases target with
    | paren pos inner => exact Bool.and_eq_true_iff.mpr ⟨ht, hv⟩
    | _ => exact Declarator.parenFree_mk ht hv

theorem Stmt.parenFree_erase : (item : Stmt) → (item.erase move).parenFree = true
  | .typeOnly | .importing | .exportNames => rfl
  | .expr e | .declaration e => e.parenFree_erase
  | .vars _ ds => parenFree_eraseDeclarators ds
  | .control es body => Bool.and_eq_true_iff.mpr ⟨parenFree_eraseExprs es, parenFree_eraseStmts body⟩
  | .enumeration _ es => parenFree_eraseExprs es
  | .namespace items => parenFree_eraseStmts items
  | .exporting item | .exportDefault item => item.parenFree_erase

theorem parenFree_eraseValue : (value : Option Expr) → parenFreeValue (eraseValue move value) = true
  | none => rfl
  | some e => e.parenFree_erase

theorem parenFree_eraseExprs : (es : List Expr) → parenFreeExprs (eraseExprs move es) = true
  | [] => rfl
  | e :: es => Bool.and_eq_true_iff.mpr ⟨e.parenFree_erase, parenFree_eraseExprs es⟩

theorem parenFree_eraseProperties :
    (ps : List Property) → parenFreeProperties (eraseProperties move ps) = true
  | [] => rfl
  | p :: ps => Bool.and_eq_true_iff.mpr ⟨p.parenFree_erase, parenFree_eraseProperties ps⟩

theorem parenFree_eraseDeclarators :
    (ds : List Declarator) → parenFreeDeclarators (eraseDeclarators move ds) = true
  | [] => rfl
  | d :: ds => Bool.and_eq_true_iff.mpr ⟨d.parenFree_erase, parenFree_eraseDeclarators ds⟩

theorem parenFree_eraseStmts : (items : List Stmt) → parenFreeStmts (eraseStmts move items) = true
  | [] => rfl
  | item :: items => Bool.and_eq_true_iff.mpr ⟨item.parenFree_erase, parenFree_eraseStmts items⟩

end

end

/-! ## The expression inside parentheses -/

/-- Erasure passes over the parentheses around an expression. -/
theorem Expr.erase_unparen (move : Nat → Nat) : (e : Expr) → e.unparen.erase move = e.erase move
  | .paren _ e => e.erase_unparen move
  | .ident .. | .string .. | .literal .. | .privateName .. | .metaProperty .. | .base .. | .importer ..
  | .hole .. | .invalid .. | .spread .. | .array .. | .object .. | .sequence .. | .call
    .. | .construct ..
  | .member .. | .chainMember .. | .chainCall .. | .unary .. | .update .. | .binary .. | .assign ..
  | .conditional .. | .yield .. | .await .. | .template .. | .tagged .. | .function .. | .arrow ..
  | .classExpr .. | .typed .. | .markup .. => rfl

theorem Expr.unparen_of_parenFree {e : Expr} (h : e.parenFree = true) : e.unparen = e := by
  cases e with
  | paren pos inner => cases h
  | _ => rfl

/-- Looking inside the parentheses and erasing all of them agree. -/
theorem Expr.unparen_erase (move : Nat → Nat) (e : Expr) :
    (e.erase move).unparen = e.unparen.erase move := by
  rw [unparen_of_parenFree (parenFree_erase move e), erase_unparen]

end RouteShortcuts.Script
