/-
  RouteShortcuts.Declaration — how a module declares shortcuts.

  A shortcut is declared by a variable that is exported at the top level of a module and starts with a
  call of one function, in one of two forms:

    export const cartRoute = createShortcutRoute("/cart")({ name: "Cart" });
    export const cartRoute = createShortcutRoute("/cart", { name: "Cart" });

  Only literals are read. What is no literal is passed over, and a declaration that is left without a
  path or a name declares nothing.
-/

import RouteShortcuts.Shortcut
import RouteShortcuts.Script.Tree

namespace RouteShortcuts.Declaration

open RouteShortcuts.Script

/-- The two arguments of a recognised call, as they were written; either may be missing. -/
structure CallArguments where
  path : Option Expr
  config : Option Expr

/-- Is `callee` the bare name `function`, in parentheses or not? -/
def isNamed (function : String) (callee : Expr) : Bool :=
  match callee.unparen with
  | .ident _ name => name == function
  | _ => false

/-- Recognises `function(path)(config)` and `function(path, config)`. -/
def matchCall (function : String) (value : Expr) : Option CallArguments :=
  match value.unparen with
  | .call callee args =>
    if isNamed function callee then some ⟨args[0]?, args[1]?⟩
    else match callee.unparen with
      | .call inner innerArgs =>
        if isNamed function inner then some ⟨innerArgs[0]?, args[0]?⟩ else none
      | _ => none
  | _ => none

def isSpread : Expr → Bool
  | .spread .. => true
  | _ => false

/-- An argument or an element that stands for itself: neither missing nor spread. -/
def plain? : Option Expr → Option Expr
  | some e => if isSpread e then none else some e.unparen
  | none => none

/-- The text of a string literal, unless it has unpaired surrogates. -/
def stringLiteral? (e : Expr) : Option String :=
  match e.unparen with
  | .string _ value => value
  | _ => none

/-- Keys that are plain names, with their values; all other properties are passed over. -/
def namedValue? : Property → Option (String × Expr)
  | .keyValue (.name _ (.ident name)) value => some (name, value.unparen)
  | _ => none

def namedValues (properties : List Property) : List (String × Expr) :=
  properties.filterMap namedValue?

/-- The string that a key has last; other values of the key do not count. -/
def lastString (key : String) (properties : List Property) : Option String :=
  (namedValues properties).foldl
    (fun found (name, value) => if name == key then (stringLiteral? value).or found else found) none

def icon (properties : List Property) : Icon where
  src := lastString "src" properties
  sizes := lastString "sizes" properties
  type := lastString "type" properties
  purpose := lastString "purpose" properties

/-- An element of the list of icons: an object literal, or nothing. -/
def icon? (e : Expr) : Option Icon :=
  match plain? (some e) with
  | some (.object _ properties _) => some (icon properties)
  | _ => none

def icons (elements : List Expr) : List Icon :=
  elements.filterMap icon?

/-- The icons of the last `icons` that is an array literal. -/
def lastIcons (properties : List Property) : Option (List Icon) :=
  (namedValues properties).foldl
    (fun found (name, value) => match name == "icons", value with
      | true, .array _ elements _ => some (icons elements)
      | _, _ => found) none

/-- What an object literal says about a shortcut, if it gives it a name. -/
def details? (properties : List Property) : Option Details :=
  match lastString "name" properties with
  | none => none
  | some name =>
    if name = "" then none
    else some
      { name, shortName := lastString "short_name" properties,
        description := lastString "description" properties, icons := lastIcons properties }

/-- The path and the details that the arguments of a call declare. -/
def extract (path config : Option Expr) : Option (String × Details) :=
  match plain? config with
  | some (.object _ properties _) =>
    match details? properties with
    | none => none
    | some details =>
      match (plain? path).bind stringLiteral? with
      | none => none
      | some p => if p = "" then none else some (p, details)
  | _ => none

structure Rule where
  /-- Is a variable of this name looked at? -/
  accepts : String → Bool
  /-- The function that is called. -/
  function : String

def ofDeclarator (rule : Rule) (file : String) : Declarator → Option Shortcut
  | .mk (.ident _ name) (some value) =>
    if rule.accepts name then
      match matchCall rule.function value with
      | none => none
      | some args =>
        match extract args.path args.config with
        | none => none
        | some (path, details) => some ⟨path, details, file⟩
    else none
  | _ => none

/-- The declarators of a variable that an item exports by declaring it. -/
def exported : Stmt → List Declarator
  | .exporting (.vars kind declarators) => if kind = .disposable then [] else declarators
  | _ => []

/-- The shortcuts that a module declares, in order. -/
def collect (rule : Rule) (file : String) (module : Module) : List Shortcut :=
  (module.flatMap exported).filterMap (ofDeclarator rule file)

end RouteShortcuts.Declaration
