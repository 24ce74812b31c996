/-
  RouteShortcuts.Proofs.Declaration.Meaning — what a module declares, said without the search for it.

  Parentheses say nothing (`Wraps`). A call declares a shortcut in one of two shapes (`ShortcutCall`);
  its path is a text that is not empty (`PathArgument`), and its configuration an object literal whose
  last `name` is one (`ConfigArgument`, `Says`). Of a key that is given more than once the last literal
  counts; whatever is no literal counts as if it were not there (`LastText`, `LastIcons`).

  Proved: each step of the search finds what these relations say and nothing else, down to
  `collect_iff`: what is collected of a module is what its exported variables declare, in the order of
  the text, one shortcut for each variable that declares one.
-/

import RouteShortcuts.Declaration
import RouteShortcuts.Scan

namespace RouteShortcuts.Declaration

open RouteShortcuts.Script

/-! ## Parentheses -/

/-- An expression that is `bare` in any number of parentheses. -/
inductive Wraps (bare : Expr) : Expr → Prop
  | none : (∀ pos inner, bare ≠ .paren pos inner) → Wraps bare bare
  | paren (pos : Nat) {e : Expr} : Wraps bare e → Wraps bare (.paren pos e)

theorem unparen_of_not_paren {e : Expr} (h : ∀ pos inner, e ≠ .paren pos inner) : e.unparen = e := by
  cases e with
  | paren pos inner => exact absurd rfl (h pos inner)
  | _ => rfl

theorem wraps_unparen : ∀ e : Expr, Wraps e.unparen e
  | .paren pos e => .paren pos (wraps_unparen e)
  | .ident .. | .string .. | .literal .. | .privateName .. | .metaProperty .. | .base .. | .importer ..
  | .hole .. | .invalid .. | .spread .. | .array .. | .object .. | .sequence .. | .call
    .. | .construct ..
  | .member .. | .chainMember .. | .chainCall .. | .unary .. | .update .. | .binary .. | .assign ..
  | .conditional .. | .yield .. | .await .. | .template .. | .tagged .. | .function .. | .arrow ..
  | .classExpr .. | .typed .. | .markup .. => .none (fun _ _ h => by cases h)

theorem wraps_iff {bare e : Expr} : Wraps bare e ↔ e.unparen = bare := by
  constructor
  · intro h
    induction h with
    | none hbare => exact unparen_of_not_paren hbare
    | paren pos _ ih => exact ih
  · rintro rfl
    exact wraps_unparen e

theorem Wraps.ne_paren {bare e : Expr} (h : Wraps bare e) : ∀ pos inner, bare ≠ .paren pos inner := by
  induction h with
  | none hbare => exact hbare
  | paren _ _ ih => exact ih

theorem unparen_ne_paren (e : Expr) (pos : Nat) (inner : Expr) : e.unparen ≠ .paren pos inner :=
  (wraps_unparen e).ne_paren pos inner

theorem unparen_unparen (e : Expr) :
    e.unparen.unparen = e.unparen := unparen_of_not_paren (unparen_ne_paren e)

/-! ## Calls -/

/-- A call of the bare name `function`. -/
def CallsByName (function : String) (e : Expr) (args : List Expr) : Prop :=
  ∃ callee pos, Wraps (.call callee args) e ∧ Wraps (.ident pos function) callee

/-- A call in one of the two shapes, with its two arguments; either may be missing. -/
inductive ShortcutCall (function : String) : Expr → Option Expr → Option Expr → Prop
  /-- `function(path, config)` -/
  | direct {e : Expr} {args : List Expr} :
    CallsByName function e args → ShortcutCall function e args[0]? args[1]?
  /-- `function(path)(config)` -/
  | curried {e callee : Expr} {outer inner : List Expr} : Wraps (.call callee outer) e →
      CallsByName function callee inner → ShortcutCall function e inner[0]? outer[0]?

theorem isNamed_iff {function : String} {callee : Expr} :
    isNamed function callee = true ↔ ∃ pos, Wraps (.ident pos function) callee := by
  simp only [wraps_iff, isNamed]
  cases callee.unparen <;> simp

theorem callsByName_iff {function : String} {e : Expr} {args : List Expr} :
    CallsByName function e args ↔ ∃ callee, e.unparen = .call callee args ∧
      isNamed function callee = true := by
  simp only [CallsByName, isNamed_iff, wraps_iff]
  constructor
  · rintro ⟨callee, pos, he, hc⟩
    exact ⟨callee, he, pos, hc⟩
  · rintro ⟨callee, he, pos, hc⟩
    exact ⟨callee, pos, he, hc⟩

theorem matchCall_of_shortcutCall {function : String} {e : Expr} {path config : Option Expr}
    (h : ShortcutCall function e path config) : matchCall function e = some ⟨path, config⟩ := by
  cases h with
  | direct h =>
    obtain ⟨callee, he, hn⟩ := callsByName_iff.mp h
    simp only [matchCall, he, hn, if_true]
  | @curried callee outer inner he h =>
    obtain ⟨innermost, hc, hn⟩ := callsByName_iff.mp h
    -- what is called is a call, so it is no bare name
    have hno : isNamed function callee = false := by simp only [isNamed, hc]
    simp only [matchCall, wraps_iff.mp he, hno, hc, hn, if_true, Bool.false_eq_true, if_false]

theorem matchCall_iff {function : String} {e : Expr} {path config : Option Expr} :
    matchCall function e = some ⟨path, config⟩ ↔ ShortcutCall function e path config := by
  refine ⟨fun h => ?_, matchCall_of_shortcutCall⟩
  unfold matchCall at h
  split at h
  · rename_i callee args he
    split at h
    · rename_i hn
      cases h
      exact .direct (callsByName_iff.mpr ⟨callee, he, hn⟩)
    · split at h
      · rename_i inner innerArgs hc
        split at h
        · rename_i hn
          cases h
          exact .curried (wraps_iff.mpr he) (callsByName_iff.mpr ⟨inner, hc, hn⟩)
        · cases h
      · cases h
  · cases h

/-! ## Literals -/

def IsSpread (e : Expr) : Prop := ∃ pos inner, e = .spread pos inner

/-- An argument or an element that stands for itself, and is `bare` without its parentheses. -/
def Plain (given : Option Expr) (bare : Expr) : Prop :=
  ∃ e, given = some e ∧ ¬ IsSpread e ∧ Wraps bare e

/-- A string literal with this text. One with unpaired surrogates has none. -/
def IsText (s : String) (e : Expr) : Prop := ∃ pos, Wraps (.string pos (some s)) e

theorem isSpread_iff {e : Expr} : isSpread e = true ↔ IsSpread e := by
  cases e <;> simp [isSpread, IsSpread]

theorem plain?_iff {given : Option Expr} {bare : Expr} :
    plain? given = some bare ↔ Plain given bare := by
  cases given with
  | none => simp [plain?, Plain]
  | some e =>
    simp only [plain?, Plain, Option.some.injEq, exists_eq_left', ← isSpread_iff, wraps_iff]
    cases isSpread e <;> simp

theorem stringLiteral?_iff {e : Expr} {s : String} : stringLiteral? e = some s ↔ IsText s e := by
  simp only [IsText, wraps_iff, stringLiteral?]
  cases e.unparen <;> simp

/-- The path is a text that is not empty. -/
structure PathArgument (given : Option Expr) (path : String) : Prop where
  text : ∃ e, Plain given e ∧ IsText path e
  nonempty : path ≠ ""

/-! ## Properties -/

/-- The property `key: value` with a text for a value; the key is a plain name. -/
def SaysText (key s : String) (p : Property) : Prop :=
  ∃ pos value, p = .keyValue (.name pos (.ident key)) value ∧ IsText s value

/-- The text that a key is given last. -/
def LastText (key : String) (ps : List Property) (s : String) : Prop :=
  ∃ before p after, ps = before ++ p :: after ∧ SaysText key s p ∧ ∀ q ∈ after, ∀ t, ¬ SaysText key t q

/-- The value that a folding over a list keeps is the one that its last element with a value has. -/
theorem foldl_or_eq {α β : Type} (f : α → Option β) (l : List α) (start : Option β) :
    l.foldl (fun found x => (f x).or found) start = (l.reverse.findSome? f).or start := by
  induction l generalizing start with
  | nil => rfl
  | cons x l ih =>
    rw [List.foldl_cons, ih, List.reverse_cons, List.findSome?_append, Option.or_assoc]
    simp

theorem last_iff {α β : Type} {f : α → Option β} {l : List α} {b : β} :
    l.foldl (fun found x => (f x).or found) none = some b ↔
      ∃ before x after, l = before ++ x :: after ∧ f x = some b ∧ ∀ y ∈ after, f y = none := by
  rw [foldl_or_eq, Option.or_none, List.findSome?_eq_some_iff]
  constructor
  · rintro ⟨after, x, before, e, hx, hafter⟩
    refine ⟨before.reverse, x, after.reverse, ?_, hx, by simpa using hafter⟩
    simpa using congrArg List.reverse e
  · rintro ⟨before, x, after, rfl, hx, hafter⟩
    exact ⟨after.reverse, x, before.reverse, by simp, hx, by simpa using hafter⟩

/-- What a property says, of those that have a plain name for a key. -/
def valueOf? {α : Type} (key : String) (read : Expr → Option α) (p : Property) : Option α :=
  (namedValue? p).bind fun (name, value) => if name == key then read value else none

theorem valueOf?_iff {α : Type} {key : String} {read : Expr → Option α} {p : Property} {a : α} :
    valueOf? key read p = some a ↔
      ∃ pos value, p = .keyValue (.name pos (.ident key)) value ∧ read value.unparen = some a := by
  constructor
  · intro h
    unfold valueOf? namedValue? at h
    split at h
    · rename_i pos name value
      simp only [Option.bind_some] at h
      split at h
      · rename_i hn
        exact ⟨pos, value, by rw [beq_iff_eq.mp hn], h⟩
      · cases h
    · cases h
  · rintro ⟨pos, value, rfl, h⟩
    simpa [valueOf?, namedValue?] using h

/-- A folding over the named values is one over the properties. -/
theorem foldl_namedValues {α : Type} (key : String) (read : Expr → Option α) (ps : List Property) :
    (namedValues ps).foldl (fun found (name, value) => if name == key then (read value).or found
      else found) none = ps.foldl (fun found p => (valueOf? key read p).or found) none := by
  rw [namedValues, List.foldl_filterMap]
  congr 1
  funext found p
  cases h : namedValue? p with
  | none => simp [valueOf?, h]
  | some named =>
    obtain ⟨name, value⟩ := named
    by_cases hk : name = key <;> simp [valueOf?, h, hk]

/-- The last property with a value for a key. -/
theorem lastValue_iff {α : Type} {key : String} {read : Expr → Option α} {ps : List Property} {a : α} :
    (namedValues ps).foldl (fun found (name, value) => if name == key then (read value).or found
      else found) none = some a ↔
      ∃ before p after, ps = before ++ p :: after ∧ valueOf? key read p = some a ∧ ∀ q ∈ after,
        valueOf? key read q = none := by
  rw [foldl_namedValues, last_iff]

theorem saysText_iff {key s : String} {p : Property} :
    valueOf? key stringLiteral? p = some s ↔ SaysText key s p := by
  rw [valueOf?_iff]
  refine exists_congr fun pos => exists_congr fun value => and_congr_right' ?_
  rw [stringLiteral?_iff]
  simp only [IsText, wraps_iff, unparen_unparen]

theorem lastString_iff {key : String} {ps : List Property} {s : String} :
    lastString key ps = some s ↔ LastText key ps s := by
  unfold lastString
  rw [lastValue_iff]
  simp only [LastText, saysText_iff, Option.eq_none_iff_forall_ne_some, ne_eq]

/-! ## Icons -/

/-- What an object literal says of an icon. -/
structure IconSays (ps : List Property) (i : Icon) : Prop where
  src : ∀ s, i.src = some s ↔ LastText "src" ps s
  sizes : ∀ s, i.sizes = some s ↔ LastText "sizes" ps s
  type : ∀ s, i.type = some s ↔ LastText "type" ps s
  purpose : ∀ s, i.purpose = some s ↔ LastText "purpose" ps s

/-- An element of a list of icons that gives one. -/
def GivesIcon (e : Expr) (i : Icon) : Prop :=
  ∃ pos ps trailing, Plain (some e) (.object pos ps trailing) ∧ IconSays ps i

/-- The icons that the elements of a list give, in order; elements that give none are passed over. -/
inductive Icons : List Expr → List Icon → Prop
  | nil : Icons [] []
  | gives {e : Expr} {i : Icon} {es : List Expr} {is : List Icon} : GivesIcon e i → Icons es is →
    Icons (e :: es) (i :: is)
  | passed {e : Expr} {es : List Expr} {is : List Icon} : (∀ i, ¬ GivesIcon e i) → Icons es is →
    Icons (e :: es) is

/-- The property `icons` with an array literal for a value. -/
def SaysIcons (is : List Icon) (p : Property) : Prop :=
  ∃ pos value at_ elements trailing, p = .keyValue (.name pos (.ident "icons")) value ∧
    Wraps (.array at_ elements trailing) value ∧ Icons elements is

/-- The icons of the last `icons` that is an array literal. -/
def LastIcons (ps : List Property) (is : List Icon) : Prop :=
  ∃ before p after, ps = before ++ p :: after ∧ SaysIcons is p ∧ ∀ q ∈ after, ∀ js, ¬ SaysIcons js q

theorem iconSays_iff {ps : List Property} {i : Icon} : IconSays ps i ↔ icon ps = i := by
  constructor
  · intro h
    obtain ⟨src, sizes, type, purpose⟩ := i
    simp only [icon, Icon.mk.injEq]
    exact ⟨Option.ext fun s => lastString_iff.trans (h.src s).symm, Option.ext fun s =>
      lastString_iff.trans (h.sizes s).symm, Option.ext fun s => lastString_iff.trans
      (h.type s).symm, Option.ext fun s => lastString_iff.trans (h.purpose s).symm⟩
  · rintro rfl
    exact ⟨fun s => lastString_iff, fun s => lastString_iff, fun s => lastString_iff,
      fun s => lastString_iff⟩

theorem icon?_iff {e : Expr} {i : Icon} : icon? e = some i ↔ GivesIcon e i := by
  simp only [GivesIcon, ← plain?_iff, iconSays_iff, icon?]
  constructor
  · intro h
    split at h
    · rename_i pos ps trailing hp
      exact ⟨pos, ps, trailing, hp, Option.some.inj h⟩
    · cases h
  · rintro ⟨pos, ps, trailing, hp, rfl⟩
    simp only [hp]

theorem icons_iff {es : List Expr} : ∀ {is : List Icon}, Icons es is ↔ icons es = is := by
  induction es with
  | nil =>
    intro is
    exact ⟨fun h => by cases h; rfl, fun h => by cases h; exact .nil⟩
  | cons e es ih =>
    intro is
    simp only [icons, List.filterMap_cons]
    constructor
    · rintro (_ | ⟨hi, h⟩ | ⟨hno, h⟩)
      · rw [icon?_iff.mpr hi]
        exact congrArg _ (ih.mp h)
      · rw [Option.eq_none_iff_forall_ne_some.mpr fun i hi => hno i (icon?_iff.mp hi)]
        exact ih.mp h
    · cases hi : icon? e with
      | none =>
        intro h
        refine .passed (fun i hg => ?_) (ih.mpr h)
        rw [icon?_iff.mpr hg] at hi
        cases hi
      | some i =>
        rintro rfl
        exact .gives (icon?_iff.mp hi) (ih.mpr rfl)

/-- The icons of an array literal. -/
def readIcons : Expr → Option (List Icon)
  | .array _ elements _ => some (icons elements)
  | _ => none

theorem saysIcons_iff {is : List Icon} {p : Property} :
    valueOf? "icons" readIcons p = some is ↔ SaysIcons is p := by
  rw [valueOf?_iff]
  refine exists_congr fun pos => exists_congr fun value => ?_
  simp only [wraps_iff, icons_iff]
  constructor
  · rintro ⟨hp, h⟩
    unfold readIcons at h
    split at h
    · rename_i at_ elements trailing hv
      exact ⟨at_, elements, trailing, hp, hv, Option.some.inj h⟩
    · cases h
  · rintro ⟨at_, elements, trailing, hp, hv, rfl⟩
    exact ⟨hp, by simp only [hv, readIcons]⟩

theorem lastIcons_eq_foldl (ps : List Property) : lastIcons ps = (namedValues ps).foldl
    (fun found (name, value) => if name == "icons" then (readIcons value).or found
      else found) none := by
  unfold lastIcons
  congr 1
  funext found named
  obtain ⟨name, value⟩ := named
  dsimp only
  cases name == "icons" with
  | false => rfl
  | true => cases value <;> rfl

theorem lastIcons_iff {ps : List Property} {is : List Icon} :
    lastIcons ps = some is ↔ LastIcons ps is := by
  rw [lastIcons_eq_foldl, lastValue_iff]
  simp only [LastIcons, saysIcons_iff, Option.eq_none_iff_forall_ne_some, ne_eq]

/-! ## Configurations -/

/-- What an object literal says of a shortcut. -/
structure Says (ps : List Property) (d : Details) : Prop where
  name : LastText "name" ps d.name
  named : d.name ≠ ""
  shortName : ∀ s, d.shortName = some s ↔ LastText "short_name" ps s
  description : ∀ s, d.description = some s ↔ LastText "description" ps s
  icons : ∀ is, d.icons = some is ↔ LastIcons ps is

/-- The configuration is an object literal that says this. -/
def ConfigArgument (given : Option Expr) (d : Details) : Prop :=
  ∃ pos ps trailing, Plain given (.object pos ps trailing) ∧ Says ps d

theorem details?_iff {ps : List Property} {d : Details} : details? ps = some d ↔ Says ps d := by
  unfold details?
  constructor
  · intro h
    split at h
    · cases h
    · rename_i name hname
      split at h
      · cases h
      · rename_i hne
        cases h
        exact ⟨lastString_iff.mp hname, hne, fun s => lastString_iff, fun s => lastString_iff,
          fun is => lastIcons_iff⟩
  · intro h
    obtain ⟨name, shortName, description, icons⟩ := d
    have hshort : shortName = lastString "short_name" ps := Option.ext fun s =>
      (h.shortName s).trans lastString_iff.symm
    have hdesc : description = lastString "description" ps := Option.ext fun s =>
      (h.description s).trans lastString_iff.symm
    have hicons : icons = lastIcons ps := Option.ext fun is => (h.icons is).trans lastIcons_iff.symm
    subst hshort hdesc hicons
    have hne : name ≠ "" := h.named
    simp only [lastString_iff.mpr h.name, hne, if_false]

theorem path_iff {given : Option Expr} {path : String} :
    (plain? given).bind stringLiteral? = some path ∧ path ≠ "" ↔ PathArgument given path := by
  simp only [Option.bind_eq_some_iff, plain?_iff, stringLiteral?_iff]
  exact ⟨fun h => ⟨h.1, h.2⟩, fun h => ⟨h.text, h.nonempty⟩⟩

theorem config_iff {given : Option Expr} {d : Details} :
    (∃ pos ps trailing, plain? given = some (.object pos ps trailing) ∧ details? ps = some d) ↔
    ConfigArgument given d := by
  simp only [ConfigArgument, plain?_iff, details?_iff]

theorem extract_iff {path config : Option Expr} {p : String} {d : Details} :
    extract path config = some (p, d) ↔ PathArgument path p ∧ ConfigArgument config d := by
  rw [← path_iff, ← config_iff]
  unfold extract
  constructor
  · intro h
    split at h
    · rename_i pos ps trailing hc
      split at h
      · cases h
      · rename_i details hd
        split at h
        · cases h
        · rename_i text ht
          split at h
          · cases h
          · rename_i hne
            cases h
            exact ⟨⟨ht, hne⟩, pos, ps, trailing, hc, hd⟩
    · cases h
  · rintro ⟨⟨ht, hne⟩, pos, ps, trailing, hc, hd⟩
    simp only [hc, hd, ht, hne, if_false]

/-! ## Modules -/

section

variable (options : Options) (file : String)

/-- A variable that declares a shortcut: a plain name that the export pattern matches, with a call for
its value. -/
def Declares (d : Declarator) (s : Shortcut) : Prop :=
  ∃ pos name value path config, d = .mk (.ident pos name) (some value) ∧
    options.routeExportPattern.occursIn name = true ∧
    ShortcutCall options.functionName value path config ∧
    PathArgument path s.path ∧ ConfigArgument config s.details ∧ s.file = file

/-- The shortcuts that variables declare, in order; those that declare none are passed over. -/
inductive Declared : List Declarator → List Shortcut → Prop
  | nil : Declared [] []
  | declares {d : Declarator} {s : Shortcut} {ds : List Declarator} {ss : List Shortcut} :
      Declares options file d s → Declared ds ss → Declared (d :: ds) (s :: ss)
  | passed {d : Declarator} {ds : List Declarator} {ss : List Shortcut} :
      (∀ s, ¬ Declares options file d s) → Declared ds ss → Declared (d :: ds) ss

/-- An item that exports variables by declaring them with `const`, `let` or `var`. -/
def ExportsVariables (item : Stmt) (ds : List Declarator) : Prop :=
  ∃ kind, kind ≠ .disposable ∧ item = .exporting (.vars kind ds)

/-- The shortcuts of a module, item by item. Items that export no variables give none, whatever they
hold. -/
inductive Gives : Module → List Shortcut → Prop
  | nil : Gives [] []
  | exports {item : Stmt} {ds : List Declarator} {ss : List Shortcut} {items : Module}
    {rest : List Shortcut} :
      ExportsVariables item ds → Declared options file ds ss → Gives items rest →
        Gives (item :: items) (ss ++ rest)
  | other {item : Stmt} {items : Module} {rest : List Shortcut} :
      (∀ ds, ¬ ExportsVariables item ds) → Gives items rest → Gives (item :: items) rest

variable {options file}

theorem ofDeclarator_iff {d : Declarator} {s : Shortcut} :
    ofDeclarator (Scan.rule options) file d = some s ↔ Declares options file d s := by
  constructor
  · intro h
    unfold ofDeclarator at h
    split at h
    · rename_i pos name value
      split at h
      · rename_i ha
        split at h
        · cases h
        · rename_i args hm
          split at h
          · cases h
          · rename_i path details he
            cases h
            obtain ⟨hp, hc⟩ := extract_iff.mp he
            exact ⟨pos, name, value, args.path, args.config, rfl, ha, matchCall_iff.mp hm, hp, hc, rfl⟩
      · cases h
    · cases h
  · rintro ⟨pos, name, value, path, config, rfl, ha, hm, hp, hc, rfl⟩
    have hm' := matchCall_iff.mpr hm
    have he := extract_iff.mpr ⟨hp, hc⟩
    simp only [ofDeclarator, Scan.rule, ha, hm', he, if_true]

theorem declared_iff {ds : List Declarator} : ∀ {ss : List Shortcut},
    Declared options file ds ss ↔ ds.filterMap (ofDeclarator (Scan.rule options) file) = ss := by
  induction ds with
  | nil =>
    intro ss
    exact ⟨fun h => by cases h; rfl, fun h => by cases h; exact .nil⟩
  | cons d ds ih =>
    intro ss
    rw [List.filterMap_cons]
    constructor
    · rintro (_ | ⟨hs, h⟩ | ⟨hno, h⟩)
      · rw [ofDeclarator_iff.mpr hs]
        exact congrArg _ (ih.mp h)
      · rw [Option.eq_none_iff_forall_ne_some.mpr fun s hs => hno s (ofDeclarator_iff.mp hs)]
        exact ih.mp h
    · cases hs : ofDeclarator (Scan.rule options) file d with
      | none =>
        intro h
        refine .passed (fun s hd => ?_) (ih.mpr h)
        rw [ofDeclarator_iff.mpr hd] at hs
        cases hs
      | some s =>
        rintro rfl
        exact .declares (ofDeclarator_iff.mp hs) (ih.mpr rfl)

theorem exported_of_exportsVariables {item : Stmt} {ds : List Declarator}
    (h : ExportsVariables item ds) : exported item = ds := by
  obtain ⟨kind, hk, rfl⟩ := h
  simp only [exported, hk, if_false]

theorem exported_of_other {item : Stmt} (h : ∀ ds, ¬ ExportsVariables item ds) :
    exported item = [] := by
  unfold exported
  split
  · rename_i kind ds
    by_cases hk : kind = .disposable
    · simp only [hk, if_true]
    · exact absurd ⟨kind, hk, rfl⟩ (h ds)
  · rfl

theorem collect_cons (item : Stmt) (items : Module) : collect (Scan.rule options) file (item :: items) =
    (exported item).filterMap (ofDeclarator (Scan.rule options) file) ++
      collect (Scan.rule options) file items := by
  simp only [collect, List.flatMap_cons, List.filterMap_append]

theorem collect_of_gives {module : Module} {ss : List Shortcut} (h : Gives options file module ss) :
    collect (Scan.rule options) file module = ss := by
  induction h with
  | nil => rfl
  | exports he hd _ ih => rw [collect_cons, exported_of_exportsVariables he, declared_iff.mp hd, ih]
  | other hno _ ih => rw [collect_cons, exported_of_other hno, ih]; rfl

theorem gives_collect (module : Module) :
    Gives options file module (collect (Scan.rule options) file module) := by
  induction module with
  | nil => exact .nil
  | cons item items ih =>
    rw [collect_cons]
    by_cases h : ∃ ds, ExportsVariables item ds
    · obtain ⟨ds, he⟩ := h
      rw [exported_of_exportsVariables he]
      exact .exports he (declared_iff.mpr rfl) ih
    · have hno : ∀ ds, ¬ ExportsVariables item ds := fun ds he => h ⟨ds, he⟩
      rw [exported_of_other hno]
      exact .other hno ih

end

/-- What is collected of a module is exactly what it gives: item by item and variable by variable,
in the order of the text, one shortcut for each exported variable that declares one, and nothing
else. -/
theorem collect_iff (options : Options) (file : String) (module : Module) (shortcuts : List Shortcut) :
    collect (Scan.rule options) file module = shortcuts ↔ Gives options file module shortcuts := by
  refine ⟨?_, collect_of_gives⟩
  rintro rfl
  exact gives_collect module

end RouteShortcuts.Declaration
