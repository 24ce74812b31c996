/-
  RouteShortcuts.Proofs.Declaration.Written — files that are written from shortcuts, and read back.

  `source` writes one line for each shortcut, in one of the two forms of a declaration: its path and
  its name, and of the rest what is given. How the characters of a string are spelled is left to a
  `Quoting`, which may be another one on every line.

  Proved: what is written of an icon, of a configuration and of a call is read as an expression that
  says just that (`denotes_icon`, `denotes_details`, `denotes_call`); so a scan with the default
  settings finds in such a file the shortcuts that it was written from, in their order
  (`written_routes_are_found`).
-/

import RouteShortcuts.Proofs.Declaration.Meaning
import RouteShortcuts.Proofs.Pattern.Defaults
import RouteShortcuts.Proofs.Script.Spelling
import Mathlib.Data.List.Forall2

namespace RouteShortcuts.Declaration

open RouteShortcuts.Script

/-! ## Writing -/

/-- A way to write the text between the quotes of a string literal. -/
structure Quoting where
  body : String → String
  spells : ∀ s, Spells (body s).toList s.toList

instance : Inhabited Quoting := ⟨fun s => String.ofList (s.toList.flatMap jsonChar), fun s => by
  rw [String.toList_ofList]
  exact spells_json s.toList⟩

/-- The fields that are given, in order. -/
def given {α : Type} (fields : List (String × Option α)) : List (String × α) :=
  fields.filterMap fun f => f.2.map (f.1, ·)

def iconFields (i : Icon) : List (String × Option String) :=
  [("src", i.src), ("sizes", i.sizes), ("type", i.type), ("purpose", i.purpose)]

/-- What a field of a configuration holds. -/
inductive Content where
  | text (s : String)
  | icons (is : List Icon)

def detailFields (d : Details) : List (String × Option Content) :=
  [("name", some (.text d.name)), ("short_name", d.shortName.map .text),
    ("description", d.description.map .text), ("icons", d.icons.map .icons)]

namespace Quoting

variable (q : Quoting)

def string (s : String) : String := "\"" ++ q.body s ++ "\""

def icon (i : Icon) : String := objectText ((given (iconFields i)).map fun f => (f.1, q.string f.2))

def content : Content → String
  | .text s => q.string s
  | .icons is => arrayText (is.map q.icon)

def details (d : Details) : String :=
  objectText ((given (detailFields d)).map fun f => (f.1, q.content f.2))

end Quoting

/-- The two forms of a declaration. -/
inductive Form where
  | curried
  | direct

/-- How a line is written. -/
structure Style where
  form : Form
  quoting : Quoting

/-- What a declaration can say: neither the path nor the name is empty. -/
structure Route where
  path : String
  details : Details
  path_nonempty : path ≠ ""
  named : details.name ≠ ""

def Route.shortcut (file : String) (r : Route) : Shortcut := ⟨r.path, r.details, file⟩

def Style.call (style : Style) (r : Route) : String :=
  let path := style.quoting.string r.path
  let config := style.quoting.details r.details
  match style.form with
  | .curried => "createShortcutRoute(" ++ path ++ ")(" ++ config ++ ")"
  | .direct => "createShortcutRoute(" ++ path ++ ", " ++ config ++ ")"

/-- The name of the variable on a line. -/
def variableName (i : Nat) : String := "r" ++ toString i ++ "Route"

/-- A file with one line for each shortcut. -/
def source (styles : Nat → Style) (routes : List Route) : String :=
  String.join (routes.zipIdx.map fun line =>
    exportLine (variableName line.2) ((styles line.2).call line.1))

example : source (fun i => ⟨if i = 0 then .curried else .direct, default⟩)
    [⟨"/cart", { name := "Cart" }, by decide, by decide⟩,
      ⟨"/help", { name := "Help", icons := some [{ src := "/h.png", type := "image/png" }] },
        by decide, by decide⟩] =
    "export const r0Route = createShortcutRoute(\"/cart\")(\x7b name: \"Cart\" \x7d);\n" ++
    "export const r1Route = createShortcutRoute(\"/help\", " ++
      "\x7b name: \"Help\", icons: [\x7b src: \"/h.png\", type: \"image/png\" \x7d] \x7d);\n" := by
  decide +kernel

/-! ## Reading objects -/

theorem isKey_given {α : Type} {fields : List (String × Option α)} (h : ∀ f ∈ fields, IsKey f.1) :
    ∀ f ∈ given fields, IsKey f.1 := by
  intro f hf
  obtain ⟨g, hg, hfg⟩ := List.mem_filterMap.mp hf
  obtain ⟨a, _, rfl⟩ := Option.map_eq_some_iff.mp hfg
  exact h g hg

section

variable {α γ : Type} {P : α → Expr → Prop} {read : Expr → Option γ} {value : α → Option γ}
    {ps : List Property}

theorem valueOf?_of_givesKey {k key : String} {a : α} {p : Property}
    (hread : ∀ e, P a e → read e.unparen = value a) (h : GivesKey k (P a) p) :
    valueOf? key read p = if k == key then value a else none := by
  obtain ⟨pos, e, rfl, he⟩ := h
  simp [valueOf?, namedValue?, hread e he]

/-- A key has the value that its field was written from. -/
theorem lastValue_given (key : String) (hread : ∀ a e, P a e → read e.unparen = value a)
    {fields : List (String × Option α)}
    (h : List.Forall₂ (fun f p => GivesKey f.1 (P f.2) p) (given fields) ps) :
    (namedValues ps).foldl (fun found (name, value) => if name == key then (read value).or found
      else found) none =
      fields.foldl (fun found f => if f.1 == key then (f.2.bind value).or found else found) none := by
  rw [foldl_namedValues]
  generalize (none : Option γ) = found
  induction fields generalizing ps found with
  | nil =>
    cases h
    rfl
  | cons f fields ih =>
    obtain ⟨k, a⟩ := f
    cases a with
    | none =>
      rw [List.foldl_cons, ih h]
      simp
    | some a =>
      obtain _ | ⟨hp, h⟩ := h
      rw [List.foldl_cons, List.foldl_cons, ih h, valueOf?_of_givesKey (hread a) hp]
      cases k == key <;> simp

end

theorem stringLiteral?_of_isString (s : String) (e : Expr) (h : IsString s e) :
    stringLiteral? e.unparen = some s := by
  obtain ⟨pos, rfl⟩ := h
  rfl

/-! ## Icons -/

theorem icon_of_fields {i : Icon} {ps : List Property}
    (h : List.Forall₂ (fun f p => GivesKey f.1 (IsString f.2) p) (given (iconFields i)) ps) :
    icon ps = i := by
  have hfield := fun key => lastValue_given key stringLiteral?_of_isString h
  simp only [icon, lastString, hfield]
  simp [iconFields]

section

variable (q : Quoting)

theorem denotes_quoted (s : String) : Denotes (q.string s) (IsString s) := denotes_string (q.spells s)

/-- What is written of an icon is read as an object that says the same. -/
theorem denotes_icon (i : Icon) :
    Denotes (q.icon i) fun e => ∃ pos ps, e = .object pos ps none ∧ icon ps = i := by
  have hkey : ∀ f ∈ iconFields i, IsKey f.1 := by
    simp only [iconFields, List.forall_mem_cons]
    exact ⟨⟨by decide, by decide⟩, ⟨by decide, by decide⟩, ⟨by decide, by decide⟩,
      ⟨by decide, by decide⟩, by simp⟩
  refine (denotes_object (isKey_given hkey) fun f _ => denotes_quoted q f.2).imp ?_
  rintro e ⟨pos, ps, rfl, hps⟩
  exact ⟨pos, ps, rfl, icon_of_fields hps⟩

theorem icons_of_forall₂ {is : List Icon} {es : List Expr}
    (h : List.Forall₂ (fun i e => ∃ pos ps, e = .object pos ps none ∧ icon ps = i) is es) :
    icons es = is := by
  induction h with
  | nil => rfl
  | cons hi _ ih =>
    obtain ⟨pos, ps, rfl, rfl⟩ := hi
    exact congrArg _ ih

/-! ## Configurations -/

/-- An expression that holds what a field does. -/
def Holds : Content → Expr → Prop
  | .text s => IsString s
  | .icons is => fun e => ∃ pos es, e = .array pos es none ∧ icons es = is

def Content.text? : Content → Option String
  | .text s => some s
  | .icons _ => none

def Content.icons? : Content → Option (List Icon)
  | .text _ => none
  | .icons is => some is

theorem stringLiteral?_of_holds (c : Content) (e : Expr) (h : Holds c e) :
    stringLiteral? e.unparen = c.text? := by
  cases c with
  | text s => exact stringLiteral?_of_isString s e h
  | icons is =>
    obtain ⟨pos, es, rfl, _⟩ := h
    rfl

theorem readIcons_of_holds (c : Content) (e : Expr) (h : Holds c e) :
    readIcons e.unparen = c.icons? := by
  cases c with
  | text s =>
    obtain ⟨pos, rfl⟩ := h
    rfl
  | icons is =>
    obtain ⟨pos, es, rfl, rfl⟩ := h
    rfl

theorem denotes_content (c : Content) : Denotes (q.content c) (Holds c) := by
  cases c with
  | text s => exact denotes_quoted q s
  | icons is =>
    refine (denotes_array fun i _ => denotes_icon q i).imp ?_
    rintro e ⟨pos, es, rfl, hes⟩
    exact ⟨pos, es, rfl, icons_of_forall₂ hes⟩

theorem details_of_fields {d : Details} {ps : List Property} (hname : d.name ≠ "")
    (h : List.Forall₂ (fun f p => GivesKey f.1 (Holds f.2) p) (given (detailFields d)) ps) :
    details? ps = some d := by
  have hstring := fun key => lastValue_given key stringLiteral?_of_holds h
  have hicons := lastValue_given "icons" readIcons_of_holds h
  simp only [details?, lastString, lastIcons_eq_foldl, hstring, hicons]
  simp [detailFields, Content.text?, Content.icons?, hname, Option.bind_map, Function.comp_def]

/-- What is written of a configuration is read as an object that says the same. -/
theorem denotes_details {d : Details} (hname : d.name ≠ "") :
    Denotes (q.details d) fun e => ∃ pos ps, e = .object pos ps none ∧ details? ps = some d := by
  have hkey : ∀ f ∈ detailFields d, IsKey f.1 := by
    simp only [detailFields, List.forall_mem_cons]
    exact ⟨⟨by decide, by decide⟩, ⟨by decide, by decide⟩, ⟨by decide, by decide⟩,
      ⟨by decide, by decide⟩, by simp⟩
  refine (denotes_object (isKey_given hkey) fun f _ => denotes_content q f.2).imp ?_
  rintro e ⟨pos, ps, rfl, hps⟩
  exact ⟨pos, ps, rfl, details_of_fields hname hps⟩

/-! ## Calls -/

/-- A call that declares what a route says. -/
def IsCallOf (r : Route) (e : Expr) : Prop :=
  ∃ path config, matchCall "createShortcutRoute" e = some ⟨path, config⟩ ∧
    extract path config = some (r.path, r.details)

theorem isCallOf_of_arguments {r : Route} {e path config : Expr} (hpath : IsString r.path path)
    (hconfig : ∃ pos ps, config = .object pos ps none ∧ details? ps = some r.details)
    (hcall : matchCall "createShortcutRoute" e = some ⟨some path, some config⟩) : IsCallOf r e := by
  obtain ⟨pos, rfl⟩ := hpath
  obtain ⟨_, ps, rfl, hdetails⟩ := hconfig
  refine ⟨_, _, hcall, ?_⟩
  simp [extract, plain?, isSpread, Expr.unparen, stringLiteral?, hdetails, r.path_nonempty]

/-- The texts of the arguments, and what each of them is to be read as. -/
theorem denotes_routeCall (args : List (String × (Expr → Prop)))
    (calls : List (List (String × (Expr → Prop)))) {text : String}
    (h : ∀ b ∈ (args :: calls).flatten, Denotes b.1 b.2)
    (htext : callsText "createShortcutRoute" ((args :: calls).map (·.map Prod.fst)) = text) :
    Denotes text fun e => ∃ pos as, List.Forall₂ (List.Forall₂ fun b => b.2) (args :: calls) as ∧
      e = as.foldl .call (.ident pos "createShortcutRoute") := by
  have hname : IsName "createShortcutRoute" := ⟨by decide, by decide⟩
  rw [← htext]
  exact denotes_calls hname (by decide) fun args' ha b hb => h b (List.mem_flatten.mpr ⟨args', ha, hb⟩)

theorem denotes_call (style : Style) (r : Route) : Denotes (style.call r) (IsCallOf r) := by
  -- the arguments are of two kinds, so each comes with what is to be read of it
  let path : String × (Expr → Prop) := (style.quoting.string r.path, IsString r.path)
  let config : String × (Expr → Prop) := (style.quoting.details r.details, fun e =>
    ∃ pos ps, e = .object pos ps none ∧ details? ps = some r.details)
  have hargs : ∀ b ∈ [path, config], Denotes b.1 b.2 := by
    simp only [List.forall_mem_cons, List.not_mem_nil, IsEmpty.forall_iff, implies_true, and_true]
    exact ⟨denotes_quoted style.quoting r.path, denotes_details style.quoting r.named⟩
  unfold Style.call
  cases style.form with
  | curried =>
    have htext : callsText "createShortcutRoute" ([[path], [config]].map (·.map Prod.fst)) =
        "createShortcutRoute(" ++ path.1 ++ ")(" ++ config.1 ++ ")" :=
          String.toList_inj.mp (by simp [callsText])
    refine (denotes_routeCall [path] [[config]] hargs htext).imp ?_
    rintro e ⟨pos, as, has, rfl⟩
    simp only [List.forall₂_cons_left_iff, List.forall₂_nil_left_iff] at has
    obtain ⟨_, _, ⟨p, _, hp, rfl, rfl⟩, ⟨_, _, ⟨c, _, hc, rfl, rfl⟩, rfl, rfl⟩, rfl⟩ := has
    exact isCallOf_of_arguments hp hc (by simp [matchCall, isNamed, Expr.unparen])
  | direct =>
    have htext : callsText "createShortcutRoute" ([[path, config]].map (·.map Prod.fst)) =
        "createShortcutRoute(" ++ path.1 ++ ", " ++ config.1 ++ ")" :=
          String.toList_inj.mp (by simp [callsText])
    refine (denotes_routeCall [path, config] [] hargs htext).imp ?_
    rintro e ⟨pos, as, has, rfl⟩
    simp only [List.forall₂_cons_left_iff, List.forall₂_nil_left_iff] at has
    obtain ⟨_, _, ⟨p, _, hp, ⟨c, _, hc, rfl, rfl⟩, rfl⟩, rfl, rfl⟩ := has
    exact isCallOf_of_arguments hp hc (by simp [matchCall, isNamed, Expr.unparen])

end

/-! ## Files -/

theorem contains_eq_false_of_capital {words : List String} {w : String}
    (h : ∀ k ∈ words, 'R' ∉ k.toList) (hw : 'R' ∈ w.toList) :
    words.contains w = false :=
  Bool.eq_false_iff.mpr fun hc => h w (List.contains_iff_mem.mp hc) hw

theorem toString_digits (i : Nat) : ∀ c ∈ (toString i).toList, c ∈ digits := by
  intro c hc
  rw [Nat.toString_eq_repr, Nat.toList_repr] at hc
  have hall : ∀ n < 10, Char.ofNat (48 + n) ∈ digits := by decide
  have hdigit : 48 ≤ c.toNat ∧ c.toNat ≤ 57 :=
    Char.isDigit_iff_toNat.mp (Nat.isDigit_of_mem_toDigits (by decide) (by decide) hc)
  have := hall (c.toNat - 48) (by omega)
  rwa [Nat.add_sub_cancel' hdigit.1, Char.ofNat_toNat] at this

/-- The name of a variable is no word with a meaning: none of those has a capital. -/
theorem variableName_bound (i : Nat) :
    IsBound (variableName i) ∧ isWordText (variableName i).toList = true := by
  have hcapital : 'R' ∈ (variableName i).toList := by simp [variableName]
  have hfree : Grammar.isReserved (variableName i) = false := by
    have hkeyword : isKeyword (variableName i) = false :=
      contains_eq_false_of_capital (by decide) hcapital
    have hstrict : isReservedInStrict (variableName i) = false :=
      contains_eq_false_of_capital (by decide) hcapital
    have hawait : ["await"].contains (variableName i) = false :=
      contains_eq_false_of_capital (by decide) hcapital
    simpa [Grammar.isReserved, hkeyword, hstrict] using hawait
  have hasync : ["async"].contains (variableName i) = false :=
    contains_eq_false_of_capital (by decide) hcapital
  have hbinding : ["eval", "arguments"].contains (variableName i) = false :=
    contains_eq_false_of_capital (by decide) hcapital
  refine ⟨⟨⟨hfree, by simpa using hasync⟩, by simpa [Grammar.isReservedBinding] using hbinding⟩, ?_⟩
  have hdigits : ∀ c ∈ (toString i).toList, (letters.contains c || digits.contains c) =
      true := fun c hc => by
    rw [List.contains_iff_mem.mpr (toString_digits i c hc), Bool.or_true]
  have hend : "Route".toList.all (fun c => letters.contains c || digits.contains c) = true := by decide
  have hfirst : ("r".toList ++ (toString i).toList ++ "Route".toList).head? = some 'r' := by simp
  simp only [isWordText, variableName, String.toList_append, hfirst, List.all_append, hend,
    List.all_eq_true.mpr hdigits]
  decide

theorem collect_of_exports (rule : Rule) (file : String) {routes : List (Route × Nat)} {m : Module}
    (hf : rule.function = "createShortcutRoute") (ha : ∀ i, rule.accepts (variableName i) = true)
    (h : List.Forall₂ (fun b => Exports (variableName b.2) (IsCallOf b.1)) routes m) :
    collect rule file m = routes.map fun b => b.1.shortcut file := by
  induction h with
  | nil => rfl
  | @cons b item routes m hb _ ih =>
    obtain ⟨pos, e, rfl, path, config, hcall, hextract⟩ := hb
    have hdeclarator : ofDeclarator rule file (.mk (.ident pos (variableName b.2)) (some e)) =
        some (b.1.shortcut file) := by
      simp [ofDeclarator, ha, hf, hcall, hextract, Route.shortcut]
    have ih := ih
    simp only [collect, List.flatMap_cons, List.filterMap_append, List.map_cons] at ih ⊢
    simp [exported, hdeclarator, ih]

/-- A scan with the default settings finds in a file the shortcuts that it was written from, in their
order, whatever the file is called. -/
theorem written_routes_are_found : ∃ options, ({} : Config).resolve = .ok options ∧
    ∀ (styles : Nat → Style) (routes : List Route) (file : String),
      Scan.shortcutsOf options file (source styles routes) =
        .ok (routes.map (Route.shortcut file)) := by
  obtain ⟨options, hresolve, hfunction, haccepts⟩ := default_options
  refine ⟨options, hresolve, fun styles routes file => ?_⟩
  have hvalues : ∀ b ∈ routes.zipIdx, Denotes ((styles b.2).call b.1) (IsCallOf b.1) := fun b _ =>
    denotes_call (styles b.2) b.1
  obtain ⟨m, hm, hitems⟩ := parseSource_exports file (fun b _ => variableName_bound b.2) hvalues
  have hshortcuts := collect_of_exports (Scan.rule options) file hfunction (fun i => haccepts _) hitems
  unfold Scan.shortcutsOf source
  have hroutes : routes.zipIdx.map Prod.fst = routes := List.zipIdx_map_fst 0 routes
  rw [hm, Except.map, hshortcuts]
  conv_rhs => rw [← hroutes, List.map_map]
  rfl

end RouteShortcuts.Declaration
