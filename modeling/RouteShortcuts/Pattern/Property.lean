/-
  RouteShortcuts.Pattern.Property — Unicode properties by their names.

  Names are compared without case, spaces, dashes, underscores and a leading `is`. A name on its own
  is a property that characters have or have not, a general category or a writing system, in this
  order; a name with a value asks for the characters whose property has that value.

  Not every property of Unicode is here. Left out are, of those that characters have or have not, the
  ones beyond `binary?` (`Dash`, `Diacritic`, `Case_Ignorable`, `Changes_When_Lowercased`,
  `Default_Ignorable_Code_Point`, `Extended_Pictographic`, `Emoji_Presentation`, `Grapheme_Extend`,
  `Quotation_Mark`, `Variation_Selector`, `XID_Start`, `XID_Continue` and their like), and of those
  with values all but the general category and the script (`Age`, `Script_Extensions`,
  `Grapheme_Cluster_Break`, `Word_Break`, `Sentence_Break`). A pattern that asks for one of them is
  refused as if there were no such property.
-/

import RouteShortcuts.Pattern.CharSet
import RouteShortcuts.Pattern.Flaw

namespace RouteShortcuts.Pattern

open RouteShortcuts.Text

/-- A name in the form that names are compared in. -/
def plainName (name : String) : String :=
  let chars := name.toList
  let (is, rest) := match chars with
    | 'i' :: 's' :: r | 'I' :: 's' :: r | 'i' :: 'S' :: r | 'I' :: 'S' :: r => (true, r)
    | r => (false, r)
  let kept := (rest.filter fun c => c != ' ' && c != '_' && c != '-' && c.toNat < 128).map
    fun c => if 'A' ≤ c ∧ c ≤ 'Z' then Char.ofNat (c.toNat + 32) else c
  if is ∧ kept = ['c'] then "isc" else String.ofList kept

/-- The characters of a category or of a group of categories. -/
def category? (name : String) : Option CharSet :=
  let assigned := CharSet.ofList (categories.map fun c => .ranges (Ranges.ofText c.table))
  match name with
  | "any" => some (.span 0 0x10FFFF)
  | "ascii" => some (.span 0 127)
  | "assigned" => some assigned
  | "cn" | "unassigned" => some (.compl assigned)
  | "c" | "other" =>
    some (.compl (CharSet.ofList (categoryGroups.flatMap fun g =>
      (rangesOfCodes g.2).map CharSet.ranges)))
  | _ =>
    match categoryGroups.find? fun g => g.1.contains name with
    | some g => some (CharSet.ofRanges (rangesOfCodes g.2))
    | none => (categoryRanges? name).map CharSet.ranges

def writing? (name : String) : Option CharSet := (writingRanges? name).map CharSet.ranges

def alphabetic : CharSet := .union (.ofRanges letterCategories) (.ranges alphabeticRanges)

def lowercase : CharSet := .union (.ofRanges (rangesOfCodes ["ll"])) (.ranges lowerRanges)

def uppercase : CharSet := .union (.ofRanges (rangesOfCodes ["lu"])) (.ranges upperRanges)

def nameStart : CharSet := .union (CharSet.ascii .alpha) (.ranges letterRanges)

def namePart : CharSet := CharSet.ofList [nameStart, CharSet.ascii .word, .ranges markRanges]

/-- Characters with a property that they have or have not, for the properties that are known here. -/
def binary? : String → Option CharSet
  | "alphabetic" | "alpha" => some alphabetic
  | "lowercase" | "lower" => some lowercase
  | "uppercase" | "upper" => some uppercase
  | "cased" => some (.ofList [lowercase, uppercase, .ofRanges (rangesOfCodes ["lt"])])
  | "whitespace" | "wspace" | "space" => some CharSet.white
  | "asciihexdigit" | "ahex" => some (CharSet.ascii .xdigit)
  | "hexdigit" | "hex" =>
    some (.ofList [CharSet.ascii .xdigit, .span 0xFF10 0xFF19, .span 0xFF21 0xFF26,
      .span 0xFF41 0xFF46])
  | "idstart" | "ids" => some nameStart
  | "idcontinue" | "idc" => some namePart
  | "math" => some (.union (.ofRanges (rangesOfCodes ["sm"])) (.ranges mathRanges))
  | "emoji" => some (.ranges emojiRanges)
  | "ideographic" | "ideo" => some (.ranges ideographRanges)
  | "joincontrol" | "joinc" => some (.span 0x200C 0x200D)
  | "regionalindicator" | "ri" => some (.span 0x1F1E6 0x1F1FF)
  | "patternwhitespace" | "patws" =>
    some (.ranges (Ranges.ofText "9-D 20 85 200E-200F 2028-2029"))
  | _ => none

/-- The characters that a query asks for, or why there are none. -/
def PropertyQuery.resolve : PropertyQuery → Except Cause CharSet
  | .name text =>
    let name := plainName text
    match (binary? name).or ((category? name).or (writing? name)) with
    | some s => .ok s
    | none => .error .propertyNotFound
  | .value property wanted =>
    let wanted := plainName wanted
    match plainName property with
    | "gc" | "generalcategory" => orNoValue (category? wanted)
    | "sc" | "script" => orNoValue (writing? wanted)
    | other => if (binary? other).isSome then .error .propertyValueNotFound
      else .error .propertyNotFound
where
  orNoValue : Option CharSet → Except Cause CharSet
    | some s => .ok s
    | none => .error .propertyValueNotFound

end RouteShortcuts.Pattern
