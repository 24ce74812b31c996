/-
  RouteShortcuts.Proofs.Pattern.Defaults — which names the default settings take.

  A row of sets that ends at the end of the text occurs in every text whose last characters are in
  the sets, one by one (`occursIn_ending`). A set that looks past case holds the character it is
  made of, and a small letter's set the capital (`caseless_mem`, `caseless_mem_capital`). The
  default pattern is such a row, so it takes every name that ends in `Route` (`default_options`).
-/

import RouteShortcuts.Config
import Mathlib.Data.List.Basic

namespace RouteShortcuts

open RouteShortcuts.Text RouteShortcuts.Pattern

/-! ## Case -/

/-- A character is one of its own variants, whatever the tables say. -/
theorem mem_variants (n : Nat) : n ∈ variants n := by
  unfold variants fold
  cases hup : foldUp.find? (·.has n) with
  | some r =>
    have hhas := List.find?_some hup
    refine List.mem_append_left
      _ (List.mem_cons_of_mem _ (List.mem_filterMap.mpr ⟨r, List.mem_of_find?_eq_some hup, ?_⟩))
    simp [hhas]
  | none =>
    cases hdown : foldDown.find? (fun r => r.distance ≤ n && r.has n) with
    | some r =>
      have hhas := List.find?_some hdown
      simp only [Bool.and_eq_true, decide_eq_true_eq] at hhas
      refine List.mem_append_right _ (List.mem_filterMap.mpr ⟨r, List.mem_of_find?_eq_some hdown, ?_⟩)
      simp [Nat.sub_add_cancel hhas.1, hhas.2]
    | none => simp

theorem fold_capital {n : Nat} (h : asciiCapitals.has n = true) : fold n = n + 0x20 := by
  have hfirst : foldUp.find? (·.has n) = some asciiCapitals := List.find?_cons_of_pos h
  rw [fold, hfirst]
  rfl

theorem caseless_mem (c : Char) : (CharSet.caseless false (.char c)).mem c.toNat = true :=
  List.any_eq_true.mpr ⟨c.toNat, mem_variants c.toNat, by simp [CharSet.char, CharSet.mem]⟩

theorem caseless_mem_capital {c small : Char} (h : asciiCapitals.has c.toNat = true)
    (hs : small.toNat = c.toNat + 0x20) :
    (CharSet.caseless false (.char small)).mem c.toNat = true := by
  refine List.any_eq_true.mpr ⟨small.toNat, ?_, by simp [CharSet.char, CharSet.mem]⟩
  simp [variants, fold_capital h, hs]

/-! ## Rows -/

def row (parts : List Node) : Node := parts.foldr .seq .nothing

/-- Sets one after another, and the end of the text. -/
def ending (sets : List CharSet) : Node := row (sets.map .one ++ [.look (.stop .none)])

theorem stops_ending {cs : List Char} {sets : List CharSet}
    (h : List.Forall₂ (fun c s => s.mem c.toNat = true) cs sets) :
    ∀ (before : List Char) (places : List Nat), before.length ∈ places →
      (before ++ cs).length ∈ (ending sets).stops (before ++ cs).toArray places := by
  induction h with
  | nil =>
    intro before places hp
    simp [ending, row, Node.stops, Look.holds, endsLine, hp]
  | @cons c s cs sets hc _ ih =>
    intro before places hp
    have hstep : (before ++ [c]).length ∈ (Node.one s).stops (before ++ c :: cs).toArray places := by
      refine List.mem_filterMap.mpr ⟨before.length, hp, ?_⟩
      simp [hc]
    have := ih (before ++ [c]) _ hstep
    rwa [List.append_assoc, List.singleton_append] at this

theorem occursIn_ending {cs : List Char} {sets : List CharSet}
    (h : List.Forall₂ (fun c s => s.mem c.toNat = true) cs sets)
    (before : List Char) : (ending sets).occursIn (String.ofList (before ++ cs)) = true := by
  have hstart : before.length ∈ List.range ((before ++ cs).toArray.size + 1) :=
    List.mem_range.mpr (Nat.lt_succ_of_le (by simp))
  have hstop := stops_ending h before _ hstart
  simp only [Node.occursIn, String.toList_ofList, Bool.not_eq_true', List.isEmpty_eq_false_iff]
  exact List.ne_nil_of_mem hstop

/-! ## The default settings -/

deriving instance DecidableEq for CharSet, Node

/-- The last letters of a name, as the default pattern wants them. -/
def routeSets : List CharSet := "route".toList.map fun c => .caseless false (.char c)

theorem default_pattern :
    ∃ p, ({} : Config).exportPattern = .ok p ∧ p.node = .seq .nothing (ending routeSets) := by
  have h : (match ({} : Config).exportPattern with
      | .ok p => decide (p.node = .seq .nothing (ending routeSets))
      | .error _ => false) = true := by
    decide +kernel
  cases hp : ({} : Config).exportPattern with
  | ok p =>
    rw [hp] at h
    exact ⟨p, rfl, of_decide_eq_true h⟩
  | error fault =>
    rw [hp] at h
    cases h

theorem route_mem :
    List.Forall₂ (fun c s => s.mem c.toNat = true) ['R', 'o', 'u', 't', 'e'] routeSets := by
  have hr : (CharSet.caseless false (.char 'r')).mem 'R'.toNat = true :=
    caseless_mem_capital (by decide) (by decide)
  exact .cons hr (.cons (caseless_mem _)
    (.cons (caseless_mem _) (.cons (caseless_mem _) (.cons (caseless_mem _) .nil))))

/-- By default the calls of `createShortcutRoute` count, and names that end in `Route` are taken. -/
theorem default_options :
    ∃ options, ({} : Config).resolve = .ok options ∧ options.functionName = "createShortcutRoute" ∧
    ∀ before : String, options.routeExportPattern.occursIn (before ++ "Route") = true := by
  obtain ⟨p, hp, hnode⟩ := default_pattern
  refine ⟨_, by rw [Config.resolve, hp]; rfl, rfl, fun before => ?_⟩
  have hname : before ++ "Route" = String.ofList (before.toList ++ ['R', 'o', 'u', 't', 'e']) := by
    rw [String.ofList_append, String.ofList_toList]
  rw [hname]
  show p.node.occursIn _ = true
  rw [hnode]
  exact occursIn_ending route_mem before.toList

end RouteShortcuts
