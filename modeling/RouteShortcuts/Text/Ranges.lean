/-
  RouteShortcuts.Text.Ranges — sets of code points, written down as sorted ranges.

  Tables of character properties run to hundreds of ranges. They are kept as text (`41-5A 61-7A AA`:
  hexadecimal, ends included, ascending) and read once into an array; `mem` looks a code point up by
  halving the array.
-/

namespace RouteShortcuts.Text

/-- Ascending, disjoint ranges of code points, both ends included. -/
abbrev Ranges := Array (Nat × Nat)

namespace Ranges

/-- The value of a hexadecimal digit; other characters count as 0. -/
def hexValue (c : Char) : Nat :=
  if '0' ≤ c ∧ c ≤ '9' then c.toNat - '0'.toNat
  else if 'A' ≤ c ∧ c ≤ 'F' then c.toNat - 'A'.toNat + 10
  else if 'a' ≤ c ∧ c ≤ 'f' then c.toNat - 'a'.toNat + 10
  else 0

/-- State of the reader: the ranges so far, the low end once a dash was seen, the digits so far. -/
structure Pending where
  done : Ranges := #[]
  low : Option Nat := none
  value : Option Nat := none

def Pending.close (p : Pending) : Pending :=
  match p.value, p.low with
  | some v, some l => ⟨p.done.push (l, v), none, none⟩
  | some v, none => ⟨p.done.push (v, v), none, none⟩
  | none, _ => ⟨p.done, none, none⟩

def Pending.step (p : Pending) (c : Char) : Pending :=
  if c = ' ' ∨ c = '\n' then p.close
  else if c = '-' then { p with low := p.value, value := none }
  else { p with value := some (p.value.getD 0 * 16 + hexValue c) }

/-- Reads a table such as `41-5A 61-7A AA`. -/
def ofText (s : String) : Ranges := (s.toList.foldl Pending.step {}).close.done

/-- Is `n` in one of the ranges with index in `[lo, hi)`? -/
def memBetween (r : Ranges) (n lo hi : Nat) : Bool :=
  if lo < hi then
    let mid := (lo + hi) / 2
    match r[mid]? with
    | none => false
    | some (a, b) =>
      if n < a then memBetween r n lo mid
      else if b < n then memBetween r n (mid + 1) hi
      else true
  else false
termination_by hi - lo

def mem (r : Ranges) (n : Nat) : Bool := memBetween r n 0 r.size

end Ranges
end RouteShortcuts.Text
