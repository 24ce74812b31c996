/-
  RouteShortcuts.Json.Decimal — the shortest decimal text of a binary floating point number.

  A finite number is `m · 2^q`. The reals that round to it lie between its neighbours' midpoints, ends
  included if `m` is even. `shortest` tries coarser decimal grids before finer ones and takes the
  first grid with a point in that interval; of two points it takes the nearer one.
-/

namespace RouteShortcuts.Json

/-- `digits · 10^exponent`. -/
structure Decimal where
  digits : Nat
  exponent : Int
  deriving DecidableEq, Repr

/-- The significand and the exponent of a finite positive number, from its 64 bits. -/
def significand (bits : Nat) : Nat × Int :=
  let field : Nat := bits / Nat.pow 2 52 % Nat.pow 2 11
  let fraction : Nat := bits % Nat.pow 2 52
  if field = 0 then (fraction, -1074) else (fraction + Nat.pow 2 52, (field : Int) - 1075)

/-- The interval of reals that round to `m · 2^q`, in quarters of `2^q`. -/
structure Quarters where
  low : Nat
  mid : Nat
  high : Nat
  closed : Bool
  exponent : Int

def Quarters.ofSignificand (m : Nat) (q : Int) : Quarters where
  low := if m = Nat.pow 2 52 ∧ -1074 < q then 4 * m - 1 else 4 * m - 2
  mid := 4 * m
  high := 4 * m + 2
  closed := m % 2 == 0
  exponent := q - 2

/-- The whole powers that compare `d · 10^e` with `n · 2^q`: `d` times the first and `n` times the
second are in the order of the two numbers. -/
def scales (q e : Int) : Nat × Nat :=
  (Nat.pow 10 e.toNat * Nat.pow 2 (-q).toNat, Nat.pow 2 q.toNat * Nat.pow 10 (-e).toNat)

/-- The point of the grid of `10^e` that stands for the interval, if the interval has one. -/
def Quarters.onGrid (s : Quarters) (e : Int) : Option Nat :=
  let (a, b) := scales s.exponent e
  let inside := fun d => if s.closed then decide (s.low * b ≤ d * a ∧ d * a ≤ s.high * b)
    else decide (s.low * b < d * a ∧ d * a < s.high * b)
  let d := s.mid * b / a
  match d != 0 && inside d, inside (d + 1) with
  | true, true =>
    if s.mid * b - d * a < (d + 1) * a - s.mid * b then some d
    else if (d + 1) * a - s.mid * b < s.mid * b - d * a then some (d + 1)
    else some (if d % 2 = 0 then d else d + 1)
  | true, false => some d
  | false, true => some (d + 1)
  | false, false => none

def Quarters.shortest (s : Quarters) : Nat → Int → Decimal
  | 0, e => ⟨0, e⟩
  | n + 1, e =>
    match s.onGrid e with
    | some d => ⟨d, e⟩
    | none => s.shortest n (e - 1)

/-- The decimal with the fewest digits that reads back as the positive number with these bits. -/
def Decimal.ofBits (bits : Nat) : Decimal :=
  let (m, q) := significand bits
  (Quarters.ofSignificand m q).shortest 700 310

/-- Digits with a point, or with an exponent where that many zeros would have to be written. -/
def Decimal.text (d : Decimal) : String :=
  let digits := Nat.toDigits 10 d.digits
  let count : Int := digits.length
  let point := count + d.exponent
  if 0 ≤ d.exponent ∧ point ≤ 16 then
    String.ofList (digits ++ List.replicate d.exponent.toNat '0') ++ ".0"
  else if 0 < point ∧ point ≤ 16 then
    String.ofList (digits.take point.toNat) ++ "." ++ String.ofList (digits.drop point.toNat)
  else if -5 < point ∧ point ≤ 0 then
    "0." ++ String.ofList (List.replicate (-point).toNat '0' ++ digits)
  else
    let rest := digits.drop 1
    String.ofList (digits.take 1) ++ (if rest.isEmpty then "" else "." ++ String.ofList rest) ++ "e"
      ++ toString (point - 1)

/-- The text of a finite number. -/
def floatText (f : Float) : String :=
  let bits := f.toBits.toNat
  let sign := if Nat.pow 2 63 ≤ bits then "-" else ""
  let bits := bits % Nat.pow 2 63
  if bits = 0 then sign ++ "0.0" else sign ++ (Decimal.ofBits bits).text

end RouteShortcuts.Json
