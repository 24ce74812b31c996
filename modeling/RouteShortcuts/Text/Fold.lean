/-
  RouteShortcuts.Text.Fold — characters that differ in case only, Unicode 16.

  Simple case folding sends every form of a letter to one of them (`fold`); two characters are equal
  without regard to case if they fold to the same character. `variants c` lists all of them. The
  tables hold ranges and the distance, in hexadecimal, to the character that they fold to.
-/

import RouteShortcuts.Text.Ranges

namespace RouteShortcuts.Text

/-- `low` to `high`, by steps of `step`, fold to the characters `distance` away. -/
structure FoldRow where
  low : Nat
  high : Nat
  step : Nat
  distance : Nat

/-- A row such as `41-5A+20`. -/
def FoldRow.ofWord (step : Nat) (word : String) : FoldRow :=
  let chars := word.toList
  let hex := fun (digits : List Char) => digits.foldl (fun n c => n * 16 + Ranges.hexValue c) 0
  let range := chars.takeWhile (· != '+')
  let low := range.takeWhile (· != '-')
  let high := (range.dropWhile (· != '-')).drop 1
  let distance := (chars.dropWhile (· != '+')).drop 1
  ⟨hex low, if high.isEmpty then hex low else hex high, step,
    if distance.isEmpty then 1 else hex distance⟩

def foldRows (step : Nat) (text : String) : List FoldRow :=
  ((text.splitOn " ").flatMap (·.splitOn "\n")).filterMap fun word =>
    if word.isEmpty then none else some (FoldRow.ofWord step word)

/-- The capital letters of ASCII. -/
def asciiCapitals : FoldRow := ⟨0x41, 0x5A, 1, 0x20⟩

/-- Characters that fold to one further on. -/
def foldUp : List FoldRow :=
  asciiCapitals :: foldRows 1
   "B5+307 C0-D6+20 D8-DE+20 181+D2 186+CE 187+1 189-18A+CD 18B+1 18E+4F 18F+CA
    190+CB 191+1 193+CD 194+CF 196+D3 197+D1 198+1 19C+D3 19D+D5 19F+D6 1A6+DA 1A7+1 1A9+DA
    1AC+1 1AE+DA 1AF+1 1B1-1B2+D9 1B7+DB 1B8+1 1BC+1 1C4+2 1C5+1 1C7+2 1C8+1 1CA+2 1F1+2
    23A+2A2B 23B+1 23E+2A28 241+1 244+45 245+47 345+74 376+1 37F+74 386+26 388-38A+25 38C+40
    38E-38F+3F 391-3A1+20 3A3-3AB+20 3C2+1 3CF+8 3F7+1 3FA+1 400-40F+50 410-42F+20 4C0+F
    531-556+30 10A0-10C5+1C60 10C7+1C60 10CD+1C60 13A0-13EF+97D0 13F0-13F5+8 1C88+89C3 1C89+1
    2132+1C 2160-216F+10 2183+1 24B6-24CF+1A 2C00-2C2F+30 2C60+1 2C72+1 2C75+1 2CF2+1 A78B+1
    A7B3+3A0 A7CC+1 A7D0+1 A7F5+1 FB05+1 FF21-FF3A+20 10400-10427+28 104B0-104D3+28
    10570-1057A+27 1057C-1058A+27 1058C-10592+27 10594-10595+27 10C80-10CB2+40 10D50-10D65+20
    118A0-118BF+20 16E40-16E5F+20 1E900-1E921+22"
  ++ foldRows 2
   "100-12E 132-136 139-147 14A-176 179-17D 182-184 1A0-1A4 1B3-1B5 1CB-1DB 1DE-1EE 1F2-1F4
    1F8-21E 222-232 246-24E 370-372 3D8-3EE 460-480 48A-4BE 4C1-4CD 4D0-52E 1E00-1E94
    1EA0-1EFE 2C67-2C6B 2C80-2CE2 2CEB-2CED A640-A66C A680-A69A A722-A72E A732-A76E A779-A77B
    A77E-A786 A790-A792 A796-A7A8 A7B4-A7C2 A7C7-A7C9 A7D6-A7DA"

/-- Characters that fold to one further back. -/
def foldDown : List FoldRow :=
  foldRows 1
   "178+79 17F+10C 1F6+61 1F7+38 220+82 23D+A3 243+C3 3D0+1E 3D1+19 3D5+F 3D6+16 3F0+36 3F1+30
    3F4+3C 3F5+40 3F9+7 3FD-3FF+82 1C80+184E 1C81+184D 1C82+1844 1C83-1C84+1842 1C85+1843
    1C86+183C 1C87+1824 1C90-1CBA+BC0 1CBD-1CBF+BC0 1E9B+3A 1E9E+1DBF 1F08-1F0F+8 1F18-1F1D+8
    1F28-1F2F+8 1F38-1F3F+8 1F48-1F4D+8 1F59+8 1F5B+8 1F5D+8 1F5F+8 1F68-1F6F+8 1F88-1F8F+8
    1F98-1F9F+8 1FA8-1FAF+8 1FB8-1FB9+8 1FBA-1FBB+4A 1FBC+9 1FBE+1C05 1FC8-1FCB+56 1FCC+9
    1FD3+1C43 1FD8-1FD9+8 1FDA-1FDB+64 1FE3+1C33 1FE8-1FE9+8 1FEA-1FEB+70 1FEC+7 1FF8-1FF9+80
    1FFA-1FFB+7E 1FFC+9 2126+1D5D 212A+20BF 212B+2046 2C62+29F7 2C63+EE6 2C64+29E7 2C6D+2A1C
    2C6E+29FD 2C6F+2A1F 2C70+2A1E 2C7E-2C7F+2A3F A77D+8A04 A78D+A528 A7AA+A544 A7AB+A54F
    A7AC+A54B A7AD+A541 A7AE+A544 A7B0+A512 A7B1+A52A A7B2+A515 A7C4+30 A7C5+A543 A7C6+8A38
    A7CB+A567 A7DC+A641"

def FoldRow.has (r : FoldRow) (n : Nat) : Bool :=
  r.low ≤ n && n ≤ r.high && (n - r.low) % r.step == 0

/-- The character that stands for all forms of this one. -/
def fold (n : Nat) : Nat :=
  match foldUp.find? (·.has n) with
  | some r => n + r.distance
  | none => match foldDown.find? (fun r => r.distance ≤ n && r.has n) with
    | some r => n - r.distance
    | none => n

/-- All characters that fold to the character that this one folds to. -/
def variants (n : Nat) : List Nat :=
  let base := fold n
  base :: (foldUp.filterMap fun r =>
      if r.distance ≤ base && r.has (base - r.distance) then some (base - r.distance) else none)
    ++ (foldDown.filterMap fun r =>
      if r.has (base + r.distance) then some (base + r.distance) else none)

end RouteShortcuts.Text
