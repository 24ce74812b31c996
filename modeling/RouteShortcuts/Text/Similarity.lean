/-
  RouteShortcuts.Text.Similarity — how alike two words are, and which words to suggest for a misspelt
  one.

  Two characters match if they are equal and stand about as far from the front, at most half the length
  of the longer word apart; every character matches once. The measure is the mean of three shares: of
  the matched characters in either word, and of the matches that come in the same order.
-/

namespace RouteShortcuts.Text

/-- How far apart matching characters may stand. -/
def matchDistance (a b : Nat) : Nat := max a b / 2 - 1

/-- Takes the first free place of `c` within the bounds: the places after it are marked taken. -/
def takePlace (c : Char) (low high : Nat) : Nat → List (Char × Bool) → Option (List (Char × Bool))
  | _, [] => none
  | j, (d, taken) :: rest =>
    if high ≤ j then none
    else if low ≤ j ∧ c = d ∧ taken = false then some ((d, true) :: rest)
    else (takePlace c low high (j + 1) rest).map ((d, taken) :: ·)

/-- The characters of the first word that match, and the second word with the places they take. -/
def takePlaces (distance : Nat) : Nat → List Char → List (Char × Bool) → List Char × List (Char × Bool)
  | _, [], b => ([], b)
  | i, c :: rest, b =>
    match takePlace c (i - distance) (i + distance + 1) 0 b with
    | some b =>
      let (found, b) := takePlaces distance (i + 1) rest b
      (c :: found, b)
    | none => takePlaces distance (i + 1) rest b

/-- How alike two words are, from 0 to 1. -/
def similarity (a b : String) : Float :=
  let x := a.toList
  let y := b.toList
  if x.length = 0 ∧ y.length = 0 then 1
  else
    let (found, places) := takePlaces (matchDistance x.length y.length) 0 x (y.map (·, false))
    let across := (places.filter (·.2)).map (·.1)
    let swapped := ((found.zip across).countP fun (c, d) => c != d) / 2
    let matched := found.length
    if matched = 0 then 0
    else
      (matched.toFloat / x.length.toFloat + matched.toFloat / y.length.toFloat
        + (matched - swapped).toFloat / matched.toFloat) / 3

def similarEnough : Float := 0.7

/-- Puts a word behind all that are not more alike. -/
def insertSimilar (s : Float) (word : String) : List (Float × String) → List (Float × String)
  | [] => [(s, word)]
  | (t, other) :: rest =>
    if t > s then (s, word) :: (t, other) :: rest else (t, other) :: insertSimilar s word rest

/-- The words that are like a misspelt one, the most alike last. -/
def similarWords (misspelt : String) (words : List String) : List String :=
  (words.foldl add []).map (·.2)
where
  add (found : List (Float × String)) (word : String) : List (Float × String) :=
    let s := similarity misspelt word
    if s > similarEnough then insertSimilar s word found else found

end RouteShortcuts.Text
