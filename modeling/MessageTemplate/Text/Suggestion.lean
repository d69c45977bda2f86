import MessageTemplate.Text.Position

/-!
# Suggestions for a misspelt word

A suggestion is a known word within a small edit distance of the word that was
written.  Distances count characters; how far a suggestion may be away depends
on the length of the written word in bytes.
-/

namespace MessageTemplate.Text

/-! ## Edit distance -/

/-- One more row of the distance table.  Given the distances from `a` to every
suffix of `b`, longest first, it gives the distances from `x :: a` to them. -/
def distanceStep (x : Char) : List Char → List Nat → List Nat
  | y :: b, d :: ds =>
    let row := distanceStep x b ds
    let change := ds.headD 0 + if x = y then 0 else 1
    min (min (d + 1) (row.headD 0 + 1)) change :: row
  | _, ds => ds.map (· + 1)

/-- The distances from `a` to every suffix of `b`, longest first. -/
def distances : List Char → List Char → List Nat
  | [], b => (List.range (b.length + 1)).reverse
  | x :: a, b => distanceStep x b (distances a b)

/-- The least number of insertions, deletions and changes of one character that
turn `a` into `b`. -/
def editDistance (a b : List Char) : Nat :=
  (distances a b).headD 0

/-! ## Suggestions -/

/-- How far a suggestion for `target` may be away: one edit for a word of at
most three bytes, two for a longer one. -/
def suggestionLimit (target : String) : Nat :=
  if target.utf8ByteSize ≤ 3 then 1 else 2

/-- The known words within the limit, closest first; words at the same distance
keep their order. -/
def candidates (target : String) (known : List String) : List String :=
  (List.range (suggestionLimit target + 1)).flatMap fun distance =>
    known.filter fun word => editDistance target.toList word.toList == distance

/-- At most three suggestions, closest first. -/
def suggestions (target : String) (known : List String) : List String :=
  (candidates target known).take 3

end MessageTemplate.Text
