/-!
# Edit distance

The least number of insertions, deletions and substitutions of single characters that turn one
text into another, computed row by row: the row of a prefix of the first text holds its distances
to all prefixes of the second.
-/

namespace GoAddress.EditDistance

/-- The rest of the row of a prefix that ends in `c`. `left` is the entry just computed; the list
of numbers is the row of the prefix without `c`, from the entry diagonally before. -/
def extendRow (c : Char) : (left : Nat) → List Char → List Nat → List Nat
  | left, b :: bs, diagonal :: above :: rest =>
    let entry := min (min (above + 1) (left + 1)) (diagonal + if c = b then 0 else 1)
    entry :: extendRow c entry bs (above :: rest)
  | _, _, _ => []

/-- The row of a prefix from the row of the prefix without its last character `c`. -/
def nextRow (bs : List Char) (row : List Nat) (c : Char) : List Nat :=
  let left := row.headD 0 + 1
  left :: extendRow c left bs row

/-- The edit distance of two lists of characters. -/
def ofChars (as bs : List Char) : Nat :=
  (as.foldl (nextRow bs) (List.range (bs.length + 1))).getLastD 0

end GoAddress.EditDistance

namespace GoAddress

/-- The edit distance of two texts, counted in characters. -/
def editDistance (a b : String) : Nat :=
  EditDistance.ofChars a.toList b.toList

end GoAddress
