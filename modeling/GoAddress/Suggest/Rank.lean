import GoAddress.Order
import GoAddress.Suggest.EditDistance
import GoAddress.Text.Case
import GoAddress.Text.Split

/-!
# Ranking candidates

Candidates near a target, ignoring case: those within a third of the target's length, but at least
two edits, and those that contain the target. The nearest come first, equally near ones in the
order of their texts, each once.
-/

namespace GoAddress.Suggest

/-- The number of edits that still counts as near. -/
def threshold (target : String) : Nat :=
  max 2 (target.length / 3)

/-- The distance of a candidate whose compared part is `part`, if it is near enough. -/
def distance? (target part : String) : Option Nat :=
  let wanted := Text.lowercase target
  let compared := Text.lowercase part
  let distance := editDistance wanted compared
  let contained := !wanted.isEmpty && Text.hasPart wanted.toList compared.toList
  if distance ≤ threshold target || contained then some distance else none

/-- Nearer candidates come first, then those with the smaller text. -/
def precedes (a b : Nat × String) : Bool :=
  a.1 < b.1 || (a.1 == b.1 && decide (a.2 ≤ b.2))

/-- The candidates near the target, nearest first, at most `limit`. The function `key` gives the
part of a candidate that is compared. -/
def rank (target : String) (candidates : List String) (key : String → String) (limit : Nat) :
    List String :=
  let near := candidates.filterMap fun candidate =>
    (distance? target (key candidate)).map fun distance => (distance, candidate)
  ((dropRepeats (·.2) (near.mergeSort precedes)).take limit).map (·.2)

/-- The text behind the last occurrence of a delimiter of any length, or the whole text. -/
def behindLast (delimiter : List Char) (cs : List Char) : List Char :=
  (go cs).getD cs
where
  /-- The text behind the last occurrence, if there is one. -/
  go : List Char → Option (List Char)
    | [] => Text.dropPrefix? delimiter []
    | c :: rest => (go rest).or (Text.dropPrefix? delimiter (c :: rest))

/-- The text behind the last occurrence of a character, or the whole text. -/
def afterLast (delimiter : Char) (s : String) : String :=
  String.ofList (behindLast [delimiter] s.toList)

end GoAddress.Suggest
