import Mathlib.Order.Bounds.Basic
import GoAddress.Suggest.EditDistance

/-!
# Edit scripts

An edit inserts, deletes or replaces one character of a text, and a script makes edits one after
another. Main statement: the edit distance of two texts is the least number of edits in a script that
turns one into the other. The rows are put in terms of a distance that compares texts from their
front; they hold the distances of reversed prefixes, since a prefix grows at its end.
-/

namespace GoAddress.EditDistance

/-- One edit of a list of characters, at any place of it. -/
inductive Edit : List Char → List Char → Prop
  | insert (before : List Char) (c : Char) (after : List Char) :
    Edit (before ++ after) (before ++ c :: after)
  | delete (before : List Char) (c : Char) (after : List Char) :
    Edit (before ++ c :: after) (before ++ after)
  | substitute (before : List Char) (c d : Char) (after : List Char) :
    Edit (before ++ c :: after) (before ++ d :: after)

/-- A number of edits, one after another, that turn one list of characters into another. -/
inductive Script : Nat → List Char → List Char → Prop
  | done (as : List Char) : Script 0 as as
  | edit {n : Nat} {as bs cs : List Char} : Edit as bs → Script n bs cs → Script (n + 1) as cs

/-- What it costs to put one character in the place of another. -/
def substitutionCost (a b : Char) : Nat :=
  if a = b then 0 else 1

/-- The distance of two lists of characters, by what becomes of their first characters. -/
def distance : List Char → List Char → Nat
  | [], bs => bs.length
  | a :: as, [] => (a :: as).length
  | a :: as, b :: bs =>
    min (min (distance as (b :: bs) + 1) (distance (a :: as) bs + 1))
      (distance as bs + substitutionCost a b)

/-- The distance to the empty list grows with every character. -/
theorem distance_cons_nil (c : Char) (as : List Char) :
    distance (c :: as) [] = distance as [] + 1 := by
  cases as <;> simp [distance]

/-- The distance is at most what each way to treat the first characters costs. -/
theorem distance_cons_cons_le (a b : Char) (as bs : List Char) :
    distance (a :: as) (b :: bs) ≤ distance as (b :: bs) + 1 ∧
      distance (a :: as) (b :: bs) ≤ distance (a :: as) bs + 1 ∧
      distance (a :: as) (b :: bs) ≤ distance as bs + substitutionCost a b := by
  rw [distance]
  omega

/-- The distance is what one of the ways to treat the first characters costs. -/
theorem distance_cons_cons_cases (a b : Char) (as bs : List Char) :
    distance (a :: as) (b :: bs) = distance as (b :: bs) + 1 ∨
      distance (a :: as) (b :: bs) = distance (a :: as) bs + 1 ∨
      distance (a :: as) (b :: bs) = distance as bs + substitutionCost a b := by
  rw [distance]
  omega

section Rows

/-- The distances of a list to another one and to what it becomes when characters are put in front of
it one by one. -/
def distances (as before : List Char) : List Char → List Nat
  | [] => [distance as before]
  | b :: bs => distance as before :: distances as (b :: before) bs

/-- A row of distances begins with the distance to the list without further characters. -/
theorem distances_eq_cons (as before bs : List Char) :
    distances as before bs = distance as before :: (distances as before bs).tail := by
  cases bs <;> rfl

/-- A row ends with the distance to the list with all characters in front. -/
theorem getLastD_distances (as before bs : List Char) :
    (distances as before bs).getLastD 0 = distance as (bs.reverse ++ before) := by
  induction bs generalizing before with
  | nil => rfl
  | cons b bs ih =>
    have hrest := ih (b :: before)
    rw [distances_eq_cons] at hrest
    rw [distances, distances_eq_cons as (b :: before) bs, List.reverse_cons, List.append_assoc,
      List.singleton_append, ← hrest]
    rfl

/-- The distances of the empty list count up. -/
theorem distances_nil (before bs : List Char) :
    distances [] before bs = List.range' before.length (bs.length + 1) := by
  induction bs generalizing before with
  | nil => simp [distances, distance]
  | cons b bs ih =>
    have hrest := ih (b :: before)
    rw [List.length_cons] at hrest
    rw [distances, hrest, distance, List.length_cons, ← List.range'_succ]

/-- The entries behind the first one are those of the row of the longer list. -/
theorem extendRow_distances (c : Char) (as before bs : List Char) :
    extendRow c (distance (c :: as) before) bs (distances as before bs) =
      (distances (c :: as) before bs).tail := by
  induction bs generalizing before with
  | nil => rfl
  | cons b bs ih =>
    have hrest := ih (b :: before)
    have hentry : min (min (distance as (b :: before) + 1) (distance (c :: as) before + 1))
        (distance as before + if c = b then 0 else 1) = distance (c :: as) (b :: before) := by
      rw [distance, substitutionCost]
    rw [distances_eq_cons as (b :: before) bs] at hrest
    rw [distances, distances_eq_cons as (b :: before) bs, extendRow, hentry, hrest, distances,
      List.tail_cons, ← distances_eq_cons]

/-- A row becomes that of the list with one more character. -/
theorem nextRow_distances (c : Char) (as bs : List Char) :
    nextRow bs (distances as [] bs) c = distances (c :: as) [] bs := by
  have hfirst : (distances as [] bs).headD 0 + 1 = distance (c :: as) [] := by
    rw [distances_eq_cons, List.headD_cons, distance_cons_nil]
  rw [nextRow, hfirst, extendRow_distances, ← distances_eq_cons]

/-- The row of a list of characters, read one by one, is that of the reversed list. -/
theorem foldl_nextRow (as before bs : List Char) :
    as.foldl (nextRow bs) (distances before [] bs) = distances (as.reverse ++ before) [] bs := by
  induction as generalizing before with
  | nil => rfl
  | cons a as ih =>
    rw [List.foldl_cons, nextRow_distances, ih, List.reverse_cons, List.append_assoc,
      List.singleton_append]

/-- The last entry of the last row is the distance of the reversed lists. -/
theorem ofChars_eq_distance (as bs : List Char) :
    ofChars as bs = distance as.reverse bs.reverse := by
  have hfirst : List.range (bs.length + 1) = distances [] [] bs := by
    rw [distances_nil, List.length_nil, List.range_eq_range']
  rw [ofChars, hfirst, foldl_nextRow, List.append_nil, getLastD_distances, List.append_nil]

end Rows

section Scripts

variable {n m : Nat} {as bs cs : List Char}

/-- An edit can be made behind one more character. -/
theorem Edit.cons (c : Char) (h : Edit as bs) : Edit (c :: as) (c :: bs) := by
  cases h with
  | insert before d after => exact Edit.insert (c :: before) d after
  | delete before d after => exact Edit.delete (c :: before) d after
  | substitute before d e after => exact Edit.substitute (c :: before) d e after

/-- An edit of reversed lists. -/
theorem Edit.reverse (h : Edit as bs) : Edit as.reverse bs.reverse := by
  cases h with
  | insert before c after => simpa using Edit.insert after.reverse c before.reverse
  | delete before c after => simpa using Edit.delete after.reverse c before.reverse
  | substitute before c d after => simpa using Edit.substitute after.reverse c d before.reverse

/-- A script can be carried out behind one more character. -/
theorem Script.cons (c : Char) (h : Script n as bs) : Script n (c :: as) (c :: bs) := by
  induction h with
  | done as => exact Script.done (c :: as)
  | edit hedit _ ih => exact Script.edit (hedit.cons c) ih

/-- A script of reversed lists. -/
theorem Script.reverse (h : Script n as bs) : Script n as.reverse bs.reverse := by
  induction h with
  | done as => exact Script.done as.reverse
  | edit hedit _ ih => exact Script.edit hedit.reverse ih

/-- One more edit at the end of a script. -/
theorem Script.snoc (h : Script n as bs) (hedit : Edit bs cs) : Script (n + 1) as cs := by
  induction h with
  | done as => exact Script.edit hedit (Script.done cs)
  | edit hfirst _ ih => exact Script.edit hfirst (ih hedit)

/-- The distance is the number of edits in some script. -/
theorem script_distance (as bs : List Char) : Script (distance as bs) as bs := by
  induction as generalizing bs with
  | nil =>
    rw [distance]
    induction bs with
    | nil => exact Script.done []
    | cons b bs ih => exact ih.snoc (Edit.insert [] b bs)
  | cons a as ih =>
    induction bs with
    | nil =>
      rw [distance_cons_nil]
      exact Script.edit (Edit.delete [] a as) (ih [])
    | cons b bs ihInsert =>
      rcases distance_cons_cons_cases a b as bs with hcase | hcase | hcase
      · rw [hcase]
        exact Script.edit (Edit.delete [] a as) (ih (b :: bs))
      · rw [hcase]
        exact ihInsert.snoc (Edit.insert [] b bs)
      · rw [hcase, substitutionCost]
        split
        · next heq => exact heq ▸ (ih bs).cons a
        · exact Script.edit (Edit.substitute [] a b as) ((ih bs).cons b)

end Scripts

section Optimality

variable {as bs : List Char}

/-- Replacing a character costs at most one. -/
theorem substitutionCost_le_one (a b : Char) : substitutionCost a b ≤ 1 := by
  unfold substitutionCost
  split <;> omega

/-- A list has no distance to itself. -/
theorem distance_self (as : List Char) : distance as as = 0 := by
  induction as with
  | nil => simp [distance]
  | cons a as ih =>
    have hle := (distance_cons_cons_le a a as as).2.2
    rw [ih, substitutionCost, if_pos rfl] at hle
    omega

/-- One character more on the left adds at most one to the distance. -/
theorem distance_cons_left_le (a : Char) (as bs : List Char) :
    distance (a :: as) bs ≤ distance as bs + 1 := by
  cases bs with
  | nil => rw [distance_cons_nil]
  | cons b bs => exact (distance_cons_cons_le a b as bs).1

/-- One character more on the right adds at most one to the distance. -/
theorem distance_cons_right_le (as : List Char) (b : Char) (bs : List Char) :
    distance as (b :: bs) ≤ distance as bs + 1 := by
  cases as with
  | nil => simp [distance]
  | cons a as => exact (distance_cons_cons_le a b as bs).2.1

/-- Whether a list is at most one further from any other list than a second one is. -/
def NoFurther (as bs : List Char) : Prop :=
  ∀ cs, distance as cs ≤ distance bs cs + 1

/-- Without its first character a list is at most one further away. -/
theorem noFurther_cons (b : Char) (bs : List Char) : NoFurther bs (b :: bs) := by
  intro cs
  induction cs with
  | nil =>
    rw [distance_cons_nil]
    omega
  | cons c cs ih =>
    have hright := distance_cons_right_le bs c cs
    rcases distance_cons_cons_cases b c bs cs with hcase | hcase | hcase <;> omega

/-- With another first character a list is at most one further away. -/
theorem noFurther_substitute (a b : Char) (as : List Char) : NoFurther (a :: as) (b :: as) := by
  intro cs
  induction cs with
  | nil =>
    rw [distance_cons_nil, distance_cons_nil]
    omega
  | cons c cs ih =>
    have hcost := substitutionCost_le_one a c
    obtain ⟨hdelete, hinsert, hboth⟩ := distance_cons_cons_le a c as cs
    rcases distance_cons_cons_cases b c as cs with hcase | hcase | hcase <;> omega

/-- Lists with one more character in common are no further apart. -/
theorem NoFurther.cons (c : Char) (h : NoFurther as bs) : NoFurther (c :: as) (c :: bs) := by
  intro cs
  induction cs with
  | nil =>
    have hnil := h []
    rw [distance_cons_nil, distance_cons_nil]
    omega
  | cons d cs ih =>
    have hlong := h (d :: cs)
    have hshort := h cs
    obtain ⟨hdelete, hinsert, hboth⟩ := distance_cons_cons_le c d as cs
    rcases distance_cons_cons_cases c d bs cs with hcase | hcase | hcase <;> omega

/-- Lists with any characters in common in front are no further apart. -/
theorem NoFurther.append (before : List Char) (h : NoFurther as bs) :
    NoFurther (before ++ as) (before ++ bs) := by
  induction before with
  | nil => exact h
  | cons c before ih => exact ih.cons c

/-- One edit changes the distance to any list by at most one. -/
theorem Edit.noFurther (h : Edit as bs) : NoFurther as bs := by
  cases h with
  | insert before c after => exact (noFurther_cons c after).append before
  | delete before c after =>
    have hfront : NoFurther (c :: after) after := distance_cons_left_le c after
    exact hfront.append before
  | substitute before c d after => exact (noFurther_substitute c d after).append before

/-- No script has fewer edits than the distance. -/
theorem distance_le_of_script {n : Nat} (h : Script n as bs) : distance as bs ≤ n := by
  induction h with
  | done as => rw [distance_self]
  | @edit n as bs cs hedit _ ih =>
    have hstep := hedit.noFurther cs
    omega

end Optimality

/-- The edit distance of two texts is the least number of insertions, deletions and substitutions of
single characters, one after another, that turn one into the other. -/
theorem isLeast_editDistance (a b : String) :
    IsLeast {n | Script n a.toList b.toList} (editDistance a b) := by
  rw [editDistance, ofChars_eq_distance]
  constructor
  · have hscript := (script_distance a.toList.reverse b.toList.reverse).reverse
    rwa [List.reverse_reverse, List.reverse_reverse] at hscript
  · intro n hn
    exact distance_le_of_script hn.reverse

end GoAddress.EditDistance
