/-!
# Sorted lists

Stable sorting by a text key, removal of neighbours with equal keys, and sorted lists of texts
without repetition. Texts are ordered by code point.
-/

namespace GoAddress

/-- Sorts by a text key; elements with equal keys keep their order. -/
def sortOn {α : Type} (key : α → String) (xs : List α) : List α :=
  xs.mergeSort fun a b => decide (key a ≤ key b)

/-- Keeps the first of neighbours with equal keys. -/
def dropRepeats {α β : Type} [BEq β] (key : α → β) : List α → List α
  | [] => []
  | [x] => [x]
  | x :: y :: rest =>
    if key x == key y then dropRepeats key (x :: rest) else x :: dropRepeats key (y :: rest)
termination_by xs => xs.length

/-- The texts in order, each once. -/
def sortedSet (xs : List String) : List String :=
  dropRepeats id (sortOn id xs)

/-- The values that a list of keyed values gives to each key, in order of insertion. -/
abbrev Table (α : Type) := List (String × List α)

namespace Table

/-- Adds a value at the end of the values of a key. -/
def add {α : Type} (key : String) (value : α) : Table α → Table α
  | [] => [(key, [value])]
  | (k, values) :: rest =>
    if k = key then (k, values ++ [value]) :: rest else (k, values) :: add key value rest

/-- The values of a key. -/
def get {α : Type} (key : String) : Table α → List α
  | [] => []
  | (k, values) :: rest => if k = key then values else get key rest

/-- The values of a key after one more was added. -/
theorem get_add {α : Type} (key other : String) (value : α) (t : Table α) :
    get other (add key value t) = get other t ++ if key = other then [value] else [] := by
  induction t with
  | nil => by_cases h : key = other <;> simp [add, get, h]
  | cons entry rest ih =>
    obtain ⟨k, values⟩ := entry
    by_cases hk : k = key
    · subst hk
      by_cases ho : k = other <;> simp [add, get, ho]
    · by_cases ho : k = other
      · subst ho
        simp [add, get, hk, Ne.symm hk]
      · simp [add, get, hk, ho, ih]

end Table

end GoAddress
