import GoAddress.Text.Blank

/-!
# Cutting and joining character lists

Texts are taken apart as lists of characters: split at a delimiter, trimmed of blanks, or cut at
the last element with a property. Splitting loses nothing: joining the parts with the delimiter
gives the text back.
-/

namespace GoAddress.Text

/-- The parts of a text between occurrences of `sep`; a text without `sep` is one part. -/
def splitOn (sep : Char) : List Char → List (List Char)
  | [] => [[]]
  | c :: rest =>
    if c = sep then [] :: splitOn sep rest
    else match splitOn sep rest with
      | [] => [[c]]
      | part :: parts => (c :: part) :: parts

/-- The parts joined again, with `sep` between neighbours. -/
def joinWith (sep : Char) : List (List Char) → List Char
  | [] => []
  | [part] => part
  | part :: next :: parts => part ++ sep :: joinWith sep (next :: parts)

/-- Splitting never yields an empty list of parts. -/
theorem splitOn_ne_nil (sep : Char) (cs : List Char) : splitOn sep cs ≠ [] := by
  cases cs with
  | nil => simp [splitOn]
  | cons c rest =>
    rw [splitOn]
    split
    · simp
    · split <;> simp

/-- Joining the parts of a split gives the text back. -/
theorem joinWith_splitOn (sep : Char) (cs : List Char) : joinWith sep (splitOn sep cs) = cs := by
  induction cs with
  | nil => rfl
  | cons c rest ih =>
    rw [splitOn]
    obtain ⟨part, parts, hparts⟩ := List.exists_cons_of_ne_nil (splitOn_ne_nil sep rest)
    split
    · next h =>
      rw [hparts] at ih ⊢
      simp [joinWith, ih, h]
    · rw [hparts] at ih ⊢
      cases parts with
      | nil => simpa [joinWith] using ih
      | cons next parts => simpa [joinWith] using ih

/-- Cuts a list at its last element with the property: what stands before it, it, what follows. -/
def cutAtLast? {α : Type} (p : α → Bool) : List α → Option (List α × α × List α)
  | [] => none
  | x :: rest =>
    match cutAtLast? p rest with
    | some (before, at', after) => some (x :: before, at', after)
    | none => if p x then some ([], x, rest) else none

/-- The text without the characters of the class at its start. -/
def trimStart (p : Char → Bool) (cs : List Char) : List Char :=
  cs.dropWhile p

/-- The text without the characters of the class at its end. -/
def trimEnd (p : Char → Bool) (cs : List Char) : List Char :=
  (cs.reverse.dropWhile p).reverse

/-- The text without the characters of the class at either end. -/
def trim (p : Char → Bool) (cs : List Char) : List Char :=
  trimEnd p (trimStart p cs)

/-- A string without blanks at either end. -/
def trimBlanks (s : String) : String :=
  String.ofList (trim isBlank s.toList)

/-- Whether `part` occurs in the text as one piece. -/
def hasPart (part : List Char) : List Char → Bool
  | [] => part.isEmpty
  | c :: rest => part.isPrefixOf (c :: rest) || hasPart part rest

/-- The text behind the prefix, if it starts with it. -/
def dropPrefix? (start : List Char) (cs : List Char) : Option (List Char) :=
  start.isPrefixOf? cs

/-- The text before the suffix, if it ends with it. -/
def dropSuffix? (stop : List Char) (cs : List Char) : Option (List Char) :=
  stop.isSuffixOf? cs

/-- Strings joined with a separator. -/
def joinStrings (sep : String) (parts : List String) : String :=
  sep.intercalate parts

/-- Removes the prefix as often as the text starts with it; an empty prefix removes nothing. -/
def dropPrefixes (start : List Char) (cs : List Char) : List Char :=
  go cs.length cs
where
  /-- At most `fuel` removals; each one shortens the text. -/
  go : Nat → List Char → List Char
    | 0, cs => cs
    | fuel + 1, cs =>
      match dropPrefix? start cs with
      | some rest => if start.isEmpty then cs else go fuel rest
      | none => cs

/-- Removes the suffix as often as the text ends with it. -/
def dropSuffixes (stop : List Char) (cs : List Char) : List Char :=
  (dropPrefixes stop.reverse cs.reverse).reverse

end GoAddress.Text
