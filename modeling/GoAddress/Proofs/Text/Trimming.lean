import Mathlib.Data.List.TakeWhile
import GoAddress.Proofs.Text.Splitting

/-!
# Laws of trimming

Trimming a text takes a run of characters of the class away at either end, and such runs make no
difference to what is left. So a text whose parts are trimmed need not be trimmed before it is
split.
-/

namespace GoAddress.Text

variable {p : Char → Bool}

/-- A run of the class at the start makes no difference. -/
theorem trim_append_left {xs : List Char} (hxs : ∀ c ∈ xs, p c = true) (cs : List Char) :
    trim p (xs ++ cs) = trim p cs := by
  rw [trim, trim, trimStart, trimStart, List.dropWhile_append_of_pos hxs]

/-- A run of the class at the end makes no difference. -/
theorem trim_append_right {ys : List Char} (hys : ∀ c ∈ ys, p c = true) (cs : List Char) :
    trim p (cs ++ ys) = trim p cs := by
  have hreverse : ∀ c ∈ ys.reverse, p c = true := fun c hc => hys c (List.mem_reverse.mp hc)
  have hall : ys.dropWhile p = [] := List.dropWhile_eq_nil_iff.mpr hys
  rw [trim, trim, trimStart, trimStart, List.dropWhile_append]
  split
  · next hempty =>
    rw [hall, List.isEmpty_iff.mp hempty]
  · rw [trimEnd, trimEnd, List.reverse_append, List.dropWhile_append_of_pos hreverse]

/-- A text that neither begins nor ends with a character of the class. -/
structure Trimmed (p : Char → Bool) (cs : List Char) : Prop where
  /-- The first character is not of the class. -/
  head : ∀ c ∈ cs.head?, p c = false
  /-- The last character is not of the class. -/
  last : ∀ c ∈ cs.getLast?, p c = false

namespace Trimmed

variable {xs ys : List Char}

/-- A text without characters of the class is trimmed. -/
theorem of_forall (h : ∀ c ∈ xs, p c = false) : Trimmed p xs :=
  ⟨fun c hc => h c (List.mem_of_mem_head? hc), fun c hc => h c (List.mem_of_getLast? hc)⟩

/-- Trimmed texts stay trimmed behind one another. -/
theorem append (hxs : Trimmed p xs) (hys : Trimmed p ys) : Trimmed p (xs ++ ys) := by
  constructor
  · intro c hc
    rw [List.head?_append, Option.mem_def, Option.or_eq_some_iff] at hc
    rcases hc with hc | ⟨-, hc⟩
    · exact hxs.head c hc
    · exact hys.head c hc
  · intro c hc
    rw [List.getLast?_append, Option.mem_def, Option.or_eq_some_iff] at hc
    rcases hc with hc | ⟨-, hc⟩
    · exact hys.last c hc
    · exact hxs.last c hc

/-- Backwards a trimmed text is trimmed as well. -/
theorem reverse (h : Trimmed p xs) : Trimmed p xs.reverse := by
  constructor
  · intro c hc
    rw [List.head?_reverse] at hc
    exact h.last c hc
  · intro c hc
    rw [List.getLast?_reverse] at hc
    exact h.head c hc

/-- Nothing is taken away at the start of a trimmed text. -/
theorem trimStart_eq (h : Trimmed p xs) : trimStart p xs = xs := by
  cases xs with
  | nil => rfl
  | cons c rest =>
    have hc : ¬ p c = true := by simp [h.head c rfl]
    exact List.dropWhile_cons_of_neg hc

/-- Nothing is taken away at the end of a trimmed text. -/
theorem trimEnd_eq (h : Trimmed p xs) : trimEnd p xs = xs := by
  have hreverse := h.reverse.trimStart_eq
  rw [trimStart] at hreverse
  rw [trimEnd, hreverse, List.reverse_reverse]

/-- A trimmed text stays as it is. -/
theorem trim_eq (h : Trimmed p xs) : trim p xs = xs := by
  rw [trim, h.trimStart_eq, h.trimEnd_eq]

/-- At the start, only what stands before a trimmed text is taken away. -/
theorem trimStart_append (hys : Trimmed p ys) (xs : List Char) :
    trimStart p (xs ++ ys) = trimStart p xs ++ ys := by
  have hkeep := hys.trimStart_eq
  rw [trimStart] at hkeep
  rw [trimStart, trimStart, List.dropWhile_append]
  split
  · next hempty => rw [hkeep, List.isEmpty_iff.mp hempty, List.nil_append]
  · rfl

/-- A run of the class behind a trimmed text is taken away at the end. -/
theorem trimEnd_append (hxs : Trimmed p xs) (hys : ∀ c ∈ ys, p c = true) :
    trimEnd p (xs ++ ys) = xs := by
  have hreverse : ∀ c ∈ ys.reverse, p c = true := fun c hc => hys c (List.mem_reverse.mp hc)
  rw [trimEnd, List.reverse_append, List.dropWhile_append_of_pos hreverse]
  exact hxs.trimEnd_eq

end Trimmed

/-- A text is what is left of it between two runs of the class. -/
theorem exists_eq_append_trim (p : Char → Bool) (cs : List Char) :
    ∃ xs ys, cs = xs ++ trim p cs ++ ys ∧ (∀ c ∈ xs, p c = true) ∧ ∀ c ∈ ys, p c = true := by
  refine ⟨cs.takeWhile p, ((trimStart p cs).reverse.takeWhile p).reverse, ?_, ?_, ?_⟩
  · have hend : trim p cs ++ ((trimStart p cs).reverse.takeWhile p).reverse = trimStart p cs := by
      rw [trim, trimEnd, ← List.reverse_append, List.takeWhile_append_dropWhile,
        List.reverse_reverse]
    rw [List.append_assoc, hend, trimStart, List.takeWhile_append_dropWhile]
  · exact fun c hc => List.mem_takeWhile_imp hc
  · exact fun c hc => List.mem_takeWhile_imp (List.mem_reverse.mp hc)

/-- A run of the class holds no other character. -/
theorem not_mem_of_run {run : List Char} (hrun : ∀ c ∈ run, p c = true) {c : Char}
    (hc : p c = false) : c ∉ run := by
  intro hmem
  rw [hrun c hmem] at hc
  exact Bool.noConfusion hc

/-- What is not of the class is not taken away. -/
theorem mem_trim {cs : List Char} {c : Char} (hmem : c ∈ cs) (hc : p c = false) :
    c ∈ trim p cs := by
  obtain ⟨xs, ys, hcs, hxs, hys⟩ := exists_eq_append_trim p cs
  rw [hcs, List.mem_append, List.mem_append] at hmem
  rcases hmem with (hmem | hmem) | hmem
  · exact absurd hmem (not_mem_of_run hxs hc)
  · exact hmem
  · exact absurd hmem (not_mem_of_run hys hc)

/-- Nothing is left of a text just if all of it is of the class. -/
theorem trim_eq_nil_iff {cs : List Char} : trim p cs = [] ↔ ∀ c ∈ cs, p c = true := by
  constructor
  · intro h c hc
    obtain ⟨xs, ys, hcs, hxs, hys⟩ := exists_eq_append_trim p cs
    rw [hcs, h, List.append_nil, List.mem_append] at hc
    exact hc.elim (hxs c) (hys c)
  · intro h
    have hnil := trim_append_left h []
    rw [List.append_nil] at hnil
    exact hnil

/-- What stands before a text without the separator comes before its first part. -/
theorem splitOn_append_left {sep : Char} {xs : List Char} (hxs : sep ∉ xs) (cs : List Char) :
    ∃ part parts, splitOn sep cs = part :: parts ∧
      splitOn sep (xs ++ cs) = (xs ++ part) :: parts := by
  obtain ⟨part, parts, hparts⟩ := List.exists_cons_of_ne_nil (splitOn_ne_nil sep cs)
  refine ⟨part, parts, hparts, ?_⟩
  induction xs with
  | nil => exact hparts
  | cons x xs ih =>
    have hx : x ≠ sep := Ne.symm (List.ne_of_not_mem_cons hxs)
    rw [List.cons_append, splitOn, if_neg hx, ih (List.not_mem_of_not_mem_cons hxs)]
    rfl

/-- What stands behind a text without the separator comes behind its last part. -/
theorem splitOn_append_right {sep : Char} {ys : List Char} (hys : sep ∉ ys) (cs : List Char) :
    ∃ parts part, splitOn sep cs = parts ++ [part] ∧
      splitOn sep (cs ++ ys) = parts ++ [part ++ ys] := by
  induction cs with
  | nil => exact ⟨[], [], rfl, splitOn_of_not_mem hys⟩
  | cons c cs ih =>
    obtain ⟨parts, part, hparts, hlonger⟩ := ih
    by_cases hc : c = sep
    · exact ⟨[] :: parts, part, by simp [splitOn, hc, hparts],
        by simp [splitOn, hc, hlonger]⟩
    · cases parts with
      | nil => exact ⟨[], c :: part, by simp [splitOn, hc, hparts],
          by simp [splitOn, hc, hlonger]⟩
      | cons first parts => exact ⟨(c :: first) :: parts, part, by simp [splitOn, hc, hparts],
          by simp [splitOn, hc, hlonger]⟩

/-- Where the separator is not of the class, trimming a text changes none of its trimmed parts. -/
theorem map_trim_splitOn_trim {sep : Char} (hsep : p sep = false) (cs : List Char) :
    (splitOn sep (trim p cs)).map (trim p) = (splitOn sep cs).map (trim p) := by
  obtain ⟨xs, ys, hcs, hxs, hys⟩ := exists_eq_append_trim p cs
  obtain ⟨parts, part, hparts, hright⟩ :=
    splitOn_append_right (not_mem_of_run hys hsep) (xs ++ trim p cs)
  obtain ⟨first, rest, hfirst, hleft⟩ :=
    splitOn_append_left (not_mem_of_run hxs hsep) (trim p cs)
  rw [hparts] at hleft
  calc (splitOn sep (trim p cs)).map (trim p)
      = trim p (xs ++ first) :: rest.map (trim p) := by
        rw [hfirst, List.map_cons, trim_append_left hxs]
    _ = (parts ++ [part]).map (trim p) := by rw [hleft, List.map_cons]
    _ = (parts ++ [part ++ ys]).map (trim p) := by
        rw [List.map_append, List.map_append, List.map_singleton, List.map_singleton,
          trim_append_right hys]
    _ = (splitOn sep cs).map (trim p) := by rw [← hright, ← hcs]

end GoAddress.Text
