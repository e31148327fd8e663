import Mathlib.Data.List.Basic
import Mathlib.Data.List.Infix
import GoAddress.Text.Split

/-!
# Laws of splitting and joining

Splitting at a separator and joining with it undo each other on parts that are free of the
separator. An empty part stands only at either end of a text or between two separators in a row,
so the checks for doubled and dangling delimiters say exactly that no part is empty. Cutting at the
last element with a property is characterised by the three pieces it gives.
-/

namespace GoAddress.Text

/-- A text without the separator is one part. -/
theorem splitOn_of_not_mem {sep : Char} {cs : List Char} (h : sep ∉ cs) :
    splitOn sep cs = [cs] := by
  induction cs with
  | nil => rfl
  | cons c rest ih =>
    have hc : c ≠ sep := Ne.symm (List.ne_of_not_mem_cons h)
    have hrest : sep ∉ rest := List.not_mem_of_not_mem_cons h
    rw [splitOn, if_neg hc, ih hrest]

/-- Around any separator a text splits into the parts of both sides. -/
theorem splitOn_append (sep : Char) (xs ys : List Char) :
    splitOn sep (xs ++ sep :: ys) = splitOn sep xs ++ splitOn sep ys := by
  induction xs with
  | nil => simp [splitOn]
  | cons c rest ih =>
    obtain ⟨part, parts, hparts⟩ := List.exists_cons_of_ne_nil (splitOn_ne_nil sep rest)
    by_cases hc : c = sep
    · simp only [List.cons_append, splitOn, if_pos hc, ih]
    · simp only [List.cons_append, splitOn, if_neg hc, ih, hparts]

/-- The last part of a text is that of what stands behind a separator in it. -/
theorem getLast?_splitOn_append (sep : Char) (xs ys : List Char) :
    (splitOn sep (xs ++ sep :: ys)).getLast? = (splitOn sep ys).getLast? := by
  rw [splitOn_append, List.getLast?_append_of_ne_nil _ (splitOn_ne_nil sep ys)]

/-- What stands behind the last separator is the last part. -/
theorem getLast?_splitOn_of_last {sep : Char} (xs : List Char) {ys : List Char} (h : sep ∉ ys) :
    (splitOn sep (xs ++ sep :: ys)).getLast? = some ys := by
  rw [getLast?_splitOn_append, splitOn_of_not_mem h, List.getLast?_singleton]

/-- No part of a split holds the separator. -/
theorem not_mem_of_mem_splitOn {sep : Char} {cs part : List Char} (h : part ∈ splitOn sep cs) :
    sep ∉ part := by
  induction cs generalizing part with
  | nil =>
    have hpart : part = [] := by simpa [splitOn] using h
    simp [hpart]
  | cons c rest ih =>
    obtain ⟨first, parts, hparts⟩ := List.exists_cons_of_ne_nil (splitOn_ne_nil sep rest)
    rw [hparts] at ih
    by_cases hc : c = sep
    · rw [splitOn, if_pos hc, hparts] at h
      rcases List.mem_cons.mp h with rfl | hmem
      · exact List.not_mem_nil
      · exact ih hmem
    · rw [splitOn, if_neg hc, hparts] at h
      rcases List.mem_cons.mp h with rfl | hmem
      · have hfirst := ih List.mem_cons_self
        exact List.not_mem_cons_of_ne_of_not_mem (Ne.symm hc) hfirst
      · exact ih (List.mem_cons_of_mem _ hmem)

/-- A join is its first part, and every later part behind a separator. -/
theorem joinWith_cons (sep : Char) (part : List Char) (parts : List (List Char)) :
    joinWith sep (part :: parts) = part ++ parts.flatMap (sep :: ·) := by
  induction parts generalizing part with
  | nil => simp [joinWith]
  | cons next parts ih => rw [joinWith, ih next, List.flatMap_cons, List.cons_append]

/-- Further parts are joined behind the parts before them. -/
theorem joinWith_append (sep : Char) {xs : List (List Char)} (h : xs ≠ [])
    (ys : List (List Char)) :
    joinWith sep (xs ++ ys) = joinWith sep xs ++ ys.flatMap (sep :: ·) := by
  obtain ⟨x, rest, rfl⟩ := List.exists_cons_of_ne_nil h
  rw [List.cons_append, joinWith_cons, joinWith_cons, List.flatMap_append, List.append_assoc]

/-- What is added to the last part is added to the join. -/
theorem joinWith_concat_append (sep : Char) (xs : List (List Char)) (y z : List Char) :
    joinWith sep (xs ++ [y ++ z]) = joinWith sep (xs ++ [y]) ++ z := by
  cases xs with
  | nil => rfl
  | cons x rest =>
    rw [joinWith_append sep (List.cons_ne_nil x rest), joinWith_append sep (List.cons_ne_nil x rest)]
    simp

/-- Splitting a join gives its parts back, if there are any and none holds the separator. -/
theorem splitOn_joinWith {sep : Char} {parts : List (List Char)} (hne : parts ≠ [])
    (h : ∀ part ∈ parts, sep ∉ part) : splitOn sep (joinWith sep parts) = parts := by
  induction parts with
  | nil => exact absurd rfl hne
  | cons part parts ih =>
    have hpart := splitOn_of_not_mem (h part List.mem_cons_self)
    cases parts with
    | nil => exact hpart
    | cons next parts =>
      have hrest := ih (List.cons_ne_nil next parts) fun q hq => h q (List.mem_cons_of_mem _ hq)
      rw [joinWith, splitOn_append, hpart, hrest, List.singleton_append]

/-- Where two texts meet, the last part of the one and the first part of the other become one. -/
theorem splitOn_append_eq (sep : Char) (xs ys : List Char) :
    ∃ before part first rest, splitOn sep xs = before ++ [part] ∧ splitOn sep ys = first :: rest ∧
      splitOn sep (xs ++ ys) = before ++ (part ++ first) :: rest := by
  obtain ⟨before, part, hxs⟩ : ∃ before part, splitOn sep xs = before ++ [part] :=
    ⟨_, _, (List.dropLast_concat_getLast (splitOn_ne_nil sep xs)).symm⟩
  obtain ⟨first, rest, hys⟩ := List.exists_cons_of_ne_nil (splitOn_ne_nil sep ys)
  have hleft : ∀ x ∈ before ++ [part], sep ∉ x := fun x hx => not_mem_of_mem_splitOn (hxs ▸ hx)
  have hright : ∀ y ∈ first :: rest, sep ∉ y := fun y hy => not_mem_of_mem_splitOn (hys ▸ hy)
  have hjoin : xs ++ ys = joinWith sep (before ++ (part ++ first) :: rest) := by
    rw [← List.singleton_append, ← List.append_assoc, joinWith_append sep (by simp),
      joinWith_concat_append, List.append_assoc, ← joinWith_cons, ← hxs, ← hys, joinWith_splitOn,
      joinWith_splitOn]
  refine ⟨before, part, first, rest, hxs, hys, ?_⟩
  rw [hjoin]
  apply splitOn_joinWith (by simp)
  intro x hx
  rcases List.mem_append.mp hx with hx | hx
  · exact hleft x (List.mem_append_left _ hx)
  · rcases List.mem_cons.mp hx with rfl | hx
    · rw [List.mem_append, not_or]
      exact ⟨hleft part (by simp), hright first List.mem_cons_self⟩
    · exact hright x (List.mem_cons_of_mem _ hx)

/-- What follows without the separator only makes the last part longer. -/
theorem splitOn_concat (sep : Char) (base : List Char) {suffix : List Char} (h : sep ∉ suffix) :
    ∃ before part, splitOn sep base = before ++ [part] ∧
      splitOn sep (base ++ suffix) = before ++ [part ++ suffix] := by
  obtain ⟨before, part, first, rest, hbase, hsuffix, hwhole⟩ := splitOn_append_eq sep base suffix
  rw [splitOn_of_not_mem h] at hsuffix
  cases hsuffix
  exact ⟨before, part, hbase, hwhole⟩

/-- A character of a join is the separator or stands in a part. -/
theorem mem_of_mem_joinWith {sep c : Char} {parts : List (List Char)}
    (h : c ∈ joinWith sep parts) : c = sep ∨ ∃ part ∈ parts, c ∈ part := by
  cases parts with
  | nil => exact absurd h List.not_mem_nil
  | cons part parts =>
    rw [joinWith_cons, List.mem_append, List.mem_flatMap] at h
    rcases h with hpart | ⟨next, hnext, hc⟩
    · exact Or.inr ⟨part, List.mem_cons_self, hpart⟩
    · rcases List.mem_cons.mp hc with rfl | hc
      · exact Or.inl rfl
      · exact Or.inr ⟨next, List.mem_cons_of_mem _ hnext, hc⟩

/-- The first part of a split is empty if the text is empty or begins with the separator. -/
theorem head_splitOn_eq_nil_iff {sep : Char} {cs : List Char} :
    (splitOn sep cs).head? = some [] ↔ cs = [] ∨ cs.head? = some sep := by
  cases cs with
  | nil => simp [splitOn]
  | cons c rest =>
    obtain ⟨part, parts, hparts⟩ := List.exists_cons_of_ne_nil (splitOn_ne_nil sep rest)
    by_cases hc : c = sep
    · simp [splitOn, hc]
    · simp [splitOn, hc, hparts]

/-- A part behind the first is empty if the text ends with the separator or doubles it. -/
theorem nil_mem_tail_splitOn_iff {sep : Char} {cs : List Char} :
    [] ∈ (splitOn sep cs).tail ↔ cs.getLast? = some sep ∨ [sep, sep] <:+: cs := by
  induction cs with
  | nil => simp [splitOn]
  | cons c rest ih =>
    obtain ⟨part, parts, hparts⟩ := List.exists_cons_of_ne_nil (splitOn_ne_nil sep rest)
    have hhead := @head_splitOn_eq_nil_iff sep rest
    rw [hparts] at ih hhead
    rw [List.tail_cons] at ih
    rw [List.infix_cons_iff]
    by_cases hc : c = sep
    · -- Behind a separator the first part of the rest counts as well.
      subst hc
      have hmem : [] ∈ (splitOn c (c :: rest)).tail ↔ part = [] ∨ [] ∈ parts := by
        rw [splitOn, if_pos rfl, hparts]
        simp [eq_comm]
      simp only [List.head?_cons, Option.some.injEq] at hhead
      rw [hmem, hhead, ih]
      cases rest with
      | nil => simp
      | cons d rest => simp [List.getLast?_cons_cons, eq_comm, or_left_comm]
    · have hmem : [] ∈ (splitOn sep (c :: rest)).tail ↔ [] ∈ parts := by
        rw [splitOn, if_neg hc, hparts, List.tail_cons]
      rw [hmem, ih]
      cases rest with
      | nil => simp [hc]
      | cons d rest => simp [List.getLast?_cons_cons, Ne.symm hc]

/-- No part of a split is empty exactly if the text is not empty, neither begins nor ends with the
separator, and nowhere doubles it. -/
theorem nil_not_mem_splitOn_iff {sep : Char} {cs : List Char} :
    [] ∉ splitOn sep cs ↔
      cs ≠ [] ∧ cs.head? ≠ some sep ∧ cs.getLast? ≠ some sep ∧ ¬[sep, sep] <:+: cs := by
  obtain ⟨part, parts, hparts⟩ := List.exists_cons_of_ne_nil (splitOn_ne_nil sep cs)
  have hhead := @head_splitOn_eq_nil_iff sep cs
  have htail := @nil_mem_tail_splitOn_iff sep cs
  rw [hparts] at hhead htail ⊢
  simp only [List.head?_cons, Option.some.injEq, List.tail_cons] at hhead htail
  rw [List.mem_cons, eq_comm, hhead, htail]
  tauto

/-- Occurrence as one piece is the infix relation. -/
theorem hasPart_iff {part cs : List Char} : hasPart part cs = true ↔ part <:+: cs := by
  induction cs with
  | nil => simp [hasPart]
  | cons c rest ih =>
    rw [hasPart, Bool.or_eq_true, List.isPrefixOf_iff_prefix, ih, List.infix_cons_iff]

/-- There is no cut exactly if no element has the property. -/
theorem cutAtLast?_eq_none_iff {α : Type} {p : α → Bool} {xs : List α} :
    cutAtLast? p xs = none ↔ ∀ x ∈ xs, p x = false := by
  induction xs with
  | nil => simp [cutAtLast?]
  | cons x rest ih =>
    cases hrest : cutAtLast? p rest with
    | none =>
      have hall := ih.mp hrest
      by_cases hx : p x = true
      · simp [cutAtLast?, hrest, hx]
      · simpa [cutAtLast?, hrest, hx] using hall
    | some cut =>
      have hsome : ¬∀ y ∈ rest, p y = false := fun hall => by simp [ih.mpr hall] at hrest
      simp only [cutAtLast?, hrest, reduceCtorEq, false_iff]
      exact fun hall => hsome fun y hy => hall y (List.mem_cons_of_mem x hy)

/-- A cut gives the whole list back, at an element with the property behind which there is none. -/
theorem cutAtLast?_eq_some_iff {α : Type} {p : α → Bool} {xs before after : List α} {x : α} :
    cutAtLast? p xs = some (before, x, after) ↔
      xs = before ++ x :: after ∧ p x = true ∧ ∀ y ∈ after, p y = false := by
  induction xs generalizing before with
  | nil => simp [cutAtLast?]
  | cons first rest ih =>
    cases hrest : cutAtLast? p rest with
    | none =>
      have hnone := cutAtLast?_eq_none_iff.mp hrest
      by_cases hfirst : p first = true
      · simp only [cutAtLast?, hrest, if_pos hfirst, Option.some.injEq, Prod.mk.injEq]
        constructor
        · rintro ⟨rfl, rfl, rfl⟩
          exact ⟨rfl, hfirst, hnone⟩
        · rintro ⟨heq, hx, -⟩
          cases before with
          | nil =>
            obtain ⟨rfl, rfl⟩ := List.cons.inj heq
            exact ⟨rfl, rfl, rfl⟩
          | cons b before =>
            obtain ⟨-, rfl⟩ := List.cons.inj heq
            have hfalse := hnone x (by simp)
            rw [hx] at hfalse
            cases hfalse
      · simp only [cutAtLast?, hrest, if_neg hfirst, reduceCtorEq, false_iff]
        rintro ⟨heq, hx, -⟩
        have hmem : x ∈ first :: rest := heq ▸ List.mem_append_right before List.mem_cons_self
        rcases List.mem_cons.mp hmem with rfl | hmem
        · exact hfirst hx
        · simp [hnone x hmem] at hx
    | some cut =>
      obtain ⟨b, y, a⟩ := cut
      rw [hrest] at ih
      simp only [cutAtLast?, hrest, Option.some.injEq, Prod.mk.injEq] at ih ⊢
      constructor
      · rintro ⟨rfl, rfl, rfl⟩
        obtain ⟨hcut, hrest⟩ := (@ih b).mp ⟨rfl, rfl, rfl⟩
        exact ⟨congrArg (first :: ·) hcut, hrest⟩
      · rintro ⟨heq, hx, hafter⟩
        cases before with
        | nil =>
          obtain ⟨rfl, rfl⟩ := List.cons.inj heq
          have hnone := cutAtLast?_eq_none_iff.mpr hafter
          simp [hnone] at hrest
        | cons c before =>
          obtain ⟨rfl, rfl⟩ := List.cons.inj heq
          obtain ⟨rfl, rfl, rfl⟩ := ih.mpr ⟨rfl, hx, hafter⟩
          exact ⟨rfl, rfl, rfl⟩

end GoAddress.Text
