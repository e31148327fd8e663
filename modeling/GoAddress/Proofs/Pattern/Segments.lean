import GoAddress.Proofs.Pattern.Matching

/-!
# A star stays in its segment

Dots, slashes and brackets delimit the segments of an address. A star stands for texts without
delimiters, and any other character for itself, so the tokens of a pattern without double stars
bring in no delimiter and leave none out. Main statement: such a pattern matches only texts that
have its own delimiters, in the same order.
-/

namespace GoAddress.Pattern

/-- The delimiters of a text, in order. -/
def delimiters (cs : List Char) : List Char :=
  cs.filter fun c => c == '.' || c == '/' || c == '[' || c == ']'

/-- The characters that stand for wildcards when they are written in a pattern. -/
def marks : List Char :=
  ['\uE000', '\uE001', '\uE002', '\uE003']

/-- The delimiters of two texts put together. -/
theorem delimiters_append (u v : List Char) : delimiters (u ++ v) = delimiters u ++ delimiters v :=
  List.filter_append u v

/-- A star stands for the texts that have no delimiters. -/
theorem delimiters_eq_nil_iff {u : List Char} : delimiters u = [] ↔ Denotes .star u := by
  rw [← forall_isSegmentChar_iff, delimiters, List.filter_eq_nil_iff]
  have hchar : ∀ c : Char, (¬ (c == '.' || c == '/' || c == '[' || c == ']') = true) ↔
      isSegmentChar c = true := by
    intro c
    simp [isSegmentChar, and_assoc]
  simp only [hchar]

/-- A character that is no mark stands for itself. -/
theorem charToken_of_not_mem_marks {c : Char} (h : c ∉ marks) : charToken c = .literal c := by
  simp only [marks, List.mem_cons, List.not_mem_nil, or_false, not_or] at h
  rw [charToken, if_neg h.1, if_neg h.2.1, if_neg h.2.2.1, if_neg h.2.2.2]

/-- What is read from a text without double stars and marks spells texts with the delimiters of
that text. -/
theorem Reads.delimiters_of_spells {cs text : List Char} {tokens : List PatternToken}
    (hreads : Reads cs tokens) (hdeep : ¬ ['*', '*'] <:+: cs) (hmarks : ∀ c ∈ cs, c ∉ marks)
    (hspells : Spells tokens text) : delimiters text = delimiters cs := by
  -- The rest behind the first character has no double star either.
  have hrest : ∀ {c : Char} {rest : List Char}, ¬ ['*', '*'] <:+: c :: rest →
      ¬ ['*', '*'] <:+: rest :=
    fun h hrest => h (hrest.trans (List.suffix_cons _ _).isInfix)
  induction hreads generalizing text with
  | nil =>
    have htext := spells_nil.mp hspells
    rw [htext]
  | @leadingPath rest _ _ _ => exact absurd ⟨[], '/' :: rest, rfl⟩ hdeep
  | @trailingPath rest _ _ _ _ => exact absurd ⟨['/'], rest, rfl⟩ hdeep
  | @deepStar rest _ _ _ _ => exact absurd ⟨[], rest, rfl⟩ hdeep
  | @star rest tokens _ _ ih =>
    obtain ⟨u, v, hu, hv, rfl⟩ := spells_cons.mp hspells
    have hstar : delimiters u = [] := delimiters_eq_nil_iff.mpr hu
    have hbehind : delimiters v = delimiters rest :=
      ih (hrest hdeep) (fun c hc => hmarks c (List.mem_cons_of_mem _ hc)) hv
    rw [delimiters_append, hstar, hbehind]
    rfl
  | @character c rest tokens _ _ _ ih =>
    rw [charToken_of_not_mem_marks (hmarks c List.mem_cons_self)] at hspells
    obtain ⟨u, v, hu, hv, rfl⟩ := spells_cons.mp hspells
    have hself : u = [c] := hu
    have hbehind : delimiters v = delimiters rest :=
      ih (hrest hdeep) (fun d hd => hmarks d (List.mem_cons_of_mem _ hd)) hv
    rw [hself, delimiters_append, hbehind, ← delimiters_append]
    rfl

/-- A star stays in its segment: a pattern in which no two stars stand next to each other, and in
which no mark is written, matches only texts that have its delimiters in the same order. -/
theorem matches_keep_delimiters {s : String} {p : Pattern} (h : compile s = .ok p)
    (hdeep : ¬ ['*', '*'] <:+: s.toList) (hmarks : ∀ c ∈ s.toList, c ∉ marks) (text : String)
    (hmatch : p.matchesText text = true) : delimiters text.toList = delimiters s.toList := by
  obtain ⟨-, rfl⟩ := compile_eq_ok_iff.mp h
  have hspells : Spells (tokenize s.toList) text.toList := matchesText_iff.mp hmatch
  exact (reads_tokenize s.toList).delimiters_of_spells hdeep hmarks hspells

/-- Two stars of one pattern, one of them in brackets, take a text each. -/
theorem matches_keep_delimiters_in_brackets :
    ∃ p, compile "store.*/fields[*]" = .ok p ∧
      p.matchesText "store.Order/fields[Total]" = true ∧
      delimiters "store.Order/fields[Total]".toList = ['.', '/', '[', ']'] ∧
      p.matchesText "store.Order/fields[Total]/tag[json]" = false := by
  obtain ⟨p, hp⟩ : ∃ p, compile "store.*/fields[*]" = .ok p := ⟨_, rfl⟩
  have hkeep := matches_keep_delimiters hp (by decide) (by simp [marks])
  have hmatch : p.matchesText "store.Order/fields[Total]" = true := by
    cases hp
    decide +kernel
  have hlonger : delimiters "store.Order/fields[Total]/tag[json]".toList ≠
      delimiters "store.*/fields[*]".toList := by decide
  exact ⟨p, hp, hmatch, hkeep _ hmatch, Bool.eq_false_iff.mpr fun h => hlonger (hkeep _ h)⟩

end GoAddress.Pattern
