import Mathlib.Data.List.Basic
import Mathlib.Data.List.Infix
import GoAddress.Pattern.Basic

/-!
# How patterns are read

A text is a pattern if it is not blank, has no run of three stars, and opens and closes brackets in
turn. `Reads` says which tokens a text has when it is read from left to right, and the reader finds
just these. The same tokens come out when the wildcards are swapped for marks, one kind after the
other over the whole text: a run of three stars is the only text on which the two ways could differ.
-/

namespace GoAddress.Pattern

/-! ## Faults -/

/-- The brackets of a text open and close in turn, and none stays open. -/
def BracketsPaired (cs : List Char) : Prop :=
  ∃ n, cs.filter (fun c => c == '[' || c == ']') = (List.replicate n ['[', ']']).flatten

/-- What the brackets behind an open bracket have to be. -/
def BracketsClosing (cs : List Char) : Prop :=
  ∃ n, cs.filter (fun c => c == '[' || c == ']') = ']' :: (List.replicate n ['[', ']']).flatten

/-- Brackets that are paired and begin with an opening one go on with a closing one. -/
theorem bracketsPaired_open {rest : List Char} :
    BracketsPaired ('[' :: rest) ↔ BracketsClosing rest := by
  simp only [BracketsPaired, BracketsClosing]
  constructor
  · rintro ⟨n, hn⟩
    cases n with
    | zero => simp at hn
    | succ n => exact ⟨n, by simpa [List.replicate_succ] using hn⟩
  · rintro ⟨n, hn⟩
    exact ⟨n + 1, by simpa [List.replicate_succ] using hn⟩

/-- Paired brackets do not begin with a closing one. -/
theorem not_bracketsPaired_close {rest : List Char} : ¬ BracketsPaired (']' :: rest) := by
  rintro ⟨n, hn⟩
  cases n with
  | zero => simp at hn
  | succ n => simp [List.replicate_succ] at hn

/-- Behind a bracket that closes, brackets are paired. -/
theorem bracketsClosing_close {rest : List Char} :
    BracketsClosing (']' :: rest) ↔ BracketsPaired rest := by
  simp [BracketsClosing, BracketsPaired]

/-- An open bracket is not opened again. -/
theorem not_bracketsClosing_open {rest : List Char} : ¬ BracketsClosing ('[' :: rest) := by
  simp [BracketsClosing]

/-- Other characters do not matter to brackets. -/
theorem bracketsPaired_cons {c : Char} (hopen : c ≠ '[') (hclose : c ≠ ']') {rest : List Char} :
    (BracketsPaired (c :: rest) ↔ BracketsPaired rest) ∧
      (BracketsClosing (c :: rest) ↔ BracketsClosing rest) := by
  simp [BracketsPaired, BracketsClosing, hopen, hclose]

/-- A run of three stars goes on from the stars just read, or lies behind another character. -/
theorem stars_infix_cons {c : Char} (hc : c ≠ '*') {run : Nat} (hrun : run ≤ 2) {rest : List Char} :
    ['*', '*', '*'] <:+: List.replicate run '*' ++ c :: rest ↔ ['*', '*', '*'] <:+: rest := by
  have hfirst : ¬ ['*', '*', '*'] <+: c :: rest := by
    simp [Ne.symm hc]
  have hlone : ¬ ['*', '*', '*'] <+: '*' :: c :: rest := by
    simp [Ne.symm hc]
  have hpair : ¬ ['*', '*', '*'] <+: '*' :: '*' :: c :: rest := by
    simp [Ne.symm hc]
  have hcases : run = 0 ∨ run = 1 ∨ run = 2 := by omega
  rcases hcases with rfl | rfl | rfl
  · simp [List.infix_cons_iff, hfirst]
  · simp [List.infix_cons_iff, hfirst, hlone]
  · simp [List.replicate_succ, List.infix_cons_iff, hfirst, hlone, hpair]

/-- A text passes the check if, counting the stars and the bracket before it, it has no run of three
stars and its brackets are in order. -/
theorem checkFrom_eq_ok_iff {run : Nat} (hrun : run ≤ 2) (isOpen : Bool) (cs : List Char) :
    checkFrom run isOpen cs = .ok () ↔
      ¬ ['*', '*', '*'] <:+: List.replicate run '*' ++ cs ∧
        if isOpen then BracketsClosing cs else BracketsPaired cs := by
  induction cs generalizing run isOpen with
  | nil =>
    have hshort : ¬ ['*', '*', '*'] <:+: List.replicate run '*' := by
      intro h
      have hlength := h.length_le
      simp only [List.length_cons, List.length_nil, List.length_replicate] at hlength
      omega
    cases isOpen with
    | false => simp [checkFrom, hshort, BracketsPaired]
    | true => simp [checkFrom, BracketsClosing]
  | cons c rest ih =>
    by_cases hstar : c = '*'
    · subst hstar
      obtain ⟨hpaired, hclosing⟩ :=
        @bracketsPaired_cons '*' (by decide) (by decide) rest
      by_cases hthree : run ≥ 2
      · have htwo : run = 2 := by omega
        have hinfix : ['*', '*', '*'] <:+: List.replicate run '*' ++ '*' :: rest :=
          ⟨[], rest, by simp [htwo, List.replicate_succ]⟩
        simp [checkFrom, hthree, hinfix]
      · have hnext := ih (show run + 1 ≤ 2 by omega) isOpen
        have hmove : List.replicate (run + 1) '*' ++ rest =
            List.replicate run '*' ++ '*' :: rest := by
          rw [List.replicate_succ', List.append_assoc, List.singleton_append]
        rw [checkFrom, if_pos rfl, if_neg hthree, hnext, hmove, hpaired, hclosing]
    · have hstars := @stars_infix_cons c hstar run hrun rest
      have hnext := @ih 0 (by omega)
      rw [List.replicate_zero, List.nil_append] at hnext
      by_cases hopen : c = '['
      · subst hopen
        cases isOpen with
        | false => simp [checkFrom, hnext, hstars, bracketsPaired_open]
        | true => simp [checkFrom, not_bracketsClosing_open]
      · by_cases hclose : c = ']'
        · subst hclose
          cases isOpen with
          | false => simp [checkFrom, not_bracketsPaired_close]
          | true => simp [checkFrom, hnext, hstars, bracketsClosing_close]
        · obtain ⟨hpaired, hclosing⟩ := @bracketsPaired_cons c hopen hclose rest
          rw [checkFrom, if_neg hstar, if_neg hopen, if_neg hclose, hnext, hstars, hpaired,
            hclosing]

/-- The texts that are patterns. -/
structure WellFormed (cs : List Char) : Prop where
  /-- Some character is not blank. -/
  visible : ∃ c ∈ cs, Text.isBlank c = false
  /-- Stars stand alone or in pairs. -/
  starRuns : ¬ ['*', '*', '*'] <:+: cs
  /-- Brackets open and close in turn. -/
  brackets : BracketsPaired cs

/-- The check finds no fault in just the texts that are patterns. -/
theorem check_eq_ok_iff {cs : List Char} : check cs = .ok () ↔ WellFormed cs := by
  have hfrom := checkFrom_eq_ok_iff (Nat.zero_le 2) false cs
  rw [List.replicate_zero, List.nil_append, if_neg Bool.false_ne_true] at hfrom
  by_cases hblank : cs.all Text.isBlank = true
  · have hnone : ¬ WellFormed cs := by
      rintro ⟨⟨c, hc, hvisible⟩, -, -⟩
      rw [List.all_eq_true.mp hblank c hc] at hvisible
      exact Bool.noConfusion hvisible
    simp [check, hblank, hnone]
  · have hvisible : ∃ c ∈ cs, Text.isBlank c = false := by simpa using hblank
    rw [check, if_neg hblank, hfrom]
    exact ⟨fun h => ⟨hvisible, h.1, h.2⟩, fun h => ⟨h.starRuns, h.brackets⟩⟩

/-- A pattern keeps its text and has the tokens that are read from it. -/
theorem compile_eq_ok_iff {s : String} {p : Pattern} :
    compile s = .ok p ↔ WellFormed s.toList ∧ p = ⟨s, tokenize s.toList⟩ := by
  rw [← check_eq_ok_iff, compile]
  split
  · next h => simp [h, eq_comm]
  · next fault h => simp [h]

/-! ## Tokens -/

/-- Whether a text goes on with a double star that has no slash behind it. -/
def GoesDeep (cs : List Char) : Prop :=
  ∃ rest, cs = '*' :: '*' :: rest ∧ rest.head? ≠ some '/'

/-- The tokens of a text from left to right. A double star takes the slash behind it; one with no
slash behind it takes the slash before it, unless that slash was taken already. -/
inductive Reads : List Char → List PatternToken → Prop
  | nil : Reads [] []
  | leadingPath {rest tokens} (h : Reads rest tokens) :
      Reads ('*' :: '*' :: '/' :: rest) (.leadingPath :: tokens)
  | trailingPath {rest tokens} (hnext : rest.head? ≠ some '/') (h : Reads rest tokens) :
      Reads ('/' :: '*' :: '*' :: rest) (.trailingPath :: tokens)
  | deepStar {rest tokens} (hnext : rest.head? ≠ some '/') (h : Reads rest tokens) :
      Reads ('*' :: '*' :: rest) (.deepStar :: tokens)
  | star {rest tokens} (hnext : rest.head? ≠ some '*') (h : Reads rest tokens) :
      Reads ('*' :: rest) (.star :: tokens)
  | character {c rest tokens} (hstar : c ≠ '*') (hslash : c = '/' → ¬ GoesDeep rest)
      (h : Reads rest tokens) : Reads (c :: rest) (charToken c :: tokens)

/-- A text does not begin with a character if it is not that character and a rest. -/
theorem head?_ne_some_iff {c : Char} {cs : List Char} :
    cs.head? ≠ some c ↔ ∀ rest, cs ≠ c :: rest := by
  rw [ne_eq, List.head?_eq_some_iff, not_exists]

/-- The reader finds tokens of the text. -/
theorem reads_tokenize (cs : List Char) : Reads cs (tokenize cs) := by
  fun_induction tokenize cs with
  | case1 rest ih => exact .leadingPath ih
  | case2 rest ih =>
    have hslash : charToken '/' = .literal '/' := by decide
    rw [← hslash]
    refine .character (by decide) (fun _ => ?_) (.leadingPath ih)
    rintro ⟨more, hmore, hhead⟩
    simp only [List.cons.injEq, true_and] at hmore
    rw [← hmore] at hhead
    exact hhead rfl
  | case3 rest hnext ih => exact .trailingPath (head?_ne_some_iff.mpr hnext) ih
  | case4 rest hnext ih => exact .deepStar (head?_ne_some_iff.mpr hnext) ih
  | case5 rest _ hnext ih => exact .star (head?_ne_some_iff.mpr hnext) ih
  | case6 c rest _ _ hdeep _ hstar ih =>
    refine .character hstar (fun hslash => ?_) ih
    rintro ⟨more, hmore, -⟩
    exact hdeep more hslash hmore
  | case7 => exact .nil

/-- A character that is no part of a wildcard is a token of its own. -/
theorem tokenize_cons {c : Char} {rest : List Char} (hstar : c ≠ '*')
    (hslash : c = '/' → ¬ GoesDeep rest) :
    tokenize (c :: rest) = charToken c :: tokenize rest := by
  generalize hcs : c :: rest = cs
  fun_cases tokenize cs with
  | case1 more => exact absurd (List.cons.inj hcs).1 hstar
  | case2 more =>
    -- The slash stays alone, since the double star behind it takes another one.
    obtain ⟨rfl, rfl⟩ := List.cons.inj hcs
    rfl
  | case3 more hnext =>
    obtain ⟨hc, hrest⟩ := List.cons.inj hcs
    exact absurd ⟨more, hrest, head?_ne_some_iff.mpr hnext⟩ (hslash hc)
  | case4 more hnext => exact absurd (List.cons.inj hcs).1 hstar
  | case5 more hnext _ => exact absurd (List.cons.inj hcs).1 hstar
  | case6 d more _ _ _ _ _ =>
    obtain ⟨rfl, rfl⟩ := List.cons.inj hcs
    rfl
  | case7 => exact absurd hcs (List.cons_ne_nil c rest)

/-- A text has no other tokens than those that the reader finds. -/
theorem Reads.eq_tokenize {cs : List Char} {tokens : List PatternToken} (h : Reads cs tokens) :
    tokens = tokenize cs := by
  induction h with
  | nil => rfl
  | leadingPath h ih => rw [tokenize, ih]
  | trailingPath hnext h ih =>
    rw [tokenize, ih]
    exact head?_ne_some_iff.mp hnext
  | deepStar hnext h ih =>
    rw [tokenize, ih]
    exact head?_ne_some_iff.mp hnext
  | star hnext h ih =>
    rw [tokenize, ih]
    · exact fun more => head?_ne_some_iff.mp hnext ('/' :: more)
    · exact head?_ne_some_iff.mp hnext
  | character hstar hslash h ih => rw [tokenize_cons hstar hslash, ih]

/-! ## Marks -/

/-- The text with every occurrence of a part, from left to right, replaced by a mark. The number
counts the characters of an occurrence that are still to be passed over. -/
def markFrom (part : List Char) (mark : Char) : Nat → List Char → List Char
  | _, [] => []
  | skip + 1, _ :: rest => markFrom part mark skip rest
  | 0, c :: rest =>
    if part.isPrefixOf (c :: rest) then mark :: markFrom part mark (part.length - 1) rest
    else c :: markFrom part mark 0 rest

/-- The text with the wildcards swapped for marks, one kind after the other. -/
def marked (cs : List Char) : List Char :=
  markFrom ['*'] '\uE003' 0 (markFrom ['*', '*'] '\uE002' 0
    (markFrom ['/', '*', '*'] '\uE001' 0 (markFrom ['*', '*', '/'] '\uE000' 0 cs)))

section Marks

variable {part : List Char} {mark : Char}

/-- What is passed over leaves nothing behind. -/
theorem markFrom_length_append (xs rest : List Char) :
    markFrom part mark xs.length (xs ++ rest) = markFrom part mark 0 rest := by
  induction xs with
  | nil => rfl
  | cons x xs ih => exact ih

/-- An occurrence at the front becomes the mark. -/
theorem markFrom_append (hpart : part ≠ []) (rest : List Char) :
    markFrom part mark 0 (part ++ rest) = mark :: markFrom part mark 0 rest := by
  obtain ⟨c, cs, rfl⟩ := List.exists_cons_of_ne_nil hpart
  have hfront : (c :: cs).isPrefixOf (c :: (cs ++ rest)) = true :=
    List.isPrefixOf_iff_prefix.mpr (List.prefix_append (c :: cs) rest)
  rw [List.cons_append, markFrom, if_pos hfront, List.length_cons, Nat.add_sub_cancel,
    markFrom_length_append]

/-- A character that begins no occurrence stays. -/
theorem markFrom_cons {c : Char} {rest : List Char} (h : ¬ part <+: c :: rest) :
    markFrom part mark 0 (c :: rest) = c :: markFrom part mark 0 rest := by
  rw [markFrom, if_neg (by rwa [List.isPrefixOf_iff_prefix])]

/-- A marked text begins with the mark, or as the text does. -/
theorem head?_of_head?_markFrom {cs : List Char} {x : Char} (hmark : mark ≠ x)
    (h : (markFrom part mark 0 cs).head? = some x) : cs.head? = some x := by
  cases cs with
  | nil => exact h
  | cons c rest =>
    rw [markFrom] at h
    split at h
    · exact absurd (Option.some.inj h) hmark
    · exact h

/-- Marking brings no two stars to the front. -/
theorem stars_prefix_of_markFrom {cs : List Char} (hmark : mark ≠ '*')
    (h : ['*', '*'] <+: markFrom part mark 0 cs) : ['*', '*'] <+: cs := by
  cases cs with
  | nil => exact h
  | cons c rest =>
    rw [markFrom] at h
    split at h
    · exact absurd (List.cons_prefix_cons.mp h).1.symm hmark
    · obtain ⟨hc, hrest⟩ := List.cons_prefix_cons.mp h
      obtain ⟨more, hmore⟩ := hrest
      have hhead := head?_of_head?_markFrom hmark (congrArg List.head? hmore).symm
      obtain ⟨after, rfl⟩ := List.head?_eq_some_iff.mp hhead
      exact ⟨after, by rw [hc]; rfl⟩

end Marks

/-- A double star and the slash behind it get the first mark. -/
theorem marked_leadingPath (rest : List Char) :
    marked ('*' :: '*' :: '/' :: rest) = '\uE000' :: marked rest := by
  have hmark := @markFrom_append ['*', '*', '/'] '\uE000' (by simp) rest
  rw [List.cons_append, List.cons_append, List.singleton_append] at hmark
  rw [marked, hmark, markFrom_cons (by simp), markFrom_cons (by simp), markFrom_cons (by simp),
    marked]

/-- A double star stays as it is where neither a slash nor a third star stands behind it. -/
theorem markFrom_doubleStar {rest : List Char} (hslash : rest.head? ≠ some '/')
    (hstar : rest.head? ≠ some '*') :
    markFrom ['*', '*', '/'] '\uE000' 0 ('*' :: '*' :: rest) =
      '*' :: '*' :: markFrom ['*', '*', '/'] '\uE000' 0 rest := by
  have hpair : ¬ ['*', '*', '/'] <+: '*' :: '*' :: rest := by
    rintro ⟨more, hmore⟩
    simp only [List.cons_append, List.nil_append, List.cons.injEq, true_and] at hmore
    exact hslash (by rw [← hmore]; rfl)
  have hlone : ¬ ['*', '*', '/'] <+: '*' :: rest := by
    rintro ⟨more, hmore⟩
    simp only [List.cons_append, List.nil_append, List.cons.injEq, true_and] at hmore
    exact hstar (by rw [← hmore]; rfl)
  rw [markFrom_cons hpair, markFrom_cons hlone]

/-- A slash and the double star behind it get the second mark. -/
theorem marked_trailingPath {rest : List Char} (hslash : rest.head? ≠ some '/')
    (hstar : rest.head? ≠ some '*') :
    marked ('/' :: '*' :: '*' :: rest) = '\uE001' :: marked rest := by
  have hmark := @markFrom_append ['/', '*', '*'] '\uE001' (by simp)
    (markFrom ['*', '*', '/'] '\uE000' 0 rest)
  rw [List.cons_append, List.cons_append, List.singleton_append] at hmark
  rw [marked, markFrom_cons (by simp), markFrom_doubleStar hslash hstar, hmark,
    markFrom_cons (by simp), markFrom_cons (by simp), marked]

/-- A double star without a slash gets the third mark. -/
theorem marked_deepStar {rest : List Char} (hslash : rest.head? ≠ some '/')
    (hstar : rest.head? ≠ some '*') :
    marked ('*' :: '*' :: rest) = '\uE002' :: marked rest := by
  have hmark := @markFrom_append ['*', '*'] '\uE002' (by simp)
    (markFrom ['/', '*', '*'] '\uE001' 0 (markFrom ['*', '*', '/'] '\uE000' 0 rest))
  rw [List.cons_append, List.singleton_append] at hmark
  have hkeep : ∀ cs, markFrom ['/', '*', '*'] '\uE001' 0 ('*' :: '*' :: cs) =
      '*' :: '*' :: markFrom ['/', '*', '*'] '\uE001' 0 cs := by
    intro cs
    rw [markFrom_cons (by simp), markFrom_cons (by simp)]
  rw [marked, markFrom_doubleStar hslash hstar, hkeep, hmark, markFrom_cons (by simp), marked]

/-- A star that stands alone gets the fourth mark. -/
theorem marked_star {rest : List Char} (hstar : rest.head? ≠ some '*') :
    marked ('*' :: rest) = '\uE003' :: marked rest := by
  have hfirst : ¬ ['*', '*', '/'] <+: '*' :: rest := by
    rintro ⟨more, hmore⟩
    simp only [List.cons_append, List.nil_append, List.cons.injEq, true_and] at hmore
    exact hstar (by rw [← hmore]; rfl)
  -- The marks for slashes and double stars behind it bring no star next to it.
  have hthird : ¬ ['*', '*'] <+: '*' ::
      markFrom ['/', '*', '*'] '\uE001' 0 (markFrom ['*', '*', '/'] '\uE000' 0 rest) := by
    rintro ⟨more, hmore⟩
    simp only [List.cons_append, List.nil_append, List.cons.injEq, true_and] at hmore
    have hsecond := head?_of_head?_markFrom (by decide) (congrArg List.head? hmore).symm
    exact hstar (head?_of_head?_markFrom (by decide) hsecond)
  have hmark := @markFrom_append ['*'] '\uE003' (by simp) (markFrom ['*', '*'] '\uE002' 0
    (markFrom ['/', '*', '*'] '\uE001' 0 (markFrom ['*', '*', '/'] '\uE000' 0 rest)))
  rw [List.singleton_append] at hmark
  rw [marked, markFrom_cons hfirst, markFrom_cons (by simp), markFrom_cons hthird, hmark, marked]

/-- Any other character stays, a slash only if no double star follows. -/
theorem marked_cons {c : Char} {rest : List Char} (hstar : c ≠ '*')
    (hslash : c = '/' → ¬ ['*', '*'] <+: rest) : marked (c :: rest) = c :: marked rest := by
  have hsecond : ¬ ['/', '*', '*'] <+: c :: markFrom ['*', '*', '/'] '\uE000' 0 rest := by
    intro h
    obtain ⟨hc, hrest⟩ := List.cons_prefix_cons.mp h
    exact hslash hc.symm (stars_prefix_of_markFrom (by decide) hrest)
  rw [marked, markFrom_cons (by simp [Ne.symm hstar]), markFrom_cons hsecond,
    markFrom_cons (by simp [Ne.symm hstar]), markFrom_cons (by simp [Ne.symm hstar]), marked]

/-- A slash stays where the double star behind it takes the next slash. -/
theorem marked_slash_leadingPath (rest : List Char) :
    marked ('/' :: '*' :: '*' :: '/' :: rest) = '/' :: '\uE000' :: marked rest := by
  have hmark := @markFrom_append ['*', '*', '/'] '\uE000' (by simp) rest
  rw [List.cons_append, List.cons_append, List.singleton_append] at hmark
  rw [marked, markFrom_cons (by simp), hmark, markFrom_cons (by simp), markFrom_cons (by simp),
    markFrom_cons (by simp), markFrom_cons (by simp), markFrom_cons (by simp),
    markFrom_cons (by simp), marked]

/-- A part of a text without a run of three stars has none either. -/
theorem not_stars_infix_of_append {xs rest : List Char}
    (h : ¬ ['*', '*', '*'] <:+: xs ++ rest) : ¬ ['*', '*', '*'] <:+: rest :=
  fun hrest => h (hrest.trans (List.suffix_append xs rest).isInfix)

/-- Reading from left to right and marking the whole text, one kind of wildcard after the other,
give the same tokens, unless three stars stand in a row. -/
theorem tokenize_eq_map_marked {cs : List Char} (h : ¬ ['*', '*', '*'] <:+: cs) :
    tokenize cs = (marked cs).map charToken := by
  -- No third star stands behind a double star.
  have hthird : ∀ {before rest : List Char}, ¬ ['*', '*', '*'] <:+: before ++ '*' :: '*' :: rest →
      rest.head? ≠ some '*' := by
    intro before rest hruns hhead
    obtain ⟨more, rfl⟩ := List.head?_eq_some_iff.mp hhead
    exact hruns ⟨before, more, by simp⟩
  fun_induction tokenize cs with
  | case1 rest ih =>
    have hrest := @not_stars_infix_of_append ['*', '*', '/'] rest h
    rw [marked_leadingPath, List.map_cons, ih hrest]
    rfl
  | case2 rest ih =>
    have hrest := @not_stars_infix_of_append ['/', '*', '*', '/'] rest h
    rw [marked_slash_leadingPath, List.map_cons, List.map_cons, ih hrest]
    rfl
  | case3 rest hnext ih =>
    have hrest := @not_stars_infix_of_append ['/', '*', '*'] rest h
    rw [marked_trailingPath (head?_ne_some_iff.mpr hnext) (@hthird ['/'] rest h), List.map_cons, ih hrest]
    rfl
  | case4 rest hnext ih =>
    have hrest := @not_stars_infix_of_append ['*', '*'] rest h
    rw [marked_deepStar (head?_ne_some_iff.mpr hnext) (@hthird [] rest h), List.map_cons, ih hrest]
    rfl
  | case5 rest _ hnext ih =>
    have hrest := @not_stars_infix_of_append ['*'] rest h
    rw [marked_star (head?_ne_some_iff.mpr hnext), List.map_cons, ih hrest]
    rfl
  | case6 c rest _ _ hdeep _ hstar ih =>
    have hrest := @not_stars_infix_of_append [c] rest h
    have hslash : c = '/' → ¬ ['*', '*'] <+: rest := by
      rintro hc ⟨more, hmore⟩
      exact hdeep more hc hmore.symm
    rw [marked_cons hstar hslash, List.map_cons, ih hrest]
  | case7 => rfl

end GoAddress.Pattern
