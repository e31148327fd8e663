import Mathlib.Data.List.Forall2
import GoAddress.Proofs.Pattern.Reading

/-!
# What patterns match

A token stands for a set of texts, and a pattern matches just the texts that its tokens spell one
after the other. The matcher answers this for every rest of the text at once: from the row of
answers for some tokens it makes the row for one token more in front of them.
-/

namespace GoAddress.Pattern

/-- The texts that a token stands for. -/
def Denotes : PatternToken → List Char → Prop
  | .literal c, u => u = [c]
  | .star, u => '.' ∉ u ∧ '/' ∉ u ∧ '[' ∉ u ∧ ']' ∉ u
  | .deepStar, u => '\n' ∉ u
  | .leadingPath, u => u = [] ∨ ('\n' ∉ u ∧ u.getLast? = some '/')
  | .trailingPath, u => u = [] ∨ ('\n' ∉ u ∧ u.head? = some '/')

/-- Whether a text is the concatenation, in order, of texts that the tokens stand for. -/
def Spells (tokens : List PatternToken) (text : List Char) : Prop :=
  ∃ parts, List.Forall₂ Denotes tokens parts ∧ text = parts.flatten

/-- No tokens spell the empty text only. -/
theorem spells_nil {text : List Char} : Spells [] text ↔ text = [] := by
  constructor
  · rintro ⟨parts, hparts, rfl⟩
    rw [List.forall₂_nil_left_iff.mp hparts, List.flatten_nil]
  · rintro rfl
    exact ⟨[], List.Forall₂.nil, rfl⟩

/-- A text that tokens spell is cut behind the text of the first one. -/
theorem spells_cons {token : PatternToken} {tokens : List PatternToken} {text : List Char} :
    Spells (token :: tokens) text ↔ ∃ u v, Denotes token u ∧ Spells tokens v ∧ text = u ++ v := by
  constructor
  · rintro ⟨parts, hparts, rfl⟩
    obtain ⟨u, rest, hu, hrest, rfl⟩ := List.forall₂_cons_left_iff.mp hparts
    exact ⟨u, rest.flatten, hu, ⟨rest, hrest, rfl⟩, List.flatten_cons⟩
  · rintro ⟨u, v, hu, ⟨parts, hparts, rfl⟩, rfl⟩
    exact ⟨u :: parts, List.Forall₂.cons hu hparts, List.flatten_cons.symm⟩

/-! ## Rows -/

/-- A row that answers a question about every rest of a text, from the whole text on. -/
inductive Answers (P : List Char → Prop) : List Char → List Bool → Prop
  | nil {b} (h : b = true ↔ P []) : Answers P [] [b]
  | cons {c rest b row} (h : b = true ↔ P (c :: rest)) (hrest : Answers P rest row) :
      Answers P (c :: rest) (b :: row)

namespace Answers

variable {P Q : List Char → Prop} {cs : List Char} {row : List Bool}

/-- The front of a row is about the whole text. -/
theorem first_iff (h : Answers P cs row) : first row = true ↔ P cs := by
  cases h with
  | nil h => exact h
  | cons h _ => exact h

/-- The answers to one question are those to any other that means the same. -/
theorem congr (hPQ : ∀ t, P t ↔ Q t) (h : Answers P cs row) : Answers Q cs row := by
  have heq : P = Q := funext fun t => propext (hPQ t)
  exact heq ▸ h

/-- Two rows joined answer whether one of two things holds. -/
theorem or {other : List Bool} (h : Answers P cs row) (hother : Answers Q cs other) :
    Answers (fun t => P t ∨ Q t) cs (List.zipWith Bool.or row other) := by
  induction h generalizing other with
  | nil h =>
    cases hother with
    | nil h' => exact .nil (by rw [Bool.or_eq_true, h, h'])
  | cons h _ ih =>
    cases hother with
    | cons h' hrest' => exact .cons (by rw [Bool.or_eq_true, h, h']) (ih hrest')

/-- Only the end of a text has nothing left. -/
theorem endRow (cs : List Char) : Answers (· = []) cs (endRow cs) := by
  induction cs with
  | nil => exact .nil (by simp)
  | cons c rest ih => exact .cons (by simp) ih

/-- The row of a character. -/
theorem literalRow (x : Char) (h : Answers P cs row) :
    Answers (fun t => ∃ v, P v ∧ t = x :: v) cs (literalRow x cs row) := by
  induction h with
  | nil h => exact .nil (by simp)
  | @cons c rest b row h hrest ih =>
    refine .cons ?_ ih
    have hfirst := hrest.first_iff
    rw [List.tail_cons, Bool.and_eq_true, beq_iff_eq, hfirst]
    constructor
    · rintro ⟨rfl, hv⟩
      exact ⟨rest, hv, rfl⟩
    · rintro ⟨v, hv, heq⟩
      obtain ⟨hc, hv'⟩ := List.cons.inj heq
      exact ⟨hc, hv' ▸ hv⟩

/-- The row of a run of characters of a class. -/
theorem runRow (ok : Char → Bool) (h : Answers P cs row) :
    Answers (fun t => ∃ u v, (∀ c ∈ u, ok c = true) ∧ P v ∧ t = u ++ v) cs (runRow ok cs row) := by
  induction h with
  | nil h =>
    refine .nil ?_
    rw [first, List.headD_cons, h]
    constructor
    · intro hnil
      exact ⟨[], [], by simp, hnil, rfl⟩
    · rintro ⟨u, v, -, hv, heq⟩
      rwa [(List.append_eq_nil_iff.mp heq.symm).2] at hv
  | @cons c rest b row h hrest ih =>
    refine .cons ?_ ih
    have hhere : first (b :: row) = true ↔ P (c :: rest) := h
    rw [Bool.or_eq_true, Bool.and_eq_true, hhere, List.tail_cons, ih.first_iff]
    constructor
    · rintro (hv | ⟨hc, u, v, hu, hv, rfl⟩)
      · exact ⟨[], c :: rest, by simp, hv, rfl⟩
      · exact ⟨c :: u, v, by simpa using ⟨hc, hu⟩, hv, rfl⟩
    · rintro ⟨u, v, hu, hv, heq⟩
      cases u with
      | nil => exact Or.inl (heq ▸ hv)
      | cons d u =>
        obtain ⟨rfl, hrest⟩ := List.cons.inj heq
        rw [List.forall_mem_cons] at hu
        exact Or.inr ⟨hu.1, u, v, hu.2, hv, hrest⟩

/-- The row of a text on one line that ends in a slash. -/
theorem pathRow (h : Answers P cs row) :
    Answers (fun t => ∃ u v, (∀ c ∈ u, isLineChar c = true) ∧ P v ∧ t = u ++ '/' :: v) cs
      (pathRow cs row) := by
  induction h with
  | nil h => exact .nil (by simp)
  | @cons c rest b row h hrest ih =>
    refine .cons ?_ ih
    rw [List.tail_cons, Bool.or_eq_true, Bool.and_eq_true, Bool.and_eq_true, beq_iff_eq,
      hrest.first_iff, ih.first_iff]
    constructor
    · rintro (⟨rfl, hv⟩ | ⟨hc, u, v, hu, hv, rfl⟩)
      · exact ⟨[], rest, by simp, hv, rfl⟩
      · exact ⟨c :: u, v, by simpa using ⟨hc, hu⟩, hv, rfl⟩
    · rintro ⟨u, v, hu, hv, heq⟩
      cases u with
      | nil =>
        obtain ⟨rfl, rfl⟩ := List.cons.inj heq
        exact Or.inl ⟨rfl, hv⟩
      | cons d u =>
        obtain ⟨rfl, hrest⟩ := List.cons.inj heq
        rw [List.forall_mem_cons] at hu
        exact Or.inr ⟨hu.1, u, v, hu.2, hv, hrest⟩

end Answers

/-- A text is on one line if it has no line break. -/
theorem forall_isLineChar_iff {u : List Char} :
    (∀ c ∈ u, isLineChar c = true) ↔ '\n' ∉ u := by
  simp only [isLineChar, bne_iff_ne]
  exact ⟨fun h hmem => h '\n' hmem rfl, fun h c hc heq => h (heq ▸ hc)⟩

/-- The texts of a star have no delimiter. -/
theorem forall_isSegmentChar_iff {u : List Char} :
    (∀ c ∈ u, isSegmentChar c = true) ↔ Denotes .star u := by
  simp only [isSegmentChar, Denotes, Bool.and_eq_true, bne_iff_ne]
  constructor
  · intro h
    exact ⟨fun hmem => (h '.' hmem).1.1.1 rfl, fun hmem => (h '/' hmem).1.1.2 rfl,
      fun hmem => (h '[' hmem).1.2 rfl, fun hmem => (h ']' hmem).2 rfl⟩
  · rintro ⟨hdot, hslash, hopen, hclose⟩ c hc
    exact ⟨⟨⟨fun heq => hdot (heq ▸ hc), fun heq => hslash (heq ▸ hc)⟩,
      fun heq => hopen (heq ▸ hc)⟩, fun heq => hclose (heq ▸ hc)⟩

/-- From the row of the tokens behind it, a token makes the row of the tokens from it on. -/
theorem answers_tokenRow {P : List Char → Prop} {cs : List Char} {next : List Bool}
    (token : PatternToken) (h : Answers P cs next) :
    Answers (fun t => ∃ u v, Denotes token u ∧ P v ∧ t = u ++ v) cs (tokenRow token cs next) := by
  cases token with
  | literal x =>
    refine (h.literalRow x).congr fun t => ?_
    simp [Denotes]
  | star =>
    refine (h.runRow isSegmentChar).congr fun t => ?_
    simp only [forall_isSegmentChar_iff]
  | deepStar =>
    refine (h.runRow isLineChar).congr fun t => ?_
    simp only [forall_isLineChar_iff, Denotes]
  | leadingPath =>
    refine (h.or h.pathRow).congr fun t => ?_
    simp only [forall_isLineChar_iff, Denotes]
    constructor
    · rintro (ht | ⟨u, v, hu, hv, rfl⟩)
      · exact ⟨[], t, Or.inl rfl, ht, rfl⟩
      · exact ⟨u ++ ['/'], v, Or.inr ⟨by simpa using hu, by simp⟩, hv, by simp⟩
    · rintro ⟨u, v, rfl | ⟨hu, hlast⟩, hv, rfl⟩
      · exact Or.inl hv
      · obtain ⟨front, rfl⟩ := List.getLast?_eq_some_iff.mp hlast
        exact Or.inr ⟨front, v, by simpa using hu, hv, by simp⟩
  | trailingPath =>
    refine (h.or ((h.runRow isLineChar).literalRow '/')).congr fun t => ?_
    simp only [forall_isLineChar_iff, Denotes]
    constructor
    · rintro (ht | ⟨-, ⟨u, v, hu, hv, rfl⟩, rfl⟩)
      · exact ⟨[], t, Or.inl rfl, ht, rfl⟩
      · exact ⟨'/' :: u, v, Or.inr ⟨by simpa using hu, rfl⟩, hv, rfl⟩
    · rintro ⟨u, v, rfl | ⟨hu, hhead⟩, hv, rfl⟩
      · exact Or.inl hv
      · obtain ⟨back, rfl⟩ := List.head?_eq_some_iff.mp hhead
        exact Or.inr ⟨back ++ v, ⟨back, v, by simpa using hu, hv, rfl⟩, rfl⟩

/-- The row of all tokens answers which rests of the text they spell. -/
theorem answers_matchRow (tokens : List PatternToken) (cs : List Char) :
    Answers (Spells tokens) cs (matchRow tokens cs) := by
  induction tokens with
  | nil => exact (Answers.endRow cs).congr fun t => spells_nil.symm
  | cons token tokens ih => exact (answers_tokenRow token ih).congr fun t => spells_cons.symm

/-- A pattern matches the texts that its tokens spell. -/
theorem matchesText_iff {p : Pattern} {text : String} :
    p.matchesText text = true ↔ Spells p.tokens text.toList :=
  (answers_matchRow p.tokens text.toList).first_iff

/-- The meaning of patterns: a text is a pattern if it is not blank, has no run of three stars and
pairs its brackets; it then matches the texts that its tokens, read from left to right, spell. It
has one reading, the one that marking the wildcards kind by kind gives. -/
theorem matches_texts_spelled_by_reading (s : String) :
    ((∃ p, compile s = .ok p) ↔
      (∃ c ∈ s.toList, Text.isBlank c = false) ∧ ¬ ['*', '*', '*'] <:+: s.toList ∧
        BracketsPaired s.toList) ∧
    ∀ p, compile s = .ok p →
      (∀ text : String, p.matchesText text = true ↔
        ∃ tokens, Reads s.toList tokens ∧ Spells tokens text.toList) ∧
      ∀ tokens, Reads s.toList tokens ↔ tokens = (marked s.toList).map charToken := by
  constructor
  · constructor
    · rintro ⟨p, hp⟩
      obtain ⟨hwell, -⟩ := compile_eq_ok_iff.mp hp
      exact ⟨hwell.visible, hwell.starRuns, hwell.brackets⟩
    · rintro ⟨hvisible, hruns, hbrackets⟩
      exact ⟨_, compile_eq_ok_iff.mpr ⟨⟨hvisible, hruns, hbrackets⟩, rfl⟩⟩
  · intro p hp
    obtain ⟨hwell, rfl⟩ := compile_eq_ok_iff.mp hp
    constructor
    · intro text
      rw [matchesText_iff]
      constructor
      · intro hspells
        exact ⟨tokenize s.toList, reads_tokenize s.toList, hspells⟩
      · rintro ⟨tokens, hreads, hspells⟩
        rwa [← hreads.eq_tokenize]
    · intro tokens
      rw [← tokenize_eq_map_marked hwell.starRuns]
      exact ⟨Reads.eq_tokenize, fun heq => heq ▸ reads_tokenize s.toList⟩

/-- Of two double stars around a slash the first takes it; the slash before both stays. -/
theorem matches_texts_behind_slash_and_double_stars :
    compile "a/**/**" =
        .ok ⟨"a/**/**", [.literal 'a', .literal '/', .leadingPath, .deepStar]⟩ ∧
      Reads "a/**/**".toList [.literal 'a', .literal '/', .leadingPath, .deepStar] ∧
      ∃ tokens, Reads "a/**/**".toList tokens ∧ Spells tokens "a/b/c.D".toList := by
  have hcompile : compile "a/**/**" =
      .ok ⟨"a/**/**", [.literal 'a', .literal '/', .leadingPath, .deepStar]⟩ := by decide +kernel
  obtain ⟨hmatch, hreads⟩ := (matches_texts_spelled_by_reading "a/**/**").2 _ hcompile
  exact ⟨hcompile, (hreads _).mpr (by decide +kernel),
    (hmatch "a/b/c.D").mp (by decide +kernel)⟩

end GoAddress.Pattern
