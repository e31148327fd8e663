import GoAddress.Proofs.Source.Places
import GoAddress.Proofs.Source.Snippets
import GoAddress.Source.Salvage

/-!
# What the parser of the program finds

What is shown of loaded programs takes for granted that the phrases of a parser stand in the order of
the text and can be cut out of it. Main statements: both hold of the parser that programs are read
with, whether it reads a text as a whole or in part.
-/

namespace GoAddress.Source

/-! ## Order -/

mutual

/-- The phrases of a tree stand where the tree does, before those behind it. -/
theorem Tree.InOrder.phrases : ∀ {tree : Tree} {first last : Nat} {behind : List Phrase}
    (name : Option Grammar.Symbol) (role : Option Grammar.Role), tree.InOrder →
    first ≤ tree.start.byte → Phrase.Between tree.stop.pos.byte behind last →
    Phrase.Between first (tree.phrases name role behind) last
  | .leaf token start stop, _, _, _, name, role, h, hfirst, hbehind => by
    rw [Tree.InOrder] at h
    rw [Tree.phrases]
    split
    · exact hbehind.mono (hfirst.trans h)
    · refine Phrase.between_cons.mpr ⟨hfirst, ?_, hbehind⟩
      rw [Phrase.InOrder]
      exact Phrase.between_nil.mpr h
  | .node production start stop _ parts, _, _, _, name, role, h, hfirst, hbehind => by
    rw [Tree.InOrder] at h
    rw [Tree.phrases]
    split
    · exact (Tree.Consecutive.phrasesOf role _ h hbehind).mono hfirst
    · refine Phrase.between_cons.mpr ⟨hfirst, ?_, hbehind⟩
      rw [Phrase.InOrder]
      exact Tree.Consecutive.phrasesOf none _ h (Phrase.between_nil.mpr le_rfl)

/-- The phrases of trees that follow one another do so as well, before those behind them. -/
theorem Tree.Consecutive.phrasesOf : ∀ {trees : List Tree} {first middle last : Nat}
    {behind : List Phrase} (around : Option Grammar.Role) (steps : List Grammar.Step),
    Tree.Consecutive first trees middle → Phrase.Between middle behind last →
    Phrase.Between first (Source.phrasesOf around steps trees behind) last
  | [], _, _, _, _, around, steps, h, hbehind => by
    rw [Source.phrasesOf]
    exact hbehind.mono (Tree.consecutive_nil.mp h).le
  | tree :: trees, _, _, _, _, around, steps, h, hbehind => by
    obtain ⟨hstart, htree, htrees⟩ := Tree.consecutive_cons.mp h
    rw [Source.phrasesOf.eq_def]
    dsimp only
    split
    · exact htree.phrases none none hstart (Tree.Consecutive.phrasesOf around steps htrees hbehind)
    · split
      · exact htree.phrases _ _ hstart (Tree.Consecutive.phrasesOf around _ htrees hbehind)
      · exact htree.phrases _ _ hstart (Tree.Consecutive.phrasesOf around [] htrees hbehind)

end

/-- The phrases at the top level of a file stand in order. -/
theorem Tree.Consecutive.topPhrases {first last : Nat} {trees : List Tree}
    (h : Tree.Consecutive first trees last) :
    Phrase.Between first (topPhrases trees) last := by
  have hall := Tree.Consecutive.phrasesOf none [] h (Phrase.between_nil.mpr le_rfl)
  refine hall.flatMap fun p hp => ?_
  split
  · exact hp.parts
  · exact Phrase.between_cons.mpr ⟨le_rfl, hp, Phrase.between_nil.mpr le_rfl⟩

/-- A finished reading stands in order, and so does what else may take its place. -/
theorem consecutive_finished_getD (code : List Char) {others : List Tree}
    (h : ∃ first last, Tree.Consecutive first others last) :
    ∃ first last, Tree.Consecutive first ((read code).finished.getD others) last := by
  cases hread : (read code).finished with
  | none =>
    rw [Option.getD_none]
    exact h
  | some trees =>
    rw [Option.getD_some]
    exact consecutive_of_read hread

/-- What can be read of a text stands in order. -/
theorem consecutive_salvageFrom (pieces : Nat) (code : List Char) :
    ∃ first last, Tree.Consecutive first (salvageFrom pieces code) last := by
  induction pieces generalizing code with
  | zero =>
    rw [salvageFrom]
    exact consecutive_finished_getD code ⟨0, 0, Tree.consecutive_nil.mpr rfl⟩
  | succ pieces ih =>
    rw [salvageFrom]
    exact consecutive_finished_getD code (ih _)

/-- What can be read of a broken text stands in order. -/
theorem consecutive_salvage (code : List Char) :
    ∃ first last, Tree.Consecutive first (salvage code) last :=
  consecutive_salvageFrom maxBrokenPieces (code ++ ['\n'])

/-- Trees that follow one another make phrases in order. -/
theorem between_topPhrases {trees : List Tree}
    (h : ∃ first last, Tree.Consecutive first trees last) :
    ∃ first last, Phrase.Between first (topPhrases trees) last := by
  obtain ⟨first, last, htrees⟩ := h
  exact ⟨first, last, htrees.topPhrases⟩

/-- Some of the phrases in order are in order. -/
theorem exists_between_filter {phrases : List Phrase}
    (h : ∃ first last, Phrase.Between first phrases last) (keep : Phrase → Bool) :
    ∃ first last, Phrase.Between first (phrases.filter keep) last := by
  obtain ⟨first, last, hall⟩ := h
  exact ⟨first, last, hall.filter keep⟩

/-- The phrases of what can be read of a broken text stand in order. -/
theorem between_salvagedPhrases (code : String) :
    ∃ first last, Phrase.Between first (salvagedPhrases code) last := by
  rw [salvagedPhrases]
  exact exists_between_filter (between_topPhrases (consecutive_salvage code.toList)) _

/-! ## Places -/

mutual

/-- The phrases of a tree inside a text are inside it. -/
theorem Tree.Inside.phrases {code : String} : ∀ {tree : Tree} {behind : List Phrase}
    (name : Option Grammar.Symbol) (role : Option Grammar.Role), tree.Inside code.toList →
    (∀ p ∈ behind, p.isInside code = true) →
    ∀ p ∈ tree.phrases name role behind, p.isInside code = true
  | .leaf token start stop, _, name, role, h, hbehind => by
    rw [Tree.phrases]
    split
    · exact hbehind
    · refine List.forall_mem_cons.mpr ⟨Phrase.isInside_iff.mpr ⟨?_, ?_⟩, hbehind⟩
      · exact Bool.and_eq_true_iff.mpr ⟨h.start_in.isBoundary, h.stop_in.pos.isBoundary⟩
      · exact fun part hpart => (List.not_mem_nil hpart).elim
  | .node production start stop _ parts, _, name, role, h, hbehind => by
    have hparts : ∀ part ∈ parts, part.Inside code.toList := by
      cases h with
      | node _ _ hparts => exact hparts
    rw [Tree.phrases]
    split
    · exact inside_phrasesOf role _ hparts hbehind
    · refine List.forall_mem_cons.mpr ⟨Phrase.isInside_iff.mpr ⟨?_, ?_⟩, hbehind⟩
      · exact Bool.and_eq_true_iff.mpr ⟨h.start_in.isBoundary, h.stop_in.pos.isBoundary⟩
      · exact inside_phrasesOf none _ hparts fun p hp => (List.not_mem_nil hp).elim

/-- The phrases of trees inside a text are inside it. -/
theorem inside_phrasesOf {code : String} : ∀ {trees : List Tree} {behind : List Phrase}
    (around : Option Grammar.Role) (steps : List Grammar.Step),
    (∀ tree ∈ trees, tree.Inside code.toList) → (∀ p ∈ behind, p.isInside code = true) →
    ∀ p ∈ phrasesOf around steps trees behind, p.isInside code = true
  | [], _, around, steps, _, hbehind => by
    rw [phrasesOf]
    exact hbehind
  | tree :: trees, _, around, steps, h, hbehind => by
    obtain ⟨htree, htrees⟩ := List.forall_mem_cons.mp h
    rw [phrasesOf.eq_def]
    dsimp only
    split
    · exact htree.phrases none none (inside_phrasesOf around steps htrees hbehind)
    · split
      · exact htree.phrases _ _ (inside_phrasesOf around _ htrees hbehind)
      · exact htree.phrases _ _ (inside_phrasesOf around [] htrees hbehind)

end

/-- The phrases at the top level of trees inside a text are inside it. -/
theorem inside_topPhrases {code : String} {trees : List Tree}
    (h : ∀ tree ∈ trees, tree.Inside code.toList) :
    ∀ p ∈ topPhrases trees, p.isInside code = true := by
  intro p hp
  obtain ⟨around, haround, hp⟩ := List.mem_flatMap.mp hp
  have hinside := inside_phrasesOf none [] h (fun q hq => (List.not_mem_nil hq).elim) around haround
  split at hp
  · exact (Phrase.isInside_iff.mp hinside).2 p hp
  · rw [List.mem_singleton.mp hp]
    exact hinside

/-! ## The parser -/

/-- The phrases of a text that could be read are those of its trees. -/
theorem phrases_ofFinished (code : String) (finished : Option (List Tree)) :
    (∃ trees, finished = some trees ∧
      (Parsed.ofFinished code finished).phrases = topPhrases trees) ∨
      (Parsed.ofFinished code finished).phrases = salvagedPhrases code := by
  cases finished with
  | some trees => exact Or.inl ⟨trees, rfl, by rw [Parsed.ofFinished]⟩
  | none => exact Or.inr (by rw [Parsed.ofFinished])

/-- What the parser finds are the phrases of a reading of the whole text, or of what can be read of
it. -/
theorem phrases_of_mem_goParser {code : String} {parsed : Parsed} (h : parsed ∈ goParser code) :
    (∃ trees, (read code.toList).finished = some trees ∧ parsed.phrases = topPhrases trees) ∨
      parsed.phrases = salvagedPhrases code := by
  have heq : Parsed.ofFinished code (read code.toList).finished = parsed := Option.some.inj h
  rw [← heq]
  exact phrases_ofFinished code _

/-- The phrases that the parser finds follow one another in the order of the text. -/
theorem ordered_goParser : goParser.Ordered := by
  intro code parsed hparsed
  rcases phrases_of_mem_goParser hparsed with ⟨trees, hread, heq⟩ | heq
  · rw [heq]
    exact between_topPhrases (consecutive_of_read hread)
  · rw [heq]
    exact between_salvagedPhrases code

/-- The phrases that the parser finds start and end between the characters of the text. -/
theorem isInside_of_goParser {code : String} {parsed : Parsed} (h : parsed ∈ goParser code) :
    ∀ p ∈ parsed.phrases, p.isInside code = true := by
  rcases phrases_of_mem_goParser h with ⟨trees, hread, heq⟩ | heq
  · rw [heq]
    exact inside_topPhrases (inside_of_read hread)
  · rw [heq]
    exact fun p hp => (List.mem_filter.mp hp).2

/-- The phrases that the parser finds can be cut out of the text. -/
theorem inText_goParser : goParser.InText := by
  intro code parsed hparsed p hp
  obtain ⟨first, last, hbetween⟩ := ordered_goParser code parsed hparsed
  exact (hbetween.of_mem hp).1.inText (isInside_of_goParser hparsed p hp)

end GoAddress.Source
