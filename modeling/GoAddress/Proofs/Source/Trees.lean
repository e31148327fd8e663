import Mathlib.Order.Nat
import GoAddress.Source.Parser

/-!
# Trees in order

The parts of a reading follow one another in the text: each starts where the one before it ends, or
behind that. This module says so of trees and of lists of trees, and that the tokens that are read
from a place on stand behind it.
-/

namespace GoAddress.Source

mutual

/-- The parts of a tree follow one another from its start to its end, and so do theirs. -/
def Tree.InOrder : Tree → Prop
  | .leaf _ start stop => start.byte ≤ stop.pos.byte
  | .node _ start stop _ parts => Tree.Consecutive start.byte parts stop.pos.byte

/-- Trees follow one another behind the first byte, and the last one ends at the last byte. -/
def Tree.Consecutive : (first : Nat) → List Tree → (last : Nat) → Prop
  | first, [], last => first = last
  | first, tree :: more, last =>
    first ≤ tree.start.byte ∧ tree.InOrder ∧ Tree.Consecutive tree.stop.pos.byte more last

end

namespace Tree

/-- Nothing stands between a byte and itself. -/
@[simp] theorem consecutive_nil {first last : Nat} : Consecutive first [] last ↔ first = last := by
  rw [Consecutive]

/-- A tree and what follows it. -/
@[simp] theorem consecutive_cons {first last : Nat} {tree : Tree} {trees : List Tree} :
    Consecutive first (tree :: trees) last ↔
      first ≤ tree.start.byte ∧ tree.InOrder ∧ Consecutive tree.stop.pos.byte trees last := by
  rw [Consecutive]

/-- Trees that follow one another can be cut anywhere. -/
theorem consecutive_append {first last : Nat} {trees more : List Tree} :
    Consecutive first (trees ++ more) last ↔
      ∃ middle, Consecutive first trees middle ∧ Consecutive middle more last := by
  induction trees generalizing first with
  | nil => simp
  | cons tree trees ih =>
    rw [List.cons_append, consecutive_cons, ih]
    constructor
    · rintro ⟨hstart, htree, middle, htrees, hmore⟩
      exact ⟨middle, consecutive_cons.mpr ⟨hstart, htree, htrees⟩, hmore⟩
    · rintro ⟨middle, hleft, hmore⟩
      obtain ⟨hstart, htree, htrees⟩ := consecutive_cons.mp hleft
      exact ⟨hstart, htree, middle, htrees, hmore⟩

mutual

/-- A tree ends behind its start. -/
theorem InOrder.start_le : ∀ {tree : Tree}, tree.InOrder → tree.start.byte ≤ tree.stop.pos.byte
  | .leaf _ _ _, h => by
    rw [InOrder] at h
    exact h
  | .node _ _ _ _ parts, h => by
    rw [InOrder] at h
    exact Consecutive.le h

/-- Trees that follow one another end behind the first byte. -/
theorem Consecutive.le : ∀ {first last : Nat} {trees : List Tree},
    Consecutive first trees last → first ≤ last
  | _, _, [], h => (consecutive_nil.mp h).le
  | _, _, tree :: trees, h => by
    obtain ⟨hstart, htree, htrees⟩ := consecutive_cons.mp h
    exact (hstart.trans htree.start_le).trans htrees.le

end

/-- Trees that follow one another end where the last one ends. -/
theorem Consecutive.getLast? {first last : Nat} {trees : List Tree}
    (h : Consecutive first trees last) {tree : Tree} (hlast : trees.getLast? = some tree) :
    tree.stop.pos.byte = last := by
  obtain ⟨before, rfl⟩ := List.getLast?_eq_some_iff.mp hlast
  obtain ⟨middle, -, htree⟩ := consecutive_append.mp h
  exact consecutive_nil.mp (consecutive_cons.mp htree).2.2

/-- The use of a production for trees that follow one another behind a place stands behind the place
and ends where they end. -/
theorem Consecutive.ofParts {production : Nat} {before : Cursor} {parts : List Tree} {last : Nat}
    (h : Consecutive before.pos.byte parts last) :
    before.pos.byte ≤ (ofParts production before parts).start.byte ∧
      (ofParts production before parts).InOrder ∧
      (ofParts production before parts).stop.pos.byte = last := by
  cases parts with
  | nil =>
    have hlast := consecutive_nil.mp h
    refine ⟨le_rfl, ?_, hlast⟩
    rw [Tree.ofParts, InOrder]
    exact consecutive_nil.mpr rfl
  | cons tree parts =>
    obtain ⟨hstart, htree, hparts⟩ := consecutive_cons.mp h
    obtain ⟨final, hfinal⟩ : ∃ final, (tree :: parts).getLast? = some final :=
      ⟨_, List.getLast?_eq_some_getLast (List.cons_ne_nil _ _)⟩
    have hstop := h.getLast? hfinal
    have hend : (Tree.ofParts production before (tree :: parts)).stop = final.stop := by
      simp [Tree.ofParts, Tree.stop, hfinal]
    refine ⟨hstart, ?_, by rw [hend, hstop]⟩
    rw [Tree.ofParts, InOrder, hfinal]
    simp only [List.head?_cons, Option.map_some, Option.getD_some]
    rw [hstop]
    exact consecutive_cons.mpr ⟨le_rfl, htree, hparts⟩

/-- The reading that is preferred is one of the readings. -/
theorem best_mem (first : Tree × List Tree) (others : List (Tree × List Tree)) :
    best first others ∈ first :: others := by
  induction others generalizing first with
  | nil => exact List.mem_singleton.mpr rfl
  | cons other others ih =>
    have hbest : best first (other :: others) =
        best (if prefers first.1 other.1 then other else first) others := rfl
    rw [hbest]
    rcases List.mem_cons.mp (ih (if prefers first.1 other.1 then other else first)) with h | h
    · rw [h]
      split <;> simp
    · exact List.mem_cons_of_mem _ (List.mem_cons_of_mem _ h)

end Tree

/-- Moving behind characters does not lead back. -/
theorem Cursor.le_skipFrom (pos : Pos) (count : Nat) (rest : List Char) :
    pos.byte ≤ (skipFrom pos count rest).pos.byte := by
  fun_induction skipFrom pos count rest with
  | case1 => exact le_rfl
  | case2 => exact le_rfl
  | case3 pos count c rest ih => exact (Nat.le_add_right _ _).trans ih

/-- Skipping separators does not lead back. -/
theorem le_skipSeparators (lineBreaks : Bool) (pos : Pos) (rest : List Char) :
    pos.byte ≤ (skipSeparators lineBreaks pos rest).pos.byte := by
  fun_induction skipSeparators lineBreaks pos rest with
  | case1 => exact le_rfl
  | case2 pos c rest hseparates ih => exact (Nat.le_add_right _ _).trans ih
  | case3 => exact le_rfl

/-- A token that stands behind a place. -/
def Lexeme.Behind (lexeme : Lexeme) (byte : Nat) : Prop :=
  byte ≤ lexeme.start.byte ∧ lexeme.start.byte ≤ lexeme.stop.pos.byte

/-- The token of the next characters stands behind every place before them. -/
theorem Cursor.lexeme_behind (c : Cursor) (token : Grammar.Token) (length : Nat) {byte : Nat}
    (h : byte ≤ c.pos.byte) : (c.lexeme token length).Behind byte :=
  ⟨h, le_skipFrom c.pos length c.rest⟩

/-- The next token consists of the next characters, or of those behind what separates tokens. -/
theorem exists_lexeme_of_lex? {valid : Grammar.TokenSet} {c : Cursor} {lexeme : Lexeme}
    (h : lex? valid c = some lexeme) :
    ∃ token length, lexeme = c.lexeme token length ∨
      lexeme = (skipSeparators (valid.contains .lineBreak) c.pos c.rest).lexeme token length := by
  unfold lex? at h
  split at h
  · next piece hpiece =>
    cases h
    unfold quotedPiece? at hpiece
    dsimp only at hpiece
    split at hpiece
    · cases hpiece
      exact ⟨_, _, Or.inl rfl⟩
    · split at hpiece
      · cases hpiece
        exact ⟨_, _, Or.inl rfl⟩
      · split at hpiece
        · cases hpiece
          exact ⟨_, _, Or.inl rfl⟩
        · cases hpiece
  · generalize skipSeparators (valid.contains .lineBreak) c.pos c.rest = next at h
    dsimp only at h
    split at h
    · unfold end? at h
      split at h
      · cases h
        exact ⟨_, _, Or.inr rfl⟩
      · split at h
        · cases h
          exact ⟨_, _, Or.inr rfl⟩
        · cases h
    · split at h
      · cases h
        exact ⟨_, _, Or.inr rfl⟩
      · split at h
        · obtain ⟨token, -, rfl⟩ := Option.map_eq_some_iff.mp h
          exact ⟨_, _, Or.inr rfl⟩
        · obtain ⟨⟨token, length⟩, -, rfl⟩ := Option.map_eq_some_iff.mp h
          exact ⟨_, _, Or.inr rfl⟩

/-- The next token stands behind the place where it is read. -/
theorem behind_of_lex? {valid : Grammar.TokenSet} {c : Cursor} {lexeme : Lexeme}
    (h : lex? valid c = some lexeme) : lexeme.Behind c.pos.byte := by
  obtain ⟨token, length, rfl | rfl⟩ := exists_lexeme_of_lex? h
  · exact c.lexeme_behind _ _ le_rfl
  · exact Cursor.lexeme_behind _ _ _ (le_skipSeparators _ _ _)

end GoAddress.Source
