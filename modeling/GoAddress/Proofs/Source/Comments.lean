import Mathlib.Data.List.Infix
import Mathlib.Data.List.Pairwise
import GoAddress.Source.DocComment

/-!
# The comments above a declaration

A doc comment is a run of comments above one another that reaches down to the declaration. A comment
behind code on its line is about that code and ends the run. Main statement: the run that is taken
is the longest one without a comment that directly follows code on its line. Where the phrases are
in the order of the text, this is the longest run without a comment behind code on its line at all,
but for one case: between the topmost comment and the code stand other comments of the same line.
-/

namespace GoAddress.Source

/-! ## Runs of comments -/

/-- Whether a phrase is code that ends on the line where the comment starts. -/
def EndsBeside (comment p : Phrase) : Prop :=
  p.isComment = false ∧ p.region.stop.line = comment.region.start.line

/-- Whether a comment stands behind code on its line, given the phrases before it, nearest first. -/
def BehindCode (comment : Phrase) (before : List Phrase) : Prop :=
  ∃ p ∈ before, EndsBeside comment p

/-- Whether a comment stands behind code on its line with nothing in between. -/
def FollowsCode (comment : Phrase) (before : List Phrase) : Prop :=
  ∃ p ∈ before.head?, EndsBeside comment p

/-- The runs of comments that reach down to a line, nearest first, among the phrases before it. Each
comment ends on the line above the next one and is not about code on its own line. -/
inductive IsRun (aboutCode : Phrase → List Phrase → Prop) :
    (line : Nat) → (before run : List Phrase) → Prop where
  /-- No comment is taken. -/
  | nil (line : Nat) (before : List Phrase) : IsRun aboutCode line before []
  /-- The nearest phrase is taken, and comments above it. -/
  | cons {line : Nat} {comment : Phrase} {before run : List Phrase}
      (hcomment : comment.isComment = true) (habove : comment.region.stop.line + 1 = line)
      (hleading : ¬ aboutCode comment before)
      (hrun : IsRun aboutCode comment.region.start.line before run) :
      IsRun aboutCode line (comment :: before) (comment :: run)

/-- The longest of the runs that reach down to a line. -/
structure IsLongestRun (aboutCode : Phrase → List Phrase → Prop) (line : Nat)
    (before run : List Phrase) : Prop where
  /-- It is a run. -/
  isRun : IsRun aboutCode line before run
  /-- No run has more comments. -/
  length_le : ∀ other, IsRun aboutCode line before other → other.length ≤ run.length

/-- Phrases in the order of their text, nearest first, as far as lines tell. -/
structure InSourceOrder (before : List Phrase) : Prop where
  /-- A phrase does not end above the line where it starts. -/
  lines : ∀ p ∈ before, p.region.start.line ≤ p.region.stop.line
  /-- A phrase farther away does not end below the line where a nearer one starts. -/
  order : before.Pairwise fun near far => far.region.stop.line ≤ near.region.start.line

section Decidability

instance (comment p : Phrase) : Decidable (EndsBeside comment p) :=
  inferInstanceAs (Decidable (_ ∧ _))

instance (comment : Phrase) (before : List Phrase) : Decidable (BehindCode comment before) :=
  inferInstanceAs (Decidable (∃ p ∈ before, EndsBeside comment p))

instance (before : List Phrase) : Decidable (InSourceOrder before) :=
  decidable_of_iff ((∀ p ∈ before, p.region.start.line ≤ p.region.stop.line) ∧
      before.Pairwise fun near far => far.region.stop.line ≤ near.region.start.line)
    ⟨fun h => ⟨h.1, h.2⟩, fun h => ⟨h.lines, h.order⟩⟩

end Decidability

/-- What stands before the nearest phrase is in order as well. -/
theorem InSourceOrder.tail {p : Phrase} {before : List Phrase} (h : InSourceOrder (p :: before)) :
    InSourceOrder before :=
  ⟨fun q hq => h.lines q (List.mem_cons_of_mem p hq), (List.pairwise_cons.mp h.order).2⟩

section Runs

variable {aboutCode : Phrase → List Phrase → Prop} {line : Nat} {before run : List Phrase}

/-- A run consists of the nearest phrases. -/
theorem IsRun.isPrefix (h : IsRun aboutCode line before run) : run <+: before := by
  induction h with
  | nil line before => exact List.nil_prefix
  | cons _ _ _ _ ih => exact (List.prefix_cons_inj _).mpr ih

/-- A run is determined by its length. -/
theorem IsRun.eq_of_length {aboutCode' : Phrase → List Phrase → Prop} {line' : Nat}
    {run' : List Phrase} (h : IsRun aboutCode line before run)
    (h' : IsRun aboutCode' line' before run') (hlength : run.length = run'.length) : run = run' :=
  (List.prefix_of_prefix_length_le h.isPrefix h'.isPrefix hlength.le).eq_of_length hlength

/-- There is one longest run. -/
theorem IsLongestRun.eq {run' : List Phrase} (h : IsLongestRun aboutCode line before run)
    (h' : IsLongestRun aboutCode line before run') : run = run' :=
  h.isRun.eq_of_length h'.isRun
    (le_antisymm (h'.length_le run h.isRun) (h.length_le run' h'.isRun))

/-- Runs stay runs if fewer comments count as being about code. -/
theorem IsRun.mono {aboutCode' : Phrase → List Phrase → Prop}
    (hless : ∀ comment before, aboutCode' comment before → aboutCode comment before)
    (h : IsRun aboutCode line before run) : IsRun aboutCode' line before run := by
  induction h with
  | nil line before => exact .nil line before
  | cons hcomment habove hleading _ ih =>
    exact .cons hcomment habove (fun habout => hleading (hless _ _ habout)) ih

/-- A comment that directly follows code stands behind it. -/
theorem BehindCode.of_followsCode {comment : Phrase} {before : List Phrase}
    (h : FollowsCode comment before) : BehindCode comment before := by
  obtain ⟨p, hp, hbeside⟩ := h
  exact ⟨p, List.mem_of_mem_head? hp, hbeside⟩

/-- If a run takes a comment, all phrases end above the line that it reaches down to. -/
theorem IsRun.stop_lt (h : IsRun aboutCode line before run) (hordered : InSourceOrder before)
    (hne : run ≠ []) : ∀ p ∈ before, p.region.stop.line < line := by
  cases h with
  | nil => exact absurd rfl hne
  | @cons _ comment before _ _ habove _ _ =>
    intro p hp
    rcases List.mem_cons.mp hp with rfl | hp
    · omega
    · have hlines := hordered.lines comment List.mem_cons_self
      have horder := (List.pairwise_cons.mp hordered.order).1 p hp
      omega

/-- The comments of a run stand above one another. -/
theorem IsRun.pairwise (h : IsRun aboutCode line before run) (hordered : InSourceOrder before) :
    run.Pairwise fun near far => far.region.stop.line < near.region.start.line := by
  induction h with
  | nil line before => exact List.Pairwise.nil
  | cons _ _ _ hrun ih =>
    refine List.pairwise_cons.mpr ⟨fun far hfar => ?_, ih hordered.tail⟩
    exact hrun.stop_lt hordered.tail (List.ne_nil_of_mem hfar) far (hrun.isPrefix.subset hfar)

/-- A comment with another one of its run above it stands behind no code. -/
theorem IsRun.not_behindCode {comment : Phrase}
    (h : IsRun aboutCode comment.region.start.line before run) (hordered : InSourceOrder before)
    (hne : run ≠ []) : ¬ BehindCode comment before := by
  rintro ⟨p, hp, -, hbeside⟩
  have hlt := h.stop_lt hordered hne p hp
  omega

/-- In a run of comments that follow no code directly, only the topmost one can stand behind
code. -/
theorem isRun_behindCode_iff (h : IsRun FollowsCode line before run)
    (hordered : InSourceOrder before) :
    IsRun BehindCode line before run ↔
      ∀ top ∈ run.getLast?, ¬ BehindCode top (before.drop run.length) := by
  induction h with
  | nil line before => simp [IsRun.nil]
  | @cons line comment before run hcomment habove _ hrun ih =>
    rw [List.length_cons, List.drop_succ_cons]
    cases run with
    | nil =>
      rw [List.getLast?_singleton, List.length_nil, List.drop_zero]
      constructor
      · rintro (- | ⟨-, -, hleading, -⟩) top htop
        cases htop
        exact hleading
      · exact fun hleading => .cons hcomment habove (hleading comment rfl) (.nil _ _)
    | cons next run =>
      rw [List.getLast?_cons_cons, ← ih hordered.tail]
      constructor
      · rintro (- | ⟨-, -, -, hrest⟩)
        exact hrest
      · exact .cons hcomment habove
          (hrun.not_behindCode hordered.tail (List.cons_ne_nil next run))

/-- A run of comments that follow no code directly has at most its topmost comment too much. -/
theorem IsRun.dropLast (h : IsRun FollowsCode line before run) (hordered : InSourceOrder before) :
    IsRun BehindCode line before run.dropLast := by
  induction h with
  | nil line before => exact .nil line before
  | @cons line comment before run hcomment habove _ hrun ih =>
    cases run with
    | nil => exact .nil _ _
    | cons next run =>
      exact .cons hcomment habove
        (hrun.not_behindCode hordered.tail (List.cons_ne_nil next run)) (ih hordered.tail)

/-- The longest run of comments that stand behind no code is the longest of those that follow no
code directly, without its topmost comment if that one stands behind code. -/
theorem IsLongestRun.of_followsCode (h : IsLongestRun FollowsCode line before run)
    (hordered : InSourceOrder before) :
    (IsLongestRun BehindCode line before run ↔
      ∀ top ∈ run.getLast?, ¬ BehindCode top (before.drop run.length)) ∧
    ((∃ top ∈ run.getLast?, BehindCode top (before.drop run.length)) →
      IsLongestRun BehindCode line before run.dropLast) := by
  have hiff := isRun_behindCode_iff h.isRun hordered
  have hle : ∀ other, IsRun BehindCode line before other → other.length ≤ run.length :=
    fun other hother =>
      h.length_le other (hother.mono fun _ _ => BehindCode.of_followsCode)
  refine ⟨⟨fun hlongest => hiff.mp hlongest.isRun, fun htop => ⟨hiff.mpr htop, hle⟩⟩, ?_⟩
  rintro ⟨top, htop, hbehind⟩
  refine ⟨h.isRun.dropLast hordered, fun other hother => ?_⟩
  rw [List.length_dropLast]
  -- A run as long as the whole one would be the same, and that one has a comment behind code.
  have hne : other.length ≠ run.length := by
    intro hlength
    have hsame := hother.eq_of_length h.isRun hlength
    exact hiff.mp (hsame ▸ hother) top htop hbehind
  have hother := hle other hother
  omega

end Runs

/-! ## The run that is taken -/

/-- The test for code looks at the phrase directly before the comment. -/
theorem trailsCode_eq_true_iff {comment : Phrase} {before : List Phrase} :
    trailsCode comment.region.start.line before = true ↔ FollowsCode comment before := by
  cases before with
  | nil => simp [trailsCode, FollowsCode]
  | cons p before => simp [trailsCode, FollowsCode, EndsBeside]

/-- The comments that are taken are the longest run without one that directly follows code. -/
theorem isLongestRun_commentRun (line : Nat) (before : List Phrase) :
    IsLongestRun FollowsCode line before (commentRun line before) := by
  induction before generalizing line with
  | nil =>
    refine ⟨.nil line [], fun other hother => ?_⟩
    cases hother
    exact le_rfl
  | cons p before ih =>
    rw [commentRun]
    have htaken : (p.isComment && decide (p.region.stop.line + 1 = line) &&
          !trailsCode p.region.start.line before) = true ↔
        (p.isComment = true ∧ p.region.stop.line + 1 = line) ∧ ¬ FollowsCode p before := by
      rw [Bool.and_eq_true, Bool.and_eq_true, decide_eq_true_eq, Bool.not_eq_true',
        ← Bool.not_eq_true, trailsCode_eq_true_iff]
    split
    · next hp =>
      obtain ⟨⟨hcomment, habove⟩, hleading⟩ := htaken.mp hp
      obtain ⟨hrun, hlongest⟩ := ih p.region.start.line
      refine ⟨.cons hcomment habove hleading hrun, ?_⟩
      rintro other (- | ⟨-, -, -, hother⟩)
      · exact Nat.zero_le _
      · exact Nat.succ_le_succ (hlongest _ hother)
    · next hp =>
      refine ⟨.nil line _, ?_⟩
      rintro other (- | ⟨hcomment, habove, hleading, -⟩)
      · exact le_rfl
      · exact absurd (htaken.mpr ⟨⟨hcomment, habove⟩, hleading⟩) hp

/-- There is a doc comment unless no comment is taken. -/
theorem docOfRun_eq_none_iff {code : String} {file : Nat} {run : List Phrase} :
    docOfRun code file run = none ↔ run = [] := by
  cases run with
  | nil => simp [docOfRun]
  | cons comment run => simp [docOfRun, List.getLast?_cons]

/-- A doc comment says what its comments say, one after the other from top to bottom. -/
theorem text_of_docOfRun {code : String} {file : Nat} {run : List Phrase} {doc : Snippet}
    (h : docOfRun code file run = some doc) :
    doc.text = String.ofList (Text.trim Text.isBlank (Text.joinWith '\n'
      (run.reverse.map fun comment => commentContent (textOf code comment.region).toList))) := by
  unfold docOfRun at h
  split at h
  · cases h
    rfl
  · cases h

/-- A doc comment consists of the longest run of comments that reaches down to the declaration
without one that directly follows code on its line. That is the longest run without one behind code
on its line if the topmost comment stands behind none, and has this comment too much otherwise.
There is no doc comment just if the run is empty, and its text lists the comments in the order of the
source. -/
theorem docComment_takes_longest_run (code : String) (file line : Nat) {before : List Phrase}
    (hordered : InSourceOrder before) :
    ∃ run, IsLongestRun FollowsCode line before run ∧
      (IsLongestRun BehindCode line before run ↔
        ∀ top ∈ run.getLast?, ¬ BehindCode top (before.drop run.length)) ∧
      ((∃ top ∈ run.getLast?, BehindCode top (before.drop run.length)) →
        IsLongestRun BehindCode line before run.dropLast) ∧
      (docComment code file line before = none ↔ run = []) ∧
      (run.reverse.Pairwise fun upper lower => upper.region.stop.line < lower.region.start.line) ∧
      ∀ doc ∈ docComment code file line before,
        doc.text = String.ofList (Text.trim Text.isBlank (Text.joinWith '\n'
          (run.reverse.map fun comment => commentContent (textOf code comment.region).toList))) := by
  have hlongest := isLongestRun_commentRun line before
  obtain ⟨hiff, hshorter⟩ := hlongest.of_followsCode hordered
  exact ⟨commentRun line before, hlongest, hiff, hshorter, docOfRun_eq_none_iff,
    List.pairwise_reverse.mpr (hlongest.isRun.pairwise hordered),
    fun doc hdoc => text_of_docOfRun hdoc⟩

/-- A phrase of one line, by its place in the text. -/
def phraseOn (line : Nat) (kind : Grammar.Symbol) (start stop : Nat) : Phrase :=
  .mk kind none ⟨⟨start, line⟩, ⟨stop, line⟩⟩ []

/-- A variable with a comment behind it, and two comments on the lines below. -/
def commentedLines : List Phrase :=
  [phraseOn 2 (.token .comment) 20 24, phraseOn 1 (.token .comment) 15 19,
   phraseOn 0 (.token .comment) 10 14, phraseOn 0 (.category .varDeclaration) 0 9]

/-- The comments on lines of their own document the next variable. -/
theorem docComment_takes_longest_run_of_two :
    InSourceOrder commentedLines ∧
      IsLongestRun BehindCode 3 commentedLines (commentedLines.take 2) ∧
      ∃ doc, docComment "var x = 1 // a\n// b\n// c\nvar y = 2\n" 0 3 commentedLines = some doc ∧
        doc.text = "b\nc" := by
  have hordered : InSourceOrder commentedLines := by decide
  obtain ⟨run, hlongest, hiff, -, hnone, -, htext⟩ :=
    docComment_takes_longest_run "var x = 1 // a\n// b\n// c\nvar y = 2\n" 0 3 hordered
  have hrun : run = commentedLines.take 2 :=
    hlongest.eq (isLongestRun_commentRun 3 commentedLines)
  rw [hrun] at hiff hnone htext
  obtain ⟨doc, hdoc⟩ := Option.ne_none_iff_exists'.mp (mt hnone.mp (List.cons_ne_nil _ _))
  refine ⟨hordered, hiff.mpr ?_, doc, hdoc, (htext doc hdoc).trans (by decide)⟩
  intro top htop
  cases htop
  decide

/-- A variable with two comments behind it. -/
def commentedLine : List Phrase :=
  [phraseOn 0 (.token .comment) 18 22, phraseOn 0 (.token .comment) 10 17,
   phraseOn 0 (.category .varDeclaration) 0 9]

/-- The second of two comments behind a variable documents the next one, though no comment stands on
a line of its own. -/
theorem docComment_takes_second_trailing_comment :
    InSourceOrder commentedLine ∧ IsLongestRun BehindCode 1 commentedLine [] ∧
      (docComment "var x = 1 /* a */ // b\nvar y = 2\n" 0 1 commentedLine).map (·.text) =
        some "b" := by
  refine ⟨by decide, ⟨.nil _ _, ?_⟩, by decide⟩
  rintro other (- | ⟨-, -, hleading, -⟩)
  · exact le_rfl
  · exact absurd (by decide) hleading

end GoAddress.Source
