import Mathlib.Data.List.Basic
import GoAddress.Proofs.Address.Reading
import GoAddress.Proofs.Text.Trimming
import GoAddress.Source.TypeName

/-!
# Names in written types

The name of a type stands among marks: stars and parentheses before it, type arguments and closing
parentheses behind it. Opening parentheses are taken away once, and then stars once. Main
statements: the name of a receiver's type is found just if no parentheses stand behind a star, and
what is found otherwise is no identifier; an embedded type is named just if it has at most one type
argument, since the blank between two of them counts as the mark of a union; unions have no name.
-/

namespace GoAddress.Source

/-! ## Written types -/

/-- A name as it is written. -/
structure Identifier where
  /-- The characters. -/
  text : List Char
  /-- They are those of an identifier. -/
  isIdentifier : isIdentifierChars text = true

/-- The name of a type, perhaps with the name of its package. -/
structure NamedType where
  /-- The name of the package. -/
  qualifier : Option Identifier
  /-- The name of the type. -/
  name : Identifier

/-- The name of the package stands before a dot. -/
def NamedType.text (t : NamedType) : List Char :=
  match t.qualifier with
  | none => t.name.text
  | some package => package.text ++ '.' :: t.name.text

/-- Type arguments stand in brackets, if there are any. -/
def bracketed : Option (List Char) → List Char
  | none => []
  | some arguments => '[' :: arguments ++ [']']

/-- The name of a type with its type arguments, as they stand among the marks. -/
def coreText (t : NamedType) (arguments : Option (List Char)) : List Char :=
  t.text ++ bracketed arguments

/-- The type of a receiver: a name with or without type arguments, which may be any text, behind
pointers and in parentheses. -/
inductive ReceiverType where
  | named (name : Identifier) (arguments : Option (List Char))
  | pointer (type : ReceiverType)
  | parenthesized (type : ReceiverType)

namespace ReceiverType

/-- The type as it is written. -/
def text : ReceiverType → List Char
  | named name arguments => name.text ++ bracketed arguments
  | pointer type => '*' :: type.text
  | parenthesized type => '(' :: type.text ++ [')']

/-- The name that the methods belong to. -/
def name : ReceiverType → Identifier
  | named name _ => name
  | pointer type => type.name
  | parenthesized type => type.name

/-- The type arguments. -/
def arguments : ReceiverType → Option (List Char)
  | named _ arguments => arguments
  | pointer type => type.arguments
  | parenthesized type => type.arguments

/-- The stars and parentheses before the name. -/
def marks : ReceiverType → List Char
  | named _ _ => []
  | pointer type => '*' :: type.marks
  | parenthesized type => '(' :: type.marks

/-- The number of parentheses. -/
def depth : ReceiverType → Nat
  | named _ _ => 0
  | pointer type => type.depth
  | parenthesized type => type.depth + 1

/-- Whether all parentheses stand outside of all pointers. -/
def parensOutermost : ReceiverType → Bool
  | named _ _ => true
  | pointer type => type.depth == 0
  | parenthesized type => type.parensOutermost

end ReceiverType

/-- An embedded type: a name behind at most one star, with the type arguments, if there are any. -/
structure EmbeddedType where
  /-- Whether there is a star. -/
  isPointer : Bool
  /-- The name of the type. -/
  named : NamedType
  /-- The type arguments. -/
  arguments : List NamedType

namespace EmbeddedType

/-- The type arguments, with a comma and a blank between them. -/
def argumentText (e : EmbeddedType) : Option (List Char) :=
  if e.arguments.isEmpty then none
  else some ([',', ' '].intercalate (e.arguments.map NamedType.text))

/-- The star of a pointer. -/
def star (e : EmbeddedType) : List Char :=
  if e.isPointer then ['*'] else []

/-- The type as it is written. -/
def text (e : EmbeddedType) : List Char :=
  e.star ++ coreText e.named e.argumentText

/-- The union of several types, with a bar between blanks between them. -/
def unionText (terms : List EmbeddedType) : List Char :=
  [' ', '|', ' '].intercalate (terms.map text)

end EmbeddedType

/-! ## Marks and names -/

/-- The characters that a named type begins and ends with. -/
def isTypeChar (c : Char) : Bool :=
  isIdentContinue c || c == '.' || c == '[' || c == ']'

/-- The characters that stand around named types. -/
def typeMarks : List Char := ['*', '(', ')', '|', '~', '\x7b', ' ']

/-- Named types neither begin nor end with a mark. -/
theorem isTypeChar_of_mem_typeMarks {c : Char} (h : c ∈ typeMarks) : isTypeChar c = false := by
  have hall : typeMarks.all (!isTypeChar ·) = true := by decide +kernel
  simpa using List.all_eq_true.mp hall c h

/-- A character of a named type is no mark. -/
theorem beq_of_isTypeChar {c mark : Char} (hmark : mark ∈ typeMarks) (hc : isTypeChar c = true) :
    (c == mark) = false := by
  rw [beq_eq_false_iff_ne]
  rintro rfl
  rw [isTypeChar_of_mem_typeMarks hmark] at hc
  exact Bool.noConfusion hc

/-- The characters of a named type are not blank. -/
theorem isBlank_of_isTypeChar {c : Char} (h : isTypeChar c = true) : Text.isBlank c = false := by
  simp only [isTypeChar, Bool.or_eq_true, beq_iff_eq] at h
  rcases h with ((h | rfl) | rfl) | rfl
  · exact Address.isBlank_of_isPackageChar (Address.isPackageChar_of_isIdentContinue h)
  all_goals decide

/-- The characters of a named type do not show a union or a literal. -/
theorem isCompoundMark_of_isTypeChar {c : Char} (h : isTypeChar c = true) :
    isCompoundMark c = false := by
  have hmark : ∀ {mark : Char}, mark ∈ typeMarks → (c == mark) = false :=
    fun hmark => beq_of_isTypeChar hmark h
  rw [isCompoundMark, hmark (by decide), hmark (by decide), hmark (by decide), hmark (by decide),
    hmark (by decide)]
  rfl

/-- Identifiers consist of characters of named types. -/
theorem Identifier.isTypeChar_of_mem (name : Identifier) {c : Char} (hc : c ∈ name.text) :
    isTypeChar c = true := by
  have hcontinue := (isIdentifierChars_iff.mp name.isIdentifier).2 c hc
  simp [isTypeChar, hcontinue]

/-- A named type consists of names and dots. -/
theorem NamedType.mem_text {t : NamedType} {c : Char} (h : c ∈ t.text) :
    c = '.' ∨ ∃ name : Identifier, c ∈ name.text := by
  rw [text] at h
  split at h
  · exact Or.inr ⟨t.name, h⟩
  · next package _ =>
    rcases List.mem_append.mp h with h | h
    · exact Or.inr ⟨package, h⟩
    · rcases List.mem_cons.mp h with rfl | h
      · exact Or.inl rfl
      · exact Or.inr ⟨t.name, h⟩

/-- Named types consist of the characters that they begin and end with. -/
theorem NamedType.isTypeChar_of_mem (t : NamedType) {c : Char} (hc : c ∈ t.text) :
    isTypeChar c = true := by
  rcases mem_text hc with rfl | ⟨name, hname⟩
  · decide +kernel
  · exact name.isTypeChar_of_mem hname

/-- No bracket stands in a named type. -/
theorem NamedType.bracket_not_mem (t : NamedType) : '[' ∉ t.text := by
  intro hmem
  rcases mem_text hmem with hdot | ⟨name, hname⟩
  · exact absurd hdot (by decide)
  · exact not_mem_of_isIdentifierChars name.isIdentifier (by decide) hname

/-- A named type with its arguments neither begins nor ends with a character of a class that named
types are not written with. -/
theorem trimmed_coreText {p : Char → Bool} (hp : ∀ c, isTypeChar c = true → p c = false)
    (t : NamedType) (arguments : Option (List Char)) : Text.Trimmed p (coreText t arguments) := by
  refine (Text.Trimmed.of_forall fun c hc => hp c (t.isTypeChar_of_mem hc)).append ?_
  cases arguments with
  | none => exact Text.Trimmed.of_forall fun c hc => absurd hc List.not_mem_nil
  | some arguments =>
    constructor
    · intro c hc
      cases hc
      exact hp _ (by decide +kernel)
    · intro c hc
      rw [bracketed, List.getLast?_concat] at hc
      cases hc
      exact hp _ (by decide +kernel)

/-- Up to the first bracket stands what is before the type arguments. -/
theorem takeWhile_append_coreText {front : List Char} (hfront : '[' ∉ front) (t : NamedType)
    (arguments : Option (List Char)) :
    (front ++ coreText t arguments).takeWhile (· != '[') = front ++ t.text := by
  have hbefore : ∀ c ∈ front ++ t.text, (c != '[') = true := by
    intro c hc
    rw [bne_iff_ne]
    rintro rfl
    rcases List.mem_append.mp hc with hc | hc
    · exact hfront hc
    · exact t.bracket_not_mem hc
  rw [coreText, ← List.append_assoc, List.takeWhile_append_of_pos hbefore]
  cases arguments <;> simp [bracketed]

/-- Behind text without a dot, the part behind the last dot is the name of the type, with that text
before it if there is no package. -/
theorem lastDotted_append_text {front : List Char} (hfront : '.' ∉ front) (t : NamedType) :
    lastDotted (front ++ t.text) =
      (if t.qualifier.isSome then [] else front) ++ t.name.text := by
  have hname : '.' ∉ t.name.text := not_mem_of_isIdentifierChars t.name.isIdentifier (by decide)
  cases hqualifier : t.qualifier with
  | none =>
    have hwhole : '.' ∉ front ++ t.name.text := by simp [hfront, hname]
    simp only [NamedType.text, hqualifier, lastDotted, Text.splitOn_of_not_mem hwhole]
    rfl
  | some package =>
    simp only [NamedType.text, hqualifier, lastDotted, ← List.append_assoc,
      Text.getLast?_splitOn_of_last _ hname]
    rfl

/-! ## Taking marks away -/

/-- A text without the marks around a name: parentheses first, then stars, and blanks each time. -/
def withoutMarks (text : List Char) : List Char :=
  let unwrapped := Text.trimEnd (· == ')') (Text.trimStart (· == '(') (Text.trim Text.isBlank text))
  Text.trim Text.isBlank (Text.trimStart (· == '*') (Text.trim Text.isBlank unwrapped))

/-- The name is what stands behind the last dot and before the first bracket of the rest. -/
theorem baseTypeName_eq (text : List Char) :
    baseTypeName text =
      Text.trim Text.isBlank (lastDotted ((withoutMarks text).takeWhile (· != '['))) := rfl

/-- What is left of stars and parentheses when first parentheses and then stars are taken away. -/
def unread (marks : List Char) : List Char :=
  Text.trimStart (· == '*') (Text.trimStart (· == '(') marks)

/-- What is left of marks was among them. -/
theorem mem_of_mem_unread {marks : List Char} {c : Char} (h : c ∈ unread marks) : c ∈ marks :=
  List.dropWhile_subset _ (List.dropWhile_subset _ h)

section Marks

variable {marks closing : List Char} (hmarks : ∀ c ∈ marks, c = '*' ∨ c = '(')
  (t : NamedType) (arguments : Option (List Char))

include hmarks

/-- A named type behind some of its marks neither begins nor ends with a character of a class that is
used for neither. -/
theorem trimmed_marks_append {p : Char → Bool} (hp : ∀ c, isTypeChar c = true → p c = false)
    (hstar : p '*' = false) (hparen : p '(' = false) {front : List Char} (hfront : front ⊆ marks) :
    Text.Trimmed p (front ++ coreText t arguments) := by
  refine (Text.Trimmed.of_forall fun c hc => ?_).append (trimmed_coreText hp t arguments)
  rcases hmarks c (hfront hc) with rfl | rfl
  · exact hstar
  · exact hparen

/-- Marks are taken away from a written type as if they stood alone. -/
theorem withoutMarks_written (hclosing : ∀ c ∈ closing, c = ')') :
    withoutMarks (marks ++ (coreText t arguments ++ closing)) =
      unread marks ++ coreText t arguments := by
  have hopened : Text.trimStart (· == '(') marks ⊆ marks := List.dropWhile_subset _
  have hblank : ∀ {front : List Char}, front ⊆ marks →
      Text.Trimmed Text.isBlank (front ++ coreText t arguments) :=
    trimmed_marks_append hmarks t arguments (fun _ => isBlank_of_isTypeChar) (by decide) (by decide)
  have hbare : Text.Trimmed Text.isBlank (marks ++ (coreText t arguments ++ closing)) := by
    rw [← List.append_assoc]
    refine (hblank (List.Subset.refl marks)).append (Text.Trimmed.of_forall fun c hc => ?_)
    rw [hclosing c hc]
    decide
  have hopen : Text.Trimmed (· == '(') (coreText t arguments ++ closing) := by
    refine (trimmed_coreText (fun _ => beq_of_isTypeChar (by decide)) t arguments).append
      (Text.Trimmed.of_forall fun c hc => ?_)
    rw [hclosing c hc]
    decide
  have hclose : Text.Trimmed (· == ')') (Text.trimStart (· == '(') marks ++ coreText t arguments) :=
    trimmed_marks_append hmarks t arguments (fun _ => beq_of_isTypeChar (by decide)) (by decide)
      (by decide) hopened
  have hstar : Text.Trimmed (· == '*') (coreText t arguments) :=
    trimmed_coreText (fun _ => beq_of_isTypeChar (by decide)) t arguments
  have hrest : unread marks ⊆ marks := fun c hc => mem_of_mem_unread hc
  simp only [withoutMarks]
  rw [hbare.trim_eq, hopen.trimStart_append, ← List.append_assoc,
    hclose.trimEnd_append fun c hc => beq_iff_eq.mpr (hclosing c hc), (hblank hopened).trim_eq,
    hstar.trimStart_append]
  exact (hblank hrest).trim_eq

/-- The name of a written type is found behind what is left of the marks before it; the name of a
package takes that away as well. -/
theorem baseTypeName_written (hclosing : ∀ c ∈ closing, c = ')') :
    baseTypeName (marks ++ (coreText t arguments ++ closing)) =
      (if t.qualifier.isSome then [] else unread marks) ++ t.name.text := by
  have hnot : ∀ {mark : Char}, mark ≠ '*' → mark ≠ '(' → mark ∉ unread marks := by
    intro mark hstar hparen hmem
    exact (hmarks mark (mem_of_mem_unread hmem)).elim hstar hparen
  have hfound : lastDotted ((unread marks ++ coreText t arguments).takeWhile (· != '[')) =
      (if t.qualifier.isSome then [] else unread marks) ++ t.name.text := by
    rw [takeWhile_append_coreText (hnot (by decide) (by decide)),
      lastDotted_append_text (hnot (by decide) (by decide))]
  rw [baseTypeName_eq, withoutMarks_written hmarks t arguments hclosing, hfound]
  refine ((Text.Trimmed.of_forall fun c hc => ?_).append
    (Text.Trimmed.of_forall fun c hc => isBlank_of_isTypeChar (t.name.isTypeChar_of_mem hc))).trim_eq
  split at hc
  · exact absurd hc List.not_mem_nil
  · rcases hmarks c (mem_of_mem_unread hc) with rfl | rfl <;> decide

end Marks

/-! ## Receivers -/

namespace ReceiverType

/-- A receiver's type is a name among marks. -/
theorem text_eq (r : ReceiverType) :
    r.text = r.marks ++ (coreText ⟨none, r.name⟩ r.arguments ++ List.replicate r.depth ')') := by
  induction r with
  | named name arguments => simp [text, marks, depth, coreText, NamedType.text, ReceiverType.name,
      ReceiverType.arguments]
  | pointer type ih => rw [text, ih]; rfl
  | parenthesized type ih =>
    rw [text, ih, depth, List.replicate_succ']
    simp [marks, ReceiverType.name, ReceiverType.arguments]

/-- Before the name stand stars and parentheses. -/
theorem mem_marks {r : ReceiverType} {c : Char} (h : c ∈ r.marks) : c = '*' ∨ c = '(' := by
  induction r with
  | named => exact absurd h List.not_mem_nil
  | pointer type ih =>
    rcases List.mem_cons.mp h with rfl | h
    · exact Or.inl rfl
    · exact ih h
  | parenthesized type ih =>
    rcases List.mem_cons.mp h with rfl | h
    · exact Or.inr rfl
    · exact ih h

/-- The name is found behind the marks that are left of those before it. -/
theorem baseTypeName_text (r : ReceiverType) :
    baseTypeName r.text = unread r.marks ++ r.name.text := by
  have hclosing : ∀ c ∈ List.replicate r.depth ')', c = ')' := fun c hc => List.eq_of_mem_replicate hc
  rw [r.text_eq, baseTypeName_written (fun _ => mem_marks) ⟨none, r.name⟩ r.arguments hclosing]
  rfl

/-- Without parentheses there are only stars. -/
theorem forall_marks_iff (r : ReceiverType) : (∀ c ∈ r.marks, c = '*') ↔ r.depth = 0 := by
  induction r with
  | named => simp [marks, depth]
  | pointer type ih => simpa [marks, depth] using ih
  | parenthesized type ih => simp [marks, depth]

/-- All marks are taken away just if no parentheses stand behind a star. -/
theorem unread_marks_eq_nil_iff (r : ReceiverType) :
    unread r.marks = [] ↔ r.parensOutermost = true := by
  induction r with
  | named => simp [marks, unread, Text.trimStart, parensOutermost]
  | pointer type ih =>
    have hunread : unread ('*' :: type.marks) = type.marks.dropWhile (· == '*') := by
      simp [unread, Text.trimStart]
    rw [marks, hunread, List.dropWhile_eq_nil_iff, parensOutermost, beq_iff_eq,
      ← type.forall_marks_iff]
    simp only [beq_iff_eq]
  | parenthesized type ih =>
    have hunread : unread ('(' :: type.marks) = unread type.marks := by
      simp [unread, Text.trimStart]
    rw [marks, hunread, parensOutermost, ih]

/-- Marks before a name make it no identifier. -/
theorem isIdentifierChars_unread_append_iff (r : ReceiverType) :
    isIdentifierChars (unread r.marks ++ r.name.text) = true ↔ unread r.marks = [] := by
  constructor
  · intro h
    rw [List.eq_nil_iff_forall_not_mem]
    intro c hc
    have hcontinue := (isIdentifierChars_iff.mp h).2 c (List.mem_append_left _ hc)
    have hmark : c ∈ typeMarks := by
      rcases mem_marks (mem_of_mem_unread hc) with rfl | rfl <;> decide
    have htype := isTypeChar_of_mem_typeMarks hmark
    simp [isTypeChar, hcontinue] at htype
  · intro h
    rw [h, List.nil_append]
    exact r.name.isIdentifier

/-- The name of a receiver's type is found just if all of its parentheses stand outside of all
pointers, however many there are of both and whatever its type arguments are. What is found otherwise
is no identifier. -/
theorem receiver_name_found_iff_parens_outermost (r : ReceiverType) :
    (baseTypeName r.text = r.name.text ↔ r.parensOutermost = true) ∧
      (isIdentifierChars (baseTypeName r.text) = true ↔ r.parensOutermost = true) := by
  rw [r.baseTypeName_text, List.append_left_eq_self, r.isIdentifierChars_unread_append_iff,
    r.unread_marks_eq_nil_iff]
  exact ⟨Iff.rfl, Iff.rfl⟩

/-- A pointer to a type in parentheses, `*(T)`. -/
def starredParens : ReceiverType :=
  pointer (parenthesized (named ⟨['T'], by decide⟩ none))

/-- Of a pointer to a type in parentheses the opening parenthesis is read as part of the name. -/
theorem name_of_starred_parens :
    starredParens.text = "*(T)".toList ∧ starredParens.name.text = "T".toList ∧
      baseTypeName starredParens.text = "(T".toList := by
  decide

end ReceiverType

/-! ## Embedded types -/

/-- A text with separators has a character of a class if a part has one, or if the separator has one
and there are several parts. -/
theorem any_intercalate (p : Char → Bool) (sep : List Char) (parts : List (List Char)) :
    (sep.intercalate parts).any p =
      (parts.any (·.any p) || (decide (2 ≤ parts.length) && sep.any p)) := by
  induction parts with
  | nil => rfl
  | cons part parts ih =>
    cases parts with
    | nil => simp
    | cons next parts =>
      have hseveral : decide (2 ≤ parts.length + 1 + 1) = true := decide_eq_true (by omega)
      rw [List.intercalate_cons_cons, List.any_append, List.any_append, ih]
      simp only [List.any_cons, List.length_cons, hseveral]
      cases part.any p <;> cases sep.any p <;> simp

namespace EmbeddedType

/-- Before the name stands nothing but a star. -/
theorem mem_star {e : EmbeddedType} {c : Char} (h : c ∈ e.star) : c = '*' := by
  rw [star] at h
  split at h
  · exact List.mem_singleton.mp h
  · exact absurd h List.not_mem_nil

/-- No star is left before the name of an embedded type. -/
theorem baseTypeName_text (e : EmbeddedType) : baseTypeName e.text = e.named.name.text := by
  have hclosing : ∀ c ∈ ([] : List Char), c = ')' := fun c hc => absurd hc List.not_mem_nil
  have hmarks : ∀ c ∈ e.star, c = '*' ∨ c = '(' := fun c hc => Or.inl (mem_star hc)
  have hunread : unread e.star = [] := by
    rw [star]
    split <;> rfl
  have hname := baseTypeName_written hmarks e.named e.argumentText hclosing
  rw [hunread, ite_self, List.nil_append, List.append_nil] at hname
  exact hname

/-- A named type shows no union and no literal. -/
theorem any_isCompoundMark_named (t : NamedType) : t.text.any isCompoundMark = false := by
  rw [List.any_eq_false]
  intro c hc
  rw [isCompoundMark_of_isTypeChar (t.isTypeChar_of_mem hc)]
  exact Bool.false_ne_true

/-- An embedded type looks like a union if it has several type arguments, because of the blank between
them. -/
theorem any_isCompoundMark_text (e : EmbeddedType) :
    e.text.any isCompoundMark = decide (2 ≤ e.arguments.length) := by
  have hnames : (e.arguments.map NamedType.text).any (·.any isCompoundMark) = false := by
    simp [any_isCompoundMark_named]
  have hstar : e.star.any isCompoundMark = false := by
    rw [List.any_eq_false]
    intro c hc
    rw [mem_star hc]
    decide
  have harguments : (bracketed e.argumentText).any isCompoundMark =
      decide (2 ≤ e.arguments.length) := by
    rw [argumentText]
    split
    · next hnone => simp [bracketed, List.isEmpty_iff.mp hnone]
    · rw [bracketed, List.any_append, List.any_cons, any_intercalate, hnames, List.length_map]
      simp [isCompoundMark]
  rw [text, coreText, List.any_append, List.any_append, hstar, any_isCompoundMark_named, harguments,
    Bool.false_or, Bool.false_or]

/-- Nothing is trimmed from an embedded type. -/
theorem trim_text (e : EmbeddedType) : Text.trim Text.isBlank e.text = e.text := by
  have hstar : ∀ c ∈ e.star, Text.isBlank c = false := by
    intro c hc
    rw [mem_star hc]
    decide
  exact ((Text.Trimmed.of_forall hstar).append
    (trimmed_coreText (fun _ => isBlank_of_isTypeChar) e.named e.argumentText)).trim_eq

/-- An embedded type is found by its name if it has at most one type argument, and is taken for a
union otherwise. -/
theorem embeddedName?_text (e : EmbeddedType) :
    embeddedName? e.text = if e.arguments.length ≤ 1 then some e.named.name.text else none := by
  simp only [embeddedName?, e.trim_text, e.any_isCompoundMark_text, e.baseTypeName_text,
    e.named.name.isIdentifier, if_true, decide_eq_true_eq]
  by_cases h : e.arguments.length ≤ 1
  · rw [if_pos h, if_neg (by omega)]
  · rw [if_neg h, if_pos (by omega)]

/-- A bar shows a union. -/
theorem embeddedName?_eq_none_of_bar {cs : List Char} (h : '|' ∈ cs) : embeddedName? cs = none := by
  have hmem := Text.mem_trim h (by decide : Text.isBlank '|' = false)
  have hany : (Text.trim Text.isBlank cs).any isCompoundMark = true :=
    List.any_eq_true.mpr ⟨'|', hmem, rfl⟩
  rw [embeddedName?, hany, if_pos rfl]

/-- Between several terms of a union stands a bar. -/
theorem bar_mem_unionText (first second : EmbeddedType) (rest : List EmbeddedType) :
    '|' ∈ unionText (first :: second :: rest) := by
  rw [unionText, List.map_cons, List.map_cons, List.intercalate_cons_cons]
  simp

/-- An embedded type has its name as implicit name if it has no or one type argument, and none if it
has several. A union of several types has none. -/
theorem embedded_name_found_up_to_one_argument (e first second : EmbeddedType)
    (rest : List EmbeddedType) :
    embeddedName? e.text = (if e.arguments.length ≤ 1 then some e.named.name.text else none) ∧
      embeddedName? (unionText (first :: second :: rest)) = none :=
  ⟨e.embeddedName?_text, embeddedName?_eq_none_of_bar (bar_mem_unionText first second rest)⟩

/-- A type with two type arguments, `Pair[K, V]`. -/
def keyedPair : EmbeddedType where
  isPointer := false
  named := ⟨none, ⟨['P', 'a', 'i', 'r'], by decide⟩⟩
  arguments := [⟨none, ⟨['K'], by decide⟩⟩, ⟨none, ⟨['V'], by decide⟩⟩]

/-- An embedded type with two type arguments has no implicit name. -/
theorem embedded_pair_without_name :
    keyedPair.text = "Pair[K, V]".toList ∧ keyedPair.named.name.text = "Pair".toList ∧
      embeddedName? keyedPair.text = none := by
  decide

end EmbeddedType

end GoAddress.Source
