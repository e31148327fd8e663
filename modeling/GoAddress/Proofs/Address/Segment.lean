import Mathlib.Data.List.Basic
import GoAddress.Address.Parser
import GoAddress.Proofs.Text.Splitting

/-!
# Steps and their written form

Identifiers, import paths and the names of categories hold no delimiter, and a position is written
without leading zeros. Hence a step that is read is the step that was written: reading accepts
exactly the written forms of valid steps, and legible steps with equal texts are equal. The bound
on positions belongs to reading alone; texts tell all positions apart.
-/

namespace GoAddress

/-- A sequence of two readings succeeds through a success of each. -/
theorem bind_eq_ok_iff {ε α β : Type} {x : Except ε α} {f : α → Except ε β} {b : β} :
    (x >>= f) = .ok b ↔ ∃ a, x = .ok a ∧ f a = .ok b := by
  cases x with
  | error e =>
    constructor
    · intro h
      cases h
    · rintro ⟨a, ha, -⟩
      cases ha
  | ok a =>
    constructor
    · intro h
      exact ⟨a, rfl, h⟩
    · rintro ⟨_, ha, hb⟩
      cases ha
      exact hb

/-- The characters that end a name in an address. -/
def delimiters : List Char := ['.', '/', '[', ']']

/-- Delimiters are neither letters nor digits. -/
theorem isAlphanumeric_delimiter {d : Char} (h : d ∈ delimiters) : isAlphanumeric d = false := by
  have hall : delimiters.all (!isAlphanumeric ·) = true := by decide +kernel
  simpa using List.all_eq_true.mp hall d h

/-- No delimiter continues an identifier. -/
theorem isIdentContinue_delimiter {d : Char} (h : d ∈ delimiters) : isIdentContinue d = false := by
  have hd : d ≠ '_' := by
    rintro rfl
    simp [delimiters] at h
  simp [isIdentContinue, isAlphanumeric_delimiter h, hd]

/-- What begins an identifier may continue one. -/
theorem isIdentContinue_of_isIdentStart {c : Char} (h : isIdentStart c = true) :
    isIdentContinue c = true := by
  simp only [isIdentStart, isIdentContinue, isAlphanumeric, Bool.or_eq_true] at h ⊢
  rcases h with h | h
  · exact Or.inl (Or.inl h)
  · exact Or.inr h

/-- An identifier is a first character and characters that continue it. -/
theorem isIdentifierChars_iff {cs : List Char} :
    isIdentifierChars cs = true ↔
      (∃ c, cs.head? = some c ∧ isIdentStart c = true) ∧ ∀ c ∈ cs, isIdentContinue c = true := by
  cases cs with
  | nil => simp [isIdentifierChars]
  | cons c rest =>
    simp only [isIdentifierChars, Bool.and_eq_true, List.all_eq_true, List.head?_cons,
      Option.some.injEq, exists_eq_left', List.forall_mem_cons]
    constructor
    · rintro ⟨hc, hrest⟩
      exact ⟨hc, isIdentContinue_of_isIdentStart hc, hrest⟩
    · rintro ⟨hc, -, hrest⟩
      exact ⟨hc, hrest⟩

/-- No delimiter stands in an identifier. -/
theorem not_mem_of_isIdentifierChars {cs : List Char} (h : isIdentifierChars cs = true) {d : Char}
    (hd : d ∈ delimiters) : d ∉ cs := by
  intro hmem
  have hcontinue := (isIdentifierChars_iff.mp h).2 d hmem
  rw [isIdentContinue_delimiter hd] at hcontinue
  cases hcontinue

/-- An identifier is not empty. -/
theorem ne_nil_of_isIdentifierChars {cs : List Char} (h : isIdentifierChars cs = true) :
    cs ≠ [] := by
  rintro rfl
  cases h

/-- The decimal digits are ten code points in a row. -/
theorem toNat_of_isDigit {c : Char} (h : c.isDigit = true) : 48 ≤ c.toNat ∧ c.toNat ≤ 57 := by
  simp only [Char.isDigit, Bool.and_eq_true, decide_eq_true_eq, ge_iff_le,
    UInt32.le_iff_toNat_le] at h
  exact h

/-- Decimal digits do not begin identifiers. -/
theorem isIdentStart_digit {c : Char} (h : c.isDigit = true) : isIdentStart c = false := by
  have hall : ∀ n ∈ List.range' 48 10, isIdentStart (Char.ofNat n) = false := by decide +kernel
  obtain ⟨hlow, hhigh⟩ := toNat_of_isDigit h
  have hc := hall c.toNat (List.mem_range'_1.mpr ⟨hlow, by omega⟩)
  rwa [Char.ofNat_toNat] at hc

namespace Address

/-- The value of a numeral in the standard library's terms. -/
theorem decimalValue_eq (ds : List Char) : decimalValue ds = Nat.ofDigitChars 10 ds 0 := rfl

/-- A digit is the written form of its value. -/
theorem toDigits_digit {d : Char} (h : d.isDigit = true) : Nat.toDigits 10 (d.toNat - 48) = [d] := by
  have hd := toNat_of_isDigit h
  have hchar : (d.toNat - 48).digitChar = d := by
    apply Char.toNat_inj.mp
    rw [Nat.toNat_digitChar_of_lt_ten (by omega)]
    omega
  rw [Nat.toDigits_of_lt_base (by omega), hchar]

/-- Reading digits behind a positive number writes them behind it. -/
theorem toDigits_append_digits {n : Nat} (hn : 0 < n) {ds : List Char}
    (hds : ∀ d ∈ ds, d.isDigit = true) :
    Nat.toDigits 10 n ++ ds = Nat.toDigits 10 (Nat.ofDigitChars 10 ds n) := by
  induction ds generalizing n with
  | nil => simp
  | cons d ds ih =>
    have hd := toNat_of_isDigit (hds d List.mem_cons_self)
    have hdigit := toDigits_digit (hds d List.mem_cons_self)
    have hstep := Nat.toDigits_append_toDigits (b := 10) (by omega) hn
      (by omega : d.toNat - 48 < 10)
    have hrest := ih (n := 10 * n + (d.toNat - 48)) (by omega) fun x hx =>
      hds x (List.mem_cons_of_mem d hx)
    rw [hdigit] at hstep
    rw [Nat.ofDigitChars_cons, show '0'.toNat = 48 from rfl, ← hrest, ← hstep]
    simp

/-- A numeral without leading zeros is the written form of its value. -/
theorem toDigits_decimalValue {ds : List Char} (hne : ds ≠ [])
    (hds : ∀ d ∈ ds, d.isDigit = true) (hzero : 1 < ds.length → ds.head? ≠ some '0') :
    Nat.toDigits 10 (decimalValue ds) = ds := by
  obtain ⟨d, ds, rfl⟩ := List.exists_cons_of_ne_nil hne
  have hd := toNat_of_isDigit (hds d List.mem_cons_self)
  have hdigit := toDigits_digit (hds d List.mem_cons_self)
  have hvalue : decimalValue (d :: ds) = Nat.ofDigitChars 10 ds (d.toNat - 48) := by
    rw [decimalValue_eq, Nat.ofDigitChars_cons]
    simp
  cases ds with
  | nil =>
    rw [hvalue, Nat.ofDigitChars_nil, hdigit]
  | cons e ds =>
    have hpos : 0 < d.toNat - 48 := by
      have hd0 : d ≠ '0' := by simpa using hzero (by simp)
      have hnat : d.toNat ≠ 48 := fun h => hd0 (Char.toNat_inj.mp h)
      omega
    have hrest : ∀ x ∈ e :: ds, x.isDigit = true := fun x hx => hds x (List.mem_cons_of_mem d hx)
    have happend := toDigits_append_digits hpos hrest
    rw [hvalue, ← happend, hdigit, List.singleton_append]

/-- The written form of a position has no leading zero. -/
theorem head_toDigits_ne_zero {n : Nat} (hn : 0 < n) : (Nat.toDigits 10 n).head? ≠ some '0' := by
  induction n using Nat.strong_induction_on with
  | h n ih =>
    by_cases hlt : n < 10
    · have hchar : n.digitChar.toNat = 48 + n := Nat.toNat_digitChar_of_lt_ten hlt
      rw [Nat.toDigits_of_lt_base hlt, List.head?_cons]
      intro h
      have hzero : n.digitChar = '0' := Option.some.inj h
      rw [hzero] at hchar
      have h48 : '0'.toNat = 48 := rfl
      omega
    · rw [Nat.toDigits_of_base_le (by omega) (by omega),
        List.head?_append_of_ne_nil _ Nat.toDigits_ne_nil]
      exact ih (n / 10) (by omega) (by omega)

end Address

namespace Selector

/-- A selector that its text tells apart: a name is an identifier. -/
def Legible : Selector → Prop
  | .name s => isIdentifier s = true
  | .index _ => True

/-- A selector of the grammar: an identifier, or a position below the bound. -/
def Valid : Selector → Prop
  | .name s => isIdentifier s = true
  | .index i => i < Address.positionBound

/-- Selectors of the grammar are legible. -/
theorem Valid.legible {s : Selector} (h : s.Valid) : s.Legible := by
  cases s with
  | name text => exact h
  | index i => trivial

/-- Positions are written in decimal digits. -/
theorem toList_text_index (i : Nat) : (index i).text.toList = Nat.toDigits 10 i :=
  Nat.toList_repr

/-- The text of a selector is not empty. -/
theorem text_ne_nil {s : Selector} (h : s.Legible) : s.text.toList ≠ [] := by
  cases s with
  | name text => exact ne_nil_of_isIdentifierChars h
  | index i =>
    rw [toList_text_index]
    exact Nat.toDigits_ne_nil

/-- No delimiter stands in the text of a selector. -/
theorem not_mem_text {s : Selector} (h : s.Legible) {d : Char} (hd : d ∈ delimiters) :
    d ∉ s.text.toList := by
  cases s with
  | name text => exact not_mem_of_isIdentifierChars h hd
  | index i =>
    rw [toList_text_index]
    intro hmem
    have hdigit := Nat.isDigit_of_mem_toDigits (by omega) (by omega) hmem
    have hall : delimiters.all (!Char.isDigit ·) = true := by decide
    have hnone : d.isDigit = false := by simpa using List.all_eq_true.mp hall d hd
    rw [hnone] at hdigit
    cases hdigit

/-- Only positions are written in digits alone. -/
theorem all_isDigit_text_iff {s : Selector} (h : s.Legible) :
    s.text.toList.all (·.isDigit) = true ↔ ∃ i, s = .index i := by
  cases s with
  | name text =>
    obtain ⟨⟨c, hhead, hstart⟩, -⟩ := isIdentifierChars_iff.mp h
    simp only [reduceCtorEq, exists_false, iff_false]
    intro hall
    have hmem : c ∈ (name text).text.toList := List.mem_of_mem_head? hhead
    have hdigit := isIdentStart_digit (List.all_eq_true.mp hall c hmem)
    rw [hstart] at hdigit
    cases hdigit
  | index i =>
    rw [toList_text_index, List.all_eq_true]
    exact ⟨fun _ => ⟨i, rfl⟩, fun _ c hc => Nat.isDigit_of_mem_toDigits (by omega) (by omega) hc⟩

/-- Legible selectors with one text are one selector. -/
theorem text_injective {s t : Selector} (hs : s.Legible) (ht : t.Legible)
    (h : s.text.toList = t.text.toList) : s = t := by
  have hdigits : (∃ i, s = .index i) ↔ ∃ i, t = .index i := by
    rw [← all_isDigit_text_iff hs, ← all_isDigit_text_iff ht, h]
  cases s with
  | name s =>
    cases t with
    | name t => exact congrArg name (String.toList_inj.mp h)
    | index j => simp at hdigits
  | index i =>
    cases t with
    | name t => simp at hdigits
    | index j =>
      rw [toList_text_index, toList_text_index] at h
      have hvalue := congrArg (Nat.ofDigitChars 10 · 0) h
      simp only [Nat.ofDigitChars_ten_toDigits] at hvalue
      exact congrArg index hvalue

end Selector

namespace Address

/-- Reading a selector of the grammar from its text. -/
theorem parseSelector_text {s : Selector} (h : s.Valid) : parseSelector s.text.toList = .ok s := by
  have hdigits := Selector.all_isDigit_text_iff h.legible
  cases s with
  | name text =>
    have hnot : ¬(Selector.name text).text.toList.all (·.isDigit) = true := by simp [hdigits]
    have hident : isIdentifierChars (Selector.name text).text.toList = true := h
    simp only [parseSelector, if_neg hnot, if_pos hident]
    rw [show (Selector.name text).text = text from rfl, String.ofList_toList]
  | index i =>
    have hall : (Selector.index i).text.toList.all (·.isDigit) = true := hdigits.mpr ⟨i, rfl⟩
    rw [Selector.toList_text_index] at hall ⊢
    have hvalue : decimalValue (Nat.toDigits 10 i) = i := Nat.ofDigitChars_ten_toDigits
    have hcanonical : ¬(decide ((Nat.toDigits 10 i).length > 1) &&
        (Nat.toDigits 10 i).head? == some '0') = true := by
      simp only [Bool.and_eq_true, decide_eq_true_eq, beq_iff_eq, not_and]
      intro hlength
      apply head_toDigits_ne_zero
      by_contra hzero
      have hi : i = 0 := by omega
      simp [hi] at hlength
    simp only [parseSelector, if_pos hall, if_neg hcanonical, hvalue]
    exact if_pos h

/-- What is read as a selector is the text of that selector. -/
theorem text_of_parseSelector {inner : List Char} {s : Selector} (hne : inner ≠ [])
    (h : parseSelector inner = .ok s) : s.Valid ∧ s.text.toList = inner := by
  by_cases hall : inner.all (·.isDigit) = true
  · simp only [parseSelector, if_pos hall] at h
    split at h
    · cases h
    · next hcanonical =>
      split at h
      · next hbound =>
        cases h
        simp only [Bool.and_eq_true, decide_eq_true_eq, beq_iff_eq, not_and] at hcanonical
        have hdigits := toDigits_decimalValue hne (List.all_eq_true.mp hall) hcanonical
        exact ⟨hbound, (Selector.toList_text_index _).trans hdigits⟩
      · cases h
  · simp only [parseSelector, if_neg hall] at h
    split at h
    · next hident =>
      cases h
      have htext : (Selector.name (String.ofList inner)).text.toList = inner := String.toList_ofList
      refine ⟨?_, htext⟩
      rw [Selector.Valid, isIdentifier, String.toList_ofList]
      exact hident
    · cases h

end Address

/-- The category with a written name is the one that is written so. -/
theorem Category.ofText?_eq_some_iff {s : String} {c : Category} :
    ofText? s = some c ↔ c.text = s := by
  constructor
  · intro h
    have hfound := List.find?_some h
    simpa using hfound
  · rintro rfl
    exact ofText?_text c

/-- No delimiter stands in the name of a category. -/
theorem Category.not_mem_text (c : Category) {d : Char} (hd : d ∈ delimiters) :
    d ∉ c.text.toList := by
  have hall : delimiters.all (!c.text.toList.contains ·) = true := by cases c <;> decide
  simpa using List.all_eq_true.mp hall d hd

/-- The name of a category is not empty. -/
theorem Category.text_ne_nil (c : Category) : c.text.toList ≠ [] := by
  cases c <;> decide

namespace Segment

/-- A step whose selector is legible. -/
def Legible (s : Segment) : Prop :=
  ∀ selector, s.selector = some selector → selector.Legible

/-- A step of the grammar: its selector is an identifier or a position below the bound. -/
def Valid (s : Segment) : Prop :=
  ∀ selector, s.selector = some selector → selector.Valid

/-- Steps of the grammar are legible. -/
theorem Valid.legible {s : Segment} (h : s.Valid) : s.Legible :=
  fun selector hs => (h selector hs).legible

/-- The brackets of a step with what stands in them. -/
def bracketed : Option Selector → List Char
  | none => []
  | some selector => '[' :: (selector.text.toList ++ [']'])

/-- A step is its category followed by its brackets. -/
theorem toList_text (s : Segment) :
    s.text.toList = s.category.text.toList ++ bracketed s.selector := by
  obtain ⟨category, selector⟩ := s
  cases selector with
  | none => simp [text, bracketed]
  | some selector => simp [text, bracketed, String.toList_append]

/-- The category is what stands before the bracket. -/
theorem takeWhile_text (s : Segment) :
    s.text.toList.takeWhile (· != '[') = s.category.text.toList := by
  have hname : ∀ c ∈ s.category.text.toList, (c != '[') = true := by
    intro c hc
    have hne : c ≠ '[' := fun h => s.category.not_mem_text (by decide) (h ▸ hc)
    simpa using hne
  rw [toList_text, List.takeWhile_append_of_pos hname]
  cases s.selector <;> simp [bracketed]

/-- The brackets are what the category leaves. -/
theorem dropWhile_text (s : Segment) :
    s.text.toList.dropWhile (· != '[') = bracketed s.selector := by
  have hsplit := List.takeWhile_append_dropWhile (p := (· != '[')) (l := s.text.toList)
  rw [takeWhile_text] at hsplit
  nth_rewrite 2 [toList_text] at hsplit
  exact List.append_cancel_left hsplit

/-- The text of a step is not empty. -/
theorem text_ne_nil (s : Segment) : s.text.toList ≠ [] := by
  rw [toList_text]
  exact List.append_ne_nil_of_left_ne_nil s.category.text_ne_nil _

/-- Neither dots nor slashes stand in the text of a step. -/
theorem not_mem_text {s : Segment} (h : s.Legible) {d : Char} (hd : d = '.' ∨ d = '/') :
    d ∉ s.text.toList := by
  have hdelimiter : d ∈ delimiters := by rcases hd with rfl | rfl <;> decide
  have hbracket : d ≠ '[' ∧ d ≠ ']' := by rcases hd with rfl | rfl <;> decide
  rw [toList_text, List.mem_append]
  rintro (hmem | hmem)
  · exact s.category.not_mem_text hdelimiter hmem
  · cases hs : s.selector with
    | none => simp [hs, bracketed] at hmem
    | some selector =>
      have hnot := Selector.not_mem_text (h selector hs) hdelimiter
      simp [hs, bracketed, hbracket, hnot] at hmem

/-- Legible steps with one text are one step. -/
theorem text_injective {s t : Segment} (hs : s.Legible) (ht : t.Legible)
    (h : s.text.toList = t.text.toList) : s = t := by
  have hname : s.category.text.toList = t.category.text.toList := by
    rw [← takeWhile_text, ← takeWhile_text, h]
  have hbrackets : bracketed s.selector = bracketed t.selector := by
    rw [← dropWhile_text, ← dropWhile_text, h]
  obtain ⟨category, selector⟩ := s
  obtain ⟨category', selector'⟩ := t
  have hcategory : category = category' := by
    have hfound := Category.ofText?_text category
    rw [String.toList_inj.mp hname, Category.ofText?_text] at hfound
    exact (Option.some.inj hfound).symm
  have hselector : selector = selector' := by
    cases selector with
    | none =>
      cases selector' with
      | none => rfl
      | some y => simp [bracketed] at hbrackets
    | some x =>
      cases selector' with
      | none => simp [bracketed] at hbrackets
      | some y =>
        have htext := List.append_cancel_right (List.cons.inj hbrackets).2
        exact congrArg some (Selector.text_injective (hs x rfl) (ht y rfl) htext)
  rw [hcategory, hselector]

end Segment

namespace Address

/-- Reading a category by its name. -/
theorem parseCategory_eq_ok_iff {name : List Char} {c : Category} :
    parseCategory name = .ok c ↔ c.text.toList = name := by
  have hiff : Category.ofText? (String.ofList name) = some c ↔ c.text.toList = name := by
    rw [Category.ofText?_eq_some_iff, ← String.toList_inj, String.toList_ofList]
  rw [← hiff, parseCategory]
  cases Category.ofText? (String.ofList name) <;> simp

/-- Reading a step of the grammar from its text. -/
theorem parseSegment_text {s : Segment} (h : s.Valid) : parseSegment s.text.toList = .ok s := by
  have hname : parseCategory s.category.text.toList = .ok s.category :=
    parseCategory_eq_ok_iff.mpr rfl
  unfold parseSegment
  simp only [Segment.takeWhile_text, Segment.dropWhile_text, hname]
  obtain ⟨category, selector⟩ := s
  cases selector with
  | none => rfl
  | some selector =>
    have hsuffix : Text.dropSuffix? [']'] (selector.text.toList ++ [']']) =
        some selector.text.toList :=
      List.isSuffixOf?_eq_some_iff_append_eq.mpr rfl
    have hselector := parseSelector_text (h selector rfl)
    have hinner : selector.text.toList.isEmpty = false :=
      List.isEmpty_eq_false_iff.mpr (Selector.text_ne_nil (h selector rfl).legible)
    have hcategory : category.text.toList.isEmpty = false :=
      List.isEmpty_eq_false_iff.mpr category.text_ne_nil
    simp only [Segment.bracketed, hsuffix, hinner, hcategory, hselector, Bool.false_eq_true,
      if_false]
    rfl

/-- What is read as a step is the text of that step. -/
theorem text_of_parseSegment {cs : List Char} {s : Segment} (h : parseSegment cs = .ok s) :
    s.Valid ∧ s.text.toList = cs := by
  have hsplit := List.takeWhile_append_dropWhile (p := (· != '[')) (l := cs)
  unfold parseSegment at h
  dsimp only at h
  split at h
  · next hdrop =>
    obtain ⟨category, hcategory, hs⟩ := bind_eq_ok_iff.mp h
    cases hs
    have hname := parseCategory_eq_ok_iff.mp hcategory
    rw [hdrop, List.append_nil] at hsplit
    have hvalid : Segment.Valid { category := category } := by
      intro selector hnone
      cases hnone
    exact ⟨hvalid, hname.trans hsplit⟩
  · next bracket rest hdrop =>
    have hbracket : bracket = '[' := by
      have hhead := List.head?_dropWhile_not (· != '[') cs
      simpa [hdrop] using hhead
    subst hbracket
    split at h
    · cases h
    · split at h
      · cases h
      · next inner hsuffix =>
        have hrest : inner ++ [']'] = rest := List.isSuffixOf?_eq_some_iff_append_eq.mp hsuffix
        split at h
        · cases h
        · next hinner =>
          have hne : inner ≠ [] := by simpa using hinner
          obtain ⟨selector, hselector, h⟩ := bind_eq_ok_iff.mp h
          obtain ⟨category, hcategory, hs⟩ := bind_eq_ok_iff.mp h
          cases hs
          have hname := parseCategory_eq_ok_iff.mp hcategory
          obtain ⟨hvalid, htext⟩ := text_of_parseSelector hne hselector
          refine ⟨fun x hx => Option.some.inj hx ▸ hvalid, ?_⟩
          rw [Segment.toList_text, hname, Segment.bracketed, htext, hrest, ← hdrop]
          exact hsplit

end Address

end GoAddress
