import Mathlib.Data.List.Basic
import Mathlib.Tactic.Tauto
import GoAddress.Proofs.Address.Segment

/-!
# The grammar of addresses

`WellFormed` says of an address, without reference to the reader, that it can be written: its
package is an import path, and either nothing follows and the path cannot be taken for the address
of a symbol, or identifiers and steps follow. Main statements: what is read is well formed and is
written as it was read, and every well-formed address is read back from its written form.
-/

namespace GoAddress.Address

/-- An import path: components of letters, digits and a few marks, with delimiters neither doubled
nor at an end. -/
structure ImportPath (cs : List Char) : Prop where
  /-- There is a first component. -/
  ne_nil : cs ≠ []
  /-- The path begins with a component. -/
  head_ne : cs.head? ≠ some '.' ∧ cs.head? ≠ some '/'
  /-- The path ends with a component. -/
  last_ne : cs.getLast? ≠ some '.' ∧ cs.getLast? ≠ some '/'
  /-- Delimiters stand alone. -/
  not_doubled : ¬['/', '/'] <:+: cs ∧ ¬['.', '.'] <:+: cs
  /-- Components hold only characters of import paths. -/
  chars : ∀ part ∈ Text.splitOn '/' cs, ∀ c ∈ part, isPackageChar c = true

/-- Components that read as an import path as a whole: behind the last one with a dot there are
others, and none of them is the name of a category. -/
def StaysPackage (parts : List (List Char)) : Prop :=
  ∀ before dotted after, parts = before ++ dotted :: after → '.' ∈ dotted →
    (∀ part ∈ after, '.' ∉ part) →
    after ≠ [] ∧ ∀ part ∈ after, ∀ c : Category, part ≠ c.text.toList

/-- An address of a package and nothing in it. -/
structure PackageOnly (a : Address) : Prop where
  /-- No symbol follows. -/
  symbol : a.symbol = none
  /-- No method follows. -/
  method : a.method = none
  /-- No step follows. -/
  subpath : a.subpath = []
  /-- The path is not taken for the address of a symbol. -/
  stays : StaysPackage (Text.splitOn '/' a.package.toList)

/-- An address of a symbol or of a part of one. -/
structure Symbolic (a : Address) : Prop where
  /-- The symbol is an identifier. -/
  symbol : ∃ name, a.symbol = some name ∧ isIdentifier name = true
  /-- The method is an identifier. -/
  method : ∀ name, a.method = some name → isIdentifier name = true
  /-- The last component of the package keeps its dots to itself, and has none without a method. -/
  last : ∀ part, (Text.splitOn '/' a.package.toList).getLast? = some part →
    part.head? ≠ some '.' ∧ part.getLast? ≠ some '.' ∧ (a.method = none → '.' ∉ part)
  /-- The steps belong to the grammar. -/
  steps : ∀ s ∈ a.subpath, s.Valid

/-- An address that the grammar admits. -/
structure WellFormed (a : Address) : Prop where
  /-- The package is an import path. -/
  package : ImportPath a.package.toList
  /-- What follows the package. -/
  shape : a.PackageOnly ∨ a.Symbolic

/-- A path is an import path if none of its components and dotted parts is empty and all its
components hold only characters of import paths. -/
theorem importPath_iff {cs : List Char} :
    ImportPath cs ↔ [] ∉ Text.splitOn '/' cs ∧ [] ∉ Text.splitOn '.' cs ∧
      ∀ part ∈ Text.splitOn '/' cs, ∀ c ∈ part, isPackageChar c = true := by
  rw [Text.nil_not_mem_splitOn_iff, Text.nil_not_mem_splitOn_iff]
  constructor
  · intro h
    exact ⟨⟨h.ne_nil, h.head_ne.2, h.last_ne.2, h.not_doubled.1⟩,
      ⟨h.ne_nil, h.head_ne.1, h.last_ne.1, h.not_doubled.2⟩, h.chars⟩
  · rintro ⟨⟨hne, hhead, hlast, hdoubled⟩, ⟨-, hhead', hlast', hdoubled'⟩, hchars⟩
    exact ⟨hne, ⟨hhead', hhead⟩, ⟨hlast', hlast⟩, ⟨hdoubled, hdoubled'⟩, hchars⟩

/-- The last component of an import path does not end with a dot. -/
theorem ImportPath.getLast?_component {before : List (List Char)} {part : List Char}
    (h : ImportPath (Text.joinWith '/' (before ++ [part]))) (hne : part ≠ []) :
    part.getLast? ≠ some '.' := by
  have hjoin := Text.joinWith_concat_append '/' before [] part
  rw [List.nil_append] at hjoin
  have hend := h.last_ne.1
  rwa [hjoin, List.getLast?_append_of_ne_nil _ hne] at hend

/-- Brackets are no characters of import paths. -/
theorem isPackageChar_bracket {c : Char} (h : isPackageChar c = true) : c ≠ '[' ∧ c ≠ ']' := by
  constructor <;> rintro rfl <;> revert h <;> decide +kernel

/-- Slashes are no characters of import path components. -/
theorem slash_not_mem {part : List Char} (h : ∀ c ∈ part, isPackageChar c = true) :
    '/' ∉ part := by
  intro hmem
  have hslash : isPackageChar '/' = false := by decide +kernel
  rw [h '/' hmem] at hslash
  cases hslash

/-- What continues an identifier may stand in an import path. -/
theorem isPackageChar_of_isIdentContinue {c : Char} (h : isIdentContinue c = true) :
    isPackageChar c = true := by
  simp only [isIdentContinue, isPackageChar, Bool.or_eq_true] at h ⊢
  tauto

/-- A component passes if it is not empty and holds only characters of import paths. -/
theorem checkPackageComponent_eq_ok_iff {part : List Char} :
    checkPackageComponent part = .ok () ↔ part ≠ [] ∧ ∀ c ∈ part, isPackageChar c = true := by
  have hvalid : (!part.isEmpty && part.all isPackageChar) = true ↔
      part ≠ [] ∧ ∀ c ∈ part, isPackageChar c = true := by
    simp [List.all_eq_true]
  rw [← hvalid, checkPackageComponent]
  by_cases hpart : (!part.isEmpty && part.all isPackageChar) = true
  · have hno : ¬(part.contains '[' || part.contains ']') = true := by
      obtain ⟨-, hchars⟩ := hvalid.mp hpart
      simp only [Bool.or_eq_true, List.contains_iff_mem, not_or]
      exact ⟨fun h => (isPackageChar_bracket (hchars _ h)).1 rfl,
        fun h => (isPackageChar_bracket (hchars _ h)).2 rfl⟩
    rw [if_neg hno, if_pos hpart]
    exact ⟨fun _ => hpart, fun _ => rfl⟩
  · rw [if_neg hpart]
    constructor
    · intro h
      split at h <;> cases h
    · intro h
      exact absurd h hpart

/-- The components of an import path are checked one by one. -/
theorem checkPackage_eq_ok_iff {parts : List (List Char)} :
    checkPackage parts = .ok () ↔
      ∀ part ∈ parts, part ≠ [] ∧ ∀ c ∈ part, isPackageChar c = true := by
  induction parts with
  | nil => exact ⟨fun _ part hpart => (List.not_mem_nil hpart).elim, fun _ => rfl⟩
  | cons part parts ih =>
    have hcons : checkPackage (part :: parts) =
        (checkPackageComponent part >>= fun _ => checkPackage parts) := rfl
    rw [hcons, bind_eq_ok_iff, List.forall_mem_cons, ← ih, ← checkPackageComponent_eq_ok_iff]
    exact ⟨fun ⟨_, h, h'⟩ => ⟨h, h'⟩, fun ⟨h, h'⟩ => ⟨(), h, h'⟩⟩

/-- A check in front of a reading passes if its condition does not hold. -/
theorem guard_eq_ok_iff {ε β : Type} {c : Prop} [Decidable c] {e : ε} {k : Unit → Except ε β}
    {b : β} : (if c then (throw e >>= k) else k ()) = .ok b ↔ ¬c ∧ k () = .ok b := by
  by_cases hc : c
  · rw [if_pos hc]
    constructor
    · intro h
      cases h
    · intro h
      exact absurd hc h.1
  · rw [if_neg hc]
    exact ⟨fun h => ⟨hc, h⟩, fun h => h.2⟩

/-- A check at the end passes if its condition does not hold. -/
theorem last_guard_eq_ok_iff {ε : Type} {c : Prop} [Decidable c] {e : ε} :
    (if c then throw e else pure () : Except ε Unit) = .ok () ↔ ¬c := by
  by_cases hc : c
  · rw [if_pos hc]
    constructor
    · intro h
      cases h
    · intro h
      exact absurd hc h
  · rw [if_neg hc]
    exact ⟨fun _ => hc, fun _ => rfl⟩

/-- The checks of delimiters pass if brackets match and no component or dotted part is empty. -/
theorem checkDelimiters_eq_ok_iff {cs : List Char} :
    checkDelimiters cs = .ok () ↔
      checkBrackets false cs = .ok () ∧ [] ∉ Text.splitOn '/' cs ∧ [] ∉ Text.splitOn '.' cs := by
  have hlast : ∀ d, endsWithChar d cs = true ↔ cs.getLast? = some d := fun d => by
    simp [endsWithChar]
  unfold checkDelimiters
  simp only [guard_eq_ok_iff, bind_eq_ok_iff, last_guard_eq_ok_iff, hlast, Text.hasPart_iff, List.isEmpty_iff,
    beq_iff_eq, Bool.or_eq_true, Text.nil_not_mem_splitOn_iff]
  constructor
  · rintro ⟨hne, hdot, _, hbrackets, hslashes, hdots, hends, hend⟩
    tauto
  · rintro ⟨hbrackets, ⟨hne, hslash, hlastSlash, hslashes⟩, -, hdot, hlastDot, hdots⟩
    exact ⟨hne, hdot, (), hbrackets, hslashes, hdots, by tauto, hlastDot⟩

/-- Texts without brackets do not change whether brackets match. -/
theorem checkBrackets_append {isOpen : Bool} {xs : List Char}
    (h : ∀ c ∈ xs, c ≠ '[' ∧ c ≠ ']') (ys : List Char) :
    checkBrackets isOpen (xs ++ ys) = checkBrackets isOpen ys := by
  induction xs with
  | nil => rfl
  | cons c xs ih =>
    have hc := h c List.mem_cons_self
    rw [List.cons_append, checkBrackets, if_neg hc.1, if_neg hc.2]
    exact ih fun d hd => h d (List.mem_cons_of_mem c hd)

/-- The brackets of a step match. -/
theorem checkBrackets_text_append {s : Segment} (h : s.Legible) (ys : List Char) :
    checkBrackets false (s.text.toList ++ ys) = checkBrackets false ys := by
  have hname : ∀ c ∈ s.category.text.toList, c ≠ '[' ∧ c ≠ ']' := fun c hc =>
    ⟨fun h => s.category.not_mem_text (by decide) (h ▸ hc),
      fun h => s.category.not_mem_text (by decide) (h ▸ hc)⟩
  rw [Segment.toList_text, List.append_assoc, checkBrackets_append hname]
  cases hs : s.selector with
  | none => rfl
  | some selector =>
    have hinner : ∀ c ∈ selector.text.toList, c ≠ '[' ∧ c ≠ ']' := fun c hc =>
      ⟨fun h' => Selector.not_mem_text (h selector hs) (by decide) (h' ▸ hc),
        fun h' => Selector.not_mem_text (h selector hs) (by decide) (h' ▸ hc)⟩
    rw [Segment.bracketed, List.cons_append, List.append_assoc, checkBrackets, if_pos rfl,
      if_neg Bool.false_ne_true, checkBrackets_append hinner, List.singleton_append, checkBrackets,
      if_neg (by decide), if_pos rfl, if_pos rfl]

/-- The brackets of a row of steps match. -/
theorem checkBrackets_steps {steps : List Segment} (h : ∀ s ∈ steps, s.Legible) :
    checkBrackets false (steps.flatMap ('/' :: ·.text.toList)) = .ok () := by
  induction steps with
  | nil => rfl
  | cons s steps ih =>
    have hs := h s List.mem_cons_self
    rw [List.flatMap_cons, List.cons_append, checkBrackets, if_neg (by decide),
      if_neg (by decide), checkBrackets_text_append hs]
    exact ih fun t ht => h t (List.mem_cons_of_mem s ht)

/-- Components are read as steps if they are the texts of steps. -/
theorem mapM_parseSegment_eq_ok_iff {parts : List (List Char)} {steps : List Segment} :
    parts.mapM parseSegment = .ok steps ↔
      (∀ s ∈ steps, s.Valid) ∧ parts = steps.map (·.text.toList) := by
  induction parts generalizing steps with
  | nil =>
    constructor
    · intro h
      cases h
      simp
    · rintro ⟨-, h⟩
      rw [List.map_eq_nil_iff.mp h.symm]
      rfl
  | cons part parts ih =>
    rw [List.mapM_cons, bind_eq_ok_iff]
    constructor
    · rintro ⟨s, hs, h⟩
      obtain ⟨rest, hrest, h⟩ := bind_eq_ok_iff.mp h
      cases h
      obtain ⟨hvalid, htext⟩ := text_of_parseSegment hs
      obtain ⟨hall, htexts⟩ := ih.mp hrest
      exact ⟨List.forall_mem_cons.mpr ⟨hvalid, hall⟩, by rw [List.map_cons, htext, ← htexts]⟩
    · rintro ⟨hall, htexts⟩
      obtain ⟨s, rest, rfl⟩ : ∃ s rest, steps = s :: rest := by
        cases steps with
        | nil => cases htexts
        | cons s rest => exact ⟨s, rest, rfl⟩
      obtain ⟨rfl, rfl⟩ := List.cons.inj htexts
      obtain ⟨hs, hrest⟩ := List.forall_mem_cons.mp hall
      refine ⟨s, parseSegment_text hs, bind_eq_ok_iff.mpr ⟨rest, ?_, rfl⟩⟩
      exact ih.mpr ⟨hrest, rfl⟩

/-- The dot and the name of a symbol or method. -/
def dotted : Option (List Char) → List Char
  | none => []
  | some name => '.' :: name

/-- The parts of a component with a dot make it up again; only the rest of the package may hold
further dots, and only in front of a method. -/
theorem eq_of_symbolParts {component tail symbol : List Char} {method : Option (List Char)}
    (hdot : '.' ∈ component) (h : symbolParts component = (tail, symbol, method)) :
    component = tail ++ '.' :: symbol ++ dotted method ∧ (method = none → '.' ∉ tail) := by
  have hjoin := Text.joinWith_splitOn '.' component
  have hfree := fun part => @Text.not_mem_of_mem_splitOn '.' component part
  unfold symbolParts at h
  split at h
  · next m _ part parts hparts =>
    cases h
    have hsplit : Text.splitOn '.' component = (part :: parts).reverse ++ [symbol, m] := by
      rw [← List.reverse_reverse (Text.splitOn '.' component), hparts]
      simp
    have hne : (part :: parts).reverse ≠ [] := by simp
    rw [hsplit, Text.joinWith_append '.' hne] at hjoin
    refine ⟨?_, fun hnone => by cases hnone⟩
    rw [← hjoin]
    simp [dotted]
  · next hparts =>
    cases h
    have hsplit : Text.splitOn '.' component = [tail, symbol] := by
      rw [← List.reverse_reverse (Text.splitOn '.' component), hparts]
      rfl
    rw [hsplit] at hjoin hfree
    refine ⟨?_, fun _ => hfree tail List.mem_cons_self⟩
    rw [← hjoin]
    simp [Text.joinWith, dotted]
  · next hlong hshort =>
    -- A split of fewer than two parts leaves no dot.
    obtain ⟨part, parts, hparts⟩ := List.exists_cons_of_ne_nil (Text.splitOn_ne_nil '.' component)
    cases hrev : (Text.splitOn '.' component).reverse with
    | nil => simp [hparts] at hrev
    | cons x xs =>
      cases xs with
      | nil =>
        have hsplit : Text.splitOn '.' component = [x] := by
          rw [← List.reverse_reverse (Text.splitOn '.' component), hrev]
          rfl
        rw [hsplit] at hjoin hfree
        have hx : x = component := hjoin
        exact absurd hdot (hx ▸ hfree x List.mem_cons_self)
      | cons y ys =>
        cases ys with
        | nil => exact absurd hrev (hshort x y)
        | cons z zs => exact absurd hrev (hlong x y z zs)

/-- The parts of a component that is put together from them. -/
theorem symbolParts_append {tail symbol : List Char} {method : Option (List Char)}
    (hsymbol : '.' ∉ symbol) (hmethod : ∀ m, method = some m → '.' ∉ m)
    (htail : method = none → '.' ∉ tail) :
    symbolParts (tail ++ '.' :: symbol ++ dotted method) = (tail, symbol, method) := by
  cases method with
  | none =>
    have hsplit : Text.splitOn '.' (tail ++ '.' :: symbol ++ dotted none) = [tail, symbol] := by
      rw [dotted, List.append_nil, Text.splitOn_append, Text.splitOn_of_not_mem (htail rfl),
        Text.splitOn_of_not_mem hsymbol]
      rfl
    simp only [symbolParts, hsplit]
    rfl
  | some m =>
    have hsplit : Text.splitOn '.' (tail ++ '.' :: symbol ++ dotted (some m)) =
        Text.splitOn '.' tail ++ [symbol, m] := by
      rw [dotted, Text.splitOn_append, Text.splitOn_append, Text.splitOn_of_not_mem hsymbol,
        Text.splitOn_of_not_mem (hmethod m rfl), List.append_assoc]
      rfl
    obtain ⟨part, parts, hparts⟩ : ∃ part parts, (Text.splitOn '.' tail).reverse = part :: parts := by
      apply List.exists_cons_of_ne_nil
      simpa using Text.splitOn_ne_nil '.' tail
    have htail : (part :: parts).reverse = Text.splitOn '.' tail := by
      rw [← hparts, List.reverse_reverse]
    simp only [symbolParts, hsplit, List.reverse_append, hparts]
    simp only [List.reverse_cons, List.reverse_nil, List.nil_append, List.cons_append]
    rw [← List.reverse_cons, htail, Text.joinWith_splitOn]

/-- Identifiers pass their check. -/
theorem checkIdentifier_eq_ok_iff {name : List Char} :
    checkIdentifier name = .ok () ↔ isIdentifierChars name = true := by
  unfold checkIdentifier
  split
  · next h => exact ⟨fun _ => h, fun _ => rfl⟩
  · next h =>
    constructor
    · intro h'
      cases h'
    · intro h'
      exact absurd h' h

/-- What it takes to read an address with a symbol. -/
theorem parseSymbol_eq_ok_iff {before after : List (List Char)} {component tail symbol : List Char}
    {method : Option (List Char)} {a : Address}
    (hparts : symbolParts component = (tail, symbol, method)) :
    parseSymbol before component after = .ok a ↔
      '[' ∉ component ∧ component.head? ≠ some '.' ∧ component.getLast? ≠ some '.' ∧
      isIdentifierChars symbol = true ∧ (∀ m, method = some m → isIdentifierChars m = true) ∧
      (∀ part ∈ before ++ [tail], part ≠ [] ∧ ∀ c ∈ part, isPackageChar c = true) ∧
      ∃ steps : List Segment, (∀ s ∈ steps, s.Valid) ∧ after = steps.map (·.text.toList) ∧
        a = { package := String.ofList (Text.joinWith '/' (before ++ [tail]))
              symbol := some (String.ofList symbol)
              method := method.map String.ofList
              subpath := steps } := by
  have hmethod : method.forM checkIdentifier = .ok () ↔
      ∀ m, method = some m → isIdentifierChars m = true := by
    cases method with
    | none => exact ⟨fun _ m hm => (nomatch hm), fun _ => rfl⟩
    | some m =>
      have hrun : (some m).forM checkIdentifier = checkIdentifier m := rfl
      rw [hrun, checkIdentifier_eq_ok_iff]
      exact ⟨fun h n hn => Option.some.inj hn ▸ h, fun h => h m rfl⟩
  unfold parseSymbol
  simp only [guard_eq_ok_iff, hparts, bind_eq_ok_iff, endsWithChar, beq_iff_eq,
    List.contains_iff_mem]
  constructor
  · rintro ⟨hbracket, hhead, hlast, _, hs, _, hm, _, hp, steps, hsteps, ha⟩
    cases ha
    obtain ⟨hvalid, hafter⟩ := mapM_parseSegment_eq_ok_iff.mp hsteps
    exact ⟨hbracket, hhead, hlast, checkIdentifier_eq_ok_iff.mp hs, hmethod.mp hm, checkPackage_eq_ok_iff.mp hp,
      steps, hvalid, hafter, rfl⟩
  · rintro ⟨hbracket, hhead, hlast, hs, hm, hp, steps, hvalid, hafter, rfl⟩
    exact ⟨hbracket, hhead, hlast, (), checkIdentifier_eq_ok_iff.mpr hs, (), hmethod.mpr hm, (),
      checkPackage_eq_ok_iff.mpr hp, steps, mapM_parseSegment_eq_ok_iff.mpr ⟨hvalid, hafter⟩, rfl⟩

/-- The characters of a written address. -/
theorem toList_render (a : Address) :
    a.render.toList = a.package.toList ++ dotted (a.symbol.map String.toList) ++
      dotted (a.method.map String.toList) ++ a.subpath.flatMap ('/' :: ·.text.toList) := by
  obtain ⟨package, symbol, method, subpath⟩ := a
  have hsteps : (String.join (subpath.map ("/" ++ ·.text))).toList =
      subpath.flatMap ('/' :: ·.text.toList) := by
    simp [String.toList_join, List.flatMap_map, String.toList_append]
  have hdotted : ∀ name : Option String, ((name.map ("." ++ ·)).getD "").toList =
      dotted (name.map String.toList) := by
    intro name
    cases name with
    | none => rfl
    | some name => exact String.toList_append
  simp only [render, String.toList_append, hsteps, hdotted]

/-- Staying a package is a matter of the cut at the last component with a dot. -/
theorem staysPackage_iff {parts : List (List Char)} :
    StaysPackage parts ↔ ∀ before component after,
      Text.cutAtLast? (·.contains '.') parts = some (before, component, after) →
      after ≠ [] ∧ ∀ part ∈ after, ∀ c : Category, part ≠ c.text.toList := by
  simp only [Text.cutAtLast?_eq_some_iff, List.contains_iff_mem]
  constructor
  · rintro h before component after ⟨hparts, hdot, hafter⟩
    exact h before component after hparts hdot fun part hpart => by simpa using hafter part hpart
  · intro h before component after hparts hdot hafter
    exact h before component after ⟨hparts, hdot, fun part hpart => by simpa using hafter part hpart⟩

/-- Components that read as steps have a bracket or are names of categories. -/
theorem looksLikeSegment_iff {part : List Char} :
    looksLikeSegment part = true ↔ '[' ∈ part ∨ ∃ c : Category, part = c.text.toList := by
  have hname : (Category.ofText? (String.ofList part)).isSome = true ↔
      ∃ c : Category, part = c.text.toList := by
    simp only [Option.isSome_iff_exists, Category.ofText?_eq_some_iff]
    constructor
    · rintro ⟨c, hc⟩
      exact ⟨c, by rw [hc, String.toList_ofList]⟩
    · rintro ⟨c, hc⟩
      exact ⟨c, by rw [hc, String.ofList_toList]⟩
  rw [looksLikeSegment, Bool.or_eq_true, List.contains_iff_mem, hname]

/-- The text of a step reads as a step. -/
theorem looksLikeSegment_text (s : Segment) : looksLikeSegment s.text.toList = true := by
  rw [looksLikeSegment_iff, Segment.toList_text]
  cases hs : s.selector with
  | none => exact Or.inr ⟨s.category, List.append_nil _⟩
  | some selector => exact Or.inl (by simp [Segment.bracketed])

/-- An import path that is read as a whole is well formed and written as it was read. -/
theorem wellFormed_of_parsePackage {cs : List Char} {a : Address}
    (hslash : [] ∉ Text.splitOn '/' cs) (hdot : [] ∉ Text.splitOn '.' cs)
    (hstays : StaysPackage (Text.splitOn '/' cs))
    (h : parsePackage cs (Text.splitOn '/' cs) = .ok a) :
    a.WellFormed ∧ a.render.toList = cs := by
  obtain ⟨_, hcheck, ha⟩ := bind_eq_ok_iff.mp h
  cases ha
  have hchars := checkPackage_eq_ok_iff.mp hcheck
  have hpath : ImportPath cs :=
    importPath_iff.mpr ⟨hslash, hdot, fun part hpart => (hchars part hpart).2⟩
  have htext : (String.ofList cs).toList = cs := String.toList_ofList
  constructor
  · exact ⟨by rwa [htext], Or.inl ⟨rfl, rfl, rfl, by rwa [htext]⟩⟩
  · simp [toList_render, dotted, htext]

/-- The text of an address with a symbol, put together from its components. -/
theorem joinWith_symbol (before : List (List Char)) (tail symbol : List Char)
    (method : Option (List Char)) (after : List (List Char)) :
    Text.joinWith '/' (before ++ (tail ++ '.' :: symbol ++ dotted method) :: after) =
      Text.joinWith '/' (before ++ [tail]) ++ '.' :: symbol ++ dotted method ++
        after.flatMap ('/' :: ·) := by
  have hne : before ++ [tail ++ '.' :: symbol ++ dotted method] ≠ [] := by simp
  have hcons : before ++ (tail ++ '.' :: symbol ++ dotted method) :: after =
      (before ++ [tail ++ '.' :: symbol ++ dotted method]) ++ after := by simp
  rw [hcons, Text.joinWith_append '/' hne, List.append_assoc tail, Text.joinWith_concat_append]
  simp

/-- An address with a symbol that is read is well formed and written as it was read. -/
theorem wellFormed_of_parseSymbol {cs : List Char} {before after : List (List Char)}
    {component : List Char} {a : Address}
    (hparts : Text.splitOn '/' cs = before ++ component :: after) (hcomponent : '.' ∈ component)
    (hdots : [] ∉ Text.splitOn '.' cs) (h : parseSymbol before component after = .ok a) :
    a.WellFormed ∧ a.render.toList = cs := by
  obtain ⟨tail, symbol, method, hsymbol⟩ : ∃ tail symbol method,
      symbolParts component = (tail, symbol, method) := ⟨_, _, _, rfl⟩
  obtain ⟨heq, htail⟩ := eq_of_symbolParts hcomponent hsymbol
  obtain ⟨-, hhead, -, hident, hmethod, hpackage, steps, hsteps, rfl, rfl⟩ :=
    (parseSymbol_eq_ok_iff hsymbol).mp h
  -- The text is the package followed by the symbol's dot.
  have htext : cs = Text.joinWith '/' (before ++ [tail]) ++ '.' :: symbol ++ dotted method ++
      (steps.map (·.text.toList)).flatMap ('/' :: ·) := by
    rw [← joinWith_symbol, ← heq, ← hparts, Text.joinWith_splitOn]
  have hslash : ∀ part ∈ before ++ [tail], '/' ∉ part := by
    have hfree := fun part => @Text.not_mem_of_mem_splitOn '/' cs part
    rw [hparts] at hfree
    intro part hpart
    rcases List.mem_append.mp hpart with hpart | hpart
    · exact hfree part (List.mem_append_left _ hpart)
    · have hmem : '/' ∉ component := hfree component (by simp)
      rw [List.mem_singleton.mp hpart]
      rw [heq] at hmem
      exact fun hslash => hmem (by simp [hslash])
  have hsplit : Text.splitOn '/' (Text.joinWith '/' (before ++ [tail])) = before ++ [tail] :=
    Text.splitOn_joinWith (by simp) hslash
  have hpath : ImportPath (Text.joinWith '/' (before ++ [tail])) := by
    rw [importPath_iff, hsplit]
    refine ⟨fun hnil => (hpackage [] hnil).1 rfl, ?_, fun part hpart => (hpackage part hpart).2⟩
    intro hnil
    rw [htext, List.append_assoc, List.append_assoc, List.cons_append, Text.splitOn_append] at hdots
    exact hdots (List.mem_append_left _ hnil)
  have hne : tail ≠ [] := (hpackage tail (by simp)).1
  have hlast : tail.head? ≠ some '.' := by
    rw [heq, List.append_assoc, List.head?_append_of_ne_nil _ hne] at hhead
    exact hhead
  have hpackageText : (String.ofList (Text.joinWith '/' (before ++ [tail]))).toList =
      Text.joinWith '/' (before ++ [tail]) := String.toList_ofList
  have hmethodText : (method.map String.ofList).map String.toList = method := by
    cases method <;> simp
  constructor
  · refine ⟨by rwa [hpackageText], Or.inr ⟨⟨_, rfl, ?_⟩, ?_, ?_, hsteps⟩⟩
    · rwa [isIdentifier, String.toList_ofList]
    · intro name hname
      obtain ⟨m, hm, rfl⟩ := Option.map_eq_some_iff.mp hname
      rw [isIdentifier, String.toList_ofList]
      exact hmethod m hm
    · intro part hpart
      rw [hpackageText, hsplit, List.getLast?_concat] at hpart
      cases hpart
      exact ⟨hlast, hpath.getLast?_component hne,
        fun hnone => htail (Option.map_eq_none_iff.mp hnone)⟩
  · rw [toList_render, hpackageText, hmethodText, htext, List.flatMap_map]
    simp [dotted]

/-- What is read from characters is well formed and is written as it was read. -/
theorem wellFormed_of_parseChars {cs : List Char} {a : Address} (h : parseChars cs = .ok a) :
    a.WellFormed ∧ a.render.toList = cs := by
  unfold parseChars at h
  obtain ⟨_, hcheck, h⟩ := bind_eq_ok_iff.mp h
  obtain ⟨-, hslash, hdot⟩ := checkDelimiters_eq_ok_iff.mp hcheck
  dsimp only at h
  split at h
  · next hnone =>
    refine wellFormed_of_parsePackage hslash hdot (staysPackage_iff.mpr ?_) h
    intro before component after hcut
    rw [hnone] at hcut
    cases hcut
  · next before component after hcut =>
    split at h
    · next hrest =>
      refine wellFormed_of_parsePackage hslash hdot (staysPackage_iff.mpr ?_) h
      intro before' component' after' hcut'
      rw [hcut] at hcut'
      cases hcut'
      simp only [Bool.and_eq_true, Bool.not_eq_true', List.isEmpty_eq_false_iff,
        List.any_eq_false] at hrest
      refine ⟨hrest.1, fun part hpart c hc => hrest.2 part hpart ?_⟩
      exact looksLikeSegment_iff.mpr (Or.inr ⟨c, hc⟩)
    · obtain ⟨hparts, hcomponent, -⟩ := Text.cutAtLast?_eq_some_iff.mp hcut
      exact wellFormed_of_parseSymbol hparts (List.contains_iff_mem.mp hcomponent) hdot h

/-- No bracket stands in an import path. -/
theorem ImportPath.not_bracket {cs : List Char} (h : ImportPath cs) :
    ∀ c ∈ cs, c ≠ '[' ∧ c ≠ ']' := by
  intro c hc
  rw [← Text.joinWith_splitOn '/' cs] at hc
  rcases Text.mem_of_mem_joinWith hc with rfl | ⟨part, hpart, hc⟩
  · decide
  · exact isPackageChar_bracket (h.chars part hpart c hc)

/-- A well-formed address of a package is read back. -/
theorem parseChars_render_of_packageOnly {a : Address} (hpath : ImportPath a.package.toList)
    (h : a.PackageOnly) : parseChars a.render.toList = .ok a := by
  obtain ⟨package, symbol, method, subpath⟩ := a
  obtain ⟨rfl, rfl, rfl, hstays⟩ := h
  have htext : (Address.render { package := package }).toList = package.toList := by
    simp [toList_render, dotted]
  obtain ⟨hslash, hdot, hchars⟩ := importPath_iff.mp hpath
  have hbrackets : checkBrackets false package.toList = .ok () := by
    have happend : checkBrackets false (package.toList ++ []) = checkBrackets false [] :=
      checkBrackets_append hpath.not_bracket []
    rw [List.append_nil] at happend
    exact happend
  have hdelimiters := checkDelimiters_eq_ok_iff.mpr ⟨hbrackets, hslash, hdot⟩
  have hread : parsePackage package.toList (Text.splitOn '/' package.toList) =
      .ok { package := package } := by
    have hcheck : checkPackage (Text.splitOn '/' package.toList) = .ok () :=
      checkPackage_eq_ok_iff.mpr fun part hpart =>
        ⟨fun hnil => hslash (hnil ▸ hpart), hchars part hpart⟩
    refine bind_eq_ok_iff.mpr ⟨(), hcheck, ?_⟩
    rw [String.ofList_toList]
    rfl
  rw [htext]
  unfold parseChars
  refine bind_eq_ok_iff.mpr ⟨(), hdelimiters, ?_⟩
  dsimp only
  split
  · exact hread
  · next before component after hcut =>
    obtain ⟨hne, hnames⟩ := staysPackage_iff.mp hstays before component after hcut
    obtain ⟨hparts, -, -⟩ := Text.cutAtLast?_eq_some_iff.mp hcut
    have hnone : after.any looksLikeSegment = false := by
      rw [List.any_eq_false]
      intro part hpart hlooks
      rcases looksLikeSegment_iff.mp hlooks with hbracket | ⟨c, hc⟩
      · have hmem : part ∈ Text.splitOn '/' package.toList := by simp [hparts, hpart]
        exact (isPackageChar_bracket (hchars part hmem _ hbracket)).1 rfl
      · exact hnames part hpart c hc
    rw [if_pos (by simp [hne, hnone])]
    exact hread

/-- Behind an import path, a symbol, a method and steps leave no dotted part empty. -/
theorem nil_not_mem_splitOn_dot {package name rest : List Char} {method : Option (List Char)}
    (hpackage : [] ∉ Text.splitOn '.' package) (hname : isIdentifierChars name = true)
    (hmethod : ∀ m, method = some m → isIdentifierChars m = true) (hrest : '.' ∉ rest) :
    [] ∉ Text.splitOn '.' (package ++ '.' :: name ++ dotted method ++ rest) := by
  have hnameDot : '.' ∉ name := not_mem_of_isIdentifierChars hname (by decide)
  cases method with
  | none =>
    have hlast : '.' ∉ name ++ rest := by simp [hnameDot, hrest]
    rw [dotted, List.append_nil, List.append_assoc, List.cons_append, Text.splitOn_append,
      Text.splitOn_of_not_mem hlast]
    simp [hpackage, ne_nil_of_isIdentifierChars hname]
  | some m =>
    have hm := hmethod m rfl
    have hlast : '.' ∉ m ++ rest := by
      simp [hrest, not_mem_of_isIdentifierChars hm (show '.' ∈ delimiters by decide)]
    rw [dotted, List.append_assoc, List.cons_append, Text.splitOn_append, Text.splitOn_append,
      Text.splitOn_of_not_mem hnameDot, Text.splitOn_of_not_mem hlast]
    simp [hpackage, (ne_nil_of_isIdentifierChars hname).symm, ne_nil_of_isIdentifierChars hm]

/-- Behind an import path, a symbol, a method and steps leave no bracket open. -/
theorem checkBrackets_symbolic {package name : List Char} {method : Option (List Char)}
    {steps : List Segment} (hpackage : ImportPath package) (hname : isIdentifierChars name = true)
    (hmethod : ∀ m, method = some m → isIdentifierChars m = true)
    (hsteps : ∀ s ∈ steps, s.Legible) :
    checkBrackets false (package ++ '.' :: name ++ dotted method ++
      steps.flatMap ('/' :: ·.text.toList)) = .ok () := by
  have hident : ∀ m, isIdentifierChars m = true → ∀ c ∈ '.' :: m, c ≠ '[' ∧ c ≠ ']' := by
    intro m hm c hc
    rcases List.mem_cons.mp hc with rfl | hc
    · decide
    · exact ⟨fun h => not_mem_of_isIdentifierChars hm (by decide) (h ▸ hc),
        fun h => not_mem_of_isIdentifierChars hm (by decide) (h ▸ hc)⟩
  have hdotted : ∀ c ∈ dotted method, c ≠ '[' ∧ c ≠ ']' := by
    cases method with
    | none => exact fun c hc => (List.not_mem_nil hc).elim
    | some m => exact hident m (hmethod m rfl)
  rw [List.append_assoc, List.append_assoc, checkBrackets_append hpackage.not_bracket,
    checkBrackets_append (hident name hname), checkBrackets_append hdotted]
  exact checkBrackets_steps hsteps

/-- The component of a symbol takes its characters from an import path, apart from the dots. -/
theorem isPackageChar_symbolic {tail name : List Char} {method : Option (List Char)}
    (htail : ∀ c ∈ tail, isPackageChar c = true) (hname : isIdentifierChars name = true)
    (hmethod : ∀ m, method = some m → isIdentifierChars m = true) :
    ∀ c ∈ tail ++ '.' :: name ++ dotted method, isPackageChar c = true := by
  have hident : ∀ m, isIdentifierChars m = true → ∀ c ∈ m, isPackageChar c = true :=
    fun m hm c hc => isPackageChar_of_isIdentContinue ((isIdentifierChars_iff.mp hm).2 c hc)
  have hdot : isPackageChar '.' = true := by decide +kernel
  intro c hc
  simp only [List.mem_append, List.mem_cons] at hc
  rcases hc with (hc | rfl | hc) | hc
  · exact htail c hc
  · exact hdot
  · exact hident name hname c hc
  · cases method with
    | none => exact (List.not_mem_nil hc).elim
    | some m =>
      rcases List.mem_cons.mp hc with rfl | hc
      · exact hdot
      · exact hident m (hmethod m rfl) c hc

/-- The component of a symbol does not end with a dot. -/
theorem getLast?_symbolic (tail : List Char) {name : List Char} {method : Option (List Char)}
    (hname : isIdentifierChars name = true)
    (hmethod : ∀ m, method = some m → isIdentifierChars m = true) :
    (tail ++ '.' :: name ++ dotted method).getLast? ≠ some '.' := by
  have hident : ∀ (start m : List Char), isIdentifierChars m = true →
      (start ++ '.' :: m).getLast? ≠ some '.' := by
    intro start m hm hlast
    have hne := ne_nil_of_isIdentifierChars hm
    rw [List.getLast?_append_of_ne_nil _ (List.cons_ne_nil _ _), ← List.singleton_append,
      List.getLast?_append_of_ne_nil _ hne] at hlast
    exact not_mem_of_isIdentifierChars hm (by decide) (List.mem_of_getLast? hlast)
  cases method with
  | none =>
    rw [dotted, List.append_nil]
    exact hident tail name hname
  | some m => exact hident _ m (hmethod m rfl)

/-- Splitting the text of an address with a symbol gives its components. -/
theorem splitOn_symbolic {before : List (List Char)} {tail name : List Char}
    {method : Option (List Char)} {steps : List Segment}
    (hpackage : ∀ part ∈ before ++ [tail], ∀ c ∈ part, isPackageChar c = true)
    (hname : isIdentifierChars name = true)
    (hmethod : ∀ m, method = some m → isIdentifierChars m = true)
    (hsteps : ∀ s ∈ steps, s.Legible) :
    Text.splitOn '/' (Text.joinWith '/' (before ++ [tail]) ++ '.' :: name ++ dotted method ++
      steps.flatMap ('/' :: ·.text.toList)) =
        before ++ (tail ++ '.' :: name ++ dotted method) :: steps.map (·.text.toList) := by
  have hwhole := joinWith_symbol before tail name method (steps.map (·.text.toList))
  rw [List.flatMap_map] at hwhole
  rw [← hwhole]
  apply Text.splitOn_joinWith
  · simp
  · intro part hpart
    rcases List.mem_append.mp hpart with hbefore | hpart
    · exact slash_not_mem (hpackage part (List.mem_append_left _ hbefore))
    · rcases List.mem_cons.mp hpart with rfl | hstep
      · exact slash_not_mem (isPackageChar_symbolic (hpackage tail (by simp)) hname hmethod)
      · obtain ⟨s, hs, rfl⟩ := List.mem_map.mp hstep
        exact Segment.not_mem_text (hsteps s hs) (Or.inr rfl)

/-- The text of an address with a symbol is read as that address. -/
theorem parseChars_symbolic {before : List (List Char)} {tail name : List Char}
    {method : Option (List Char)} {steps : List Segment}
    (hpath : ImportPath (Text.joinWith '/' (before ++ [tail])))
    (hpackage : ∀ part ∈ before ++ [tail], part ≠ [] ∧ ∀ c ∈ part, isPackageChar c = true)
    (htail : tail.head? ≠ some '.' ∧ (method = none → '.' ∉ tail))
    (hname : isIdentifierChars name = true)
    (hmethod : ∀ m, method = some m → isIdentifierChars m = true)
    (hsteps : ∀ s ∈ steps, s.Valid) :
    parseChars (Text.joinWith '/' (before ++ [tail]) ++ '.' :: name ++ dotted method ++
      steps.flatMap ('/' :: ·.text.toList)) =
        .ok { package := String.ofList (Text.joinWith '/' (before ++ [tail]))
              symbol := some (String.ofList name)
              method := method.map String.ofList
              subpath := steps } := by
  have hlegible : ∀ s ∈ steps, s.Legible := fun s hs => (hsteps s hs).legible
  have hcomponents := splitOn_symbolic (fun part hpart => (hpackage part hpart).2) hname hmethod
    hlegible
  have hstepDot : '.' ∉ steps.flatMap ('/' :: ·.text.toList) := by
    simp only [List.mem_flatMap, List.mem_cons, not_exists, not_and, not_or]
    exact fun s hs => ⟨by decide, Segment.not_mem_text (hlegible s hs) (Or.inl rfl)⟩
  have hdots := nil_not_mem_splitOn_dot (importPath_iff.mp hpath).2.1 hname hmethod hstepDot
  have hbrackets := checkBrackets_symbolic hpath hname hmethod hlegible
  have hslashes : [] ∉ before ++ (tail ++ '.' :: name ++ dotted method) ::
      steps.map (·.text.toList) := by
    have hbefore : [] ∉ before := fun hnil => (hpackage [] (List.mem_append_left _ hnil)).1 rfl
    simp only [List.mem_append, List.mem_cons, List.mem_map, not_or, not_exists, not_and]
    exact ⟨hbefore, by simp, fun s _ => s.text_ne_nil⟩
  have hdelimiters := checkDelimiters_eq_ok_iff.mpr ⟨hbrackets, hcomponents ▸ hslashes, hdots⟩
  have hcut : Text.cutAtLast? (·.contains '.')
      (before ++ (tail ++ '.' :: name ++ dotted method) :: steps.map (·.text.toList)) =
        some (before, tail ++ '.' :: name ++ dotted method, steps.map (·.text.toList)) := by
    refine Text.cutAtLast?_eq_some_iff.mpr ⟨rfl, by simp, ?_⟩
    intro part hpart
    obtain ⟨s, hs, rfl⟩ := List.mem_map.mp hpart
    simpa using Segment.not_mem_text (hlegible s hs) (Or.inl rfl)
  have hrest : ¬(!(steps.map (·.text.toList)).isEmpty &&
      !(steps.map (·.text.toList)).any looksLikeSegment) = true := by
    cases steps with
    | nil => simp
    | cons s steps =>
      simp [looksLikeSegment_text s]
  have hparts : symbolParts (tail ++ '.' :: name ++ dotted method) = (tail, name, method) :=
    symbolParts_append (not_mem_of_isIdentifierChars hname (by decide))
      (fun m hm => not_mem_of_isIdentifierChars (hmethod m hm) (by decide)) htail.2
  unfold parseChars
  refine bind_eq_ok_iff.mpr ⟨(), hdelimiters, ?_⟩
  simp only [hcomponents, hcut, if_neg hrest]
  rw [parseSymbol_eq_ok_iff hparts]
  have htailParts := hpackage tail (by simp)
  have hchars := isPackageChar_symbolic htailParts.2 hname hmethod
  have hhead : (tail ++ '.' :: name ++ dotted method).head? ≠ some '.' := by
    rw [List.append_assoc, List.head?_append_of_ne_nil _ htailParts.1]
    exact htail.1
  exact ⟨fun hmem => (isPackageChar_bracket (hchars _ hmem)).1 rfl, hhead,
    getLast?_symbolic tail hname hmethod, hname, hmethod, hpackage, steps, hsteps, rfl, rfl⟩

/-- A well-formed address of a symbol is read back. -/
theorem parseChars_render_of_symbolic {a : Address} (hpath : ImportPath a.package.toList)
    (h : a.Symbolic) : parseChars a.render.toList = .ok a := by
  obtain ⟨name, hsymbol, hname⟩ := h.symbol
  obtain ⟨before, tail, hsplit⟩ : ∃ before tail,
      Text.splitOn '/' a.package.toList = before ++ [tail] :=
    ⟨_, _, (List.dropLast_concat_getLast (Text.splitOn_ne_nil '/' a.package.toList)).symm⟩
  have hjoin : Text.joinWith '/' (before ++ [tail]) = a.package.toList := by
    rw [← hsplit, Text.joinWith_splitOn]
  obtain ⟨hslash, -, hchars⟩ := importPath_iff.mp hpath
  obtain ⟨hhead, -, hdot⟩ := h.last tail (by rw [hsplit, List.getLast?_concat])
  have hread := @parseChars_symbolic before tail name.toList (a.method.map String.toList) a.subpath
    (hjoin ▸ hpath) (fun part hpart => ⟨fun hnil => hslash (hsplit ▸ hnil ▸ hpart),
      hchars part (hsplit ▸ hpart)⟩) ⟨hhead, fun hnone => hdot (Option.map_eq_none_iff.mp hnone)⟩
    hname ?_ h.steps
  · rw [toList_render, hsymbol]
    rw [hjoin] at hread
    refine hread.trans ?_
    obtain ⟨package, symbol, method, steps⟩ := a
    cases hsymbol
    cases method <;> simp
  · intro m hm
    obtain ⟨text, htext, rfl⟩ := Option.map_eq_some_iff.mp hm
    exact h.method text htext

/-- Reading is exact: the well-formed addresses are read from their written forms, and nothing
else is read. -/
theorem parse_eq_ok_iff {s : String} {a : Address} :
    parse s = .ok a ↔ a.WellFormed ∧ a.render = s := by
  have hparse : parse s = .ok a ↔ parseChars s.toList = .ok a := by
    unfold parse
    split <;> simp_all
  rw [hparse]
  constructor
  · intro h
    obtain ⟨hwell, htext⟩ := wellFormed_of_parseChars h
    exact ⟨hwell, String.toList_inj.mp htext⟩
  · rintro ⟨⟨hpath, hshape⟩, rfl⟩
    rcases hshape with h | h
    · exact parseChars_render_of_packageOnly hpath h
    · exact parseChars_render_of_symbolic hpath h

/-- Writing undoes reading: an address that is read from a text is written as that text. -/
theorem render_of_parse {s : String} {a : Address} (h : parse s = .ok a) : a.render = s :=
  (parse_eq_ok_iff.mp h).2

/-- Dots that the package absorbs, a method, a position and a step without selector are all written
back. -/
theorem render_of_parse_dotted_module :
    parse "gopkg.in/yaml.v3.Node.Decode/params[10]/name" =
      .ok { package := "gopkg.in/yaml.v3", symbol := some "Node", method := some "Decode",
            subpath := [⟨.params, some (.index 10)⟩, ⟨.name, none⟩] } ∧
    render { package := "gopkg.in/yaml.v3", symbol := some "Node", method := some "Decode",
             subpath := [⟨.params, some (.index 10)⟩, ⟨.name, none⟩] } =
      "gopkg.in/yaml.v3.Node.Decode/params[10]/name" :=
  ⟨by decide +kernel, render_of_parse (by decide +kernel)⟩

/-- The grammar is exactly what is read: an address is read from some text if and only if it is
well formed, and then it is read from its written form. -/
theorem exists_parse_iff_wellFormed (a : Address) :
    ((∃ s, parse s = .ok a) ↔ a.WellFormed) ∧ (a.WellFormed → parse a.render = .ok a) := by
  have hread : a.WellFormed → parse a.render = .ok a := fun h => parse_eq_ok_iff.mpr ⟨h, rfl⟩
  refine ⟨⟨?_, fun h => ⟨a.render, hread h⟩⟩, hread⟩
  rintro ⟨s, hs⟩
  exact (parse_eq_ok_iff.mp hs).1

/-- An import path with a dotted component in its middle is well formed and read back. -/
theorem wellFormed_subpackage_of_dotted_module :
    WellFormed { package := "github.com/acme/shop.v2/internal/store" } ∧
      parse (render { package := "github.com/acme/shop.v2/internal/store" }) =
        .ok { package := "github.com/acme/shop.v2/internal/store" } := by
  obtain ⟨hiff, hread⟩ :=
    exists_parse_iff_wellFormed { package := "github.com/acme/shop.v2/internal/store" }
  have hwell := hiff.mp ⟨"github.com/acme/shop.v2/internal/store", by decide +kernel⟩
  exact ⟨hwell, hread hwell⟩

end GoAddress.Address
