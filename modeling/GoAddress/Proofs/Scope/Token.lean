import Mathlib.Data.List.Infix
import Mathlib.Tactic.MkIffOfInductiveProp
import GoAddress.Proofs.Program.Index
import GoAddress.Proofs.Text.Trimming
import GoAddress.Scope

/-!
# What the tokens of a scope expression say

A token is a part of the expression between commas. Behind a minus it takes packages away. Its body
is a keyword or a place: a pattern, a subtree or the path of a package. `Selects` says which
packages a body selects, and `Faulty` which tokens spoil the whole expression; reading a token
fails just on the faulty ones and finds the paths of the packages that are selected.
-/

namespace GoAddress.Scope

/-! ## Meaning -/

/-- The tokens of an expression: its parts between commas without blanks around them, the empty
ones left out. A blank expression says `package`. -/
def tokensOf (expr : String) : List (List Char) :=
  if expr.toList.all Text.isBlank then ["package".toList]
  else ((Text.splitOn ',' expr.toList).map (Text.trim Text.isBlank)).filter (!·.isEmpty)

/-- Whether a token takes packages away. -/
def IsExclusion (token : List Char) : Prop :=
  token.head? = some '-'

/-- A token without its minus. -/
def body : List Char → String
  | '-' :: rest => String.ofList (Text.trim Text.isBlank rest)
  | token => String.ofList token

/-- The place that a body names: a leading `./` is left out. -/
def placeOf (body : String) : List Char :=
  match body.toList with
  | '.' :: '/' :: rest => rest
  | place => place

/-- Whether something holds of a package's import path or of its path relative to the module, if
that is not empty. -/
def OnEitherPath (p : Package) (P : String → Prop) : Prop :=
  P p.path ∨ (p.shortPath ≠ "" ∧ P p.shortPath)

/-- Whether a path is the base or lies below it. -/
def Below (base path : List Char) : Prop :=
  path = base ∨ base ++ ['/'] <+: path

/-- Whether a place selects a package. -/
def SelectsPlace (program : Program) (place : List Char) (p : Package) : Prop :=
  if place = "...".toList then p.project = true
  else if '*' ∈ place then
    ∃ pattern, Pattern.compile (String.ofList place) = .ok pattern ∧
      OnEitherPath p fun path => pattern.matchesText path = true
  else if "/...".toList <:+ place then
    ∃ base, place = base ++ "/...".toList ∧ OnEitherPath p fun path => Below base path.toList
  else program.package? (String.ofList place) = some p

/-- Whether the body of a token selects a package. -/
def Selects (program : Program) (target : Option String) (body : String) (p : Package) : Prop :=
  if body = "all" then True
  else if body = "project" then p.project = true
  else if body = "package" then target.bind program.package? = some p
  else SelectsPlace program (placeOf body) p

/-- Whether a place is a pattern that cannot be read. -/
def BadPattern (place : List Char) : Prop :=
  '*' ∈ place ∧ ∀ pattern, Pattern.compile (String.ofList place) ≠ .ok pattern

/-- The tokens that spoil an expression. -/
@[mk_iff]
inductive Faulty (target : Option String) (token : List Char) : Prop
  | emptyExclusion (h : IsExclusion token) (hbody : body token = "")
  | negatedKeyword (h : IsExclusion token) (hbody : body token ∈ keywords)
  | missingTarget (htoken : token = "package".toList) (htarget : target = none)
  | badPattern (h : BadPattern (placeOf (body token)))

/-- What stands before a suffix is found by dropping it. -/
theorem eq_append_iff {place stop base : List Char} :
    place = base ++ stop ↔ Text.dropSuffix? stop place = some base := by
  rw [Text.dropSuffix?, List.isSuffixOf?_eq_some_iff_append_eq, eq_comm]

section Decidability

variable {p : Package} {place base path : List Char}

instance : DecidablePred IsExclusion :=
  fun token => inferInstanceAs (Decidable (token.head? = some '-'))

instance {P : String → Prop} [DecidablePred P] : Decidable (OnEitherPath p P) :=
  inferInstanceAs (Decidable (P p.path ∨ (p.shortPath ≠ "" ∧ P p.shortPath)))

instance : Decidable (Below base path) :=
  inferInstanceAs (Decidable (path = base ∨ base ++ ['/'] <+: path))

instance : Decidable (∃ pattern, Pattern.compile (String.ofList place) = .ok pattern ∧
    OnEitherPath p fun path => pattern.matchesText path = true) :=
  match Pattern.compile (String.ofList place) with
  | .ok pattern => decidable_of_iff (OnEitherPath p fun path => pattern.matchesText path = true)
      (by simp)
  | .error _ => isFalse (by simp)

instance : Decidable (∃ base, place = base ++ "/...".toList ∧
    OnEitherPath p fun path => Below base path.toList) :=
  decidable_of_iff
    (∃ base, Text.dropSuffix? "/...".toList place = some base ∧
      OnEitherPath p fun path => Below base path.toList)
    (by simp only [eq_append_iff])

instance {program : Program} : DecidablePred (SelectsPlace program place) :=
  fun p => inferInstanceAs (Decidable (if place = "...".toList then p.project = true else _))

instance {program : Program} {target : Option String} {body : String} :
    DecidablePred (Selects program target body) :=
  fun _ => inferInstanceAs (Decidable (if body = "all" then True else _))

instance : Decidable (BadPattern place) :=
  decidable_of_iff ('*' ∈ place ∧ (Pattern.compile (String.ofList place)).toOption = none) (by
    rw [BadPattern]
    cases Pattern.compile (String.ofList place) <;> simp [Except.toOption])

instance {target : Option String} : DecidablePred (Faulty target) :=
  fun token => decidable_of_iff _ (faulty_iff target token).symm

end Decidability

/-! ## Reading tokens -/

/-- Trimming an expression first makes no difference to its tokens. -/
theorem rawTokens_expressionOf (expr : String) :
    rawTokens (expressionOf expr) = tokensOf expr := by
  have hblank : (Text.trimBlanks expr).isEmpty = expr.toList.all Text.isBlank := by
    rw [Bool.eq_iff_iff, String.isEmpty_iff, List.all_eq_true, ← Text.trim_eq_nil_iff,
      Text.trimBlanks, ← String.ofList_nil, String.ofList_inj]
  have hcomma : Text.isBlank ',' = false := by decide
  rw [tokensOf, expressionOf]
  simp only [hblank]
  split
  · decide +kernel
  · rw [rawTokens, Text.trimBlanks, String.toList_ofList, Text.map_trim_splitOn_trim hcomma]

/-- Without a minus the body is the whole token. -/
theorem body_of_not_isExclusion {token : List Char} (h : ¬ IsExclusion token) :
    body token = String.ofList token := by
  rw [body]
  rintro rest rfl
  exact h rfl

/-- A token is read unless it takes away nothing or a keyword. -/
theorem readToken_cases (token : List Char) :
    (∃ e, readToken token = .error e ∧ IsExclusion token ∧
      (body token = "" ∨ body token ∈ keywords)) ∨
    ∃ read, readToken token = .ok read ∧ read.raw = String.ofList token ∧
      read.text = body token ∧ (read.negated = true ↔ IsExclusion token) ∧
      (IsExclusion token → body token ≠ "" ∧ body token ∉ keywords) := by
  by_cases hminus : IsExclusion token
  · obtain ⟨rest, rfl⟩ := List.head?_eq_some_iff.mp hminus
    have hbody : body ('-' :: rest) = String.ofList (Text.trim Text.isBlank rest) := rfl
    rw [readToken, ← hbody]
    by_cases hempty : body ('-' :: rest) = ""
    · exact Or.inl ⟨_, if_pos (String.isEmpty_iff.mpr hempty), hminus, Or.inl hempty⟩
    · rw [if_neg (by rwa [String.isEmpty_iff])]
      by_cases hkeyword : body ('-' :: rest) ∈ keywords
      · exact Or.inl ⟨_, if_pos (List.contains_iff_mem.mpr hkeyword), hminus, Or.inr hkeyword⟩
      · exact Or.inr ⟨_, if_neg (by rwa [List.contains_iff_mem]), rfl, rfl, by simp [hminus],
          fun _ => ⟨hempty, hkeyword⟩⟩
  · refine Or.inr ⟨⟨String.ofList token, false, String.ofList token⟩, ?_, rfl,
      (body_of_not_isExclusion hminus).symm, by simp [hminus], fun h => absurd h hminus⟩
    rw [readToken]
    rintro rest rfl
    exact hminus rfl

/-- The place that is looked at is the one that the body names. -/
theorem getD_dropPrefix? (text : String) :
    (Text.dropPrefix? ['.', '/'] text.toList).getD text.toList = placeOf text := by
  rw [placeOf, Text.dropPrefix?]
  split
  · next rest heq => simp [heq, List.isPrefixOf?]
  · next heq =>
    cases hdrop : ['.', '/'].isPrefixOf? text.toList with
    | none => rfl
    | some rest => exact absurd (List.isPrefixOf?_eq_some_iff_append_eq.mp hdrop).symm (heq rest)

/-- The test for subtrees says whether a path is the base or lies below it. -/
theorem isUnder_iff {base path : List Char} : isUnder base path = true ↔ Below base path := by
  rw [isUnder, Below, Text.dropPrefix?]
  split
  · next hdrop =>
    have hpath := List.isPrefixOf?_eq_some_iff_append_eq.mp hdrop
    simp [← hpath]
  · next c rest hdrop =>
    have hpath := List.isPrefixOf?_eq_some_iff_append_eq.mp hdrop
    rw [← hpath, List.prefix_append_right_inj, beq_iff_eq]
    constructor
    · rintro rfl
      exact Or.inr ⟨rest, rfl⟩
    · rintro (heq | hslash)
      · simp at heq
      · exact (List.cons_prefix_cons.mp hslash).1.symm
  · next hdrop =>
    simp only [Bool.false_eq_true, false_iff, not_or]
    have hnone : ∀ rest, base ++ rest ≠ path := by
      intro rest hpath
      rw [List.isPrefixOf?_eq_some_iff_append_eq.mpr hpath] at hdrop
      exact Option.some_ne_none rest hdrop
    refine ⟨fun hpath => hnone [] (by rw [List.append_nil, hpath]), ?_⟩
    rintro ⟨rest, hpath⟩
    exact hnone ('/' :: rest) (by rw [← hpath, List.append_assoc, List.singleton_append])

/-- The test on both paths of a package. -/
theorem eitherPath_iff {test : String → Bool} {p : Package} :
    eitherPath test p = true ↔ OnEitherPath p fun path => test path = true := by
  simp [eitherPath, OnEitherPath]

/-- The paths of packages with a property. -/
theorem mem_pathsWhere {program : Program} {keep : Package → Bool} {path : String} :
    path ∈ pathsWhere program keep ↔ ∃ p ∈ program.packages, p.path = path ∧ keep p = true := by
  rw [pathsWhere, List.mem_map]
  constructor
  · rintro ⟨p, hp, rfl⟩
    obtain ⟨hmem, hkeep⟩ := List.mem_filter.mp hp
    exact ⟨p, hmem, rfl, hkeep⟩
  · rintro ⟨p, hmem, rfl, hkeep⟩
    exact ⟨p, List.mem_filter.mpr ⟨hmem, hkeep⟩, rfl⟩

/-- The path of the package that answers to a path. -/
theorem mem_pathOf {program : Program} {name path : String} :
    path ∈ pathOf program name ↔
      ∃ p ∈ program.packages, p.path = path ∧ program.package? name = some p := by
  simp only [pathOf, Option.mem_toList, Option.map_eq_some_iff]
  constructor
  · rintro ⟨p, hp, rfl⟩
    exact ⟨p, Program.mem_of_package? hp, rfl, hp⟩
  · rintro ⟨p, -, rfl, hp⟩
    exact ⟨p, hp, rfl⟩

/-- The paths found are those of the packages with a property. -/
def Finds (program : Program) (selected : List String) (P : Package → Prop) : Prop :=
  ∀ path, path ∈ selected ↔ ∃ p ∈ program.packages, p.path = path ∧ P p

/-- No path is found just if no package has the property. -/
theorem Finds.isEmpty_iff {program : Program} {selected : List String} {P : Package → Prop}
    (h : Finds program selected P) : selected.isEmpty = true ↔ ∀ p ∈ program.packages, ¬ P p := by
  rw [List.isEmpty_iff, List.eq_nil_iff_forall_not_mem]
  constructor
  · intro hnone p hp hP
    exact hnone p.path ((h p.path).mpr ⟨p, hp, rfl, hP⟩)
  · intro hnone path hpath
    obtain ⟨p, hp, -, hP⟩ := (h path).mp hpath
    exact hnone p hp hP

/-- A text is meant as a pattern if it has a star. -/
theorem isPattern_ofList {place : List Char} :
    Pattern.isPattern (String.ofList place) = true ↔ '*' ∈ place := by
  rw [Pattern.isPattern, String.toList_ofList, List.contains_iff_mem]

/-- A place that is no bad pattern selects packages; the paths found are theirs. -/
theorem selectPlaces_cases (program : Program) (place : List Char) :
    (∃ e, selectPlaces program place = .error e ∧ BadPattern place) ∨
    ∃ selected, selectPlaces program place = .ok selected ∧ ¬ BadPattern place ∧
      Finds program selected (SelectsPlace program place) := by
  have hdots : (String.ofList place == "...") = true ↔ place = "...".toList := by
    rw [beq_iff_eq, ← String.ofList_inj, String.ofList_toList]
  rw [selectPlaces]
  by_cases hall : place = "...".toList
  · have hplain : ¬ BadPattern place := by
      rintro ⟨hstar, -⟩
      rw [hall] at hstar
      revert hstar
      decide
    refine Or.inr ⟨_, if_pos (hdots.mpr hall), hplain, fun path => ?_⟩
    simp only [mem_pathsWhere, SelectsPlace, if_pos hall]
  · rw [if_neg (mt hdots.mp hall)]
    by_cases hstar : '*' ∈ place
    · rw [if_pos (isPattern_ofList.mpr hstar)]
      cases hcompile : Pattern.compile (String.ofList place) with
      | error e =>
        refine Or.inl ⟨_, rfl, hstar, fun pattern hpattern => ?_⟩
        rw [hcompile] at hpattern
        cases hpattern
      | ok pattern =>
        refine Or.inr ⟨_, rfl, fun h => h.2 pattern hcompile, fun path => ?_⟩
        simp only [mem_pathsWhere, eitherPath_iff, SelectsPlace, if_neg hall, if_pos hstar,
          hcompile, Except.ok.injEq, exists_eq_left']
    · rw [if_neg (mt isPattern_ofList.mp hstar)]
      have hplain : ¬ BadPattern place := fun h => hstar h.1
      cases hdrop : Text.dropSuffix? "/...".toList place with
      | some base =>
        have hsuffix : "/...".toList <:+ place := ⟨base, (eq_append_iff.mpr hdrop).symm⟩
        refine Or.inr ⟨_, rfl, hplain, fun path => ?_⟩
        simp only [mem_pathsWhere, eitherPath_iff, isUnder_iff, SelectsPlace, if_neg hall,
          if_neg hstar, if_pos hsuffix, eq_append_iff, hdrop, Option.some.injEq, exists_eq_left']
      | none =>
        have hsuffix : ¬ "/...".toList <:+ place := by
          rintro ⟨base, hplace⟩
          rw [eq_append_iff.mp hplace.symm] at hdrop
          exact Option.some_ne_none base hdrop
        refine Or.inr ⟨_, rfl, hplain, fun path => ?_⟩
        simp only [mem_pathOf, SelectsPlace, if_neg hall, if_neg hstar, if_neg hsuffix]

/-- A body without fault selects packages; the paths found are theirs. -/
theorem select_cases (program : Program) (target : Option String) (text : String) :
    (∃ e, select program target text = .error e ∧
      (text = "package" ∧ target = none ∨ BadPattern (placeOf text))) ∨
    ∃ selected, select program target text = .ok selected ∧
      ¬ (text = "package" ∧ target = none) ∧ ¬ BadPattern (placeOf text) ∧
      Finds program selected (Selects program target text) := by
  have hkeywords : ∀ keyword ∈ keywords, ¬ BadPattern (placeOf keyword) := by
    have hstar : ∀ keyword ∈ keywords, '*' ∉ placeOf keyword := by decide
    exact fun keyword hkeyword h => hstar keyword hkeyword h.1
  unfold select
  split
  · refine Or.inr ⟨_, rfl, by simp, hkeywords "all" (by decide), fun path => ?_⟩
    simp [mem_pathsWhere, Selects]
  · refine Or.inr ⟨_, rfl, by simp, hkeywords "project" (by decide), fun path => ?_⟩
    simp [mem_pathsWhere, Selects]
  · cases target with
    | none => exact Or.inl ⟨_, rfl, Or.inl ⟨rfl, rfl⟩⟩
    | some name =>
      refine Or.inr ⟨_, rfl, by simp, hkeywords "package" (by decide), fun path => ?_⟩
      simp [mem_pathOf, Selects]
  · next hall hproject hpackage =>
    have hplace : Selects program target text = SelectsPlace program (placeOf text) := by
      funext p
      rw [Selects, if_neg hall, if_neg hproject, if_neg hpackage]
    rw [hplace]
    simp only [getD_dropPrefix?]
    rcases selectPlaces_cases program (placeOf text) with ⟨e, he, hbad⟩ |
      ⟨selected, hok, hgood, hfinds⟩
    · exact Or.inl ⟨e, he, Or.inr hbad⟩
    · exact Or.inr ⟨selected, hok, fun h => hpackage h.1, hgood, hfinds⟩

/-- One remark for each token that selects nothing, in order. -/
def remarksOn (program : Program) (target : Option String) (tokens : List (List Char)) :
    List Diagnostic :=
  (tokens.filter fun token =>
    decide (∀ p ∈ program.packages, ¬ Selects program target (body token) p)).map
      fun token => .unmatchedScope (String.ofList token)

/-- Reading stops at a faulty token. Any other token is remarked on if it selects nothing, what it
selects is added to the scope, and reading goes on. -/
theorem readTokens_cons_cases (program : Program) (target : Option String) (token : List Char) :
    (Faulty target token ∧ ∀ scope rest, ∃ e,
      readTokens program target scope (token :: rest) = ([], .error e)) ∨
    ¬ Faulty target token ∧ ∃ read selected,
      (read.negated = true ↔ IsExclusion token) ∧
      Finds program selected (Selects program target (body token)) ∧
      ∀ scope rest, readTokens program target scope (token :: rest) =
        (remarksOn program target [token] ++
          (readTokens program target (add scope read selected) rest).1,
          (readTokens program target (add scope read selected) rest).2) := by
  rcases readToken_cases token with ⟨e, hread, hminus, hbody⟩ |
    ⟨read, hread, hraw, htext, hnegated, hbody⟩
  · refine Or.inl ⟨?_, fun scope rest => ⟨e, by simp only [readTokens, hread]⟩⟩
    exact hbody.elim (.emptyExclusion hminus) (.negatedKeyword hminus)
  rcases select_cases program target (body token) with ⟨e, hselect, hfault⟩ |
    ⟨selected, hselect, htarget, hgood, hfinds⟩
  · refine Or.inl ⟨?_, fun scope rest => ⟨e, by simp only [readTokens, hread, htext, hselect]⟩⟩
    rcases hfault with ⟨hpackage, hnone⟩ | hbad
    · by_cases hminus : IsExclusion token
      · exact absurd (show body token ∈ keywords by rw [hpackage]; decide) (hbody hminus).2
      · refine .missingTarget ?_ hnone
        rw [← hpackage, body_of_not_isExclusion hminus, String.toList_ofList]
    · exact .badPattern hbad
  · refine Or.inr ⟨?_, read, selected, hnegated, hfinds, fun scope rest => ?_⟩
    · rintro (⟨hminus, hempty⟩ | ⟨hminus, hkeyword⟩ | ⟨rfl, hnone⟩ | hbad)
      · exact (hbody hminus).1 hempty
      · exact (hbody hminus).2 hkeyword
      · exact htarget ⟨rfl, hnone⟩
      · exact hgood hbad
    · have hremarks : remarksOn program target [token] =
          if selected.isEmpty then [.unmatchedScope read.raw] else [] := by
        rw [remarksOn, List.filter_cons, List.filter_nil, hraw]
        simp only [decide_eq_true_eq, hfinds.isEmpty_iff]
        split <;> rfl
      simp only [readTokens, hread, htext, hselect, hremarks]

end GoAddress.Scope
