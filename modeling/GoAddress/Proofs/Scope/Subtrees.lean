import GoAddress.Proofs.Pattern.Segments
import GoAddress.Proofs.Pattern.Widening
import GoAddress.Proofs.Scope.Membership

/-!
# Two ways to write a subtree

The packages at and below a base can be named by `/...` behind the base, which compares paths, or by
`/**` behind it, which is a pattern. The pattern has the characters of the base and a trailing path
as its tokens, so that on one line it matches the base and what lies below it. Main statement:
behind any base but `.` the two select the same packages. Behind `.` they do not: `./...` stands for
the packages of the module, and `./**` for all.
-/

namespace GoAddress

namespace Pattern

/-- A text without stars, brackets and marks, which stands for itself in a pattern. -/
def IsLiteral (cs : List Char) : Prop :=
  ∀ c ∈ cs, c ≠ '*' ∧ c ≠ '[' ∧ c ≠ ']' ∧ c ∉ marks

instance : DecidablePred IsLiteral :=
  fun cs => List.decidableBAll _ cs

/-- The pattern of a base with a slash and a double star behind it. -/
def subtree (base : List Char) : Pattern :=
  ⟨String.ofList (base ++ "/**".toList), base.map .literal ++ [.trailingPath]⟩

section Literals

variable {base : List Char}

/-- Characters that stand for themselves spell the text that they form. -/
theorem spells_map_literal {text : List Char} :
    Spells (base.map .literal) text ↔ text = base := by
  induction base generalizing text with
  | nil => exact spells_nil
  | cons c base ih =>
    rw [List.map_cons, spells_cons]
    constructor
    · rintro ⟨u, v, hu, hv, rfl⟩
      have hself : u = [c] := hu
      rw [hself, ih.mp hv, List.singleton_append]
    · intro htext
      exact ⟨[c], base, rfl, ih.mpr rfl, htext⟩

/-- The reader takes a literal base character by character, and the rest for a trailing path. -/
theorem tokenize_subtree (hbase : IsLiteral base) :
    tokenize (base ++ "/**".toList) = (subtree base).tokens := by
  rw [subtree]
  induction base with
  | nil => rfl
  | cons c base ih =>
    obtain ⟨⟨hstar, -, -, hmark⟩, hrest⟩ := List.forall_mem_cons.mp hbase
    -- What follows the character begins with a character of the base, or with the slash.
    have hshallow : ¬ GoesDeep (base ++ "/**".toList) := by
      rintro ⟨more, hmore, -⟩
      cases base with
      | nil => simp at hmore
      | cons d base => exact (hrest d List.mem_cons_self).1 (List.cons.inj hmore).1
    rw [List.cons_append, tokenize_cons hstar fun _ => hshallow, charToken_of_not_mem_marks hmark,
      ih hrest]
    rfl

/-- A literal base and a double star behind it have no fault. -/
theorem wellFormed_subtree (hbase : IsLiteral base) : WellFormed (base ++ "/**".toList) where
  visible := ⟨'*', by simp, by decide⟩
  starRuns := by
    intro hrun
    have hnone : base.count '*' = 0 :=
      List.count_eq_zero.mpr fun hmem => (hbase '*' hmem).1 rfl
    have hcount := hrun.sublist.count_le '*'
    rw [List.count_append, hnone] at hcount
    revert hcount
    decide
  brackets := by
    have hnone : ∀ c ∈ base, ¬ (c == '[' || c == ']') = true := by
      intro c hc
      obtain ⟨-, hopen, hclose, -⟩ := hbase c hc
      simp [hopen, hclose]
    refine ⟨0, ?_⟩
    rw [List.filter_append, List.filter_eq_nil_iff.mpr hnone]
    rfl

/-- A literal base and a double star behind it are read as the pattern of the base. -/
theorem compile_subtree (hbase : IsLiteral base) :
    compile (String.ofList (base ++ "/**".toList)) = .ok (subtree base) := by
  have htext : (String.ofList (base ++ "/**".toList)).toList = base ++ "/**".toList :=
    String.toList_ofList
  refine compile_eq_ok_iff.mpr ⟨?_, ?_⟩
  · rw [htext]
    exact wellFormed_subtree hbase
  · rw [htext, tokenize_subtree hbase]
    rfl

/-- On one line, the pattern of a base matches the base and what begins with the base and a
slash. -/
theorem matchesText_subtree_iff {path : String} (hline : '\n' ∉ path.toList) :
    (subtree base).matchesText path = true ↔ Scope.Below base path.toList := by
  rw [matchesText_iff, subtree, spells_append, Scope.Below]
  constructor
  · rintro ⟨u, v, hu, hv, htext⟩
    rw [spells_map_literal.mp hu] at htext
    rcases spells_singleton.mp hv with rfl | ⟨-, hslash⟩
    · exact Or.inl (htext.trans (List.append_nil base))
    · obtain ⟨rest, rfl⟩ := List.head?_eq_some_iff.mp hslash
      exact Or.inr ⟨rest, by rw [htext, List.append_assoc, List.singleton_append]⟩
  · rintro (htext | ⟨rest, htext⟩)
    · exact ⟨base, [], spells_map_literal.mpr rfl, spells_singleton.mpr (Or.inl rfl),
        by rw [htext, List.append_nil]⟩
    · rw [List.append_assoc, List.singleton_append] at htext
      have hbehind : '\n' ∉ '/' :: rest := fun h => hline (htext ▸ List.mem_append_right base h)
      exact ⟨base, '/' :: rest, spells_map_literal.mpr rfl,
        spells_singleton.mpr (Or.inr ⟨hbehind, rfl⟩), htext.symm⟩

end Literals

end Pattern

namespace Scope

section Places

variable {body : String}

/-- A leading `./` is left out of the place. -/
theorem placeOf_of_eq {rest : List Char} (h : body.toList = '.' :: '/' :: rest) :
    placeOf body = rest := by
  simp only [placeOf, h]

/-- A body without a leading `./` is its own place. -/
theorem placeOf_of_not_leading (h : ¬ ['.', '/'] <+: body.toList) : placeOf body = body.toList := by
  rw [placeOf]
  split
  · next rest heq => exact absurd ⟨rest, heq.symm⟩ h
  · rfl

/-- Whatever the place has, the body has. -/
theorem mem_of_mem_placeOf {c : Char} (h : c ∈ placeOf body) : c ∈ body.toList := by
  by_cases hdot : ['.', '/'] <+: body.toList
  · obtain ⟨rest, hrest⟩ := hdot
    rw [placeOf_of_eq hrest.symm] at h
    rw [← hrest]
    exact List.mem_append_right _ h
  · rwa [placeOf_of_not_leading hdot] at h

/-- A slash and what follows it stay in the place, unless they stand behind a dot alone. -/
theorem placeOf_append {base suffix : String} (hdot : base ≠ ".")
    (hslash : suffix.toList.head? = some '/') :
    placeOf (base ++ suffix) = placeOf base ++ suffix.toList := by
  obtain ⟨rest, hrest⟩ := List.head?_eq_some_iff.mp hslash
  have htext : (base ++ suffix).toList = base.toList ++ '/' :: rest := by
    rw [String.toList_append, hrest]
  by_cases hfront : ['.', '/'] <+: base.toList
  · obtain ⟨more, hmore⟩ := hfront
    have hshort : base.toList = '.' :: '/' :: more := hmore.symm
    have hwhole : (base ++ suffix).toList = '.' :: '/' :: (more ++ '/' :: rest) := by
      rw [htext, hshort]
      rfl
    rw [placeOf_of_eq hwhole, placeOf_of_eq hshort, hrest]
  · have hwhole : ¬ ['.', '/'] <+: (base ++ suffix).toList := by
      rw [htext]
      intro hprefix
      cases hcs : base.toList with
      | nil =>
        rw [hcs] at hprefix
        exact absurd (List.cons_prefix_cons.mp hprefix).1 (by decide)
      | cons c cs =>
        rw [hcs] at hprefix hfront
        obtain ⟨hc, hbehind⟩ := List.cons_prefix_cons.mp hprefix
        cases cs with
        | nil => exact hdot (String.toList_inj.mp (by rw [hcs, ← hc]; rfl))
        | cons d cs =>
          have hd : '/' = d := (List.cons_prefix_cons.mp hbehind).1
          exact hfront ⟨cs, by rw [hc, hd]; rfl⟩
    rw [placeOf_of_not_leading hwhole, placeOf_of_not_leading hfront, htext, hrest]

end Places

section Subtrees

variable (program : Program)

/-- A token with a slash is no keyword, and selects what its place says. -/
theorem select_eq_selectPlaces (target : Option String) {text : String} (h : '/' ∈ text.toList) :
    select program target text = selectPlaces program (placeOf text) := by
  have hkeyword : ∀ keyword ∈ keywords, text ≠ keyword := by
    have hslash : ∀ keyword ∈ keywords, '/' ∉ keyword.toList := by decide
    exact fun keyword hmem heq => hslash keyword hmem (heq ▸ h)
  rw [select]
  · rw [getD_dropPrefix?]
  · exact hkeyword "all" (by decide)
  · exact hkeyword "project" (by decide)
  · exact hkeyword "package" (by decide)

/-- A place with a slash is more than dots. -/
theorem ofList_beq_dots {place : List Char} (h : '/' ∈ place) :
    (String.ofList place == "...") = false := by
  have hslash : '/' ∉ "...".toList := by decide
  rw [beq_eq_false_iff_ne]
  intro heq
  rw [← heq, String.toList_ofList] at hslash
  exact hslash h

/-- Dots behind a base select by comparing paths. -/
theorem selectPlaces_subtree {base : List Char} (hbase : Pattern.IsLiteral base) :
    selectPlaces program (base ++ "/...".toList) =
      .ok (pathsWhere program (eitherPath fun path => isUnder base path.toList)) := by
  have hdots := @ofList_beq_dots (base ++ "/...".toList) (List.mem_append_right base (by decide))
  have hstar : Pattern.isPattern (String.ofList (base ++ "/...".toList)) = false := by
    rw [Bool.eq_false_iff, ne_eq, isPattern_ofList, List.mem_append, not_or]
    exact ⟨fun hmem => (hbase '*' hmem).1 rfl, by decide⟩
  have hdrop : Text.dropSuffix? "/...".toList (base ++ "/...".toList) = some base :=
    eq_append_iff.mp rfl
  simp only [selectPlaces, hdots, hstar, hdrop, Bool.false_eq_true, if_false]

/-- A double star behind a base selects by matching paths. -/
theorem selectPlaces_doubleStar {base : List Char} (hbase : Pattern.IsLiteral base) :
    selectPlaces program (base ++ "/**".toList) =
      .ok (pathsWhere program (eitherPath (Pattern.subtree base).matchesText)) := by
  have hdots := @ofList_beq_dots (base ++ "/**".toList) (List.mem_append_right base (by decide))
  have hstar : Pattern.isPattern (String.ofList (base ++ "/**".toList)) = true :=
    isPattern_ofList.mpr (List.mem_append_right base (by decide))
  simp only [selectPlaces, hdots, hstar, Pattern.compile_subtree hbase, Bool.false_eq_true,
    if_false, if_true]

/-- Where no path has a line break, comparing paths with a base and matching them with the pattern
of the base select the same. -/
theorem pathsWhere_subtree
    (hlines : ∀ p ∈ program.packages, '\n' ∉ p.path.toList ∧ '\n' ∉ p.shortPath.toList)
    (base : List Char) :
    pathsWhere program (eitherPath (Pattern.subtree base).matchesText) =
      pathsWhere program (eitherPath fun path => isUnder base path.toList) := by
  have htest : ∀ path : String, '\n' ∉ path.toList →
      (Pattern.subtree base).matchesText path = isUnder base path.toList := by
    intro path hline
    rw [Bool.eq_iff_iff, Pattern.matchesText_subtree_iff hline, isUnder_iff]
  have hkeep : ∀ p ∈ program.packages, eitherPath (Pattern.subtree base).matchesText p =
      eitherPath (fun path => isUnder base path.toList) p := by
    intro p hp
    obtain ⟨hpath, hshort⟩ := hlines p hp
    rw [eitherPath, eitherPath, htest p.path hpath, htest p.shortPath hshort]
  rw [pathsWhere, pathsWhere, List.filter_congr hkeep]

end Subtrees

/-- Behind any base but `.` that is literal, `/...` and `/**` select the same packages. These are
the ones whose import path or path relative to the module is the place of the base, or lies below
it. -/
theorem subtree_selects_like_double_star (program : Program)
    (hlines : ∀ p ∈ program.packages, '\n' ∉ p.path.toList ∧ '\n' ∉ p.shortPath.toList)
    (target : Option String) (base : String) (hdot : base ≠ ".")
    (hbase : Pattern.IsLiteral base.toList) :
    ∃ paths, select program target (base ++ "/...") = .ok paths ∧
      select program target (base ++ "/**") = .ok paths ∧
      Finds program paths fun p => OnEitherPath p fun path => Below (placeOf base) path.toList := by
  have hplace : Pattern.IsLiteral (placeOf base) := fun c hc => hbase c (mem_of_mem_placeOf hc)
  refine ⟨pathsWhere program (eitherPath fun path => isUnder (placeOf base) path.toList),
    ?_, ?_, ?_⟩
  · rw [select_eq_selectPlaces program target (by simp), placeOf_append hdot rfl]
    exact selectPlaces_subtree program hplace
  · rw [select_eq_selectPlaces program target (by simp), placeOf_append hdot rfl,
      ← pathsWhere_subtree program hlines]
    exact selectPlaces_doubleStar program hplace
  · intro path
    simp only [mem_pathsWhere, eitherPath_iff, isUnder_iff]

/-- A package beside `store`, with paths that begin like those of `store`. -/
def storefront : Package :=
  { path := "app/storefront", shortPath := "storefront", name := "storefront" }

/-- The module `app` with the two packages side by side. -/
def storeAndFront : Program :=
  .ofPackages "app" [] [store, storefront]

/-- Both ways find a package by its path relative to the module, and leave out the one whose paths
only begin alike. -/
theorem subtree_selects_like_double_star_beside_storefront :
    ∃ paths, select storeAndFront none "./store/..." = .ok paths ∧
      select storeAndFront none "./store/**" = .ok paths ∧
      ∀ path, path ∈ paths ↔ path = "app/store" := by
  have hmem : ∀ p, p ∈ storeAndFront.packages ↔ p ∈ [store, storefront] :=
    fun _ => Program.mem_packages_ofPackages
  have hlines : ∀ p ∈ storeAndFront.packages,
      '\n' ∉ p.path.toList ∧ '\n' ∉ p.shortPath.toList := by
    have hlisted : ∀ p ∈ [store, storefront],
        '\n' ∉ p.path.toList ∧ '\n' ∉ p.shortPath.toList := by decide
    exact fun p hp => hlisted p ((hmem p).mp hp)
  obtain ⟨paths, hdots, hstars, hfinds⟩ := subtree_selects_like_double_star storeAndFront hlines
    none "./store" (by decide) (by decide)
  have hbelow : ∀ p ∈ [store, storefront],
      (OnEitherPath p fun path => Below (placeOf "./store") path.toList) ↔
        p.path = "app/store" := by decide
  refine ⟨paths, hdots, hstars, fun path => ?_⟩
  rw [hfinds path]
  constructor
  · rintro ⟨p, hp, rfl, hp'⟩
    exact (hbelow p ((hmem p).mp hp)).mp hp'
  · rintro rfl
    exact ⟨store, (hmem store).mpr List.mem_cons_self, rfl,
      (hbelow store List.mem_cons_self).mpr rfl⟩

end Scope

end GoAddress
