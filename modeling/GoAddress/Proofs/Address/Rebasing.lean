import GoAddress.Proofs.Address.Reading

/-!
# Addresses behind another import path

Resolving writes an import path in full where an address had a shorter one. This module says what
that does to the text: an address of a symbol that is read behind a path is still read behind a
longer one, and so is an import path, unless a component behind its last dot is named like a
category.
-/

namespace GoAddress.Address

/-- Two import paths with a slash between them are an import path. -/
theorem ImportPath.append {front back : List Char} (hfront : ImportPath front)
    (hback : ImportPath back) : ImportPath (front ++ '/' :: back) := by
  obtain ⟨hslash, hdot, hchars⟩ := importPath_iff.mp hfront
  obtain ⟨hslash', hdot', hchars'⟩ := importPath_iff.mp hback
  obtain ⟨before, part, first, rest, hleft, hright, hwhole⟩ :=
    Text.splitOn_append_eq '.' front ('/' :: back)
  rw [importPath_iff, Text.splitOn_append, hwhole]
  refine ⟨?_, ?_, ?_⟩
  · rw [List.mem_append, not_or]
    exact ⟨hslash, hslash'⟩
  · -- The slash stands in the part where the two paths meet.
    have hfirst : first ≠ [] ∧ [] ∉ rest := by
      obtain ⟨part', parts', hparts'⟩ := List.exists_cons_of_ne_nil (Text.splitOn_ne_nil '.' back)
      have hsplit : Text.splitOn '.' ('/' :: back) = ('/' :: part') :: parts' := by
        rw [Text.splitOn, if_neg (by decide), hparts']
      rw [hsplit] at hright
      cases hright
      rw [hparts'] at hdot'
      exact ⟨List.cons_ne_nil _ _, fun hnil => hdot' (List.mem_cons_of_mem _ hnil)⟩
    rw [List.mem_append, List.mem_cons, not_or, not_or]
    refine ⟨fun hnil => hdot (hleft ▸ List.mem_append_left _ hnil), ?_, hfirst.2⟩
    exact fun hnil => hfirst.1 (List.append_eq_nil_iff.mp hnil.symm).2
  · intro part hpart
    rcases List.mem_append.mp hpart with hpart | hpart
    · exact hchars part hpart
    · exact hchars' part hpart

/-- With more text before its package an address is written with that text before it. -/
theorem render_withPackage_append (a : Address) (front : String) :
    (a.withPackage (front ++ a.package)).render = front ++ a.render := by
  rw [← String.toList_inj, toList_render, String.toList_append, toList_render]
  simp [withPackage]

/-- An address of a symbol is well formed behind a longer import path. -/
theorem WellFormed.withPackage_append {a : Address} (h : a.WellFormed) (hsymbol : a.symbol ≠ none)
    {front : String} (hfront : ImportPath front.toList) :
    (a.withPackage (front ++ "/" ++ a.package)).WellFormed := by
  have htext : (front ++ "/" ++ a.package).toList = front.toList ++ '/' :: a.package.toList := by
    simp
  rcases h.shape with hshape | hshape
  · exact absurd hshape.symbol hsymbol
  · refine ⟨?_, Or.inr ⟨hshape.symbol, hshape.method, ?_, hshape.steps⟩⟩
    · rw [withPackage, htext]
      exact hfront.append h.package
    · intro part hpart
      refine hshape.last part ?_
      rwa [withPackage, htext, Text.getLast?_splitOn_append] at hpart

/-- A package is well formed behind a longer import path whose tail is plain. -/
theorem PackageOnly.wellFormed_append {a : Address} (h : a.PackageOnly)
    (hpath : ImportPath a.package.toList) {front : String} (hfront : ImportPath front.toList)
    (htail : PlainTail (Text.splitOn '/' (front ++ "/" ++ a.package).toList)) :
    (a.withPackage (front ++ "/" ++ a.package)).WellFormed := by
  have htext : (front ++ "/" ++ a.package).toList = front.toList ++ '/' :: a.package.toList := by
    simp
  refine ⟨?_, Or.inl ⟨h.symbol, h.method, h.subpath, htail.staysPackage ?_⟩⟩
  · rw [withPackage, htext]
    exact hfront.append hpath
  · intro part hpart
    rw [htext, Text.getLast?_splitOn_append] at hpart
    exact h.stays.dot_not_mem_last hpart

/-- An identifier stays one with letters and underscores behind it. -/
theorem isIdentifierChars_append {name suffix : List Char} (hname : isIdentifierChars name = true)
    (hsuffix : ∀ c ∈ suffix, isIdentContinue c = true) :
    isIdentifierChars (name ++ suffix) = true := by
  cases name with
  | nil => cases hname
  | cons c name =>
    rw [isIdentifierChars, Bool.and_eq_true, List.all_eq_true] at hname
    rw [List.cons_append, isIdentifierChars, Bool.and_eq_true, List.all_append, Bool.and_eq_true,
      List.all_eq_true, List.all_eq_true]
    exact ⟨hname.1, hname.2, hsuffix⟩

/-- No delimiter stands among letters and underscores. -/
theorem not_mem_of_isIdentContinue {suffix : List Char}
    (hsuffix : ∀ c ∈ suffix, isIdentContinue c = true) {d : Char} (hd : d ∈ delimiters) :
    d ∉ suffix := by
  intro hmem
  have hcontinue := hsuffix d hmem
  rw [isIdentContinue_delimiter hd] at hcontinue
  cases hcontinue

/-- An import path stays one with letters and underscores behind it. -/
theorem ImportPath.append_word {path suffix : List Char} (h : ImportPath path)
    (hsuffix : ∀ c ∈ suffix, isIdentContinue c = true) : ImportPath (path ++ suffix) := by
  obtain ⟨hslash, hdot, hchars⟩ := importPath_iff.mp h
  obtain ⟨before, part, hsplit, hwhole⟩ :=
    Text.splitOn_concat '/' path (not_mem_of_isIdentContinue hsuffix (by decide))
  obtain ⟨before', part', hsplit', hwhole'⟩ :=
    Text.splitOn_concat '.' path (not_mem_of_isIdentContinue hsuffix (by decide))
  -- The last component and the last dotted part grow, and neither was empty before.
  have hgrows : ∀ {parts : List (List Char)} {last : List Char}, [] ∉ parts ++ [last] →
      [] ∉ parts ++ [last ++ suffix] := by
    intro parts last hnone hnil
    rcases List.mem_append.mp hnil with hnil | hnil
    · exact hnone (List.mem_append_left _ hnil)
    · have hlast := (List.append_eq_nil_iff.mp (List.mem_singleton.mp hnil).symm).1
      exact hnone (by simp [hlast])
  rw [importPath_iff, hwhole, hwhole']
  refine ⟨hgrows (hsplit ▸ hslash), hgrows (hsplit' ▸ hdot), ?_⟩
  intro x hx c hc
  rcases List.mem_append.mp hx with hx | hx
  · exact hchars x (hsplit ▸ List.mem_append_left _ hx) c hc
  · rw [List.mem_singleton.mp hx, List.mem_append] at hc
    rcases hc with hc | hc
    · exact hchars part (hsplit ▸ by simp) c hc
    · exact isPackageChar_of_isIdentContinue (hsuffix c hc)

/-- A path that carries symbols carries them with letters and underscores behind it. -/
theorem CarriesSymbols.append_word {path suffix : List Char} (h : CarriesSymbols path)
    (hsuffix : ∀ c ∈ suffix, isIdentContinue c = true) : CarriesSymbols (path ++ suffix) := by
  refine ⟨h.importPath.append_word hsuffix, ?_⟩
  rcases h.last with hlast | ⟨base, version, rfl, hversion, hlast⟩
  · left
    obtain ⟨before, part, hsplit, hwhole⟩ :=
      Text.splitOn_concat '/' path (not_mem_of_isIdentContinue hsuffix (by decide))
    have hdot := hlast part (by rw [hsplit, List.getLast?_concat])
    intro x hx
    rw [hwhole, List.getLast?_concat] at hx
    cases hx
    rw [List.mem_append, not_or]
    exact ⟨hdot, not_mem_of_isIdentContinue hsuffix (by decide)⟩
  · right
    refine ⟨base, version ++ suffix, ?_, isIdentifierChars_append hversion hsuffix, hlast⟩
    rw [List.append_assoc, List.cons_append]

end GoAddress.Address
