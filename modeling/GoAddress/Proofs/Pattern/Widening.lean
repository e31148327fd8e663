import GoAddress.Proofs.Address.Reading
import GoAddress.Proofs.Pattern.Matching

/-!
# Widening a star

A star that stands alone can be doubled. The double star takes a slash next to it, so that the
tokens around it may change: the slash before it or behind it becomes part of a wildcard, and a
trailing path behind it becomes a double star of its own. Main statement: whatever the tokens
become, the pattern is still one, and it loses no match on one line.
-/

namespace GoAddress.Pattern

/-! ## Tokens that spell more -/

/-- Whether tokens spell, of the texts on one line, all that other tokens spell. -/
def Covers (wide narrow : List PatternToken) : Prop :=
  ∀ text, '\n' ∉ text → Spells narrow text → Spells wide text

/-- One token spells the texts that it stands for. -/
theorem spells_singleton {token : PatternToken} {text : List Char} :
    Spells [token] text ↔ Denotes token text := by
  simp [spells_cons, spells_nil]

/-- A text that tokens spell is cut between any two of them. -/
theorem spells_append {front back : List PatternToken} {text : List Char} :
    Spells (front ++ back) text ↔ ∃ u v, Spells front u ∧ Spells back v ∧ text = u ++ v := by
  induction front generalizing text with
  | nil => simp [spells_nil]
  | cons token front ih =>
    rw [List.cons_append, spells_cons]
    constructor
    · rintro ⟨u, rest, hu, hrest, rfl⟩
      obtain ⟨v, v', hv, hv', rfl⟩ := ih.mp hrest
      exact ⟨u ++ v, v', spells_cons.mpr ⟨u, v, hu, hv, rfl⟩, hv', (List.append_assoc u v v').symm⟩
    · rintro ⟨uv, v', huv, hv', rfl⟩
      obtain ⟨u, v, hu, hv, rfl⟩ := spells_cons.mp huv
      exact ⟨u, v ++ v', hu, ih.mpr ⟨v, v', hv, hv', rfl⟩, List.append_assoc u v v'⟩

namespace Covers

/-- Tokens spell what they spell. -/
theorem refl (tokens : List PatternToken) : Covers tokens tokens :=
  fun _ _ h => h

/-- What covers part by part covers the whole. -/
theorem append {wide narrow wide' narrow' : List PatternToken} (h : Covers wide narrow)
    (h' : Covers wide' narrow') : Covers (wide ++ wide') (narrow ++ narrow') := by
  intro text hline hspells
  obtain ⟨u, v, hu, hv, rfl⟩ := spells_append.mp hspells
  rw [List.mem_append, not_or] at hline
  exact spells_append.mpr ⟨u, v, h u hline.1 hu, h' v hline.2 hv, rfl⟩

/-- The same token in front of both changes nothing. -/
theorem cons {wide narrow : List PatternToken} (token : PatternToken) (h : Covers wide narrow) :
    Covers (token :: wide) (token :: narrow) :=
  (refl [token]).append h

/-- A double star spells what a star spells. -/
theorem deepStar_star : Covers [.deepStar] [.star] := by
  intro text hline _
  exact spells_singleton.mpr hline

/-- A leading path spells a star and the slash behind it. -/
theorem leadingPath_star_slash : Covers [.leadingPath] [.star, .literal '/'] := by
  intro text hline hspells
  obtain ⟨u, v, -, hv, rfl⟩ := spells_cons.mp hspells
  obtain rfl : v = ['/'] := spells_singleton.mp hv
  exact spells_singleton.mpr (Or.inr ⟨hline, by simp⟩)

/-- A leading path and a double star spell a star and the trailing path behind it. -/
theorem leadingPath_deepStar_star_trailingPath :
    Covers [.leadingPath, .deepStar] [.star, .trailingPath] := by
  intro text hline hspells
  obtain ⟨u, v, -, hv, rfl⟩ := spells_cons.mp hspells
  rcases spells_singleton.mp hv with rfl | ⟨-, hslash⟩
  · -- Without a trailing path the double star takes the text of the star.
    refine spells_cons.mpr ⟨[], u ++ [], Or.inl rfl, spells_singleton.mpr hline, rfl⟩
  · obtain ⟨rest, rfl⟩ := List.head?_eq_some_iff.mp hslash
    simp only [List.mem_append, List.mem_cons, not_or] at hline
    refine spells_cons.mpr ⟨u ++ ['/'], rest, Or.inr ⟨?_, by simp⟩,
      spells_singleton.mpr hline.2.2, by simp⟩
    simpa using hline.1

/-- A trailing path spells a slash and the star behind it. -/
theorem trailingPath_slash_star : Covers [.trailingPath] [.literal '/', .star] := by
  intro text hline hspells
  obtain ⟨u, v, hu, -, rfl⟩ := spells_cons.mp hspells
  obtain rfl : u = ['/'] := hu
  exact spells_singleton.mpr (Or.inr ⟨hline, rfl⟩)

end Covers

/-! ## Doubling a star -/

section Doubling

variable {before after : List Char}

/-- A double star at the front covers a star. A slash behind it goes from the text, or from the
trailing path that it begins, to the double star. -/
theorem covers_doubled_star (hafter : after.head? ≠ some '*') :
    Covers (tokenize ('*' :: '*' :: after)) (tokenize ('*' :: after)) := by
  rw [← (Reads.star hafter (reads_tokenize after)).eq_tokenize]
  by_cases hslash : after.head? = some '/'
  · obtain ⟨rest, rfl⟩ := List.head?_eq_some_iff.mp hslash
    rw [← (Reads.leadingPath (reads_tokenize rest)).eq_tokenize]
    by_cases hdeep : GoesDeep rest
    · obtain ⟨more, rfl, hmore⟩ := hdeep
      rw [← (Reads.trailingPath hmore (reads_tokenize more)).eq_tokenize,
        ← (Reads.deepStar hmore (reads_tokenize more)).eq_tokenize]
      exact Covers.leadingPath_deepStar_star_trailingPath.append (.refl _)
    · rw [tokenize_cons (by decide) fun _ => hdeep]
      exact Covers.leadingPath_star_slash.append (.refl _)
  · rw [← (Reads.deepStar hslash (reads_tokenize after)).eq_tokenize]
    exact Covers.deepStar_star.append (.refl _)

/-- A star behind a slash can be doubled. The double star takes the slash, unless it takes the one
behind it. -/
theorem covers_slash_doubled_star (hafter : after.head? ≠ some '*') :
    Covers (tokenize ('/' :: '*' :: '*' :: after)) (tokenize ('/' :: '*' :: after)) := by
  have hsingle : ¬ GoesDeep ('*' :: after) := by
    rintro ⟨rest, heq, -⟩
    exact hafter (by rw [(List.cons.inj heq).2]; rfl)
  rw [tokenize_cons (by decide) fun _ => hsingle]
  by_cases hslash : after.head? = some '/'
  · have htaken : ¬ GoesDeep ('*' :: '*' :: after) := by
      rintro ⟨rest, heq, hrest⟩
      simp only [List.cons.injEq, true_and] at heq
      exact hrest (heq ▸ hslash)
    rw [tokenize_cons (by decide) fun _ => htaken]
    exact (covers_doubled_star hafter).cons _
  · rw [← (Reads.trailingPath hslash (reads_tokenize after)).eq_tokenize,
      ← (Reads.star hafter (reads_tokenize after)).eq_tokenize]
    exact Covers.trailingPath_slash_star.append (.refl _)

/-- A text that neither begins with a double star nor is a star alone begins with none, whatever
follows it. -/
theorem not_goesDeep_append (hne : before ≠ []) (hbefore : ¬ ['*'] <:+ before)
    (hdeep : ∀ rest, before ≠ '*' :: '*' :: rest) {more : List Char} :
    ¬ GoesDeep (before ++ more) := by
  rintro ⟨rest, heq, -⟩
  cases before with
  | nil => exact hne rfl
  | cons c before =>
    obtain ⟨rfl, hsecond⟩ := List.cons.inj heq
    cases before with
    | nil => exact hbefore (List.suffix_refl ['*'])
    | cons d before =>
      obtain ⟨rfl, -⟩ := List.cons.inj hsecond
      exact hdeep before rfl

/-- A star that stands alone can be doubled anywhere in a text: the tokens of the doubled text cover
those of the text. -/
theorem covers_doubled (hbefore : ¬ ['*'] <:+ before) (hafter : after.head? ≠ some '*') :
    Covers (tokenize (before ++ '*' :: '*' :: after)) (tokenize (before ++ '*' :: after)) := by
  have hend : ∀ {front rest : List Char}, ¬ ['*'] <:+ front ++ rest → ¬ ['*'] <:+ rest :=
    fun h hrest => h (hrest.trans (List.suffix_append _ _))
  -- Behind a star that ends a token something follows, and both texts go on with it.
  have hgoes : ∀ {front rest : List Char}, ¬ ['*'] <:+ front ++ '*' :: rest → rest ≠ [] := by
    rintro front rest h rfl
    exact h (List.suffix_append front ['*'])
  have hhead : ∀ {c : Char} {rest : List Char}, rest ≠ [] → (∀ more, rest ≠ c :: more) →
      ∀ more, (rest ++ more).head? ≠ some c := by
    intro c rest hne hnext more
    rw [List.head?_append_of_ne_nil _ hne]
    exact head?_ne_some_iff.mpr hnext
  fun_induction tokenize before with
  | case1 rest ih =>
    have hrest := @hend ['*', '*', '/'] rest hbefore
    simp only [List.cons_append, tokenize]
    exact (ih hrest).cons _
  | case2 rest ih =>
    have hrest := @hend ['/', '*', '*', '/'] rest hbefore
    simp only [List.cons_append, tokenize]
    exact ((ih hrest).cons _).cons _
  | case3 rest hnext ih =>
    have hrest := @hend ['/', '*', '*'] rest hbefore
    have hnext := hhead (@hgoes ['/', '*'] rest hbefore) hnext
    simp only [List.cons_append, ← (Reads.trailingPath (hnext _) (reads_tokenize _)).eq_tokenize]
    exact (ih hrest).cons _
  | case4 rest hnext ih =>
    have hrest := @hend ['*', '*'] rest hbefore
    have hnext := hhead (@hgoes ['*'] rest hbefore) hnext
    simp only [List.cons_append, ← (Reads.deepStar (hnext _) (reads_tokenize _)).eq_tokenize]
    exact (ih hrest).cons _
  | case5 rest _ hnext ih =>
    have hrest := @hend ['*'] rest hbefore
    have hnext := hhead (@hgoes [] rest hbefore) hnext
    simp only [List.cons_append, ← (Reads.star (hnext _) (reads_tokenize _)).eq_tokenize]
    exact (ih hrest).cons _
  | case6 c rest _ _ hdeep _ hstar ih =>
    have hrest := @hend [c] rest hbefore
    by_cases hslash : c = '/' ∧ rest = []
    · obtain ⟨rfl, rfl⟩ := hslash
      exact covers_slash_doubled_star hafter
    · have hshallow : c = '/' → ∀ more, ¬ GoesDeep (rest ++ more) := fun hc more =>
        not_goesDeep_append (fun hnil => hslash ⟨hc, hnil⟩) hrest fun deep => hdeep deep hc
      rw [List.cons_append, List.cons_append, tokenize_cons hstar fun hc => hshallow hc _,
        tokenize_cons hstar fun hc => hshallow hc _]
      exact (ih hrest).cons _
  | case7 => exact covers_doubled_star hafter

/-- Doubling a star that stands alone makes no run of three stars. -/
theorem not_stars_infix_doubled (hbefore : ¬ ['*'] <:+ before) (hafter : after.head? ≠ some '*')
    (h : ¬ ['*', '*', '*'] <:+: before ++ '*' :: after) :
    ¬ ['*', '*', '*'] <:+: before ++ '*' :: '*' :: after := by
  induction before with
  | nil =>
    intro hrun
    rcases List.infix_cons_iff.mp hrun with hfirst | hrest
    · simp only [List.cons_prefix_cons, true_and] at hfirst
      obtain ⟨more, hmore⟩ := hfirst
      exact hafter (by rw [← hmore]; rfl)
    · exact h hrest
  | cons c before ih =>
    intro hrun
    rcases List.infix_cons_iff.mp hrun with hfirst | hrest
    · -- The run would lie before the star, or reach up to it.
      rcases List.prefix_or_prefix_of_prefix hfirst (List.prefix_append (c :: before) _) with
        hinside | hwhole
      · exact h ((hinside.trans (List.prefix_append _ _)).isInfix)
      · obtain ⟨front, last, hlast⟩ :=
          (List.eq_nil_or_concat' (c :: before)).resolve_left (List.cons_ne_nil c before)
        have hstar : last = '*' := by
          have hmem : last ∈ ['*', '*', '*'] := hwhole.subset (by rw [hlast]; simp)
          simpa using hmem
        exact hbefore ⟨front, by rw [hlast, hstar]⟩
    · exact ih (fun hend => hbefore (hend.trans (List.suffix_cons c before)))
        (fun hrun => h (hrun.trans (List.suffix_cons c _).isInfix)) hrest

/-- A pattern stays one when a star that stands alone is doubled. -/
theorem WellFormed.doubled (hbefore : ¬ ['*'] <:+ before) (hafter : after.head? ≠ some '*')
    (h : WellFormed (before ++ '*' :: after)) : WellFormed (before ++ '*' :: '*' :: after) := by
  refine ⟨⟨'*', by simp, by decide⟩, not_stars_infix_doubled hbefore hafter h.starRuns, ?_⟩
  simpa [BracketsPaired] using h.brackets

end Doubling

/-- Whatever matches as an address stands on one line. -/
theorem newline_not_mem_of_matchesAddress {p : Pattern} {text : String}
    (h : p.matchesAddress text = true) : '\n' ∉ text.toList := by
  obtain ⟨-, haddress⟩ := Bool.and_eq_true_iff.mp h
  cases hparse : Address.parse text with
  | error e =>
    rw [Address.parse?, hparse] at haddress
    cases haddress
  | ok a =>
    obtain ⟨hwell, rfl⟩ := Address.parse_eq_ok_iff.mp hparse
    intro hmem
    have hblank := hwell.isBlank_of_mem_render hmem
    exact absurd hblank (by decide)

/-- Widening a star loses no match: where a star with no other star next to it is doubled, the text
is still a pattern, and it matches every address, and every text on one line, that it matched
before. -/
theorem doubled_star_keeps_matches {before after : String} (hbefore : ¬ ['*'] <:+ before.toList)
    (hafter : ¬ ['*'] <+: after.toList) {p : Pattern}
    (h : compile (before ++ "*" ++ after) = .ok p) :
    ∃ q, compile (before ++ "**" ++ after) = .ok q ∧
      (∀ text, p.matchesAddress text = true → q.matchesAddress text = true) ∧
      ∀ text : String, '\n' ∉ text.toList → p.matchesText text = true →
        q.matchesText text = true := by
  have hhead : after.toList.head? ≠ some '*' := by
    intro hhead
    obtain ⟨rest, hrest⟩ := List.head?_eq_some_iff.mp hhead
    exact hafter (by simp [hrest])
  have hsingle : (before ++ "*" ++ after).toList = before.toList ++ '*' :: after.toList := by simp
  have hdouble : (before ++ "**" ++ after).toList =
      before.toList ++ '*' :: '*' :: after.toList := by simp
  obtain ⟨hwell, rfl⟩ := compile_eq_ok_iff.mp h
  rw [hsingle] at hwell ⊢
  have hcompile : compile (before ++ "**" ++ after) =
      .ok ⟨_, tokenize (before.toList ++ '*' :: '*' :: after.toList)⟩ :=
    compile_eq_ok_iff.mpr ⟨hdouble ▸ hwell.doubled hbefore hhead, by rw [hdouble]⟩
  have hcovers := covers_doubled hbefore hhead
  refine ⟨_, hcompile, ?_, ?_⟩
  · intro text hmatch
    have hline := newline_not_mem_of_matchesAddress hmatch
    obtain ⟨htext, haddress⟩ := Bool.and_eq_true_iff.mp hmatch
    have hspells := hcovers text.toList hline (matchesText_iff.mp htext)
    exact Bool.and_eq_true_iff.mpr ⟨matchesText_iff.mpr hspells, haddress⟩
  · intro text hline hmatch
    exact matchesText_iff.mpr (hcovers text.toList hline (matchesText_iff.mp hmatch))

/-- A star between a slash and a trailing path is widened: the double star takes the slash of the
path, and what both matched is matched still. -/
theorem doubled_star_keeps_matches_before_trailing_path :
    compile "app/*/**" =
        .ok ⟨"app/*/**", [.literal 'a', .literal 'p', .literal 'p', .literal '/', .star,
          .trailingPath]⟩ ∧
      ∃ q, compile "app/**/**" = .ok q ∧ q.matchesAddress "app/store" = true ∧
        q.matchesAddress "app/store/sql.Open" = true ∧ q.matchesText "app/a b/c" = true := by
  have hcompile : compile "app/*/**" =
      .ok ⟨"app/*/**", [.literal 'a', .literal 'p', .literal 'p', .literal '/', .star,
        .trailingPath]⟩ := by decide +kernel
  obtain ⟨q, hq, haddress, htext⟩ :=
    @doubled_star_keeps_matches "app/" "/**" (by decide) (by decide) _ hcompile
  exact ⟨hcompile, q, hq, haddress _ (by decide +kernel), haddress _ (by decide +kernel),
    htext _ (by decide) (by decide +kernel)⟩

end GoAddress.Pattern
