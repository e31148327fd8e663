import GoAddress.Proofs.Order
import GoAddress.Proofs.Scope.Token

/-!
# Which packages are in scope

Reading tokens gathers two sets of paths, those that some token adds and those that some token
takes away. Main statements: a scope expression fails on a faulty token only, and otherwise selects
the packages that its tokens say, whatever their order; asking whether a package is in scope and
listing the packages in scope agree wherever the import path is no other package's short path.
-/

namespace GoAddress.Scope

/-- Whether a token selects the package of a path. -/
def SelectsPath (program : Program) (target : Option String) (token : List Char) (path : String) :
    Prop :=
  ∃ p ∈ program.packages, p.path = path ∧ Selects program target (body token) p

/-- What reading tokens without fault does to a scope. -/
structure Gathers (program : Program) (target : Option String) (tokens : List (List Char))
    (before after : Scope) : Prop where
  /-- Tokens without a minus add the paths that they select. -/
  included : ∀ path, path ∈ after.included ↔ path ∈ before.included ∨
    ∃ token ∈ tokens, ¬ IsExclusion token ∧ SelectsPath program target token path
  /-- Tokens with a minus take away the paths that they select. -/
  excluded : ∀ path, path ∈ after.excluded ↔ path ∈ before.excluded ∨
    ∃ token ∈ tokens, IsExclusion token ∧ SelectsPath program target token path
  /-- Added paths stay in order. -/
  ordered : before.included.Pairwise (· < ·) → after.included.Pairwise (· < ·)
  /-- Short paths keep their meaning. -/
  aliases : after.aliases = before.aliases

section Gathering

variable {program : Program} {target : Option String} {before after : Scope}

/-- No tokens change nothing. -/
theorem Gathers.nil (scope : Scope) : Gathers program target [] scope scope where
  included path := by simp
  excluded path := by simp
  ordered h := h
  aliases := rfl

/-- A token changes one of the two sets, and the tokens behind it go on from there. -/
theorem Gathers.cons {token : List Char} {tokens : List (List Char)} {read : ScopeToken}
    {selected : List String} (hnegated : read.negated = true ↔ IsExclusion token)
    (hfinds : Finds program selected (Selects program target (body token)))
    (h : Gathers program target tokens (add before read selected) after) :
    Gathers program target (token :: tokens) before after := by
  have hselected : ∀ path, path ∈ selected ↔ SelectsPath program target token path := hfinds
  by_cases hminus : IsExclusion token
  · have hadd : add before read selected =
        { before with excludePatterns := before.excludePatterns ++ [read.text]
                      excluded := sortedSet (before.excluded ++ selected) } :=
      if_pos (hnegated.mpr hminus)
    rw [hadd] at h
    refine ⟨fun path => ?_, fun path => ?_, h.ordered, h.aliases⟩
    · rw [h.included path]
      simp [hminus]
    · rw [h.excluded path]
      simp [mem_sortedSet, hselected, hminus, or_assoc]
  · have hadd : add before read selected =
        { before with includePatterns := before.includePatterns ++ [read.text]
                      included := sortedSet (before.included ++ selected) } :=
      if_neg (mt hnegated.mp hminus)
    rw [hadd] at h
    refine ⟨fun path => ?_, fun path => ?_, fun _ => h.ordered (pairwise_sortedSet _), h.aliases⟩
    · rw [h.included path]
      simp [mem_sortedSet, hselected, hminus, or_assoc]
    · rw [h.excluded path]
      simp [hminus]

/-- Remarks on tokens come in their order. -/
theorem remarksOn_cons (token : List Char) (tokens : List (List Char)) :
    remarksOn program target (token :: tokens) =
      remarksOn program target [token] ++ remarksOn program target tokens := by
  rw [remarksOn, ← List.singleton_append, List.filter_append, List.map_append]
  rfl

/-- Reading tokens fails if one of them is faulty, and otherwise gathers what they select. -/
theorem readTokens_cases (program : Program) (target : Option String) (scope : Scope)
    (tokens : List (List Char)) :
    ((∃ token ∈ tokens, Faulty target token) ∧
      ∃ e, (readTokens program target scope tokens).2 = .error e) ∨
    (∀ token ∈ tokens, ¬ Faulty target token) ∧
      ∃ after, readTokens program target scope tokens =
        (remarksOn program target tokens, .ok after) ∧
        Gathers program target tokens scope after := by
  induction tokens generalizing scope with
  | nil => exact Or.inr ⟨by simp, scope, rfl, .nil scope⟩
  | cons token tokens ih =>
    rcases readTokens_cons_cases program target token with ⟨hfaulty, hstop⟩ |
      ⟨hsound, read, selected, hnegated, hfinds, hstep⟩
    · obtain ⟨e, he⟩ := hstop scope tokens
      exact Or.inl ⟨⟨token, List.mem_cons_self, hfaulty⟩, e, by rw [he]⟩
    · rw [hstep scope tokens]
      rcases ih (add scope read selected) with ⟨⟨other, hmem, hfaulty⟩, e, he⟩ |
        ⟨hrest, after, hread, hgathers⟩
      · exact Or.inl ⟨⟨other, List.mem_cons_of_mem token hmem, hfaulty⟩, e, he⟩
      · refine Or.inr ⟨List.forall_mem_cons.mpr ⟨hsound, hrest⟩, after, ?_,
          hgathers.cons hnegated hfinds⟩
        rw [hread, remarksOn_cons token tokens]

end Gathering

/-- The paths in scope are those that are added and not taken away. -/
theorem mem_packages {scope : Scope} {path : String} :
    path ∈ scope.packages ↔ path ∈ scope.included ∧ path ∉ scope.excluded := by
  simp [packages]

/-- A package is in scope if some token adds it and none takes it away. -/
def InScope (program : Program) (target : Option String) (tokens : List (List Char))
    (p : Package) : Prop :=
  (∃ token ∈ tokens, ¬ IsExclusion token ∧ Selects program target (body token) p) ∧
    ∀ token ∈ tokens, IsExclusion token → ¬ Selects program target (body token) p

instance {program : Program} {target : Option String} {tokens : List (List Char)} :
    DecidablePred (InScope program target tokens) :=
  fun _ => inferInstanceAs (Decidable (_ ∧ _))

/-- A scope expression fails if one of its tokens is faulty, and otherwise gathers what they
select. -/
theorem parse_cases (program : Program) (target : Option String) (expr : String) :
    ((∃ token ∈ tokensOf expr, Faulty target token) ∧
      ∃ e, (parse program target expr).2 = .error e) ∨
    (∀ token ∈ tokensOf expr, ¬ Faulty target token) ∧
      ∃ scope, parse program target expr = (remarksOn program target (tokensOf expr), .ok scope) ∧
        Gathers program target (tokensOf expr) (start program (expressionOf expr)) scope := by
  have hcases := readTokens_cases program target (start program (expressionOf expr))
    (rawTokens (expressionOf expr))
  rw [rawTokens_expressionOf] at hcases
  simpa only [parse, rawTokens_expressionOf] using hcases

/-- An expression without faulty tokens is read. -/
theorem exists_parse_eq_ok {program : Program} {target : Option String} {expr : String}
    (h : ∀ token ∈ tokensOf expr, ¬ Faulty target token) :
    ∃ scope, (parse program target expr).2 = .ok scope := by
  rcases parse_cases program target expr with ⟨⟨token, hmem, hfaulty⟩, -⟩ | ⟨-, scope, hparse, -⟩
  · exact absurd hfaulty (h token hmem)
  · exact ⟨scope, by rw [hparse]⟩

/-- What a successful reading has gathered. -/
theorem gathers_of_parse {program : Program} {target : Option String} {expr : String}
    {scope : Scope} (h : (parse program target expr).2 = .ok scope) :
    (∀ token ∈ tokensOf expr, ¬ Faulty target token) ∧
      (parse program target expr).1 = remarksOn program target (tokensOf expr) ∧
      Gathers program target (tokensOf expr) (start program (expressionOf expr)) scope := by
  rcases parse_cases program target expr with ⟨-, e, he⟩ | ⟨hsound, made, hparse, hgathers⟩
  · rw [he] at h
    cases h
  · rw [hparse] at h
    cases h
    exact ⟨hsound, by rw [hparse], hgathers⟩

/-- Where import paths are distinct, the paths gathered from nothing are those of the packages in
scope, in strict order. -/
theorem Gathers.packages {program : Program} (hpaths : (program.packages.map (·.path)).Nodup)
    {target : Option String} {tokens : List (List Char)} {expression : String} {scope : Scope}
    (h : Gathers program target tokens (start program expression) scope) :
    scope.packages.Pairwise (· < ·) ∧
      ∀ path, path ∈ scope.packages ↔
        ∃ p ∈ program.packages, p.path = path ∧ InScope program target tokens p := by
  refine ⟨(h.ordered List.Pairwise.nil).filter _, fun path => ?_⟩
  rw [mem_packages, h.included path, h.excluded path]
  have hincluded : path ∉ (start program expression).included := List.not_mem_nil
  have hexcluded : path ∉ (start program expression).excluded := List.not_mem_nil
  simp only [hincluded, hexcluded, false_or]
  constructor
  · rintro ⟨⟨token, hmem, hminus, p, hp, hpath, hselects⟩, hnone⟩
    refine ⟨p, hp, hpath, ⟨token, hmem, hminus, hselects⟩, fun other hother hminus' hselects' => ?_⟩
    exact hnone ⟨other, hother, hminus', p, hp, hpath, hselects'⟩
  · rintro ⟨p, hp, hpath, ⟨token, hmem, hminus, hselects⟩, hnone⟩
    refine ⟨⟨token, hmem, hminus, p, hp, hpath, hselects⟩, ?_⟩
    rintro ⟨other, hother, hminus', q, hq, hpath', hselects'⟩
    -- Distinct paths tell packages apart, so that no other package is taken away in its place.
    have hsame : q = p := List.inj_on_of_nodup_map hpaths hq hp (hpath'.trans hpath.symm)
    exact hnone other hother hminus' (hsame ▸ hselects')

/-- Scope expressions mean what their tokens say. An expression fails just on a faulty token.
Otherwise its packages are listed in order: those that some token adds and no token takes away; and
the remarks name the tokens that select nothing. The order of the tokens makes no difference. -/
theorem parse_means_what_tokens_say (program : Program)
    (hpaths : (program.packages.map (·.path)).Nodup) (target : Option String) (expr : String) :
    ((∃ e, (parse program target expr).2 = .error e) ↔
      ∃ token ∈ tokensOf expr, Faulty target token) ∧
    (∀ scope, (parse program target expr).2 = .ok scope →
      (scope.packages.Pairwise (· < ·) ∧
        ∀ path, path ∈ scope.packages ↔
          ∃ p ∈ program.packages, p.path = path ∧ InScope program target (tokensOf expr) p) ∧
      (parse program target expr).1 = remarksOn program target (tokensOf expr)) ∧
    ∀ other, (tokensOf other).Perm (tokensOf expr) →
      ∀ scope, (parse program target expr).2 = .ok scope →
        ∃ scope', (parse program target other).2 = .ok scope' ∧
          scope'.packages = scope.packages ∧
          (parse program target other).1.Perm (parse program target expr).1 := by
  refine ⟨?_, ?_, ?_⟩
  · rcases parse_cases program target expr with ⟨hfaulty, herror⟩ | ⟨hsound, scope, hparse, -⟩
    · exact iff_of_true herror hfaulty
    · refine iff_of_false ?_ ?_
      · rintro ⟨e, he⟩
        rw [hparse] at he
        cases he
      · rintro ⟨token, hmem, hfaulty⟩
        exact hsound token hmem hfaulty
  · intro scope hscope
    obtain ⟨-, hremarks, hgathers⟩ := gathers_of_parse hscope
    exact ⟨hgathers.packages hpaths, hremarks⟩
  · intro other hperm scope hscope
    obtain ⟨hsound, hremarks, hgathers⟩ := gathers_of_parse hscope
    obtain ⟨hordered, hmem⟩ := hgathers.packages hpaths
    rcases parse_cases program target other with ⟨⟨token, htoken, hfaulty⟩, -⟩ |
      ⟨-, scope', hparse', hgathers'⟩
    · exact absurd hfaulty (hsound token (hperm.mem_iff.mp htoken))
    · obtain ⟨hordered', hmem'⟩ := hgathers'.packages hpaths
      refine ⟨scope', by rw [hparse'], eq_of_pairwise_lt hordered' hordered fun path => ?_, ?_⟩
      · rw [hmem', hmem]
        simp only [InScope, hperm.mem_iff]
      · rw [hparse', hremarks]
        exact (hperm.filter _).map _

/-- A package of the module `app`. -/
def store : Package :=
  { path := "app/store", shortPath := "store", name := "store" }

/-- A package of the same module, in a directory that is named like the module. -/
def nestedStore : Package :=
  { path := "app/app/store", shortPath := "app/store", name := "store" }

/-- The module `app`: the short path of one package is the import path of the other. -/
def stores : Program :=
  .ofPackages "app" [] [nestedStore, store]

/-- The packages of the module are in order. -/
theorem packages_stores : stores.packages = [nestedStore, store] :=
  sortOn_of_pairwise _ (by decide +kernel)

/-- The import paths of the module are distinct. -/
theorem nodup_paths_stores : (stores.packages.map (·.path)).Nodup := by
  rw [packages_stores]
  decide +kernel

/-- An exclusion that stands first still wins. -/
theorem parse_means_what_tokens_say_of_exclusion :
    (stores.packages.map (·.path)).Nodup ∧
      ∃ scope, (parse stores none "-app/app/... , all").2 = .ok scope ∧
        ∀ path, path ∈ scope.packages ↔ path = "app/store" := by
  refine ⟨nodup_paths_stores, ?_⟩
  obtain ⟨scope, hparse⟩ := @exists_parse_eq_ok stores none "-app/app/... , all" (by decide +kernel)
  obtain ⟨⟨-, hmem⟩, -⟩ := (parse_means_what_tokens_say stores nodup_paths_stores none
    "-app/app/... , all").2.1 scope hparse
  have hscope : ∀ p ∈ [nestedStore, store],
      InScope stores none (tokensOf "-app/app/... , all") p ↔ p.path = "app/store" := by
    decide +kernel
  refine ⟨scope, hparse, fun path => ?_⟩
  rw [hmem path, packages_stores]
  constructor
  · rintro ⟨p, hp, rfl, hin⟩
    exact (hscope p hp).mp hin
  · rintro rfl
    exact ⟨store, by decide, rfl, (hscope store (by decide)).mpr rfl⟩

/-- The last package with a short path, if that is not empty. -/
def lastNamed (program : Program) (name : String) : Option Package :=
  (program.packages.filter fun p => !p.shortPath.isEmpty && p.shortPath == name).getLast?

/-- The last of several entries with one key is found first from the end. -/
theorem lookup_reverse_map (packages : List Package) (name : String) :
    (packages.map fun p => (p.shortPath, p.path)).reverse.lookup name =
      ((packages.filter (·.shortPath == name)).getLast?).map (·.path) := by
  induction packages using List.reverseRecOn with
  | nil => rfl
  | append_singleton packages p ih =>
    rw [List.map_append, List.reverse_append, List.filter_append]
    by_cases h : p.shortPath = name
    · simp [h]
    · have hne : (name == p.shortPath) = false := beq_eq_false_iff_ne.mpr (Ne.symm h)
      simp [h, hne, List.lookup_cons, ih]

/-- A short path stands for the last package that has it. -/
theorem lookup_aliases (program : Program) (expression name : String) :
    (start program expression).aliases.lookup name =
      (lastNamed program name).map (·.path) := by
  rw [start, lookup_reverse_map, List.filter_filter, lastNamed]
  simp only [Bool.and_comm]

/-- A path is asked for in place of the last package that has it as its short path, if there is
one. -/
theorem contains_iff_mem_packages {program : Program} {target : Option String} {expr : String}
    {scope : Scope} (h : (parse program target expr).2 = .ok scope) (path : String) :
    scope.contains path = true ↔
      ((lastNamed program path).map (·.path)).getD path ∈ scope.packages := by
  have haliases := (gathers_of_parse h).2.2.aliases
  rw [contains, haliases, lookup_aliases, mem_packages]
  simp

/-- Asking whether a package is in scope by its import path is asking for the last package that has
this path as its short path. So it agrees with the list of packages in scope where no other package
has the import path as its short path. -/
theorem contains_agrees_with_packages (program : Program) (target : Option String) (expr : String)
    (scope : Scope) (h : (parse program target expr).2 = .ok scope) :
    ∀ p ∈ program.packages,
      (scope.contains p.path = true ↔
        ((lastNamed program p.path).getD p).path ∈ scope.packages) ∧
      ((∀ q ∈ program.packages, q.shortPath = p.path → q.path = p.path) →
        (scope.contains p.path = true ↔ p.path ∈ scope.packages)) := by
  intro p hp
  have hcontains := contains_iff_mem_packages h p.path
  rw [Option.getD_map] at hcontains
  refine ⟨hcontains, fun hshort => ?_⟩
  have hself : ((lastNamed program p.path).getD p).path = p.path := by
    cases hlast : lastNamed program p.path with
    | none => rfl
    | some q =>
      obtain ⟨hq, hname⟩ := List.mem_filter.mp (List.mem_of_getLast? hlast)
      rw [Bool.and_eq_true, beq_iff_eq] at hname
      exact hshort q hq hname.2
  rw [hcontains, hself]

/-- A package is found by its import path where no package has that short path. -/
theorem contains_agrees_with_packages_of_nested_package :
    ∃ scope, (parse stores none "all").2 = .ok scope ∧
      (scope.contains "app/app/store" = true ↔ "app/app/store" ∈ scope.packages) := by
  obtain ⟨scope, hparse⟩ := @exists_parse_eq_ok stores none "all" (by decide +kernel)
  have hagrees := contains_agrees_with_packages stores none "all" scope hparse
  rw [packages_stores] at hagrees
  exact ⟨scope, hparse, (hagrees nestedStore (by decide)).2 (by decide +kernel)⟩

/-- A package whose import path is another one's short path is listed in its own scope, and is not
found there. -/
theorem packages_lists_what_contains_denies :
    (stores.packages.map (·.path)).Nodup ∧
      ∃ scope, (parse stores none "app/store").2 = .ok scope ∧
        ∃ p ∈ stores.packages, p.path ∈ scope.packages ∧ scope.contains p.path = false := by
  refine ⟨nodup_paths_stores, ?_⟩
  obtain ⟨scope, hparse⟩ := @exists_parse_eq_ok stores none "app/store" (by decide +kernel)
  obtain ⟨-, hmem⟩ := (gathers_of_parse hparse).2.2.packages nodup_paths_stores
  have htokens : tokensOf "app/store" = ["app/store".toList] := by decide +kernel
  have hbody : body "app/store".toList = "app/store" := by decide +kernel
  have hminus : ¬ IsExclusion "app/store".toList := by decide +kernel
  -- The token selects the package with the import path, which answers before any short path.
  have hlookup : stores.package? "app/store" = some store :=
    @Program.package?_path "app" [] [nestedStore, store] (by decide +kernel) store (by decide)
  have hplace : String.ofList (placeOf "app/store") = "app/store" := by decide +kernel
  have hselects : ∀ p, Selects stores none "app/store" p ↔ store = p := by
    intro p
    rw [Selects, if_neg (by decide), if_neg (by decide), if_neg (by decide), SelectsPlace,
      if_neg (by decide +kernel), if_neg (by decide +kernel), if_neg (by decide +kernel), hplace,
      hlookup, Option.some_inj]
  simp only [InScope, htokens, List.mem_singleton, exists_eq_left, forall_eq, hbody, hminus,
    not_false_eq_true, true_and, false_imp_iff, and_true, hselects] at hmem
  have hlast : ((lastNamed stores "app/store").map (·.path)).getD "app/store" =
      "app/app/store" := by
    rw [lastNamed, packages_stores]
    decide +kernel
  have hstore : store ∈ stores.packages := Program.mem_of_package? hlookup
  refine ⟨scope, hparse, store, hstore, (hmem _).mpr ⟨store, hstore, rfl, rfl⟩, ?_⟩
  have hcontains := contains_iff_mem_packages hparse "app/store"
  rw [hlast, hmem] at hcontains
  refine Bool.eq_false_iff.mpr fun h => ?_
  obtain ⟨p, -, hpath, rfl⟩ := hcontains.mp h
  revert hpath
  decide

end GoAddress.Scope
