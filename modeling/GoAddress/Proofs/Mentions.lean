import Mathlib.Data.List.Forall2
import GoAddress.Proofs.Reachability

/-!
# More evidence of use

Nothing but the search for live symbols reads which names a declaration mentions: the index, the
look-up of packages, entry points and scope expressions see a program as if its declarations
mentioned nothing. So a program that mentions more has the same symbols, entry points and scopes,
and has all the chains of uses that there were before. Main statement: what is reported dead with
more evidence of use, from exported names that count as entry points or from more mentions, is
reported dead with less.
-/

namespace GoAddress

/-- What stands at a position of one list has its counterpart in the other. -/
theorem exists_getElem?_of_forall₂ {α β : Type} {R : α → β → Prop} {xs : List α} {ys : List β}
    (h : List.Forall₂ R xs ys) {i : Nat} {x : α} (hx : xs[i]? = some x) :
    ∃ y, ys[i]? = some y ∧ R x y := by
  obtain ⟨hi, hat⟩ := List.getElem?_eq_some_iff.mp hx
  have hi' : i < ys.length := h.length_eq ▸ hi
  have hrel : R xs[i] ys[i] := h.get hi hi'
  exact ⟨ys[i], List.getElem?_eq_getElem hi', hat ▸ hrel⟩

/-! ## Programs without mentions -/

/-- A declaration without the names that it mentions. -/
def Decl.silent (d : Decl) : Decl :=
  { d with references := [] }

/-- A package whose declarations mention nothing. -/
def Package.silent (p : Package) : Package :=
  { p with decls := p.decls.map Decl.silent }

/-- A program whose declarations mention nothing. -/
def Program.silent (program : Program) : Program :=
  { program with packages := program.packages.map Package.silent }

/-- The second program differs from the first only in that declarations mention more names. -/
structure Program.MentionsMore (program richer : Program) : Prop where
  /-- Without mentions the two are the same. -/
  silent : richer.silent = program.silent
  /-- Every declaration mentions at least what it did before. -/
  mentions : List.Forall₂ (fun p q : Package =>
    List.Forall₂ (fun d e : Decl => d.references ⊆ e.references) p.decls q.decls)
      program.packages richer.packages

section Silence

variable (program : Program)

/-- Packages answer to paths whatever they mention. -/
theorem Program.package?_silent (path : String) :
    program.silent.package? path = (program.package? path).map Package.silent := by
  simp only [package?, packageIndex?, silent, List.getElem?_map, Option.map_bind]
  rfl

namespace SymbolIndex

/-- The owner of a name is found by kinds and names. -/
theorem ownerIndex?_silent (decls : List Decl) (name : String) :
    ownerIndex? (decls.map Decl.silent) name = ownerIndex? decls name :=
  List.findIdx?_map

/-- Methods are attached by receivers. -/
theorem methodsAt_silent (decls : List Decl) (first : Nat) (d : Decl) (i : Nat) :
    methodsAt (decls.map Decl.silent) first d.silent i = methodsAt decls first d i := by
  rw [methodsAt, methodsAt, ownerIndex?_silent, List.zipIdx_map, List.filter_map, List.map_map]
  rfl

/-- A package has the same symbols. -/
theorem packageSymbols_silent (first position : Nat) (p : Package) :
    packageSymbols first position p.silent = packageSymbols first position p := by
  have hsymbol : ∀ x : Decl × Nat, symbolAt first position p.silent (Prod.map Decl.silent id x) =
      symbolAt first position p x := by
    intro x
    have hmethods := methodsAt_silent p.decls first x.1 x.2
    simp only [symbolAt, Package.silent, Prod.map_fst, Prod.map_snd, id_eq, hmethods]
    rfl
  rw [packageSymbols_eq, packageSymbols_eq, Package.silent, List.zipIdx_map, List.map_map]
  exact List.map_congr_left fun x _ => hsymbol x

/-- Packages have the same symbols one after the other. -/
theorem symbolsFrom_silent (first position : Nat) (packages : List Package) :
    symbolsFrom first position (packages.map Package.silent) =
      symbolsFrom first position packages := by
  induction packages generalizing first position with
  | nil => rfl
  | cons p packages ih =>
    have hlength : p.silent.decls.length = p.decls.length := List.length_map _
    rw [List.map_cons, symbolsFrom, symbolsFrom, packageSymbols_silent, hlength, ih]

/-- The index does not depend on what is mentioned. -/
theorem build_silent : build program.silent = build program := by
  simp only [build, Program.silent, symbolsFrom_silent]

end SymbolIndex

namespace Scope

/-- Packages are selected by their paths and by whether they belong to the module. -/
theorem pathsWhere_silent {keep : Package → Bool} (hkeep : ∀ p : Package, keep p.silent = keep p) :
    pathsWhere program.silent keep = pathsWhere program keep := by
  have hcomp : keep ∘ Package.silent = keep := funext hkeep
  rw [pathsWhere, Program.silent, List.filter_map, hcomp, List.map_map, pathsWhere]
  rfl

/-- The same packages belong to the module. -/
theorem pathsWhere_project_silent :
    pathsWhere program.silent (·.project) = pathsWhere program (·.project) :=
  pathsWhere_silent program fun _ => rfl

/-- A path leads to the same import path. -/
theorem pathOf_silent (path : String) : pathOf program.silent path = pathOf program path := by
  rw [pathOf, Program.package?_silent, Option.map_map, pathOf]
  rfl

/-- A place selects the same paths. -/
theorem selectPlaces_silent (place : List Char) :
    selectPlaces program.silent place = selectPlaces program place := by
  have hpaths : ∀ test : String → Bool, pathsWhere program.silent (eitherPath test) =
      pathsWhere program (eitherPath test) :=
    fun _ => pathsWhere_silent program fun _ => rfl
  simp only [selectPlaces, hpaths, pathsWhere_project_silent, pathOf_silent]

/-- A token selects the same paths. -/
theorem select_silent (target : Option String) (token : String) :
    select program.silent target token = select program target token := by
  have hall : pathsWhere program.silent (fun _ => true) = pathsWhere program fun _ => true :=
    pathsWhere_silent program fun _ => rfl
  simp only [select, hall, pathsWhere_project_silent, pathOf_silent, selectPlaces_silent]

/-- Tokens are read the same way. -/
theorem readTokens_silent (target : Option String) (scope : Scope) (tokens : List (List Char)) :
    readTokens program.silent target scope tokens = readTokens program target scope tokens := by
  induction tokens generalizing scope with
  | nil => rfl
  | cons token tokens ih => simp only [readTokens, select_silent, ih]

/-- Scope expressions do not depend on what is mentioned. -/
theorem parse_silent (target : Option String) (expr : String) :
    parse program.silent target expr = parse program target expr := by
  have hstart : ∀ expression, start program.silent expression = start program expression := by
    intro expression
    simp only [start, Program.silent, List.filter_map, List.map_map]
    rfl
  simp only [parse, hstart, readTokens_silent]

end Scope

namespace Reachability

/-- Entry points are found whatever is mentioned. -/
theorem isRoot_silent (exportedAreRoots : Bool) (s : Symbol) :
    isRoot program.silent exportedAreRoots s = isRoot program exportedAreRoots s := by
  rw [isRoot, isRoot, Program.package?_silent]
  cases program.package? s.package with
  | none => rfl
  | some p => rfl

/-- A package is broken whatever it mentions. -/
theorem broken_silent_iff (s : Symbol) : Broken program.silent s ↔ Broken program s := by
  simp only [Broken, Program.silent, List.mem_map]
  constructor
  · rintro ⟨q, ⟨p, hp, rfl⟩, hpath, herrors⟩
    exact ⟨p, hp, hpath, herrors⟩
  · rintro ⟨p, hp, hpath, herrors⟩
    exact ⟨p.silent, ⟨p, hp, rfl⟩, hpath, herrors⟩

end Reachability

end Silence

namespace Program.MentionsMore

open SymbolIndex Reachability

variable {program richer : Program} (h : program.MentionsMore richer)

include h

/-- More mentions leave the index as it is. -/
theorem build : SymbolIndex.build richer = SymbolIndex.build program := by
  rw [← build_silent richer, h.silent, build_silent]

/-- More mentions leave scopes as they are. -/
theorem parse (target : Option String) (expr : String) :
    Scope.parse richer target expr = Scope.parse program target expr := by
  rw [← Scope.parse_silent richer, h.silent, Scope.parse_silent]

/-- More mentions leave entry points as they are. -/
theorem isRoot (exportedAreRoots : Bool) (s : Symbol) :
    Reachability.isRoot richer exportedAreRoots s =
      Reachability.isRoot program exportedAreRoots s := by
  rw [← isRoot_silent richer, h.silent, isRoot_silent]

/-- More mentions break no package and mend none. -/
theorem broken_iff (s : Symbol) : Broken richer s ↔ Broken program s := by
  rw [← broken_silent_iff richer, h.silent, broken_silent_iff]

/-- The declaration of a symbol mentions at least what it did before. -/
theorem exists_decl? {s : Symbol} {d : Decl} (hd : s.decl? program = some d) :
    ∃ e, s.decl? richer = some e ∧ d.references ⊆ e.references := by
  obtain ⟨p, hp, hdecl⟩ := Option.bind_eq_some_iff.mp hd
  obtain ⟨q, hq, hdecls⟩ := exists_getElem?_of_forall₂ h.mentions hp
  obtain ⟨e, he, hmore⟩ := exists_getElem?_of_forall₂ hdecls hdecl
  exact ⟨e, Option.bind_eq_some_iff.mpr ⟨q, hq, he⟩, hmore⟩

/-- A symbol keeps at least what it did before. -/
theorem keeps {s m : Symbol} (hkeeps : Keeps program s m) : Keeps richer s m := by
  cases hkeeps with
  | method htype hmethod hexported => exact .method htype (h.build ▸ hmethod) hexported
  | mention hdecl hmem hname =>
    obtain ⟨e, he, hmore⟩ := h.exists_decl? hdecl
    exact .mention he (h.build ▸ hmem) (hmore hname)

end Program.MentionsMore

namespace Reachability

open SymbolIndex

/-- The symbols that are reported dead in a scope. -/
def deadSymbols (program : Program) (exportedAreRoots : Bool) (scope : Scope) : List Symbol :=
  (deadCode (build program) (verdicts program (build program) exportedAreRoots) scope).2

section Evidence

variable {program richer : Program} {few many : Bool} {scope : Scope} {s : Symbol}

/-- Dead are the examined symbols of whole packages that no chain of uses leads to. -/
theorem mem_deadSymbols_iff :
    s ∈ deadSymbols program few scope ↔
      s ∈ examined (build program) scope ∧ ¬Broken program s ∧ ¬Reached program few s := by
  refine (perm_sortOn _ _).mem_iff.trans ?_
  rw [List.mem_filter, beq_iff_eq]
  refine and_congr_right fun hs => ?_
  exact verdicts_eq_unreachable_iff (mem_examined_iff.mp hs).mem

/-- With at least the same symbols, entry points and uses, at least the same is reached. -/
theorem Reached.mono (hbuild : build richer = build program)
    (hroots : ∀ root, isRoot program few root → isRoot richer many root)
    (hkeeps : ∀ s m, Keeps program s m → Keeps richer s m) (h : Reached program few s) :
    Reached richer many s := by
  obtain ⟨root, hmem, hentry, hchain⟩ := h
  exact ⟨root, hbuild ▸ hmem, hroots root hentry, Relation.ReflTransGen.mono hkeeps _ _ hchain⟩

/-- Where the index and the broken packages are the same and more is reached, no more is dead. -/
theorem deadSymbols_subset (hbuild : build richer = build program)
    (hbroken : ∀ s, Broken richer s ↔ Broken program s)
    (hreached : ∀ s, Reached program few s → Reached richer many s) :
    deadSymbols richer many scope ⊆ deadSymbols program few scope := by
  intro s hs
  obtain ⟨hexamined, hwhole, hunreached⟩ := mem_deadSymbols_iff.mp hs
  rw [hbuild] at hexamined
  rw [hbroken] at hwhole
  exact mem_deadSymbols_iff.mpr ⟨hexamined, hwhole, fun h => hunreached (hreached s h)⟩

/-- Exported names are added to the entry points, and none is taken away. -/
theorem isRoot_of_isRoot_false (h : isRoot program false s) : isRoot program true s := by
  rw [isRoot] at h ⊢
  split at h
  · exact h
  · next p hp =>
    simp only [Bool.false_and, Bool.or_false] at h
    simp only [h, Bool.true_or]

end Evidence

/-- More evidence of use never makes more code dead. What is dead although exported names count as
entry points is dead when they do not count; and if a program mentions more than another, then scope
expressions mean the same in both, and what is dead in the first is dead in the second. -/
theorem more_use_leaves_less_dead (program : Program) :
    (∀ scope, deadSymbols program true scope ⊆ deadSymbols program false scope) ∧
    ∀ richer, program.MentionsMore richer →
      (∀ target expr, Scope.parse richer target expr = Scope.parse program target expr) ∧
      ∀ exportedAreRoots scope,
        deadSymbols richer exportedAreRoots scope ⊆ deadSymbols program exportedAreRoots scope := by
  constructor
  · intro scope
    refine deadSymbols_subset rfl (fun _ => Iff.rfl) fun s hreached => ?_
    exact hreached.mono rfl (fun root => isRoot_of_isRoot_false) fun _ _ hkeeps => hkeeps
  · intro richer h
    refine ⟨h.parse, fun exportedAreRoots scope => ?_⟩
    refine deadSymbols_subset h.build h.broken_iff fun s hreached => ?_
    exact hreached.mono h.build (fun root hroot => h.isRoot _ root ▸ hroot) fun _ _ => h.keeps

/-- A main package with one function that mentions names and two that mention none. -/
def job (mentioned : List String) : Program :=
  .ofPackages "app" [] [{
    path := "app", shortPath := "", name := "main"
    decls := [
      { name := "main", kind := .func, shape := .func { signature := "func main()" }
        references := mentioned },
      { name := "run", kind := .func, shape := .func { signature := "func run()" } },
      { name := "lost", kind := .func, shape := .func { signature := "func lost()" } }] }]

/-- The scope of all packages of the job. -/
def jobScope : Scope :=
  { expression := "all", includePatterns := ["all"], included := ["app"] }

/-- When the main function mentions `run`, only `lost` is dead; and it was dead before. -/
theorem more_use_leaves_less_dead_of_job :
    (job []).MentionsMore (job ["run"]) ∧
      (Scope.parse (job []) none "all").2 = .ok jobScope ∧
      (Scope.parse (job ["run"]) none "all").2 = .ok jobScope ∧
      (deadSymbols (job ["run"]) false jobScope).map (·.name) = ["lost"] ∧
      ∃ s ∈ deadSymbols (job []) false jobScope, s.name = "lost" := by
  have hmore : (job []).MentionsMore (job ["run"]) := by
    refine ⟨by decide +kernel, ?_⟩
    rw [job, Program.ofPackages_of_pairwise (List.pairwise_singleton _ _), job,
      Program.ofPackages_of_pairwise (List.pairwise_singleton _ _)]
    have hnone : ∀ names : List String, [] ⊆ names := List.nil_subset
    exact .cons (.cons (hnone _) (.cons (hnone _) (.cons (hnone _) .nil))) .nil
  have hscope : (Scope.parse (job []) none "all").2 = .ok jobScope := by decide +kernel
  have hlive : live (job ["run"]) (build (job ["run"])) false = [1, 0] := by
    have hsize : (build (job ["run"])).symbols.length = 3 := by decide +kernel
    have hroots : ((build (job ["run"])).symbols.filter (isRoot (job ["run"]) false)).map (·.id) =
        [0] := by decide +kernel
    have hmain : keeps (job ["run"]) (build (job ["run"])) 0 = [1] := by decide +kernel
    have hrun : keeps (job ["run"]) (build (job ["run"])) 1 = [] := by decide +kernel
    rw [live_eq_spread]
    simp [hsize, hroots, spread, hmain, hrun]
  have hdead : (deadSymbols (job ["run"]) false jobScope).map (·.name) = ["lost"] := by
    have hfound : ((examined (build (job ["run"])) jobScope).filter fun s =>
        verdict (job ["run"]) [1, 0] s == .unreachable).map (·.name) = ["lost"] := by decide +kernel
    rw [← hlive] at hfound
    exact List.perm_singleton.mp (hfound ▸ (perm_sortOn _ _).map _)
  obtain ⟨hparse, hless⟩ := (more_use_leaves_less_dead (job [])).2 _ hmore
  obtain ⟨s, hs, hname⟩ := List.mem_map.mp (hdead ▸ List.mem_cons_self : "lost" ∈
    (deadSymbols (job ["run"]) false jobScope).map (·.name))
  exact ⟨hmore, hscope, by rw [hparse, hscope], hdead, s, hless false jobScope hs, hname⟩

end Reachability

end GoAddress
