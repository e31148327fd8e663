import GoAddress.Proofs.Resolve.Canonical

/-!
# Lone names

A text that is an identifier, and that no package answers to, is looked up among the symbols of all
packages. Main statement: what it resolves to depends on how many symbols have the name. None is an
error; several are an error that lists them all, with a remark; and a single one is resolved by its
address, which leads back to its declaration.
-/

namespace GoAddress

/-- The address of a symbol: a method stands behind its receiver. -/
def Symbol.path (s : Symbol) : Address :=
  match s.receiver with
  | some receiver => { package := s.package, symbol := some receiver, method := some s.name }
  | none => { package := s.package, symbol := some s.name }

/-- The text of a symbol's address is written from its parts. -/
theorem Symbol.render_path (s : Symbol) : s.path.render = s.address := by
  unfold path address
  cases s.receiver <;> simp [Address.render, String.append_assoc]

/-- The address of a symbol lies in its package. -/
@[simp] theorem Symbol.path_package (s : Symbol) : s.path.package = s.package := by
  unfold path
  split <;> rfl

/-- The address of a symbol has no steps. -/
@[simp] theorem Symbol.path_subpath (s : Symbol) : s.path.subpath = [] := by
  unfold path
  split <;> rfl

/-- The address of a symbol is not that of a package. -/
theorem Symbol.path_symbol_ne_none (s : Symbol) : s.path.symbol ≠ none := by
  unfold path
  split <;> simp

/-- The address of a symbol is legible if its name and its receiver are identifiers. -/
theorem Symbol.legible_path {s : Symbol} (hname : isIdentifier s.name = true)
    (hreceiver : ∀ receiver, s.receiver = some receiver → isIdentifier receiver = true) :
    s.path.Legible := by
  unfold path
  split
  · next receiver heq =>
    refine ⟨?_, ?_, by simp, by simp⟩
    · rintro name ⟨⟩
      exact hreceiver receiver heq
    · rintro name ⟨⟩
      exact hname
  · refine ⟨?_, by simp, by simp, by simp⟩
    rintro name ⟨⟩
    exact hname

namespace Workspace

open SymbolIndex

variable {program : Program} {p : Package} {first position : Nat}

/-- An identifier that no package answers to is looked up as a lone name. -/
theorem resolveText_of_lone_name {w : Workspace} {name : String} (hname : isIdentifier name = true)
    (hfree : w.program.package? name = none) : w.resolveText name = w.resolveName name := by
  have htrim : Text.trimBlanks name = name :=
    Text.trimBlanks_of_not_blank (Address.isBlank_of_isIdentifier hname)
  simp [resolveText, htrim, hname, hfree]

section Only

variable {x : Decl × Nat} (hplaced : Placed program p first position) (hx : x ∈ p.decls.zipIdx)
  (honly : ∀ s ∈ (build program).symbols, s.name = x.1.name → s = symbolAt first position p x)
include hplaced hx honly

/-- Where a symbol is the only one of its name, its declaration is the only one of the name in its
package. -/
theorem eq_of_only_symbol {d : Decl} (hd : d ∈ p.decls) (hname : d.name = x.1.name) : d = x.1 := by
  obtain ⟨i, hi⟩ := List.mem_iff_getElem?.mp hd
  have hmem := hplaced.mem_symbols (List.mem_zipIdx_iff_getElem?.mpr hi : (d, i) ∈ p.decls.zipIdx)
  have hindex : i = x.2 := congrArg Symbol.declIndex (honly _ hmem hname)
  have hdecl := List.mem_zipIdx_iff_getElem?.mp hx
  rw [hindex, hdecl] at hi
  exact (Option.some.inj hi).symm

/-- The address of the only symbol of a name stands for its declaration, if its receiver, where it
has one, owns methods. -/
theorem node?_of_only_symbol
    (howns : ∀ receiver, x.1.receiverType? = some receiver → p.owns receiver = true) :
    p.node? (symbolAt first position p x).path = some (.decl x.1) := by
  have hdecl : x.1 ∈ p.decls := List.fst_mem_of_mem_zipIdx hx
  cases hreceiver : x.1.receiverType? with
  | none =>
    have hmem : x.1 ∈ p.topLevel x.1.name := Package.mem_topLevel.mpr ⟨hdecl, rfl, hreceiver⟩
    obtain ⟨d, rest, hdecls⟩ := List.exists_cons_of_ne_nil (List.ne_nil_of_mem hmem)
    obtain ⟨hd, hname, -⟩ :=
      Package.mem_topLevel.mp (hdecls ▸ List.mem_cons_self : d ∈ p.topLevel x.1.name)
    have hfirst : d = x.1 := eq_of_only_symbol hplaced hx honly hd hname
    simp [Symbol.path, symbolAt, hreceiver, Package.node?, Package.start?, hdecls, hfirst,
      Node.follow?]
  | some receiver =>
    obtain ⟨owner, rest, hdecls, htype⟩ := Package.exists_of_owns (howns receiver hreceiver)
    obtain ⟨-, rfl, -⟩ :=
      Package.mem_topLevel.mp (hdecls ▸ List.mem_cons_self : owner ∈ p.topLevel receiver)
    have hmethod : (p.methodsOf owner.name).find? (·.name == x.1.name) = some x.1 := by
      have hmem : x.1 ∈ p.methodsOf owner.name := Package.mem_methodsOf.mpr ⟨hdecl, hreceiver⟩
      have hsome : ((p.methodsOf owner.name).find? (·.name == x.1.name)).isSome = true :=
        List.find?_isSome.mpr ⟨x.1, hmem, beq_self_eq_true _⟩
      obtain ⟨d, hd⟩ := Option.isSome_iff_exists.mp hsome
      have hname : d.name = x.1.name := by simpa using List.find?_some hd
      have hd' := (Package.mem_methodsOf.mp (List.mem_of_find?_eq_some hd)).1
      rw [hd, eq_of_only_symbol hplaced hx honly hd' hname]
    simp [Symbol.path, symbolAt, hreceiver, Package.node?, Package.start?, hdecls, htype,
      Package.methodNode?, hmethod, Node.follow?]

end Only

/-- The address of a symbol of a package resolves, by its text, to the node that it stands for. -/
theorem resolve_of_symbol (hplaced : Placed program p first position)
    (hkinds : ∀ d ∈ p.decls, d.kindAgrees = true) (hreads : program.ReadsBehind p.path)
    (hloaded : program.package? p.path = some p) {s : Symbol} (hpackage : s.package = p.path)
    (hlegible : s.path.Legible) {node : Node} (hnode : p.node? s.path = some node) :
    ∃ b r, Address.parse s.address = .ok b ∧ ((ofProgram program).resolve b).2 = .ok r ∧
      r.node = node ∧ r.address = s.address ∧ r.package = p := by
  have hpath : s.path.package = p.path := by rw [s.path_package, hpackage]
  obtain ⟨b, hparse, hreading⟩ := exists_reading hreads hloaded hpath hlegible (by simp)
    fun hnone => absurd hnone s.path_symbol_ne_none
  rw [s.render_path] at hparse
  refine ⟨b, { path := readBack s.path, node, package := p }, hparse, ?_, rfl, ?_, rfl⟩
  · simp only [resolve, hreading]
    rw [resolveIn_eq_ok_iff hplaced hkinds]
    exact ⟨hnode, by rw [withPackage_self hpath], rfl⟩
  · rw [Resolution.address, render_readBack, s.render_path]

/-- A lone name that several symbols have is ambiguous: the error and one remark list the addresses
of all of them, in order and each once. -/
theorem resolveName_of_several {w : Workspace} {name : String}
    (h : 2 ≤ (w.index.lookup name).length) :
    ∃ remark candidates, w.resolveName name = ([remark], .error (.ambiguous name candidates)) ∧
      remark.kind = .ambiguousMatch ∧ remark.candidates = candidates ∧
      candidates.Pairwise (· < ·) ∧
      ∀ text, text ∈ candidates ↔ ∃ s ∈ w.index.lookup name, s.address = text := by
  have hsorted := pairwise_sortedSet ((w.index.lookup name).map (·.address))
  refine ⟨.ambiguous name (sortedSet ((w.index.lookup name).map (·.address))), _, ?_, rfl,
    sortedSet_of_pairwise hsorted, hsorted, fun text => by rw [mem_sortedSet, List.mem_map]⟩
  unfold resolveName
  split
  · next hnone => simp [hnone] at h
  · next only hsingle => simp [hsingle] at h
  · rfl

/-- A lone name that a single symbol has resolves to the declaration of the symbol. -/
theorem resolveName_of_single (hplaced : Placed program p first position)
    (hkinds : ∀ d ∈ p.decls, d.kindAgrees = true)
    (hnames : ∀ d ∈ p.decls, isIdentifier d.name = true) (hreads : program.ReadsBehind p.path)
    (hloaded : program.package? p.path = some p) {x : Decl × Nat} (hx : x ∈ p.decls.zipIdx)
    (howns : ∀ receiver, x.1.receiverType? = some receiver → p.owns receiver = true)
    (hsingle : (build program).symbols.filter (·.name == x.1.name) =
      [symbolAt first position p x]) :
    ∃ r, ((ofProgram program).resolveName x.1.name).2 = .ok r ∧ r.node = .decl x.1 ∧
      r.address = (symbolAt first position p x).address ∧ r.package = p := by
  have honly : ∀ s ∈ (build program).symbols, s.name = x.1.name →
      s = symbolAt first position p x := by
    intro s hs hname
    have hmem : s ∈ (build program).symbols.filter (·.name == x.1.name) :=
      List.mem_filter.mpr ⟨hs, beq_iff_eq.mpr hname⟩
    rw [hsingle] at hmem
    exact List.mem_singleton.mp hmem
  have hlegible : (symbolAt first position p x).path.Legible := by
    refine Symbol.legible_path (hnames _ (List.fst_mem_of_mem_zipIdx hx)) ?_
    intro receiver hreceiver
    -- The receiver has the name of the type that it owns the method by.
    obtain ⟨owner, rest, hdecls, -⟩ := Package.exists_of_owns (howns receiver hreceiver)
    obtain ⟨howner, rfl, -⟩ :=
      Package.mem_topLevel.mp (hdecls ▸ List.mem_cons_self : owner ∈ p.topLevel receiver)
    exact hnames owner howner
  obtain ⟨b, r, hparse, hr, hnode, haddress, hpackage⟩ := resolve_of_symbol hplaced hkinds hreads
    hloaded rfl hlegible (node?_of_only_symbol hplaced hx honly howns)
  have hlookup : (ofProgram program).index.lookup x.1.name = [symbolAt first position p x] :=
    (lookup_eq_filter program x.1.name).trans hsingle
  refine ⟨r, ?_, hnode, haddress, hpackage⟩
  simp only [resolveName, hlookup, hparse, hr]

/-- Lone names are never guessed. An identifier that no package answers to names nothing if no
symbol has it. If a single symbol has it, and its receiver, where it has one, owns methods, it
resolves to the declaration of the symbol, with the address of the symbol. If several have it, it is
ambiguous: the error and one remark list the addresses of all of them, in order and each once. -/
theorem lone_name_never_guessed {program : Program} {modulePath : String} {files : List SourceFile}
    {packages : List Package} (hprogram : program = .ofPackages modulePath files packages)
    (hpaths : (packages.map (·.path)).Nodup)
    (hreads : ∀ p ∈ packages, program.ReadsBehind p.path)
    (hkinds : ∀ p ∈ packages, ∀ d ∈ p.decls, d.kindAgrees = true)
    (hnames : ∀ p ∈ packages, ∀ d ∈ p.decls, isIdentifier d.name = true) {name : String}
    (hname : isIdentifier name = true) (hfree : program.package? name = none) :
    ((build program).symbols.filter (·.name == name) = [] →
      (ofProgram program).resolveText name = ([], .error (.symbolNotFound anyPackage name))) ∧
    (∀ s, (build program).symbols.filter (·.name == name) = [s] →
      (∀ receiver, s.receiver = some receiver →
        ∃ p ∈ packages, p.path = s.package ∧ p.owns receiver = true) →
      ∃ r d, ((ofProgram program).resolveText name).2 = .ok r ∧ s.decl? program = some d ∧
        r.node = .decl d ∧ r.address = s.address ∧ r.package.path = s.package) ∧
    (2 ≤ ((build program).symbols.filter (·.name == name)).length →
      ∃ remark candidates, (ofProgram program).resolveText name =
          ([remark], .error (.ambiguous name candidates)) ∧
        remark.kind = .ambiguousMatch ∧ remark.candidates = candidates ∧
        candidates.Pairwise (· < ·) ∧
        ∀ text, text ∈ candidates ↔
          ∃ s ∈ (build program).symbols, s.name = name ∧ s.address = text) := by
  have hlookup : (ofProgram program).index.lookup name =
      (build program).symbols.filter (·.name == name) := lookup_eq_filter program name
  rw [resolveText_of_lone_name (w := ofProgram program) hname hfree]
  refine ⟨?_, ?_, ?_⟩
  · intro hnone
    rw [hnone] at hlookup
    simp only [resolveName, hlookup]
  · intro s hsingle howns
    have hfiltered : s ∈ (build program).symbols.filter (·.name == name) := by simp [hsingle]
    obtain ⟨hs, hnamed⟩ := List.mem_filter.mp hfiltered
    obtain rfl := beq_iff_eq.mp hnamed
    subst hprogram
    have hdistinct := @Program.nodup_paths_ofPackages modulePath files packages hpaths
    obtain ⟨p, hp, first, position, hplaced, x, hx, rfl⟩ :=
      exists_placed_of_mem_symbols hdistinct hs
    have hmem := Program.mem_packages_ofPackages.mp hp
    have howns' : ∀ receiver, x.1.receiverType? = some receiver → p.owns receiver = true := by
      intro receiver hreceiver
      obtain ⟨q, hq, hpath, hq'⟩ := howns receiver hreceiver
      rwa [List.inj_on_of_nodup_map hpaths hq hmem hpath] at hq'
    obtain ⟨r, hr, hnode, haddress, rfl⟩ := resolveName_of_single hplaced (hkinds p hmem)
      (hnames p hmem) (hreads p hmem) (Program.package?_path hpaths hmem) hx howns' hsingle
    exact ⟨r, x.1, hr, decl?_symbolAt hplaced hx, hnode, haddress, rfl⟩
  · intro hseveral
    rw [← hlookup] at hseveral
    obtain ⟨remark, candidates, hresolve, hkind, hremark, hsorted, hmem⟩ :=
      resolveName_of_several hseveral
    refine ⟨remark, candidates, hresolve, hkind, hremark, hsorted, fun text => ?_⟩
    rw [hmem text, hlookup]
    simp only [List.mem_filter, beq_iff_eq, and_assoc]

/-- The method of the package with the dotted import path, as a symbol of the module. -/
def decodeSymbol : Symbol :=
  { id := 4, kind := .method, name := "Decode", package := "gopkg.in/yaml.v3", shortPackage := ""
    receiver := some "Node", packageIndex := 1, declIndex := 3, span := {} }

/-- A name that nothing has, the name of a method in a package with a dotted import path, and the
name of two functions. -/
theorem lone_name_never_guessed_in_shop :
    shopWorkspace.resolveText "Missing" = ([], .error (.symbolNotFound "*" "Missing")) ∧
    (∃ r d, (shopWorkspace.resolveText "Decode").2 = .ok r ∧
      decodeSymbol.decl? shopWorkspace.program = some d ∧ r.node = .decl d ∧
      r.address = decodeSymbol.address ∧ r.package.path = "gopkg.in/yaml.v3") ∧
    ∃ remark candidates, shopWorkspace.resolveText "init" =
        ([remark], .error (.ambiguous "init" candidates)) ∧
      remark.kind = .ambiguousMatch ∧ remark.candidates = candidates := by
  have hpaths : ([yamlPackage, storePackage].map (·.path)).Nodup := by decide
  have hreads : ∀ p ∈ [yamlPackage, storePackage],
      (Program.ofPackages "example.org/shop.v2" [] [yamlPackage, storePackage]).ReadsBehind
        p.path := by
    intro p hp
    rcases List.mem_pair.mp hp with rfl | rfl
    · exact plainPath_yamlPackage.readsBehind.1
    · exact plainPath_storePackage.readsBehind.1
  have hfree : ∀ name ∈ ["Missing", "Decode", "init"],
      (Program.ofPackages "example.org/shop.v2" [] [yamlPackage, storePackage]).package? name =
        none := by
    intro name hmem
    apply Program.package?_eq_none
    revert name
    decide
  have hfilter : ∀ name, (build (.ofPackages "example.org/shop.v2" []
      [yamlPackage, storePackage])).symbols.filter (·.name == name) =
      (symbolsFrom 0 0 [storePackage, yamlPackage]).filter (·.name == name) := by
    intro name
    rw [← Program.ofPackages_eq_of_perm hpaths (List.Perm.swap _ _ _),
      Program.ofPackages_of_pairwise (by decide)]
    rfl
  have hanswer := fun name hname hmem =>
    @lone_name_never_guessed _ "example.org/shop.v2" [] _ rfl hpaths hreads (by decide +kernel)
      (by decide +kernel) name hname (hfree name hmem)
  simp only [hfilter] at hanswer
  refine ⟨(hanswer "Missing" (by decide +kernel) (by simp)).1 (by decide +kernel),
    (hanswer "Decode" (by decide +kernel) (by simp)).2.1 decodeSymbol (by decide +kernel) ?_, ?_⟩
  · rintro receiver ⟨⟩
    exact ⟨yamlPackage, by simp, rfl, by decide +kernel⟩
  · obtain ⟨remark, candidates, hresolve, hkind, hremark, -⟩ :=
      (hanswer "init" (by decide +kernel) (by simp)).2.2 (by decide +kernel)
    exact ⟨remark, candidates, hresolve, hkind, hremark⟩

end Workspace

end GoAddress
