import GoAddress.Proofs.Address.Rebasing
import GoAddress.Proofs.Program.Loading
import GoAddress.Proofs.Resolve.Universe

/-!
# Canonical addresses

Whatever resolves has a canonical address, with the import path of its package in full. Main
statement: where import paths are plain, the canonical address resolves to the same thing, with the
same address and the same remarks, whichever spelling led to it.
-/

namespace GoAddress

/-- Reading an address back keeps its text. -/
@[simp] theorem render_readBack (a : Address) : (readBack a).render = a.render := by
  rw [readBack, Address.parse?]
  cases hparse : Address.parse a.render with
  | error e => rfl
  | ok b => exact (Address.parse_eq_ok_iff.mp hparse).2

/-- Reading back finds what the text of an address is read as, wherever it is read at all. -/
theorem parse_render_readBack_iff (a : Address) :
    Address.parse a.render = .ok (readBack a) ↔ ∃ b, Address.parse a.render = .ok b := by
  refine ⟨fun h => ⟨_, h⟩, ?_⟩
  rintro ⟨b, hparse⟩
  rw [hparse, readBack, Address.parse?, hparse]
  rfl

/-- The readings of an address of the grammar are legible, and they have its text. -/
theorem Address.WellFormed.legible_of_mem_readings {a b : Address} (hb : b.WellFormed)
    (ha : a ∈ b :: b.alternatives) :
    a.Legible ∧ (∀ s ∈ a.subpath, s.Valid) ∧ a.render = b.render := by
  have hlegible := hb.legible
  have hvalid : ∀ s ∈ b.subpath, s.Valid := by
    rcases hb.shape with hshape | hshape
    · simp [hshape.subpath]
    · exact hshape.steps
  rcases List.mem_cons.mp ha with rfl | ha
  · exact ⟨hlegible, hvalid, rfl⟩
  obtain ⟨package, symbol, method, subpath⟩ := b
  cases symbol with
  | none => exact (List.not_mem_nil ha).elim
  | some symbol =>
    cases method with
    | none =>
      cases subpath with
      | cons s subpath => exact (List.not_mem_nil ha).elim
      | nil =>
        cases List.mem_singleton.mp ha
        refine ⟨by constructor <;> simp, by simp, ?_⟩
        rw [← String.toList_inj, toList_render, toList_render]
        simp [dotted]
    | some method =>
      cases List.mem_singleton.mp ha
      refine ⟨⟨?_, by simp, by simp, hlegible.steps⟩, hvalid, ?_⟩
      · intro name hname
        cases hname
        exact hlegible.method method rfl
      · rw [← String.toList_inj, toList_render, toList_render]
        simp [dotted]

/-- An address of another package can be told apart as well. -/
theorem Address.Legible.withPackage {a : Address} (h : a.Legible) (package : String) :
    (a.withPackage package).Legible :=
  ⟨h.symbol, h.method, h.alone, h.steps⟩

namespace Workspace

variable {w : Workspace} {p : Package} {a : Address} {r : Resolution}

/-- Resolving in a package does not depend on how the address writes the package. -/
theorem resolveIn_withPackage (w : Workspace) (p : Package) (a : Address) (package : String) :
    w.resolveIn p (a.withPackage package) = w.resolveIn p a := rfl

/-- What resolves in a package lies in it, and its canonical address is read back from the address
with the import path of the package. -/
theorem eq_of_resolveIn (h : (w.resolveIn p a).2 = .ok r) :
    r.path = readBack (a.withPackage p.path) ∧ r.package = p := by
  unfold resolveIn at h
  split at h
  · cases h
    exact ⟨rfl, rfl⟩
  · split at h
    · cases h
    · dsimp only at h
      split at h
      · cases h
      · dsimp only [Except.map] at h
        split at h
        · cases h
        · cases h
          exact ⟨rfl, rfl⟩

/-- Whatever resolves does so through a reading of an address of the grammar. -/
theorem exists_resolve_of_resolveText {text : String} (h : (w.resolveText text).2 = .ok r) :
    ∃ b : Address, b.WellFormed ∧ w.resolveText text = w.resolve b := by
  have hparsed : ∀ {text : String} {b : Address}, Address.parse text = .ok b → b.WellFormed :=
    fun hparse => (Address.parse_eq_ok_iff.mp hparse).1
  unfold resolveText at *
  dsimp only at *
  split at h
  · next hname =>
    rw [if_pos hname]
    unfold resolveName at *
    split at h
    · cases h
    · split at h
      · next b hparse => exact ⟨b, hparsed hparse, rfl⟩
      · cases h
    · cases h
  · next hname =>
    rw [if_neg hname]
    split at h
    · next b hparse => exact ⟨b, hparsed hparse, rfl⟩
    · cases h

/-- An address that resolves has a reading whose package is loaded. -/
theorem exists_reading_of_resolve {b : Address} (h : (w.resolve b).2 = .ok r) :
    ∃ p a, a ∈ b :: b.alternatives ∧ w.program.package? a.package = some p ∧
      w.resolve b = w.resolveIn p a := by
  unfold resolve at *
  split at h
  · next p a hreading =>
    obtain ⟨before, a', after, hsplit, hfound, -⟩ := List.findSome?_eq_some_iff.mp hreading
    obtain ⟨q, -, heq⟩ := Option.map_eq_some_iff.mp hfound
    cases heq
    exact ⟨p, a, by rw [hsplit]; simp, package?_of_reading? hreading, rfl⟩
  · cases h

/-- Whatever a text resolves to lies in the package that answers to a reading of an address of the
grammar, and its canonical address is that reading with the import path in full. -/
theorem exists_reading_of_resolveText {text : String} (h : (w.resolveText text).2 = .ok r) :
    ∃ b a, b.WellFormed ∧ a ∈ b :: b.alternatives ∧
      w.program.package? a.package = some r.package ∧
      w.resolveText text = w.resolveIn r.package a ∧
      r.path = readBack (a.withPackage r.package.path) := by
  obtain ⟨b, hb, htext⟩ := exists_resolve_of_resolveText h
  rw [htext] at h
  obtain ⟨p, a, ha, hloaded, hresolve⟩ := exists_reading_of_resolve h
  rw [hresolve] at h
  obtain ⟨hpath, rfl⟩ := eq_of_resolveIn h
  exact ⟨b, a, hb, ha, hloaded, htext.trans hresolve, hpath⟩

/-- Canonical addresses lead back: where import paths are distinct and plain, the address of whatever
a text resolves to resolves to the same node of the same package, with the same address and the same
remarks. -/
theorem resolveText_address (modulePath : String) (files : List SourceFile)
    {packages : List Package} (hpaths : (packages.map (·.path)).Nodup)
    (hplain : ∀ p ∈ packages, (Program.ofPackages modulePath files packages).PlainPath p.path)
    {text : String} {remarks : List Diagnostic} {r : Resolution}
    (h : (ofProgram (.ofPackages modulePath files packages)).resolveText text = (remarks, .ok r)) :
    (ofProgram (.ofPackages modulePath files packages)).resolveText r.address =
      (remarks, .ok r) := by
  obtain ⟨b, a, hb, ha, hloaded, hresolve, hpath⟩ :=
    exists_reading_of_resolveText (congrArg Prod.snd h)
  obtain ⟨hlegible, hsteps, -⟩ := hb.legible_of_mem_readings ha
  obtain ⟨hmem, -⟩ := Program.package?_cases hloaded
  have haddress : r.address = (a.withPackage r.package.path).render := by
    rw [Resolution.address, hpath, render_readBack]
  obtain ⟨hback, -⟩ := resolveText_render (hplain _ hmem) (Program.package?_path hpaths hmem)
    (a := a.withPackage r.package.path) rfl (hlegible.withPackage _) hsteps
  rw [haddress, hback, resolveIn_withPackage, ← hresolve, h]

/-- A module with a dotted path and a package of another one. -/
def shopWorkspace : Workspace :=
  ofProgram (.ofPackages "example.org/shop.v2" [] [yamlPackage, storePackage])

/-- Short spellings in the module, each with the canonical address of what it stands for. -/
def shopSpellings : List (String × String) :=
  [("Decode", "gopkg.in/yaml.v3.Node.Decode"),
   (" store.Reader/methods[0] ", "example.org/shop.v2/store.Reader/methods[0]")]

/-- A lone name of a package with a dotted import path, and a method that is reached by its position
behind a short path with blanks around it, resolve to the same as their canonical addresses. -/
theorem resolveText_address_of_short_spellings :
    (∃ r, shopWorkspace.resolveText "Decode" = ([], .ok r) ∧
      r.address = "gopkg.in/yaml.v3.Node.Decode" ∧
      shopWorkspace.resolveText "gopkg.in/yaml.v3.Node.Decode" = ([], .ok r)) ∧
    ∃ r, shopWorkspace.resolveText " store.Reader/methods[0] " = ([], .ok r) ∧
      r.address = "example.org/shop.v2/store.Reader/methods[0]" ∧
      shopWorkspace.resolveText "example.org/shop.v2/store.Reader/methods[0]" = ([], .ok r) := by
  have hpaths : ([yamlPackage, storePackage].map (·.path)).Nodup := by decide
  have hplain : ∀ p ∈ [yamlPackage, storePackage],
      (Program.ofPackages "example.org/shop.v2" [] [yamlPackage, storePackage]).PlainPath p.path := by
    intro p hp
    rcases List.mem_pair.mp hp with rfl | rfl
    · exact plainPath_yamlPackage
    · exact plainPath_storePackage
  have hanswers : ∀ x ∈ shopSpellings, (shopWorkspace.resolveText x.1).1.isEmpty = true ∧
      (shopWorkspace.resolveText x.1).2.toOption.map (·.address) = some x.2 := by
    rw [shopWorkspace, ← Program.ofPackages_eq_of_perm hpaths (List.Perm.swap _ _ _),
      Program.ofPackages_of_pairwise (by decide)]
    decide +kernel
  have hback : ∀ {text address : String}, (text, address) ∈ shopSpellings → ∃ r,
      shopWorkspace.resolveText text = ([], .ok r) ∧ r.address = address ∧
        shopWorkspace.resolveText address = ([], .ok r) := by
    intro text address hmem
    obtain ⟨hremarks, hanswer⟩ := hanswers _ hmem
    dsimp only at hremarks hanswer
    generalize hresolve : shopWorkspace.resolveText text = answer at hremarks hanswer ⊢
    obtain ⟨remarks, error | r⟩ := answer
    · cases hanswer
    · have hnone : remarks = [] := List.isEmpty_iff.mp hremarks
      have haddress : r.address = address := Option.some.inj hanswer
      subst hnone
      refine ⟨r, rfl, haddress, ?_⟩
      rw [← haddress]
      exact resolveText_address "example.org/shop.v2" [] hpaths hplain hresolve
  exact ⟨hback (by simp [shopSpellings]), hback (by simp [shopSpellings])⟩

/-- In a loaded program the canonical text of a reading is read, unless it is that of a package with
a component behind its last dot that is named like a category. -/
theorem exists_parse_of_reading {parse : Source.Parser} {modulePath : String}
    {inputs : List SourceInput} (hmodule : Address.ImportPath modulePath.toList) {a b : Address}
    (hb : b.WellFormed) (ha : a ∈ b :: b.alternatives)
    (hloaded : (Program.ofInputs parse modulePath inputs).package? a.package = some p)
    (htests : p.path = modulePath ++ "_test" → Address.CarriesSymbols modulePath.toList)
    (htail : a.symbol = none → Address.PlainTail (Text.splitOn '/' p.path.toList)) :
    ∃ c, Address.parse (a.withPackage p.path).render = .ok c := by
  obtain ⟨hlegible, hsteps, hrender⟩ := hb.legible_of_mem_readings ha
  obtain ⟨hmem, hfull | ⟨hproject, hne, hshort⟩⟩ := Program.package?_cases hloaded
  · -- The address already has the import path in full.
    refine ⟨b, Address.parse_eq_ok_iff.mpr ⟨hb, ?_⟩⟩
    rw [withPackage_self hfull, hrender]
  rcases Program.path_of_mem_groupFiles hmem hproject hne with hpath | ⟨hpath, hword⟩
  · have hwhole : (b.withPackage (modulePath ++ "/" ++ b.package)).render =
        (a.withPackage p.path).render := by
      rw [hpath, ← hshort, Address.render_withPackage_append, Address.render_withPackage_append,
        hrender]
    refine ⟨_, Address.parse_eq_ok_iff.mpr ⟨?_, hwhole⟩⟩
    rcases hb.shape with hpackage | hsymbolic
    · -- A package has no other reading.
      have hsame : a = b := by
        rcases List.mem_cons.mp ha with hsame | halternative
        · exact hsame
        · rw [Address.alternatives, hpackage.symbol] at halternative
          exact (List.not_mem_nil halternative).elim
      subst hsame
      refine hpackage.wellFormed_append hb.package hmodule ?_
      rw [hshort, ← hpath]
      exact htail hpackage.symbol
    · obtain ⟨name, hname, -⟩ := hsymbolic.symbol
      exact hb.withPackage_append (by simp [hname]) hmodule
  · have hchars : "_test".toList.all isIdentContinue = true := by decide +kernel
    have hcarries : Address.CarriesSymbols p.path.toList := by
      rw [hpath, String.toList_append]
      exact (htests hpath).append_word (List.all_eq_true.mp hchars)
    obtain ⟨c, hc, hcrender, -⟩ := (hlegible.withPackage p.path).exists_wellFormed hsteps hcarries
      htail
    exact ⟨c, Address.parse_eq_ok_iff.mpr ⟨hc, hcrender⟩⟩

/-- Whatever the parser, the canonical address of whatever a text resolves to in a loaded program is
read as the path of the answer, unless it is the import path of a package and no address. An import
path is one if no component behind its last dot is named like a category. -/
theorem parse_address_eq_path_iff {parse : Source.Parser} {modulePath : String}
    {inputs : List SourceInput} {program : Program}
    (hload : Program.load parse modulePath inputs = .ok program)
    (hmodule : Address.ImportPath modulePath.toList) {text : String} {r : Resolution}
    (h : ((ofProgram program).resolveText text).2 = .ok r)
    (htests : r.package.path = modulePath ++ "_test" →
      Address.CarriesSymbols modulePath.toList) :
    (Address.parse r.address = .ok r.path ↔
      (r.address = r.package.path → ∃ a, Address.parse r.package.path = .ok a)) ∧
    (Address.PlainTail (Text.splitOn '/' r.package.path.toList) →
      Address.parse r.address = .ok r.path) := by
  obtain ⟨-, rfl⟩ := Program.load_eq_ok_iff.mp hload
  obtain ⟨b, a, hb, ha, hloaded, -, hpath⟩ := exists_reading_of_resolveText h
  have hlegible := (hb.legible_of_mem_readings ha).1
  have haddress : r.address = (a.withPackage r.package.path).render := by
    rw [Resolution.address, hpath, render_readBack]
  have hparse := exists_parse_of_reading hmodule hb ha hloaded htests
  rw [hpath, haddress, parse_render_readBack_iff]
  refine ⟨⟨fun hread htext => htext ▸ hread, fun hpackage => ?_⟩, fun htail => hparse fun _ => htail⟩
  cases hsymbol : a.symbol with
  | none =>
    have htext : (a.withPackage r.package.path).render = r.package.path :=
      (hlegible.withPackage _).render_of_package hsymbol
    rw [htext]
    exact hpackage htext
  | some name => exact hparse (by simp [hsymbol])

/-- The short path of a file alone resolves to the package of the file. -/
theorem exists_resolveText_of_single {parse : Source.Parser} {modulePath path short : String}
    {input : SourceInput}
    (hkey : (loadFile parse modulePath input 0).key = ⟨path, short, true⟩)
    (hparse : Address.parse short = .ok { package := short }) (hne : short ≠ "") :
    ∃ r, ((ofProgram (.ofInputs parse modulePath [input])).resolveText short).2 = .ok r ∧
      r.address = path ∧ r.package.path = path := by
  obtain ⟨p, hpackages, hfile⟩ := exists_groupFiles_singleton (loadFile parse modulePath input 0)
  rw [hkey, PackageKey.mk.injEq] at hfile
  obtain ⟨hpath, hshort, hproject⟩ := hfile
  rw [← loadedFiles_singleton] at hpackages
  have hp : p ∈ groupFiles (loadedFiles parse modulePath [input]) := by simp [hpackages]
  have hloaded : (Program.ofInputs parse modulePath [input]).package? short = some p := by
    obtain ⟨q, hq⟩ := @Program.exists_package?_shortPath modulePath
      ((loadedFiles parse modulePath [input]).map LoadedFile.sourceFile) _ p hp hproject.symm
      (hshort ▸ hne)
    obtain ⟨hmem, -⟩ := Program.package?_cases hq
    rw [hpackages, List.mem_singleton] at hmem
    rw [hshort, Program.ofInputs_eq, hq, hmem]
  have hlegible : Address.Legible { package := short } := by constructor <;> simp
  have htext := hlegible.render_of_package rfl
  have hresolve := resolveText_of_reading hlegible hloaded (htext ▸ hparse)
    (reading?_of_package? hloaded)
  rw [htext] at hresolve
  refine ⟨{ path := readBack { package := p.path }, node := .package p, package := p }, ?_, ?_,
    hpath.symm⟩
  · rw [hresolve]
    rfl
  · have hwhole : Address.Legible { package := p.path } := by constructor <;> simp
    rw [Resolution.address, render_readBack, hwhole.render_of_package rfl, hpath]

/-- A module with one file below a dotted path. -/
def storeInput : SourceInput := ⟨"store/store.go", "package store\n"⟩

/-- A module with one file below a directory that is named like a category. -/
def docInput : SourceInput := ⟨"doc/store/store.go", "package store\n"⟩

/-- The package of a file below a dotted module is read back as the path that it was found with. -/
theorem parse_address_eq_path_of_dotted_module :
    ∃ program, Program.load Source.clauseParser "gopkg.in/yaml.v3" [storeInput] = .ok program ∧
      ∃ r, ((ofProgram program).resolveText "store").2 = .ok r ∧
        r.address = "gopkg.in/yaml.v3/store" ∧ Address.parse r.address = .ok r.path := by
  have hkey : (loadFile Source.clauseParser "gopkg.in/yaml.v3" storeInput 0).key =
      ⟨"gopkg.in/yaml.v3/store", "store", true⟩ := by decide +kernel
  have hshort : Address.parse "store" = .ok { package := "store" } := by decide +kernel
  obtain ⟨r, hresolve, haddress, hpackage⟩ := exists_resolveText_of_single hkey hshort (by decide)
  have hload : Program.load Source.clauseParser "gopkg.in/yaml.v3" [storeInput] =
      .ok (.ofInputs Source.clauseParser "gopkg.in/yaml.v3" [storeInput]) :=
    Program.load_eq_ok_iff.mpr ⟨List.cons_ne_nil _ _, rfl⟩
  have hmodule : Address.ImportPath "gopkg.in/yaml.v3".toList := by
    have hparse : Address.parse "gopkg.in/yaml.v3.Node.Decode" =
        .ok { package := "gopkg.in/yaml.v3", symbol := some "Node", method := some "Decode" } := by
      decide +kernel
    exact (Address.parse_eq_ok_iff.mp hparse).1.package
  have htests : r.package.path = "gopkg.in/yaml.v3" ++ "_test" →
      Address.CarriesSymbols "gopkg.in/yaml.v3".toList := by
    have hdiffers : "gopkg.in/yaml.v3/store" ≠ "gopkg.in/yaml.v3" ++ "_test" := by decide +kernel
    exact fun heq => absurd (hpackage.symm.trans heq) hdiffers
  have hread : Address.parse r.package.path = .ok { package := "gopkg.in/yaml.v3/store" } := by
    rw [hpackage]
    decide +kernel
  have hiff := (parse_address_eq_path_iff hload hmodule hresolve htests).1
  exact ⟨_, hload, r, hresolve, haddress, hiff.mpr fun _ => ⟨_, hread⟩⟩

/-- The package of a file below a directory that is named like a category has an address that cannot
be read. -/
theorem parse_address_fails_below_category :
    ∃ program, Program.load Source.clauseParser "example.com/app" [docInput] = .ok program ∧
      ∃ r, ((ofProgram program).resolveText "doc/store").2 = .ok r ∧
        r.address = "example.com/app/doc/store" ∧ ∀ a, Address.parse r.address ≠ .ok a := by
  have hkey : (loadFile Source.clauseParser "example.com/app" docInput 0).key =
      ⟨"example.com/app/doc/store", "doc/store", true⟩ := by decide +kernel
  have hshort : Address.parse "doc/store" = .ok { package := "doc/store" } := by decide +kernel
  obtain ⟨r, hresolve, haddress, -⟩ := exists_resolveText_of_single hkey hshort (by decide)
  have hload : Program.load Source.clauseParser "example.com/app" [docInput] =
      .ok (.ofInputs Source.clauseParser "example.com/app" [docInput]) :=
    Program.load_eq_ok_iff.mpr ⟨List.cons_ne_nil _ _, rfl⟩
  have hnone : Address.parse? "example.com/app/doc/store" = none := by decide +kernel
  refine ⟨_, hload, r, hresolve, haddress, fun a hparse => ?_⟩
  rw [haddress] at hparse
  rw [Address.parse?, hparse] at hnone
  cases hnone

end Workspace

end GoAddress
