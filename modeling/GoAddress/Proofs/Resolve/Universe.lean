import GoAddress.Proofs.Resolve.Owners

/-!
# The universe and the resolver

The universe lists every address of every package once. Main statements: every listed address
resolves to what it was listed for, so that no address is listed twice; and whatever resolves, in
any spelling, is listed under some address.
-/

namespace GoAddress.Workspace

variable {program : Program} {p : Package} {first position : Nat}

/-- An address of a package keeps it. -/
theorem withPackage_self {a : Address} (h : a.package = p.path) : a.withPackage p.path = a := by
  rw [Address.withPackage, ← h]

/-- The first root of a text is the first root of an address. -/
theorem find?_root_of_render {roots : List Listed} {root : Listed}
    (h : roots.find? (·.1.render == root.1.render) = some root) :
    roots.find? (·.1 == root.1) = some root := by
  obtain ⟨-, before, after, hsplit, hbefore⟩ := List.find?_eq_some_iff_append.mp h
  refine List.find?_eq_some_iff_append.mpr ⟨beq_self_eq_true _, before, after, hsplit, ?_⟩
  intro y hy
  have htext := hbefore y hy
  simp only [Bool.not_eq_true', beq_eq_false_iff_ne, ne_eq] at htext ⊢
  exact fun heq => htext (congrArg Address.render heq)

/-- A root is the address of a symbol or method. -/
theorem IsRoot.exists_eq {a : Address} (h : IsRoot p a) :
    ∃ symbol method, a = p.rootAddress symbol method := by
  obtain ⟨package, symbol, method, subpath⟩ := a
  obtain ⟨rfl, hsymbol, rfl, -⟩ := h
  obtain ⟨name, rfl⟩ := Option.ne_none_iff_exists'.mp hsymbol
  exact ⟨name, method, rfl⟩

/-- The entries are those of the packages. -/
theorem mem_entries {w : Workspace} {e : Entry} :
    e ∈ w.entries ↔ ∃ p ∈ w.program.packages, ∃ x ∈ w.listPackage p, entryOf p x = e := by
  simp [entries, entriesWhere]

/-- What is listed for a package is the package itself, or a chain of listed steps leads to it from
the first root of an address. -/
theorem exists_root_of_mem_listPackage (h : SymbolIndex.Placed program p first position)
    (hregular : p.Regular) {x : Listed} (hx : x ∈ (ofProgram program).listPackage p) :
    x = ({ package := p.path }, .package p) ∨
      ∃ symbol method start, p.roots.find? (·.1 == p.rootAddress symbol method) =
          some (p.rootAddress symbol method, start) ∧
        Chain p (fun _ => True) (p.rootAddress symbol method, start) x := by
  rw [listPackage_eq h hregular.kinds] at hx
  rcases List.mem_cons.mp hx with hx | hx
  · exact Or.inl hx
  · obtain ⟨⟨a, start⟩, hfind, -, hchain⟩ := exists_root_of_mem_walkRoots hx
    have hroot := Package.isRoot_of_mem_roots hregular (List.mem_of_find?_eq_some hfind)
    obtain ⟨symbol, method, rfl⟩ := hroot.exists_eq
    exact Or.inr ⟨symbol, method, start, find?_root_of_render hfind, hchain⟩

/-- Below the first root of an address everything that can be entered is listed. -/
theorem mem_listPackage_of_chain (h : SymbolIndex.Placed program p first position)
    (hregular : p.Regular) {a : Address} {start : Node}
    (hfind : p.roots.find? (·.1 == a) = some (a, start)) {x : Listed}
    (hchain : Chain p (· ≠ .methods) (a, start) x) : x ∈ (ofProgram program).listPackage p := by
  have hroots : ∀ y ∈ p.roots, IsRoot p y.1 := fun y hy => Package.isRoot_of_mem_roots hregular hy
  have hroot := hroots _ (List.mem_of_find?_eq_some hfind)
  rw [listPackage_eq h hregular.kinds]
  refine List.mem_cons_of_mem _ (mem_walkRoots_of_chain hroots hfind hchain ?_)
  -- The only text seen before is that of the package, which has no symbol.
  intro steps hsteps hmem
  have hpackage : Address.Legible { package := p.path } := by constructor <;> simp
  have heq := Address.render_injective (hroot.legible.extend hroot.symbol hsteps) hpackage
    hroot.package (List.mem_singleton.mp hmem)
  exact hroot.symbol (congrArg Address.symbol heq)

/-- What a chain leads to from what a symbol or method resolves to is the node of its address. -/
theorem Chain.node? {admitted : Category → Prop} {symbol : String} {method : Option String}
    {start : Node} (hstart : p.start? symbol method = some start) {x : Listed}
    (h : Chain p admitted (p.rootAddress symbol method, start) x) : p.node? x.1 = some x.2 := by
  obtain ⟨steps, hx, hfollow, -⟩ := h.follow?
  rw [hx]
  simp only [Package.node?, Package.rootAddress, Address.extend, List.nil_append, hstart,
    Option.bind_some, hfollow]

/-- What is listed for a package lies in it, can be told apart, and has the node that it is listed
for; its steps belong to the grammar where the package has no more parts than positions. -/
theorem node?_of_mem_listPackage (h : SymbolIndex.Placed program p first position)
    (hregular : p.Regular) (hlegal : p.LegalInterfaces) {x : Listed}
    (hx : x ∈ (ofProgram program).listPackage p) :
    x.1.package = p.path ∧ x.1.Legible ∧ p.node? x.1 = some x.2 ∧
      (p.partCount ≤ Address.positionBound → ∀ s ∈ x.1.subpath, s.Valid) := by
  rcases exists_root_of_mem_listPackage h hregular hx with
    rfl | ⟨symbol, method, start, hfind, hchain⟩
  · refine ⟨rfl, ⟨?_, ?_, ?_, ?_⟩, rfl, ?_⟩ <;> simp
  · have hmem := List.mem_of_find?_eq_some hfind
    have hroot := Package.isRoot_of_mem_roots hregular hmem
    have hstart : p.start? symbol method = some start := by
      rw [← Package.find?_roots_eq_start? hregular.kinds hlegal, hfind, Option.map_some]
    refine ⟨?_, ?_, hchain.node? hstart, fun hbound =>
      hchain.valid (Package.within_of_mem_roots hmem) hbound (by simp [Package.rootAddress])⟩
    · obtain ⟨steps, hx, -⟩ := hchain.follow?
      rw [hx]
      exact hroot.package
    · obtain ⟨steps, hx, -, hsteps⟩ := hchain.follow?
      rw [hx]
      exact hroot.legible.extend hroot.symbol hsteps

/-- The texts listed for a package are distinct. -/
theorem nodup_listPackage (h : SymbolIndex.Placed program p first position)
    (hregular : p.Regular) : (((ofProgram program).listPackage p).map (·.1.render)).Nodup := by
  rw [listPackage_eq h hregular.kinds, List.map_cons, List.nodup_cons]
  have hdistinct := distinct_walkRoots p [Address.render { package := p.path }] p.roots
  refine ⟨fun hmem => ?_, hdistinct.nodup⟩
  obtain ⟨x, hx, heq⟩ := List.mem_map.mp hmem
  exact hdistinct.unseen x hx (List.mem_singleton.mpr heq)

/-- What is listed for a plain package resolves to itself. -/
theorem resolveText_of_mem_listPackage (h : SymbolIndex.Placed program p first position)
    (hregular : p.Regular) (hlegal : p.LegalInterfaces)
    (hbound : p.partCount ≤ Address.positionBound) (hplain : program.PlainPath p.path)
    (hloaded : program.package? p.path = some p) {x : Listed}
    (hx : x ∈ (ofProgram program).listPackage p) :
    ∃ r, ((ofProgram program).resolveText x.1.render).2 = .ok r ∧ r.address = x.1.render ∧
      r.node = x.2 ∧ r.package = p ∧ Address.parse x.1.render = .ok r.path := by
  obtain ⟨hpackage, hlegible, hnode, hvalid⟩ := node?_of_mem_listPackage h hregular hlegal hx
  obtain ⟨hresolve, hparse, hrender⟩ :=
    resolveText_render hplain hloaded hpackage hlegible (hvalid hbound)
  refine ⟨{ path := readBack x.1, node := x.2, package := p }, ?_, hrender, rfl, rfl, hparse⟩
  rw [hresolve, resolveIn_eq_ok_iff h hregular.kinds]
  exact ⟨hnode, by rw [withPackage_self hpackage], rfl⟩

/-- Every listed address resolves to itself: the text of an entry resolves with the address, kind,
note and package of the entry, and with what the text is read as. So no address is listed twice.
Positions are written in 64 bits, so that no package may have more parts than that. -/
theorem entries_resolve_to_themselves (modulePath : String) (files : List SourceFile)
    {packages : List Package} (hpaths : (packages.map (·.path)).Nodup)
    (hregular : ∀ p ∈ packages, p.Regular) (hlegal : ∀ p ∈ packages, p.LegalInterfaces)
    (hplain : ∀ p ∈ packages, (Program.ofPackages modulePath files packages).PlainPath p.path)
    (hbound : ∀ p ∈ packages, p.partCount ≤ Address.positionBound) :
    (∀ e ∈ (ofProgram (.ofPackages modulePath files packages)).entries,
      ∃ r, ((ofProgram (.ofPackages modulePath files packages)).resolveText e.path).2 = .ok r ∧
        r.address = e.path ∧ r.node.kindLabel = e.kind ∧ r.node.note = e.note ∧
        r.package.path = e.package ∧ Address.parse e.path = .ok r.path) ∧
    ((ofProgram (.ofPackages modulePath files packages)).entries.map (·.path)).Nodup := by
  have hpaths' := @Program.nodup_paths_ofPackages modulePath files packages hpaths
  -- What is listed for a package resolves to the package and to the node that it is listed for.
  have hself : ∀ p ∈ (Program.ofPackages modulePath files packages).packages,
      ∀ x ∈ (ofProgram (.ofPackages modulePath files packages)).listPackage p,
      ∃ r, ((ofProgram (.ofPackages modulePath files packages)).resolveText x.1.render).2 = .ok r ∧
        r.address = x.1.render ∧ r.node = x.2 ∧ r.package = p ∧
        Address.parse x.1.render = .ok r.path := by
    intro p hp x hx
    have hmem := Program.mem_packages_ofPackages.mp hp
    obtain ⟨first, position, hplaced⟩ := SymbolIndex.exists_placed hpaths' hp
    exact resolveText_of_mem_listPackage hplaced (hregular p hmem) (hlegal p hmem) (hbound p hmem)
      (hplain p hmem) (Program.package?_path hpaths hmem) hx
  constructor
  · intro e he
    obtain ⟨p, hp, x, hx, rfl⟩ := mem_entries.mp he
    obtain ⟨r, hresolve, haddress, hnode, hpackage, hparse⟩ := hself p hp x hx
    exact ⟨r, hresolve, haddress, by rw [hnode]; rfl, by rw [hnode]; rfl, by rw [hpackage]; rfl,
      hparse⟩
  · have htexts : (ofProgram (.ofPackages modulePath files packages)).entries.map (·.path) =
        (Program.ofPackages modulePath files packages).packages.flatMap fun p =>
          ((ofProgram (.ofPackages modulePath files packages)).listPackage p).map (·.1.render) := by
      simp [entries, entriesWhere, List.map_flatMap, ofProgram, Function.comp_def, entryOf]
    rw [htexts, List.nodup_flatMap]
    constructor
    · intro p hp
      obtain ⟨first, position, hplaced⟩ := SymbolIndex.exists_placed hpaths' hp
      exact nodup_listPackage hplaced (hregular p (Program.mem_packages_ofPackages.mp hp))
    · -- A text that two packages list would resolve to both.
      refine (List.pairwise_map.mp hpaths').imp_of_mem ?_
      intro p q hp hq hne text htext htext'
      obtain ⟨x, hx, rfl⟩ := List.mem_map.mp htext
      obtain ⟨y, hy, heq⟩ := List.mem_map.mp htext'
      obtain ⟨r, hresolve, -, -, hpackage, -⟩ := hself p hp x hx
      obtain ⟨r', hresolve', -, -, hpackage', -⟩ := hself q hq y hy
      rw [heq, hresolve] at hresolve'
      cases hresolve'
      exact hne (by rw [← hpackage, ← hpackage'])

/-- A package with a dotted import path: two functions of one name, a struct with a tagged field, and
a method whose parameters are blank. -/
def yamlPackage : Package where
  path := "gopkg.in/yaml.v3"
  shortPath := ""
  name := "yaml"
  decls :=
    [{ name := "init", kind := .func, shape := .func { signature := "func init()" } },
     { name := "init", kind := .func, shape := .func { signature := "func init()" } },
     { name := "Node", kind := .type
       shape := .type
        { underlying := { text := "struct" }
          members := .struct
            [{ name := "Kind", type := { text := "int" }, tag := some { raw := "json:\"kind\"" } }]
            [] } },
     { name := "Decode", kind := .method
       shape := .func
        { signature := "func (Node) Decode(_ int, _ string)", receiverType := some "Node"
          params := [{ name := some "_", type := { text := "int" } },
            { name := some "_", type := { text := "string" } }] } }]

/-- A package below a dotted component, with an interface. -/
def storePackage : Package where
  path := "example.org/shop.v2/store"
  shortPath := "store"
  name := "store"
  decls :=
    [{ name := "Reader", kind := .interface
       shape := .type
        { underlying := { text := "interface" }, members := .interface [{ name := "Read" }] [] } }]

/-- A pair in the tag of a field. -/
def tagAddress : Address where
  package := "gopkg.in/yaml.v3"
  symbol := some "Node"
  subpath := [⟨.fields, some (.name "Kind")⟩, ⟨.tag, some (.name "json")⟩]

/-- The dotted import path is read with its version as a symbol of a package that is not loaded. -/
theorem plainPath_yamlPackage :
    (Program.ofPackages "example.org/shop.v2" [] [yamlPackage, storePackage]).PlainPath
      yamlPackage.path := by
  have hparse : Address.parse "gopkg.in/yaml.v3.Node.Decode" =
      .ok { package := "gopkg.in/yaml.v3", symbol := some "Node", method := some "Decode" } := by
    decide +kernel
  refine ⟨(Address.parse_eq_ok_iff.mp hparse).1.package, Or.inr ⟨"gopkg.in/yaml", "v3", ?_, ?_, ?_, ?_⟩⟩
  · decide
  · decide +kernel
  · have hlast : (Text.splitOn '/' "gopkg.in/yaml".toList).getLast? = some "yaml".toList := by
      decide +kernel
    intro part hpart
    rw [hlast] at hpart
    cases hpart
    decide
  · apply Program.package?_eq_none
    decide

/-- The path below a dotted component is read as a package. -/
theorem plainPath_storePackage :
    (Program.ofPackages "example.org/shop.v2" [] [yamlPackage, storePackage]).PlainPath
      storePackage.path :=
  Program.plainPath_of_parse (by decide +kernel)

/-- A pair of a tag in a package with a dotted import path resolves to itself, and no address of the
two packages is listed twice. -/
theorem entries_resolve_to_themselves_of_dotted_module :
    (∃ r, ((ofProgram (.ofPackages "example.org/shop.v2" [] [yamlPackage, storePackage])).resolveText
        "gopkg.in/yaml.v3.Node/fields[Kind]/tag[json]").2 = .ok r ∧
      r.address = "gopkg.in/yaml.v3.Node/fields[Kind]/tag[json]" ∧ r.node.kindLabel = "tag" ∧
      r.node.note = some "kind" ∧ r.package.path = "gopkg.in/yaml.v3") ∧
    ((ofProgram (.ofPackages "example.org/shop.v2" []
      [yamlPackage, storePackage])).entries.map (·.path)).Nodup := by
  have hpaths : ([yamlPackage, storePackage].map (·.path)).Nodup := by decide
  have hregular : ∀ p ∈ [yamlPackage, storePackage], p.Regular := by decide +kernel
  obtain ⟨hself, hnodup⟩ := entries_resolve_to_themselves "example.org/shop.v2" [] hpaths hregular
    (by decide +kernel)
    (by
      intro p hp
      rcases List.mem_pair.mp hp with rfl | rfl
      · exact plainPath_yamlPackage
      · exact plainPath_storePackage)
    (by decide +kernel)
  refine ⟨?_, hnodup⟩
  have hyaml : yamlPackage ∈
      (Program.ofPackages "example.org/shop.v2" [] [yamlPackage, storePackage]).packages :=
    Program.mem_packages_ofPackages.mpr List.mem_cons_self
  obtain ⟨first, position, hplaced⟩ :=
    SymbolIndex.exists_placed (Program.nodup_paths_ofPackages hpaths) hyaml
  have hlisted : (tagAddress, Node.tag { raw := "json:\"kind\"" } (some ("json", "kind"))) ∈
      (ofProgram (.ofPackages "example.org/shop.v2" [] [yamlPackage, storePackage])).listPackage
        yamlPackage := by
    rw [listPackage_eq hplaced (hregular _ List.mem_cons_self).kinds]
    exact List.mem_cons_of_mem _ (by decide +kernel)
  have htext : tagAddress.render = "gopkg.in/yaml.v3.Node/fields[Kind]/tag[json]" := by
    decide +kernel
  rw [← htext]
  obtain ⟨r, hresolve, haddress, hkind, hnote, hpackage, -⟩ :=
    hself _ (mem_entries.mpr ⟨_, hyaml, _, hlisted, rfl⟩)
  exact ⟨r, hresolve, haddress, hkind, hnote, hpackage⟩

/-- A node that the walk enters: a chain of steps that leads to it from what a symbol or method
resolves to goes through no methods. -/
def Entered (p : Package) (x : Listed) : Prop :=
  ∃ symbol method start, p.start? symbol method = some start ∧
    Chain p (· ≠ .methods) (p.rootAddress symbol method, start) x

/-- Chains without methods do not lead up. -/
theorem Chain.height_le {x y : Listed} (h : Chain p (· ≠ .methods) x y) :
    y.2.height ≤ x.2.height := by
  induction h with
  | refl x => exact le_rfl
  | step hs hcategory _ ih =>
    exact ih.trans (Node.height_lt_of_mem_children hs hcategory).le

/-- Chains without methods do not lead to declarations, save to where they start. -/
theorem Chain.eq_of_decl {x : Listed} {a : Address} {d : Decl}
    (h : Chain p (· ≠ .methods) x (a, .decl d)) : x = (a, .decl d) := by
  cases h with
  | refl => rfl
  | @step b node part s _ hs hcategory hx =>
    have hle : 2 ≤ part.height := hx.height_le
    have hlt := Node.height_lt_of_mem_children hs hcategory
    have htop := Node.height_le_two node
    omega

/-- Whatever one step leads to from an entered node is entered, under an address of its own if the
step leads to a method. -/
theorem Entered.step {a : Address} {node part : Node} {s : Segment} (hregular : p.Regular)
    (hmethods : ∀ name, (p.methodNames name).Nodup) (h : Entered p (a, node))
    (hs : node.step? p s = some part) : ∃ b, Entered p (b, part) := by
  obtain ⟨symbol, method, start, hstart, hchain⟩ := h
  obtain ⟨t, -, ht⟩ := Node.exists_mem_children_of_step? hs
  by_cases hcategory : t.category = .methods
  · obtain ⟨d, shape, rfl, hshape, hpart⟩ := Node.exists_method_of_mem_children ht hcategory
    -- A declared type is entered only as a symbol, so that its methods are found under its name.
    cases hchain.eq_of_decl
    obtain ⟨e, rest, hdecls, rfl, he, -, ⟨-, heq⟩ | ⟨name, -, -, hnode⟩⟩ :=
      Package.exists_of_start? hstart
    · cases heq
      have htype := Decl.isType_of_type? (hregular.kinds d he) hshape
      rcases hpart with ⟨m, hm, rfl⟩ | ⟨m, hm, rfl⟩
      · exact ⟨_, d.name, some m.name, _, Package.start?_method hdecls htype (hmethods d.name)
          (Or.inr ⟨m, hm, rfl, rfl⟩), Chain.refl _⟩
      · exact ⟨_, d.name, some m.name, _, Package.start?_method hdecls htype (hmethods d.name)
          (Or.inl ⟨m, hm, rfl, rfl⟩), Chain.refl _⟩
    · have htable := Package.mem_methodTable_of_methodNode? (hdecls ▸ List.mem_cons_self) hnode
      rcases Package.mem_methodTable.mp htable with ⟨m, hm, -, heq⟩ | ⟨_, -, m, -, -, heq⟩ <;>
        cases heq
      rw [Decl.type?_of_receiverType? (Package.mem_methodsOf.mp hm).2] at hshape
      cases hshape
  · exact ⟨a.child t, symbol, method, start, hstart, hchain.snoc ht hcategory⟩

/-- Whatever steps lead to from an entered node is entered. -/
theorem Entered.follow? {a : Address} {node last : Node} {steps : List Segment}
    (hregular : p.Regular) (hmethods : ∀ name, (p.methodNames name).Nodup)
    (h : Entered p (a, node)) (hsteps : Node.follow? p node steps = some last) :
    ∃ b, Entered p (b, last) := by
  induction steps generalizing a node with
  | nil =>
    cases hsteps
    exact ⟨a, h⟩
  | cons s steps ih =>
    obtain ⟨next, hnext, hrest⟩ := Option.bind_eq_some_iff.mp hsteps
    obtain ⟨b, hb⟩ := h.step hregular hmethods hnext
    exact ih hb hrest

/-- What is entered is listed. -/
theorem Entered.mem_listPackage (hplaced : SymbolIndex.Placed program p first position)
    (hregular : p.Regular) (hmethods : ∀ name, (p.methodNames name).Nodup) {x : Listed}
    (h : Entered p x) : x ∈ (ofProgram program).listPackage p := by
  obtain ⟨symbol, method, start, hstart, hchain⟩ := h
  exact mem_listPackage_of_chain hplaced hregular
    (Package.find?_roots_of_start? hregular.kinds (hmethods symbol) hstart) hchain

/-- What is entered has its node under its address. -/
theorem Entered.node? {x : Listed} (h : Entered p x) :
    x.1.package = p.path ∧ p.node? x.1 = some x.2 := by
  obtain ⟨symbol, method, start, hstart, hchain⟩ := h
  refine ⟨?_, hchain.node? hstart⟩
  obtain ⟨steps, hx, -⟩ := hchain.follow?
  rw [hx]
  rfl

/-- The node of an address of a package is listed for the package, under some address that has the
same node. -/
theorem exists_mem_listPackage (hplaced : SymbolIndex.Placed program p first position)
    (hregular : p.Regular) (hmethods : ∀ name, (p.methodNames name).Nodup) {a : Address}
    {node : Node} (h : p.node? a = some node) :
    ∃ b, (b, node) ∈ (ofProgram program).listPackage p ∧ b.package = p.path ∧
      p.node? b = some node := by
  unfold Package.node? at h
  cases hsymbol : a.symbol with
  | none =>
    rw [hsymbol] at h
    cases h
    refine ⟨{ package := p.path }, ?_, rfl, rfl⟩
    rw [listPackage_eq hplaced hregular.kinds]
    exact List.mem_cons_self
  | some symbol =>
    rw [hsymbol] at h
    obtain ⟨start, hstart, hfollow⟩ := Option.bind_eq_some_iff.mp h
    have hentered : Entered p (p.rootAddress symbol a.method, start) :=
      ⟨symbol, a.method, start, hstart, Chain.refl _⟩
    obtain ⟨b, hb⟩ := hentered.follow? hregular hmethods hfollow
    exact ⟨b, hb.mem_listPackage hplaced hregular hmethods, hb.node?⟩

/-- A reading of an address has a loaded package. -/
theorem package?_of_reading? {w : Workspace} {a b : Address} {q : Package}
    (h : w.reading? a = some (q, b)) : w.program.package? b.package = some q := by
  obtain ⟨-, c, -, -, hc, -⟩ := List.findSome?_eq_some_iff.mp h
  obtain ⟨found, hfound, heq⟩ := Option.map_eq_some_iff.mp hc
  cases heq
  exact hfound

/-- Where import paths are distinct, resolving an address of a package succeeds with the node of the
address. -/
theorem resolve_eq_ok_iff {modulePath : String} {files : List SourceFile} {packages : List Package}
    (hpaths : (packages.map (·.path)).Nodup) (hp : p ∈ packages)
    (hkinds : ∀ d ∈ p.decls, d.kindAgrees = true) {a : Address} (hpackage : a.package = p.path)
    {r : Resolution} :
    ((ofProgram (.ofPackages modulePath files packages)).resolve a).2 = .ok r ↔
      p.node? a = some r.node ∧ r.path = readBack a ∧ r.package = p := by
  obtain ⟨first, position, hplaced⟩ :=
    SymbolIndex.exists_placed (@Program.nodup_paths_ofPackages modulePath files packages hpaths)
      (Program.mem_packages_ofPackages.mpr hp)
  have hloaded : (Program.ofPackages modulePath files packages).package? a.package = some p := by
    rw [hpackage]
    exact Program.package?_path hpaths hp
  rw [resolve, reading?_of_package? hloaded]
  dsimp only
  rw [resolveIn_eq_ok_iff hplaced hkinds, withPackage_self hpackage]

/-- Where import paths are distinct, an address of a package resolves to its node. -/
theorem resolve_of_node? {modulePath : String} {files : List SourceFile} {packages : List Package}
    (hpaths : (packages.map (·.path)).Nodup) (hp : p ∈ packages)
    (hkinds : ∀ d ∈ p.decls, d.kindAgrees = true) {a : Address} (hpackage : a.package = p.path)
    {node : Node} (h : p.node? a = some node) :
    ((ofProgram (.ofPackages modulePath files packages)).resolve a).2 =
      .ok { path := readBack a, node, package := p } :=
  (resolve_eq_ok_iff hpaths hp hkinds hpackage).mpr ⟨h, rfl, rfl⟩

/-- Nothing that resolves is missing from the universe: where the methods of each type name are
distinct, whatever any address resolves to is listed for its package, as an entry, under an address
that resolves to the same node of the same package. -/
theorem exists_listed_of_resolve (modulePath : String) (files : List SourceFile)
    {packages : List Package} (hpaths : (packages.map (·.path)).Nodup)
    (hregular : ∀ p ∈ packages, p.Regular)
    (hmethods : ∀ p ∈ packages, ∀ name, (p.methodNames name).Nodup) {a : Address} {r : Resolution}
    (h : ((ofProgram (.ofPackages modulePath files packages)).resolve a).2 = .ok r) :
    ∃ b, (b, r.node) ∈ (ofProgram (.ofPackages modulePath files packages)).listPackage r.package ∧
      entryOf r.package (b, r.node) ∈
        (ofProgram (.ofPackages modulePath files packages)).entries ∧
      ∃ r', ((ofProgram (.ofPackages modulePath files packages)).resolve b).2 = .ok r' ∧
        r'.node = r.node ∧ r'.package = r.package := by
  have hpaths' := @Program.nodup_paths_ofPackages modulePath files packages hpaths
  unfold resolve at h
  split at h
  · next p reading hreading =>
    have hp := Program.mem_of_package? (package?_of_reading? hreading)
    have hmem := Program.mem_packages_ofPackages.mp hp
    obtain ⟨first, position, hplaced⟩ := SymbolIndex.exists_placed hpaths' hp
    obtain ⟨hnode, -, rfl⟩ := (resolveIn_eq_ok_iff hplaced (hregular p hmem).kinds).mp h
    obtain ⟨b, hb, hpackage, hnode'⟩ :=
      exists_mem_listPackage hplaced (hregular _ hmem) (hmethods _ hmem) hnode
    exact ⟨b, hb, mem_entries.mpr ⟨_, hp, _, hb, rfl⟩, _,
      resolve_of_node? hpaths hmem (hregular _ hmem).kinds hpackage hnode', rfl, rfl⟩
  · cases h

/-- The type of a parameter, by positions and through the methods of the receiver. -/
def parameterAddress : Address where
  package := "gopkg.in/yaml.v3"
  symbol := some "Node"
  subpath := [⟨.methods, some (.index 0)⟩, ⟨.params, some (.index 1)⟩, ⟨.type, none⟩]

/-- A parameter that is reached by positions, through the methods of its receiver, is listed under
another address. -/
theorem exists_listed_of_resolve_through_methods :
    ((ofProgram (.ofPackages "example.org/shop.v2" [] [yamlPackage, storePackage])).resolve
      parameterAddress).2 =
        .ok { path := readBack parameterAddress
              node := .typeExpr { text := "string" }
              package := yamlPackage } ∧
    ∃ b, (b, Node.typeExpr { text := "string" }) ∈
      (ofProgram (.ofPackages "example.org/shop.v2" [] [yamlPackage, storePackage])).listPackage
        yamlPackage := by
  have hpaths : ([yamlPackage, storePackage].map (·.path)).Nodup := by decide
  have hregular : ∀ p ∈ [yamlPackage, storePackage], p.Regular := by decide +kernel
  have hmethods : ∀ p ∈ [yamlPackage, storePackage], ∀ name, (p.methodNames name).Nodup := by
    have hdeclared : ∀ p ∈ [yamlPackage, storePackage], ∀ d ∈ p.decls,
        ∀ name ∈ d.name :: d.receiverType?.toList, (p.methodNames name).Nodup := by decide +kernel
    exact fun p hp => Package.nodup_methodNames (hdeclared p hp)
  have hresolve := @resolve_of_node? yamlPackage "example.org/shop.v2" [] _ hpaths
    List.mem_cons_self (hregular _ List.mem_cons_self).kinds parameterAddress rfl
    (.typeExpr { text := "string" }) (by decide +kernel)
  obtain ⟨b, hb, -⟩ := exists_listed_of_resolve "example.org/shop.v2" [] hpaths hregular hmethods
    hresolve
  exact ⟨hresolve, b, hb⟩

end GoAddress.Workspace
