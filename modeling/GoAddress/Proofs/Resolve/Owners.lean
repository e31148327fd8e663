import GoAddress.Proofs.Resolve.Listing

/-!
# First roots

Several declarations can stand under one address. The walk lists the first of them, while resolving
has rules of its own for symbols and methods. Both agree on symbols, and on methods where interfaces
obey the rules of the language; where the methods of a name are distinct, whatever a symbol or
method resolves to stands first under its address.
-/

namespace GoAddress

/-- A search that finds something only in kept elements looks through these. -/
theorem findSome?_eq_filter {α β : Type} {keep : α → Bool} {f g : α → Option β} {xs : List α}
    (h : ∀ x ∈ xs, g x = if keep x then f x else none) :
    xs.findSome? g = (xs.filter keep).findSome? f := by
  induction xs with
  | nil => rfl
  | cons x xs ih =>
    obtain ⟨hx, hxs⟩ := List.forall_mem_cons.mp h
    rw [List.findSome?_cons, hx, ih hxs]
    by_cases hkeep : keep x = true
    · rw [if_pos hkeep, List.filter_cons_of_pos hkeep, List.findSome?_cons]
    · rw [if_neg hkeep, List.filter_cons_of_neg hkeep]

/-- A search that takes any kept element finds the first. -/
theorem findSome?_eq_find? {α β : Type} {keep : α → Bool} {f : α → β} {g : α → Option β}
    {xs : List α} (h : ∀ x ∈ xs, g x = if keep x then some (f x) else none) :
    xs.findSome? g = (xs.find? keep).map f := by
  rw [findSome?_eq_filter h, ← List.head?_filter]
  cases xs.filter keep <;> rfl

namespace Package

/-- The rules of the language for interfaces: their names are declared once, and they are no
receivers. -/
structure LegalInterfaces (p : Package) : Prop where
  /-- The name of an interface is declared once. -/
  once : ∀ d ∈ p.decls, d.kind = .interface → p.topLevel d.name = [d]
  /-- No method has an interface as receiver. -/
  unowned : ∀ d ∈ p.decls, d.kind = .interface → p.methodsOf d.name = []

/-- Whether interfaces obey the rules shows in the declarations. -/
instance (p : Package) : Decidable p.LegalInterfaces :=
  decidable_of_iff ((∀ d ∈ p.decls, d.kind = .interface → p.topLevel d.name = [d]) ∧
      ∀ d ∈ p.decls, d.kind = .interface → p.methodsOf d.name = [])
    ⟨fun h => ⟨h.1, h.2⟩, fun h => ⟨h.once, h.unowned⟩⟩

/-- All methods of a type name, declared or asked for, with their names. -/
def methodTable (p : Package) (name : String) : List (String × Node) :=
  (p.methodsOf name).map (fun d => (d.name, .decl d)) ++
    ((p.topLevel name).flatMap (·.elements)).map fun m => (m.name, .interfaceMethod m)

/-- The names of all methods of a type name. -/
def methodNames (p : Package) (name : String) : List String :=
  (p.methodTable name).map Prod.fst

/-- The address of a symbol or of a method of it. -/
def rootAddress (p : Package) (symbol : String) (method : Option String) : Address :=
  { package := p.path, symbol := some symbol, method }

/-- Addresses are compared by symbol and method. -/
@[simp] theorem beq_rootAddress {p : Package} {symbol symbol' : String}
    {method method' : Option String} :
    (p.rootAddress symbol method == p.rootAddress symbol' method') =
      (symbol == symbol' && method == method') := by
  rw [Bool.eq_iff_iff]
  simp [rootAddress]

/-- The addresses that a declaration without receiver stands under. -/
theorem declRoots_of_none (p : Package) {d : Decl} (h : d.receiverType? = none) :
    p.declRoots d = (p.rootAddress d.name none, .decl d) ::
      d.elements.map fun m => (p.rootAddress d.name (some m.name), .interfaceMethod m) := by
  rw [declRoots, h]
  rfl

/-- The address that a declaration with a receiver stands under. -/
theorem declRoots_of_some (p : Package) {d : Decl} {receiver : String}
    (h : d.receiverType? = some receiver) :
    p.declRoots d =
      if p.owns receiver then [(p.rootAddress receiver (some d.name), .decl d)] else [] := by
  rw [declRoots, h, Decl.elements_of_receiverType? h]
  rfl

/-- The addresses of symbols are those of declarations without receiver. -/
theorem find?_declRoots_symbol (p : Package) (d : Decl) (symbol : String) :
    ((p.declRoots d).find? (·.1 == p.rootAddress symbol none)).map (·.2) =
      if d.name == symbol && d.receiverType?.isNone then some (.decl d) else none := by
  cases hreceiver : d.receiverType? with
  | none =>
    rw [declRoots_of_none p hreceiver]
    by_cases hname : d.name = symbol <;> simp [hname, List.find?_map, Function.comp_def]
  | some receiver =>
    rw [declRoots_of_some p hreceiver]
    by_cases howns : p.owns receiver = true <;> simp [howns]

/-- The addresses of methods are those of declarations with receiver and of elements of
interfaces. -/
theorem find?_declRoots_method (p : Package) (d : Decl) (symbol method : String) :
    ((p.declRoots d).find? (·.1 == p.rootAddress symbol (some method))).map (·.2) =
      if d.receiverType? == some symbol then
        if p.owns symbol && d.name == method then some (.decl d) else none
      else if d.name == symbol && d.receiverType?.isNone then
        (d.elements.find? (·.name == method)).map .interfaceMethod
      else none := by
  cases hreceiver : d.receiverType? with
  | none =>
    rw [declRoots_of_none p hreceiver]
    by_cases hname : d.name = symbol <;> simp [hname, List.find?_map, Function.comp_def]
  | some receiver =>
    rw [declRoots_of_some p hreceiver]
    by_cases howns : p.owns receiver = true <;> by_cases hname : receiver = symbol <;>
      by_cases hmethod : d.name = method <;> simp_all

/-- The first root of an address, declaration by declaration. -/
theorem find?_roots (p : Package) (a : Address) :
    (p.roots.find? (·.1 == a)).map (·.2) =
      p.decls.findSome? fun d => ((p.declRoots d).find? (·.1 == a)).map (·.2) := by
  rw [roots, List.find?_flatMap, List.map_findSome?]
  rfl

/-- The first root of a symbol is what the symbol resolves to. -/
theorem find?_roots_symbol (p : Package) (symbol : String) :
    (p.roots.find? (·.1 == p.rootAddress symbol none)).map (·.2) = p.start? symbol none := by
  rw [find?_roots, findSome?_eq_find? fun d _ => find?_declRoots_symbol p d symbol,
    ← List.head?_filter, start?]
  cases h : p.topLevel symbol with
  | nil =>
    rw [topLevel] at h
    rw [h]
    rfl
  | cons d rest =>
    rw [topLevel] at h
    rw [h]
    rfl

/-- Declarations of a name that is no interface's ask for no methods. -/
theorem elements_of_ne_interface {p : Package} (hkinds : ∀ d ∈ p.decls, d.kindAgrees = true)
    {d : Decl} (hd : d ∈ p.decls) (hkind : d.kind ≠ .interface) : d.elements = [] := by
  rw [List.eq_nil_iff_forall_not_mem]
  exact fun m hm => hkind (Decl.kind_of_mem_elements (hkinds d hd) hm)

/-- The first root of a method of an interface is what the method resolves to. -/
theorem find?_roots_of_interface {p : Package} (hlegal : p.LegalInterfaces) {d : Decl}
    (hd : d ∈ p.decls) (hkind : d.kind = .interface) (method : String) :
    (p.roots.find? (·.1 == p.rootAddress d.name (some method))).map (·.2) =
      p.start? d.name (some method) := by
  have honce := hlegal.once d hd hkind
  have hunowned := hlegal.unowned d hd hkind
  have hper : ∀ e ∈ p.decls,
      ((p.declRoots e).find? (·.1 == p.rootAddress d.name (some method))).map (·.2) =
        if e.name == d.name && e.receiverType?.isNone then
          (e.elements.find? (·.name == method)).map .interfaceMethod
        else none := by
    intro e he
    have hreceiver : ¬(e.receiverType? == some d.name) = true := by
      have hnot : e ∉ p.methodsOf d.name := by simp [hunowned]
      simpa [mem_methodsOf, he] using hnot
    rw [find?_declRoots_method, if_neg hreceiver]
  rw [find?_roots, findSome?_eq_filter hper]
  change (p.topLevel d.name).findSome? _ = _
  have htype : d.kind.isType = true := by rw [hkind]; rfl
  simp [honce, start?, htype, methodNode?, hunowned]

/-- The first root of a method of any other name is what the method resolves to. -/
theorem find?_roots_of_no_interface {p : Package} (hkinds : ∀ d ∈ p.decls, d.kindAgrees = true)
    {symbol : String} (hnone : ∀ d ∈ p.topLevel symbol, d.kind ≠ .interface) (method : String) :
    (p.roots.find? (·.1 == p.rootAddress symbol (some method))).map (·.2) =
      p.start? symbol (some method) := by
  have helements : ∀ d ∈ p.topLevel symbol, d.elements = [] := fun d hd =>
    elements_of_ne_interface hkinds (mem_topLevel.mp hd).1 (hnone d hd)
  have hper : ∀ e ∈ p.decls,
      ((p.declRoots e).find? (·.1 == p.rootAddress symbol (some method))).map (·.2) =
        if e.receiverType? == some symbol then
          if p.owns symbol && e.name == method then some (.decl e) else none
        else none := by
    intro e he
    rw [find?_declRoots_method]
    split
    · rfl
    · split
      · next hnamed =>
        have hmem : e ∈ p.topLevel symbol := List.mem_filter.mpr ⟨he, hnamed⟩
        rw [helements e hmem]
        rfl
      · rfl
  rw [find?_roots, findSome?_eq_filter hper]
  change (p.methodsOf symbol).findSome? _ = _
  rw [findSome?_eq_find? fun _ _ => rfl, start?, owns]
  cases hdecls : p.topLevel symbol with
  | nil => simp
  | cons d rest =>
    have hd : d ∈ p.topLevel symbol := hdecls ▸ List.mem_cons_self
    have hname : d.name = symbol := (mem_topLevel.mp hd).2.1
    cases htype : d.kind.isType <;> simp [htype, methodNode?, hname, helements d hd]

/-- Where interfaces obey the rules of the language, the first root of a symbol or method is what
it resolves to. -/
theorem find?_roots_eq_start? {p : Package} (hkinds : ∀ d ∈ p.decls, d.kindAgrees = true)
    (hlegal : p.LegalInterfaces) (symbol : String) (method : Option String) :
    (p.roots.find? (·.1 == p.rootAddress symbol method)).map (·.2) = p.start? symbol method := by
  cases method with
  | none => exact find?_roots_symbol p symbol
  | some method =>
    by_cases hinterface : ∃ d ∈ p.topLevel symbol, d.kind = .interface
    · obtain ⟨d, hd, hkind⟩ := hinterface
      obtain ⟨hmem, rfl, -⟩ := mem_topLevel.mp hd
      exact find?_roots_of_interface hlegal hmem hkind method
    · exact find?_roots_of_no_interface hkinds (fun d hd hkind => hinterface ⟨d, hd, hkind⟩) method

/-- The roots of a package: declarations without receiver, methods with an owner, and the methods
that interfaces ask for. -/
theorem mem_roots {p : Package} {x : Listed} :
    x ∈ p.roots ↔ ∃ d ∈ p.decls,
      (d.receiverType? = none ∧ x = (p.rootAddress d.name none, .decl d)) ∨
      (∃ receiver, d.receiverType? = some receiver ∧ p.owns receiver = true ∧
        x = (p.rootAddress receiver (some d.name), .decl d)) ∨
      ∃ m ∈ d.elements, x = (p.rootAddress d.name (some m.name), .interfaceMethod m) := by
  rw [roots, List.mem_flatMap]
  refine exists_congr fun d => and_congr_right fun _ => ?_
  cases hreceiver : d.receiverType? with
  | none =>
    rw [declRoots_of_none p hreceiver, List.mem_cons, List.mem_map]
    constructor
    · rintro (rfl | ⟨m, hm, rfl⟩)
      · exact Or.inl ⟨rfl, rfl⟩
      · exact Or.inr (Or.inr ⟨m, hm, rfl⟩)
    · rintro (⟨-, rfl⟩ | ⟨receiver, hsome, -⟩ | ⟨m, hm, rfl⟩)
      · exact Or.inl rfl
      · cases hsome
      · exact Or.inr ⟨m, hm, rfl⟩
  | some receiver =>
    rw [declRoots_of_some p hreceiver, Decl.elements_of_receiverType? hreceiver]
    by_cases howns : p.owns receiver = true <;> simp [howns]

/-- A name that owns methods is declared. -/
theorem exists_of_owns {p : Package} {receiver : String} (h : p.owns receiver = true) :
    ∃ d rest, p.topLevel receiver = d :: rest ∧ d.kind.isType = true := by
  unfold owns at h
  cases hdecls : p.topLevel receiver with
  | nil => simp [hdecls] at h
  | cons d rest =>
    rw [hdecls] at h
    exact ⟨d, rest, rfl, h⟩

/-- The names of roots are identifiers. -/
theorem isRoot_of_mem_roots {p : Package} (hregular : p.Regular) {x : Listed} (hx : x ∈ p.roots) :
    Workspace.IsRoot p x.1 := by
  have hroot : ∀ symbol method, isIdentifier symbol = true →
      (∀ name, method = some name → isIdentifier name = true) →
      Workspace.IsRoot p (p.rootAddress symbol method) := by
    intro symbol method hsymbol hmethod
    refine ⟨rfl, fun h => (nomatch h), rfl, ?_⟩
    exact ⟨fun name hname => Option.some.inj hname ▸ hsymbol, hmethod, fun h => (nomatch h),
      fun s hs => (List.not_mem_nil hs).elim⟩
  obtain ⟨d, hd, ⟨-, rfl⟩ | ⟨receiver, -, howns, rfl⟩ | ⟨m, hm, rfl⟩⟩ := mem_roots.mp hx
  · exact hroot d.name none (hregular.names d hd) fun name h => (nomatch h)
  · obtain ⟨owner, rest, hdecls, -⟩ := exists_of_owns howns
    obtain ⟨howner, rfl, -⟩ :=
      mem_topLevel.mp (hdecls ▸ List.mem_cons_self : owner ∈ p.topLevel receiver)
    exact hroot owner.name (some d.name) (hregular.names owner howner) fun name h =>
      Option.some.inj h ▸ hregular.names d hd
  · exact hroot d.name (some m.name) (hregular.names d hd) fun name h =>
      Option.some.inj h ▸ hregular.elements d hd m hm

/-- The nodes of roots lie within the package. -/
theorem within_of_mem_roots {p : Package} {x : Listed} (hx : x ∈ p.roots) :
    Node.Within p x.2 := by
  obtain ⟨d, hd, ⟨-, rfl⟩ | ⟨receiver, -, -, rfl⟩ | ⟨m, hm, rfl⟩⟩ := mem_roots.mp hx
  · exact Node.Within.of_mem hd
  · exact Node.Within.of_mem hd
  · exact Node.Within.of_mem_elements hd hm

/-- The methods of a type name. -/
theorem mem_methodTable {p : Package} {name method : String} {node : Node} :
    (method, node) ∈ p.methodTable name ↔
      (∃ d ∈ p.methodsOf name, d.name = method ∧ node = .decl d) ∨
      ∃ d ∈ p.topLevel name, ∃ m ∈ d.elements, m.name = method ∧ node = .interfaceMethod m := by
  simp only [methodTable, List.mem_append, List.mem_map, List.mem_flatMap, Prod.mk.injEq]
  constructor
  · rintro (⟨d, hd, rfl, rfl⟩ | ⟨m, ⟨d, hd, hm⟩, rfl, rfl⟩)
    · exact Or.inl ⟨d, hd, rfl, rfl⟩
    · exact Or.inr ⟨d, hd, m, hm, rfl, rfl⟩
  · rintro (⟨d, hd, rfl, rfl⟩ | ⟨d, hd, m, hm, rfl, rfl⟩)
    · exact Or.inl ⟨d, hd, rfl, rfl⟩
    · exact Or.inr ⟨m, ⟨d, hd, hm⟩, rfl, rfl⟩

/-- Where the methods of a name are distinct, their names tell them apart. -/
theorem eq_of_mem_methodTable {p : Package} {name method : String} {x y : Node}
    (hnodup : (p.methodNames name).Nodup) (hx : (method, x) ∈ p.methodTable name)
    (hy : (method, y) ∈ p.methodTable name) : x = y :=
  (Prod.mk.inj (List.inj_on_of_nodup_map hnodup hx hy rfl)).2

/-- The method that a declaration resolves to is one of its name. -/
theorem mem_methodTable_of_methodNode? {p : Package} {d : Decl} (hd : d ∈ p.topLevel d.name)
    {method : String} {node : Node} (h : p.methodNode? d method = some node) :
    (method, node) ∈ p.methodTable d.name := by
  rw [mem_methodTable]
  rcases Option.or_eq_some_iff.mp h with h | ⟨-, h⟩
  · obtain ⟨m, hm, rfl⟩ := Option.map_eq_some_iff.mp h
    exact Or.inl ⟨m, List.mem_of_find?_eq_some hm, by simpa using List.find?_some hm, rfl⟩
  · obtain ⟨m, hm, rfl⟩ := Option.map_eq_some_iff.mp h
    exact Or.inr ⟨d, hd, m, List.mem_of_find?_eq_some hm, by simpa using List.find?_some hm, rfl⟩

/-- A method declared on a name or asked for by its first declaration is what it resolves to, where
the methods of the name are distinct. -/
theorem start?_method {p : Package} {d : Decl} {rest : List Decl}
    (hdecls : p.topLevel d.name = d :: rest) (htype : d.kind.isType = true)
    (hnodup : (p.methodNames d.name).Nodup) {method : String} {node : Node}
    (h : (∃ m ∈ p.methodsOf d.name, m.name = method ∧ node = .decl m) ∨
      ∃ m ∈ d.elements, m.name = method ∧ node = .interfaceMethod m) :
    p.start? d.name (some method) = some node := by
  have hd : d ∈ p.topLevel d.name := hdecls ▸ List.mem_cons_self
  have hmem : (method, node) ∈ p.methodTable d.name := by
    rw [mem_methodTable]
    rcases h with h | ⟨m, hm, hname, hnode⟩
    · exact Or.inl h
    · exact Or.inr ⟨d, hd, m, hm, hname, hnode⟩
  have hsome : (p.methodNode? d method).isSome = true := by
    rw [methodNode?, Option.isSome_or, Option.isSome_map, Option.isSome_map, Bool.or_eq_true,
      List.find?_isSome, List.find?_isSome]
    rcases h with ⟨m, hm, hname, -⟩ | ⟨m, hm, hname, -⟩
    · exact Or.inl ⟨m, hm, beq_iff_eq.mpr hname⟩
    · exact Or.inr ⟨m, hm, beq_iff_eq.mpr hname⟩
  obtain ⟨found, hfound⟩ := Option.isSome_iff_exists.mp hsome
  have heq := eq_of_mem_methodTable hnodup (mem_methodTable_of_methodNode? hd hfound) hmem
  rw [start?, hdecls, List.head?_cons, Option.bind_some]
  simp only [htype, if_true, hfound, heq]

/-- What a symbol or method resolves to belongs to the first declaration of the symbol. -/
theorem exists_of_start? {p : Package} {symbol : String} {method : Option String} {node : Node}
    (h : p.start? symbol method = some node) :
    ∃ d rest, p.topLevel symbol = d :: rest ∧ d.name = symbol ∧ d ∈ p.decls ∧
      d.receiverType? = none ∧
      ((method = none ∧ node = .decl d) ∨
        ∃ name, method = some name ∧ d.kind.isType = true ∧ p.methodNode? d name = some node) := by
  obtain ⟨d, hhead, hnode⟩ := Option.bind_eq_some_iff.mp h
  obtain ⟨rest, hdecls⟩ := List.head?_eq_some_iff.mp hhead
  obtain ⟨hmem, hname, hreceiver⟩ :=
    mem_topLevel.mp (hdecls ▸ List.mem_cons_self : d ∈ p.topLevel symbol)
  refine ⟨d, rest, hdecls, hname, hmem, hreceiver, ?_⟩
  cases method with
  | none => exact Or.inl ⟨rfl, (Option.some.inj hnode).symm⟩
  | some name =>
    right
    dsimp only at hnode
    split at hnode
    · next htype => exact ⟨name, rfl, htype, hnode⟩
    · cases hnode

/-- The methods of a root's address are methods of its symbol. -/
theorem mem_methodTable_of_mem_roots {p : Package} {symbol method : String} {node : Node}
    (hkinds : ∀ d ∈ p.decls, d.kindAgrees = true)
    (h : (p.rootAddress symbol (some method), node) ∈ p.roots) :
    (method, node) ∈ p.methodTable symbol := by
  rw [mem_methodTable]
  obtain ⟨d, hd, ⟨-, heq⟩ | ⟨receiver, hreceiver, -, heq⟩ | ⟨m, hm, heq⟩⟩ := mem_roots.mp h <;>
    simp only [rootAddress, Prod.mk.injEq, Address.mk.injEq, Option.some.injEq, true_and, and_true,
      reduceCtorEq, and_false, false_and] at heq
  · obtain ⟨⟨rfl, rfl⟩, rfl⟩ := heq
    exact Or.inl ⟨d, mem_methodsOf.mpr ⟨hd, hreceiver⟩, rfl, rfl⟩
  · obtain ⟨⟨rfl, rfl⟩, rfl⟩ := heq
    have htype : d.kind.isType = true := by
      rw [Decl.kind_of_mem_elements (hkinds d hd) hm]
      rfl
    have hmem := mem_topLevel.mpr ⟨hd, rfl, Decl.receiverType?_of_isType (hkinds d hd) htype⟩
    exact Or.inr ⟨d, hmem, m, hm, rfl, rfl⟩

/-- Where the methods of each name are distinct, what a symbol or method resolves to is the first
root of its address. -/
theorem find?_roots_of_start? {p : Package} (hkinds : ∀ d ∈ p.decls, d.kindAgrees = true)
    {symbol : String} (hnodup : (p.methodNames symbol).Nodup) {method : Option String} {node : Node}
    (h : p.start? symbol method = some node) :
    p.roots.find? (·.1 == p.rootAddress symbol method) =
      some (p.rootAddress symbol method, node) := by
  cases method with
  | none =>
    rw [← find?_roots_symbol] at h
    obtain ⟨⟨a, found⟩, hfind, rfl⟩ := Option.map_eq_some_iff.mp h
    have ha : a = p.rootAddress symbol none := by simpa using List.find?_some hfind
    rw [hfind, ha]
  | some method =>
    obtain ⟨d, rest, hdecls, rfl, hd, -, ⟨hnone, -⟩ | ⟨name, hname, htype, hnode⟩⟩ :=
      exists_of_start? h
    · cases hnone
    · cases hname
      have htable := mem_methodTable_of_methodNode? (hdecls ▸ List.mem_cons_self) hnode
      -- The node stands under the address, so that the first one there has the same name.
      have hroot : (p.rootAddress d.name (some method), node) ∈ p.roots := by
        rw [mem_roots]
        rcases mem_methodTable.mp htable with ⟨m, hm, rfl, rfl⟩ | ⟨e, he, m, hm, rfl, rfl⟩
        · obtain ⟨hm, hreceiver⟩ := mem_methodsOf.mp hm
          have howns : p.owns d.name = true := by simp [owns, hdecls, htype]
          exact ⟨m, hm, Or.inr (Or.inl ⟨d.name, hreceiver, howns, rfl⟩)⟩
        · obtain ⟨he, hename, -⟩ := mem_topLevel.mp he
          exact ⟨e, he, Or.inr (Or.inr ⟨m, hm, by rw [hename]⟩)⟩
      have hsome : (p.roots.find? (·.1 == p.rootAddress d.name (some method))).isSome = true :=
        List.find?_isSome.mpr ⟨_, hroot, beq_self_eq_true _⟩
      obtain ⟨⟨a, found⟩, hfind⟩ := Option.isSome_iff_exists.mp hsome
      have ha : a = p.rootAddress d.name (some method) := by simpa using List.find?_some hfind
      subst ha
      have hfound := mem_methodTable_of_mem_roots hkinds (List.mem_of_find?_eq_some hfind)
      rw [hfind, eq_of_mem_methodTable hnodup hfound htable]

/-- Whether the methods of every name are distinct shows in the names that are declared and in those
of receivers. -/
theorem nodup_methodNames {p : Package}
    (h : ∀ d ∈ p.decls, ∀ name ∈ d.name :: d.receiverType?.toList, (p.methodNames name).Nodup)
    (name : String) : (p.methodNames name).Nodup := by
  by_cases hname : ∃ d ∈ p.decls, name ∈ d.name :: d.receiverType?.toList
  · obtain ⟨d, hd, hmem⟩ := hname
    exact h d hd name hmem
  · have hmethods : p.methodsOf name = [] := by
      rw [List.eq_nil_iff_forall_not_mem]
      intro d hd
      obtain ⟨hd, hreceiver⟩ := mem_methodsOf.mp hd
      exact hname ⟨d, hd, by simp [hreceiver]⟩
    have hdecls : p.topLevel name = [] := by
      rw [List.eq_nil_iff_forall_not_mem]
      intro d hd
      obtain ⟨hd, hsame, -⟩ := mem_topLevel.mp hd
      exact hname ⟨d, hd, by simp [hsame]⟩
    simp [methodNames, methodTable, hmethods, hdecls]

end Package

end GoAddress
