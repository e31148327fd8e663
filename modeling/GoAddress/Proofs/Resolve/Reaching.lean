import GoAddress.Proofs.Resolve.Misses
import GoAddress.Proofs.Resolve.Names

/-!
# Addresses that can be written

An address below a symbol can be written if its names are identifiers and its steps belong to the
grammar. Main statements: in a package whose declarations can be addressed, such an address resolves
by its text exactly if it stands for a node, and an error below a symbol carries the text of one. So
the address of a symbol resolves unless the symbol is a method that belongs to no type.
-/

namespace GoAddress

namespace Node

variable {p : Package} {node last : Node}

/-- What steps lead to from a part of a package is a part of it. -/
theorem Within.follow? {steps : List Segment} (h : Within p node)
    (hsteps : node.follow? p steps = some last) : Within p last := by
  induction steps generalizing node with
  | nil =>
    cases hsteps
    exact h
  | cons s steps ih =>
    obtain ⟨part, hpart, hrest⟩ := Option.bind_eq_some_iff.mp hsteps
    obtain ⟨t, -, hmem⟩ := exists_mem_children_of_step? hpart
    exact ih (h.child hmem) hrest

/-- One step more is followed from where the steps before it lead. -/
theorem follow?_concat (p : Package) (node : Node) (steps : List Segment) (s : Segment) :
    node.follow? p (steps ++ [s]) = (node.follow? p steps).bind (·.step? p s) := by
  induction steps generalizing node with
  | nil => cases hstep : node.step? p s <;> simp [Node.follow?, hstep]
  | cons t steps ih =>
    simp only [List.cons_append, Node.follow?, ih, Option.bind_assoc]

/-- A step that fails does not report a method. -/
theorem child_ne_methodNotFound (p : Package) (node : Node) (s : Segment)
    (resolved text method : String) :
    node.child p s resolved ≠ .error (.methodNotFound text method) := by
  unfold child checkSelector chooseTag choose
  grind

end Node

namespace Package

variable {p : Package} {symbol : String} {node : Node}

/-- A method of a symbol is declared in the package, or a declaration of the package asks for it. -/
theorem start?_method_cases {method : String} (h : p.start? symbol (some method) = some node) :
    (∃ m ∈ p.decls, m.name = method ∧ node = .decl m) ∨
      ∃ d ∈ p.decls, ∃ m ∈ d.elements, m.name = method ∧ node = .interfaceMethod m := by
  obtain ⟨d, rest, hdecls, rfl, hd, hreceiver, ⟨hnone, -⟩ | ⟨name, hname, -, hnode⟩⟩ :=
    exists_of_start? h
  · cases hnone
  · cases hname
    have hmem : d ∈ p.topLevel d.name := mem_topLevel.mpr ⟨hd, rfl, hreceiver⟩
    rcases mem_methodTable.mp (mem_methodTable_of_methodNode? hmem hnode) with
      ⟨m, hm, hcase⟩ | ⟨d', hd', hcase⟩
    · exact .inl ⟨m, (mem_methodsOf.mp hm).1, hcase⟩
    · exact .inr ⟨d', (mem_topLevel.mp hd').1, hcase⟩

/-- What a symbol or a method of it stands for is a part of the package. -/
theorem within_of_start? {method : Option String} (h : p.start? symbol method = some node) :
    Node.Within p node := by
  cases method with
  | none =>
    obtain ⟨d, rest, -, -, hd, -, ⟨-, rfl⟩ | ⟨name, hname, -⟩⟩ := exists_of_start? h
    · exact .of_mem hd
    · cases hname
  | some method =>
    obtain ⟨m, hm, -, rfl⟩ | ⟨d, hd, m, hm, -, rfl⟩ := start?_method_cases h
    · exact .of_mem hm
    · exact .of_mem_elements hd hm

/-- The address of a symbol, or of a method of it, stands for what the symbol or the method is. -/
theorem node?_rootAddress (p : Package) (symbol : String) (method : Option String) :
    p.node? (p.rootAddress symbol method) = p.start? symbol method := by
  cases hstart : p.start? symbol method <;> simp [node?, rootAddress, hstart, Node.follow?]

/-- A method of the package stands behind its receiver exactly if the receiver owns methods. -/
theorem exists_start?_iff_owns {receiver : String} {m : Decl} (hm : m ∈ p.methodsOf receiver) :
    (∃ start, p.start? receiver (some m.name) = some start) ↔ p.owns receiver = true := by
  constructor
  · rintro ⟨start, hstart⟩
    obtain ⟨owner, others, hdecls, -, -, -, ⟨hnone, -⟩ | ⟨name, -, htype, -⟩⟩ :=
      exists_of_start? hstart
    · cases hnone
    · simp [owns, hdecls, htype]
  · intro howns
    obtain ⟨owner, others, hdecls, htype⟩ := exists_of_owns howns
    obtain ⟨-, rfl, -⟩ := mem_topLevel.mp (hdecls ▸ List.mem_cons_self : owner ∈ p.topLevel receiver)
    have hsome : ((p.methodsOf owner.name).find? (·.name == m.name)).isSome = true :=
      List.find?_isSome.mpr ⟨m, hm, beq_self_eq_true _⟩
    obtain ⟨found, hfound⟩ := Option.isSome_iff_exists.mp hsome
    exact ⟨.decl found, by simp [start?, hdecls, htype, methodNode?, hfound]⟩

end Package

/-- The text of an address one step further down. -/
theorem Address.render_child (a : Address) (s : Segment) :
    (a.child s).render = a.render ++ "/" ++ s.text := by
  rw [← String.toList_inj, toList_render]
  simp [toList_render, child]

/-- An address below a symbol of a package that can be written and stands for a node. -/
structure Package.Reaches (p : Package) (a : Address) (node : Node) : Prop where
  /-- The address lies in the package. -/
  package : a.package = p.path
  /-- It has a symbol. -/
  symbol : a.symbol ≠ none
  /-- Its names are identifiers. -/
  legible : a.Legible
  /-- Its steps belong to the grammar. -/
  valid : ∀ s ∈ a.subpath, s.Valid
  /-- It stands for the node. -/
  node : p.node? a = some node

namespace Package.Reaches

variable {p : Package} {a : Address} {node part : Node} {s : Segment}

/-- A symbol of a package, or a method of it, has an address that can be written. -/
theorem of_start? (hregular : p.Regular) {symbol : String} {method : Option String}
    (h : p.start? symbol method = some node) : p.Reaches (p.rootAddress symbol method) node := by
  obtain ⟨d, rest, -, rfl, hd, -⟩ := exists_of_start? h
  refine ⟨rfl, by simp [rootAddress], ⟨?_, ?_, by simp [rootAddress], by simp [rootAddress]⟩,
    by simp [rootAddress], (node?_rootAddress p d.name method).trans h⟩
  · rintro name ⟨⟩
    exact hregular.names d hd
  · rintro name ⟨⟩
    obtain ⟨m, hm, rfl, -⟩ | ⟨d', hd', m, hm, rfl, -⟩ := start?_method_cases h
    · exact hregular.names m hm
    · exact hregular.elements d' hd' m hm

/-- What an address stands for is found from its symbol and method by following its steps. -/
theorem exists_start? (h : p.Reaches a node) :
    ∃ symbol start, a.symbol = some symbol ∧ p.start? symbol a.method = some start ∧
      start.follow? p a.subpath = some node := by
  obtain ⟨symbol, hsymbol⟩ := Option.ne_none_iff_exists'.mp h.symbol
  have hnode := h.node
  simp only [node?, hsymbol] at hnode
  obtain ⟨start, hstart, hsteps⟩ := Option.bind_eq_some_iff.mp hnode
  exact ⟨symbol, start, hsymbol, hstart, hsteps⟩

/-- What an address stands for is a part of the package. -/
theorem within (h : p.Reaches a node) : Node.Within p node := by
  obtain ⟨symbol, start, -, hstart, hsteps⟩ := h.exists_start?
  exact (within_of_start? hstart).follow? hsteps

/-- Every listed step leads on to an address that can be written as well. -/
theorem child (h : p.Reaches a node) (hbound : p.partCount ≤ Address.positionBound)
    (hs : (s, part) ∈ node.children p) : p.Reaches (a.child s) part where
  package := h.package
  symbol := h.symbol
  legible := h.legible.child h.symbol (Node.legible_of_mem_children hs)
  valid := by
    have hlength := (h.within.length_choices s.category).trans hbound
    intro t ht
    rcases List.mem_append.mp ht with ht | ht
    · exact h.valid t ht
    · rw [List.mem_singleton.mp ht]
      exact Node.valid_of_mem_children hs hlength
  node := by
    obtain ⟨symbol, start, hsymbol, hstart, hsteps⟩ := h.exists_start?
    have hstep := Node.step?_of_mem_children hs
    simp only [node?, Address.child, hsymbol, hstart, Option.bind_some, Node.follow?_concat, hsteps,
      hstep]

end Package.Reaches

/-- A package of a program whose declarations can be addressed behind its import path. -/
structure Program.Addressable (program : Program) (p : Package) : Prop where
  /-- Its symbols stand in a row of the index. -/
  placed : ∃ first position, SymbolIndex.Placed program p first position
  /-- It answers to its import path. -/
  loaded : program.package? p.path = some p
  /-- Its declarations agree with their kinds and have names. -/
  regular : p.Regular
  /-- The receivers of its methods have names. -/
  receivers : ∀ d ∈ p.decls, ∀ receiver ∈ d.receiverType?, isIdentifier receiver = true
  /-- Symbols behind the import path are read as such. -/
  reads : program.ReadsBehind p.path
  /-- Its parts can be counted. -/
  bound : p.partCount ≤ Address.positionBound

/-- Every beginning of an address that can be written can be written, in any package. -/
theorem Address.Beginning.reaches {p : Package} {a b : Address} {node : Node} (hb : b.Beginning a)
    (hlegible : a.Legible) (hvalid : ∀ s ∈ a.subpath, s.Valid) (hnode : p.node? b = some node) :
    p.Reaches (b.withPackage p.path) node := by
  have hsymbol : b.symbol ≠ none := by
    rw [hb.symbol.2]
    exact hb.symbol.1
  have hname : ∀ name, b.symbol = some name → isIdentifier name = true := by
    rw [hb.symbol.2]
    exact hlegible.symbol
  rcases hb.rest with ⟨hmethod, hsteps⟩ | ⟨hmethod, hsteps⟩
  · refine ⟨rfl, hsymbol, ⟨hname, ?_, fun hnone => absurd hnone hsymbol, ?_⟩, ?_, hnode⟩
    · simp [withPackage, hmethod]
    · simp [withPackage, hsteps]
    · simp [withPackage, hsteps]
  · have hmem : ∀ s ∈ b.subpath, s ∈ a.subpath := fun s hs => hsteps.subset hs
    refine ⟨rfl, hsymbol, ⟨hname, ?_, fun hnone => absurd hnone hsymbol, ?_⟩, ?_, hnode⟩
    · intro name hname
      exact hlegible.method name (hmethod ▸ hname)
    · exact fun s hs => hlegible.steps s (hmem s hs)
    · exact fun s hs => hvalid s (hmem s hs)

namespace Workspace

variable {program : Program} {p : Package} {a : Address} {node : Node} {e : ResolveError}

/-- The text of an address that stands for a node is read, and resolves to the node. -/
theorem resolve_of_reaches (hp : program.Addressable p) (ha : p.Reaches a node) :
    ∃ b, Address.parse a.render = .ok b ∧
      ((ofProgram program).resolve b).2 = .ok { path := readBack a, node, package := p } := by
  obtain ⟨first, position, hplaced⟩ := hp.placed
  obtain ⟨b, hparse, hreading⟩ := exists_reading hp.reads hp.loaded ha.package ha.legible ha.valid
    fun hnone => absurd hnone ha.symbol
  refine ⟨b, hparse, ?_⟩
  simp only [resolve, hreading]
  rw [resolveIn_eq_ok_iff hplaced hp.regular.kinds]
  exact ⟨ha.node, by rw [withPackage_self ha.package], rfl⟩

/-- An address below a symbol of an addressable package resolves exactly if it stands for a node. -/
theorem resolveText_render_iff (hp : program.Addressable p) (hpackage : a.package = p.path)
    (hsymbol : a.symbol ≠ none) (hlegible : a.Legible) (hvalid : ∀ s ∈ a.subpath, s.Valid) :
    (∃ r, ((ofProgram program).resolveText a.render).2 = .ok r) ↔ ∃ node, p.node? a = some node := by
  obtain ⟨first, position, hplaced⟩ := hp.placed
  rw [resolveText_behind hp.reads hp.loaded hpackage hlegible hvalid
    fun hnone => absurd hnone hsymbol]
  simp only [resolveIn_eq_ok_iff hplaced hp.regular.kinds]
  constructor
  · rintro ⟨r, hr⟩
    exact ⟨r.node, hr.1⟩
  · rintro ⟨node, hnode⟩
    exact ⟨{ path := _, node, package := p }, hnode, rfl, rfl⟩

/-- An address that stands for a node resolves. -/
theorem exists_resolveText_of_reaches (hp : program.Addressable p) (ha : p.Reaches a node) :
    ∃ r, ((ofProgram program).resolveText a.render).2 = .ok r :=
  (resolveText_render_iff hp ha.package ha.symbol ha.legible ha.valid).mpr ⟨node, ha.node⟩

/-- A key of a package that is read as a package resolves. -/
theorem resolves_of_plainPath {key : String} (hplain : program.PlainPath key)
    (hloaded : program.package? key = some p) :
    ∃ r, ((ofProgram program).resolveText key).2 = .ok r := by
  have hlegible : ({ package := key } : Address).Legible := by constructor <;> simp
  have htext := resolveText_behind hplain.readsBehind.1 hloaded rfl hlegible (by simp)
    fun _ => hplain.readsBehind.2
  rw [hlegible.render_of_package rfl] at htext
  rw [htext]
  exact ⟨_, rfl⟩

/-- An error below a symbol carries the text of an address that stands for a node. -/
theorem exists_reaches_of_resolveIn (hp : program.Addressable p) (hlegible : a.Legible)
    (hvalid : ∀ s ∈ a.subpath, s.Valid) (h : ((ofProgram program).resolveIn p a).2 = .error e)
    (hbelow : e.isBelowSymbol = true) :
    ∃ b node, p.Reaches b node ∧ e.partial? = some b.render := by
  obtain ⟨first, position, hplaced⟩ := hp.placed
  obtain ⟨name, s, others, d, hsymbol, hfind, hdecl, hresolve⟩ :=
    exists_symbol_of_resolveIn h hbelow
  obtain ⟨b, hb, ⟨node, hnode⟩, hpartial, -⟩ := exists_beginning_of_resolveSymbol hsymbol hresolve
  have hin := resolveIn_eq_map_resolveSymbol (hb.symbol.2.trans hsymbol) hfind hdecl
  rw [hnode] at hin
  have hnode? := ((resolveIn_eq_ok_iff hplaced hp.regular.kinds).mp hin).1
  exact ⟨_, node, hb.reaches hlegible hvalid hnode?, hpartial⟩

/-- Steps that fail do not report a method. -/
theorem descend_ne_methodNotFound (p : Package) (node : Node) (resolved : String)
    (steps : List Segment) (text method : String) :
    descend p node resolved steps ≠ .error (.methodNotFound text method) := by
  fun_induction descend p node resolved steps with
  | case1 => simp
  | case2 node resolved s rest e hchild =>
    have hne := Node.child_ne_methodNotFound p node s resolved text method
    rwa [hchild] at hne
  | case3 node resolved s rest next hchild ih => exact ih

/-- A method that is not found is sought on the first declaration of a name. -/
theorem exists_decl_of_methodNotFound (hp : program.Addressable p) {resolved method : String}
    (h : ((ofProgram program).resolveIn p a).2 = .error (.methodNotFound resolved method)) :
    ∃ d rest, p.topLevel d.name = d :: rest ∧ resolved = (p.rootAddress d.name none).render := by
  obtain ⟨first, position, hplaced⟩ := hp.placed
  obtain ⟨name, s, others, found, hsymbol, hfind, hdecl, hresolve⟩ :=
    exists_symbol_of_resolveIn h rfl
  have hne : p.topLevel name ≠ [] := by
    intro hnone
    have hnil := SymbolIndex.find_eq_nil hplaced hnone
    exact List.cons_ne_nil s others (hfind.symm.trans hnil)
  obtain ⟨d, rest, hdecls⟩ := List.exists_cons_of_ne_nil hne
  obtain ⟨-, rfl, -⟩ :=
    Package.mem_topLevel.mp (hdecls ▸ List.mem_cons_self : d ∈ p.topLevel name)
  refine ⟨d, rest, hdecls, ?_⟩
  cases hmethod : a.method with
  | none =>
    rw [resolveSymbol_of_none hmethod] at hresolve
    exact (descend_ne_methodNotFound _ _ _ _ _ _ hresolve).elim
  | some sought =>
    cases hfound : (ofProgram program).methodOf? s found sought with
    | none =>
      rw [resolveSymbol_of_not_found hmethod hfound] at hresolve
      cases hresolve
      simp [Package.rootAddress, Address.render, String.append_assoc]
    | some start =>
      rw [resolveSymbol_of_found hmethod hfound] at hresolve
      exact (descend_ne_methodNotFound _ _ _ _ _ _ hresolve).elim

/-- A text that fails to resolve is no address, or a lone name that nothing or too much has, or the
error is that of a reading of it. -/
theorem resolveText_error_cases {w : Workspace} {text : String}
    (h : (w.resolveText text).2 = .error e) :
    (∃ error, e = .parse error) ∨ (∃ name, e = .symbolNotFound anyPackage name) ∨
      (∃ name, e = .ambiguous name (sortedSet ((w.index.lookup name).map (·.address)))) ∨
      ∃ b : Address, b.WellFormed ∧ (w.resolve b).2 = .error e := by
  have hparsed : ∀ {text : String} {b : Address}, Address.parse text = .ok b → b.WellFormed :=
    fun hparse => (Address.parse_eq_ok_iff.mp hparse).1
  unfold resolveText at h
  dsimp only at h
  split at h
  · unfold resolveName at h
    split at h
    · cases h
      exact .inr (.inl ⟨_, rfl⟩)
    · split at h
      · next b hparse => exact .inr (.inr (.inr ⟨b, hparsed hparse, h⟩))
      · cases h
        exact .inl ⟨_, rfl⟩
    · cases h
      exact .inr (.inr (.inl ⟨_, rfl⟩))
  · split at h
    · next b hparse => exact .inr (.inr (.inr ⟨b, hparsed hparse, h⟩))
    · cases h
      exact .inl ⟨_, rfl⟩

/-- An address that fails to resolve has no package, or fails in the package of a reading that can
be written. -/
theorem resolve_error_cases {w : Workspace} {b : Address} (hb : b.WellFormed)
    (h : (w.resolve b).2 = .error e) :
    e = .packageNotFound b.package ∨
      ∃ p a, w.program.package? a.package = some p ∧ a.Legible ∧ (∀ s ∈ a.subpath, s.Valid) ∧
        (w.resolveIn p a).2 = .error e := by
  unfold resolve at h
  split at h
  · next p a hreading =>
    obtain ⟨before, a', after, hsplit, hfound, -⟩ := List.findSome?_eq_some_iff.mp hreading
    obtain ⟨q, -, heq⟩ := Option.map_eq_some_iff.mp hfound
    cases heq
    have hmem : a ∈ b :: b.alternatives := by simp [hsplit]
    obtain ⟨hlegible, hvalid, -⟩ := hb.legible_of_mem_readings hmem
    exact .inr ⟨p, a, package?_of_reading? hreading, hlegible, hvalid, h⟩
  · cases h
    exact .inl rfl

/-- An error below a symbol comes from a reading of the text that can be written. -/
theorem exists_resolveIn_of_isBelowSymbol {w : Workspace} {text : String}
    (h : (w.resolveText text).2 = .error e) (hbelow : e.isBelowSymbol = true) :
    ∃ p ∈ w.program.packages, ∃ a : Address, a.Legible ∧ (∀ s ∈ a.subpath, s.Valid) ∧
      (w.resolveIn p a).2 = .error e := by
  rcases resolveText_error_cases h with
    ⟨error, rfl⟩ | ⟨name, rfl⟩ | ⟨name, rfl⟩ | ⟨b, hb, hresolve⟩
  · cases hbelow
  · cases hbelow
  · cases hbelow
  · rcases resolve_error_cases hb hresolve with rfl | ⟨p, a, hloaded, hlegible, hvalid, hin⟩
    · cases hbelow
    · exact ⟨p, Program.mem_of_package? hloaded, a, hlegible, hvalid, hin⟩

/-- Resolving in a package is never ambiguous. -/
theorem resolveIn_ne_ambiguous (w : Workspace) (p : Package) (a : Address) (name : String)
    (candidates : List String) : (w.resolveIn p a).2 ≠ .error (.ambiguous name candidates) := by
  intro h
  unfold resolveIn at h
  split at h
  · cases h
  · next sought hsymbol =>
    split at h
    · cases h
    · dsimp only at h
      split at h
      · cases h
      · next d hdecl =>
        dsimp only [Except.map] at h
        split at h
        · next hresolve =>
          cases h
          obtain ⟨b, -, -, hpartial, -⟩ := exists_beginning_of_resolveSymbol hsymbol hresolve
          cases hpartial
        · cases h

/-- Whether a symbol is a method that belongs to no type of its package. -/
def IsOwnerless (w : Workspace) (s : Symbol) : Prop :=
  ∃ receiver, s.receiver = some receiver ∧ w.hasOwner s receiver = false

/-- A symbol is without an owner exactly if it has a receiver that owns no methods. -/
theorem isOwnerless_symbolAt_iff {first position : Nat}
    (hplaced : SymbolIndex.Placed program p first position)
    (hkinds : ∀ d ∈ p.decls, d.kindAgrees = true) {x : Decl × Nat} (hx : x ∈ p.decls.zipIdx) :
    (ofProgram program).IsOwnerless (SymbolIndex.symbolAt first position p x) ↔
      ∃ receiver ∈ x.1.receiverType?, p.owns receiver = false := by
  constructor
  · rintro ⟨receiver, hreceiver, hnone⟩
    rw [hasOwner_symbolAt hplaced hkinds hx hreceiver] at hnone
    exact ⟨receiver, hreceiver, hnone⟩
  · rintro ⟨receiver, hreceiver, hnone⟩
    refine ⟨receiver, hreceiver, ?_⟩
    rw [hasOwner_symbolAt hplaced hkinds hx hreceiver, hnone]

/-- The address of a symbol stands for something unless its receiver owns no methods. -/
theorem exists_node?_symbolAt_iff {first position : Nat} {x : Decl × Nat}
    (hx : x ∈ p.decls.zipIdx) :
    (∃ node, p.node? (SymbolIndex.symbolAt first position p x).path = some node) ↔
      ∀ receiver ∈ x.1.receiverType?, p.owns receiver = true := by
  have hd : x.1 ∈ p.decls := List.fst_mem_of_mem_zipIdx hx
  cases hreceiver : x.1.receiverType? with
  | none =>
    have hmem : x.1 ∈ p.topLevel x.1.name := Package.mem_topLevel.mpr ⟨hd, rfl, hreceiver⟩
    obtain ⟨d, rest, hdecls⟩ := List.exists_cons_of_ne_nil (List.ne_nil_of_mem hmem)
    have hpath : (SymbolIndex.symbolAt first position p x).path = p.rootAddress x.1.name none := by
      simp [Symbol.path, SymbolIndex.symbolAt, hreceiver, Package.rootAddress]
    rw [hpath, Package.node?_rootAddress]
    simp [Package.start?, hdecls]
  | some receiver =>
    have hpath : (SymbolIndex.symbolAt first position p x).path =
        p.rootAddress receiver (some x.1.name) := by
      simp [Symbol.path, SymbolIndex.symbolAt, hreceiver, Package.rootAddress]
    have hmem : x.1 ∈ p.methodsOf receiver := Package.mem_methodsOf.mpr ⟨hd, hreceiver⟩
    rw [hpath, Package.node?_rootAddress, Package.exists_start?_iff_owns hmem]
    simp

/-- The address of a symbol resolves exactly if the symbol is no method without an owner. -/
theorem resolves_symbol_iff (hnodup : (program.packages.map (·.path)).Nodup)
    (hpackages : ∀ p ∈ program.packages, program.Addressable p) {y : Symbol}
    (hy : y ∈ (ofProgram program).index.symbols) :
    (∃ r, ((ofProgram program).resolveText y.address).2 = .ok r) ↔
      ¬ (ofProgram program).IsOwnerless y := by
  obtain ⟨p, hmem, first, position, hplaced, x, hx, rfl⟩ :=
    SymbolIndex.exists_placed_of_mem_symbols hnodup hy
  have hp := hpackages p hmem
  have hd : x.1 ∈ p.decls := List.fst_mem_of_mem_zipIdx hx
  have hlegible : (SymbolIndex.symbolAt first position p x).path.Legible :=
    Symbol.legible_path (hp.regular.names _ hd) (hp.receivers _ hd)
  rw [← Symbol.render_path, resolveText_render_iff hp (Symbol.path_package _)
    (Symbol.path_symbol_ne_none _) hlegible (by simp), exists_node?_symbolAt_iff hx,
    isOwnerless_symbolAt_iff hplaced hp.regular.kinds hx]
  simp

end Workspace

end GoAddress
