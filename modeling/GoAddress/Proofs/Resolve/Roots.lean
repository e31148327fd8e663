import GoAddress.Proofs.Program.Index
import GoAddress.Proofs.Resolve.Parts

/-!
# Symbols and methods of one package

Looking up a symbol, its methods and the owner of a method goes through the index of the whole
program. Here all three are put in terms of the declarations of one package: `start?` is the node
that a symbol with or without a method stands for, and `roots` are the addresses under which the
declarations of a package are listed.
-/

namespace GoAddress

namespace Decl

/-- The methods that the declaration of an interface asks for. -/
def elements (d : Decl) : List InterfaceMethod :=
  (d.type?.map (·.interfaceMethods)).getD []

/-- Whether the kind of a declaration is the one of its shape. -/
def kindAgrees (d : Decl) : Bool :=
  match d.shape with
  | .func f => d.kind == if f.receiverType.isSome then .method else .func
  | .type t => d.kind == if t.isInterface then .interface else .type
  | .value _ => d.kind == .const || d.kind == .var

/-- Types have no receivers. -/
theorem receiverType?_of_isType {d : Decl} (h : d.kindAgrees = true) (htype : d.kind.isType = true) :
    d.receiverType? = none := by
  unfold kindAgrees at h
  split at h
  · next f hshape =>
    rw [beq_iff_eq.mp h] at htype
    split at htype <;> cases htype
  · next t hshape => simp [receiverType?, func?, hshape]
  · next v hshape => simp [receiverType?, func?, hshape]

/-- The declaration of a type has the kind of a type. -/
theorem isType_of_type? {d : Decl} (h : d.kindAgrees = true) {t : TypeShape}
    (htype : d.type? = some t) : d.kind.isType = true := by
  unfold type? at htype
  split at htype
  · next t' hshape =>
    rw [kindAgrees, hshape] at h
    rw [beq_iff_eq.mp h]
    split <;> rfl
  · cases htype

/-- Only interfaces ask for methods. -/
theorem kind_of_mem_elements {d : Decl} (h : d.kindAgrees = true) {m : InterfaceMethod}
    (hm : m ∈ d.elements) : d.kind = .interface := by
  unfold elements type? at hm
  split at hm
  · next t hshape =>
    have hinterface : t.isInterface = true := by
      obtain ⟨typeParams, underlying, isAlias, members⟩ := t
      cases members with
      | interface methods embeds => rfl
      | struct fields embeds => exact (List.not_mem_nil hm).elim
      | other => exact (List.not_mem_nil hm).elim
    rw [kindAgrees, hshape] at h
    dsimp only at h
    rwa [if_pos hinterface, beq_iff_eq] at h
  · exact (List.not_mem_nil hm).elim

/-- Declarations with a receiver are no types. -/
theorem type?_of_receiverType? {d : Decl} {receiver : String}
    (h : d.receiverType? = some receiver) : d.type? = none := by
  unfold receiverType? func? at h
  split at h
  · next f hshape => simp [type?, hshape]
  · cases h

/-- Declarations with a receiver ask for no methods. -/
theorem elements_of_receiverType? {d : Decl} {receiver : String}
    (h : d.receiverType? = some receiver) : d.elements = [] := by
  rw [elements, type?_of_receiverType? h]
  rfl

end Decl

namespace Package

/-- Declarations as extraction leaves them: kinds agree with shapes, and the names of declarations
and of the methods of interfaces are identifiers. The packages of a loaded program are regular by
`Program.exists_packages_of_load`. -/
structure Regular (p : Package) : Prop where
  /-- Kinds agree with shapes. -/
  kinds : ∀ d ∈ p.decls, d.kindAgrees = true
  /-- Declared names are identifiers. -/
  names : ∀ d ∈ p.decls, isIdentifier d.name = true
  /-- The names of the methods of interfaces are identifiers. -/
  elements : ∀ d ∈ p.decls, ∀ m ∈ d.elements, isIdentifier m.name = true

/-- Regular packages are recognised by looking at their declarations. -/
instance (p : Package) : Decidable p.Regular :=
  decidable_of_iff ((∀ d ∈ p.decls, d.kindAgrees = true) ∧
      (∀ d ∈ p.decls, isIdentifier d.name = true) ∧
      ∀ d ∈ p.decls, ∀ m ∈ d.elements, isIdentifier m.name = true)
    ⟨fun h => ⟨h.1, h.2.1, h.2.2⟩, fun h => ⟨h.kinds, h.names, h.elements⟩⟩

/-- Whether methods of a receiver belong to a type: the first declaration of the name is one. -/
def owns (p : Package) (receiver : String) : Bool :=
  (p.topLevel receiver).head?.any (·.kind.isType)

/-- The method of a type: the first declared on it, or else the first that it asks for. -/
def methodNode? (p : Package) (d : Decl) (method : String) : Option Node :=
  (((p.methodsOf d.name).find? (·.name == method)).map .decl).or
    ((d.elements.find? (·.name == method)).map .interfaceMethod)

/-- The node that a symbol stands for, or one of its methods. -/
def start? (p : Package) (symbol : String) (method : Option String) : Option Node :=
  (p.topLevel symbol).head?.bind fun d =>
    match method with
    | none => some (.decl d)
    | some method => if d.kind.isType then p.methodNode? d method else none

/-- The node of an address in a package, whatever package the address itself has. -/
def node? (p : Package) (a : Address) : Option Node :=
  match a.symbol with
  | none => some (.package p)
  | some symbol => (p.start? symbol a.method).bind (Node.follow? p · a.subpath)

/-- The addresses that a declaration stands under, with the nodes that they are listed for. -/
def declRoots (p : Package) (d : Decl) : List Listed :=
  let elements := d.elements.map fun m =>
    (({ package := p.path, symbol := some d.name, method := some m.name } : Address),
      Node.interfaceMethod m)
  match d.receiverType? with
  | some receiver =>
    if p.owns receiver then
      ({ package := p.path, symbol := some receiver, method := some d.name }, .decl d) :: elements
    else []
  | none => ({ package := p.path, symbol := some d.name }, .decl d) :: elements

/-- The addresses that the declarations of a package stand under. -/
def roots (p : Package) : List Listed :=
  p.decls.flatMap p.declRoots

/-- The declarations of a name have that name, and none of them has a receiver. -/
theorem mem_topLevel {p : Package} {name : String} {d : Decl} :
    d ∈ p.topLevel name ↔ d ∈ p.decls ∧ d.name = name ∧ d.receiverType? = none := by
  simp [topLevel]

/-- The methods of a receiver. -/
theorem mem_methodsOf {p : Package} {name : String} {d : Decl} :
    d ∈ p.methodsOf name ↔ d ∈ p.decls ∧ d.receiverType? = some name := by
  simp [methodsOf]

end Package

namespace SymbolIndex

variable {program : Program} {p : Package} {first position : Nat}

/-- A symbol gives back its declaration. -/
theorem decl?_symbolAt (h : Placed program p first position) {x : Decl × Nat}
    (hx : x ∈ p.decls.zipIdx) : (symbolAt first position p x).decl? program = some x.1 := by
  have hdecl := List.mem_zipIdx_iff_getElem?.mp hx
  simp [Symbol.decl?, symbolAt, h.packages, hdecl]

/-- A name that is not declared is not found. -/
theorem find_eq_nil (h : Placed program p first position) {name : String}
    (hnone : p.topLevel name = []) : (build program).find p.path name = [] := by
  rw [find, h.inPackage, packageSymbols_eq, List.filter_map, List.map_eq_nil_iff,
    List.filter_eq_nil_iff]
  intro x hx
  exact List.filter_eq_nil_iff.mp hnone x.1 (List.fst_mem_of_mem_zipIdx hx)

/-- Of a declared name the first declaration is found first, and it owns the methods of the name if
it is a type. -/
theorem find_eq_cons (h : Placed program p first position)
    (hkinds : ∀ d ∈ p.decls, d.kindAgrees = true) {name : String} {d : Decl} {rest : List Decl}
    (hdecls : p.topLevel name = d :: rest) :
    ∃ i others, (build program).find p.path name = symbolAt first position p (d, i) :: others ∧
      (d, i) ∈ p.decls.zipIdx ∧ (d.kind.isType = true → ownerIndex? p.decls name = some i) := by
  obtain ⟨before, after, hsplit, hbefore, hd, -⟩ := List.filter_eq_cons_iff.mp hdecls
  have hzip : p.decls.zipIdx =
      before.zipIdx ++ (d, before.length) :: after.zipIdx (before.length + 1) := by
    rw [hsplit, List.zipIdx_append, List.zipIdx_cons, Nat.zero_add]
  let isNamed := (fun s : Symbol => s.name == name && s.receiver.isNone) ∘ symbolAt first position p
  have hskip : before.zipIdx.filter isNamed = [] := by
    rw [List.filter_eq_nil_iff]
    intro x hx
    exact hbefore x.1 (List.fst_mem_of_mem_zipIdx hx)
  have hnamed : isNamed (d, before.length) = true := hd
  have hfind : (build program).find p.path name = symbolAt first position p (d, before.length) ::
      ((after.zipIdx (before.length + 1)).filter isNamed).map (symbolAt first position p) := by
    rw [find, h.inPackage, packageSymbols_eq, List.filter_map, hzip, List.filter_append, hskip,
      List.nil_append, List.filter_cons_of_pos hnamed, List.map_cons]
  refine ⟨before.length, _, hfind, ?_, ?_⟩
  · rw [hzip]
    exact List.mem_append_right _ List.mem_cons_self
  · intro htype
    -- A type in front of the first declaration of the name would be a declaration of the name.
    have hnone : before.findIdx? (fun d => d.kind.isType && d.name == name) = none := by
      rw [List.findIdx?_eq_none_iff]
      intro e he
      rw [Bool.eq_false_iff]
      intro htest
      obtain ⟨hetype, hename⟩ := Bool.and_eq_true_iff.mp htest
      have hemem : e ∈ p.decls := hsplit ▸ List.mem_append_left _ he
      have hereceiver := Decl.receiverType?_of_isType (hkinds e hemem) hetype
      refine hbefore e he ?_
      rw [hename, hereceiver]
      rfl
    have hname : (d.name == name) = true := (Bool.and_eq_true_iff.mp hd).1
    rw [ownerIndex?, hsplit, List.findIdx?_append, hnone, Option.none_or, List.findIdx?_cons,
      htype, hname]
    simp

/-- The methods of an owner are the declarations with its name as receiver. -/
theorem methodsOf_symbolAt (h : Placed program p first position) {d : Decl} {i : Nat}
    (htype : d.kind.isType = true) (howner : ownerIndex? p.decls d.name = some i) :
    (build program).methodsOf (symbolAt first position p (d, i)) =
      (p.decls.zipIdx.filter (·.1.receiverType? == some d.name)).map (symbolAt first position p) := by
  have hmethods : (symbolAt first position p (d, i)).methods =
      (p.decls.zipIdx.filter (·.1.receiverType? == some d.name)).map (first + ·.2) := by
    simp [symbolAt, methodsAt, htype, howner]
  have hget : ∀ x ∈ p.decls.zipIdx.filter (·.1.receiverType? == some d.name),
      ((build program).get? ∘ (first + ·.2)) x = some (symbolAt first position p x) :=
    fun x hx => h.get? x (List.mem_filter.mp hx).1
  rw [methodsOf, hmethods, List.filterMap_map, List.filterMap_congr hget, List.filterMap_eq_map']

/-- The first method of a name among symbols leads to the first one among declarations. -/
theorem find?_methods (h : Placed program p first position) {receiver method : String} :
    ((((p.decls.zipIdx.filter (·.1.receiverType? == some receiver)).map
      (symbolAt first position p)).find? (·.name == method)).bind (·.decl? program)) =
      (p.methodsOf receiver).find? (·.name == method) := by
  have hdecls : p.methodsOf receiver =
      (p.decls.zipIdx.filter (·.1.receiverType? == some receiver)).map Prod.fst := by
    have hfst := List.zipIdx_map_fst 0 p.decls
    rw [Package.methodsOf]
    nth_rewrite 1 [← hfst]
    rw [List.filter_map]
    rfl
  rw [hdecls, List.find?_map, List.find?_map, Option.bind_map]
  change ((p.decls.zipIdx.filter _).find? fun x => x.1.name == method).bind _ =
    ((p.decls.zipIdx.filter _).find? fun x => x.1.name == method).map Prod.fst
  rw [Option.map_eq_bind]
  refine Option.bind_congr fun x hx => ?_
  exact decl?_symbolAt h (List.mem_filter.mp (List.mem_of_find?_eq_some hx)).1

end SymbolIndex

namespace Workspace

open SymbolIndex

variable {program : Program} {p : Package} {first position : Nat}

/-- A method has an owner exactly if the first declaration of its receiver's name is a type. -/
theorem hasOwner_symbolAt (h : Placed program p first position)
    (hkinds : ∀ d ∈ p.decls, d.kindAgrees = true) {x : Decl × Nat} (hx : x ∈ p.decls.zipIdx)
    {receiver : String} (hreceiver : x.1.receiverType? = some receiver) :
    (ofProgram program).hasOwner (symbolAt first position p x) receiver = p.owns receiver := by
  unfold hasOwner Package.owns
  cases hdecls : p.topLevel receiver with
  | nil =>
    have hfind : (ofProgram program).index.find (symbolAt first position p x).package receiver = [] :=
      find_eq_nil h hdecls
    rw [hfind]
    rfl
  | cons d rest =>
    obtain ⟨i, others, hfind, hd, howner⟩ := find_eq_cons h hkinds hdecls
    have hfind' : (ofProgram program).index.find (symbolAt first position p x).package receiver =
        symbolAt first position p (d, i) :: others := hfind
    have hname : d.name = receiver :=
      (Package.mem_topLevel.mp (hdecls ▸ List.mem_cons_self : d ∈ p.topLevel receiver)).2.1
    rw [hfind']
    cases htype : d.kind.isType with
    | false => simp [symbolAt, methodsAt, htype]
    | true =>
      have hmem : x ∈ p.decls.zipIdx.filter (·.1.receiverType? == some receiver) :=
        List.mem_filter.mpr ⟨hx, beq_iff_eq.mpr hreceiver⟩
      have hid : (symbolAt first position p x).id ∈ (symbolAt first position p (d, i)).methods := by
        simp only [symbolAt, methodsAt, htype, hname, howner htype, beq_self_eq_true, Bool.and_self,
          if_true]
        exact List.mem_map.mpr ⟨x, hmem, rfl⟩
      rw [List.head?_cons, Option.any_some, htype]
      exact List.contains_iff_mem.mpr hid

/-- A symbol is listed under the addresses of its declaration. -/
theorem symbolRoots_symbolAt (h : Placed program p first position)
    (hkinds : ∀ d ∈ p.decls, d.kindAgrees = true) {x : Decl × Nat} (hx : x ∈ p.decls.zipIdx) :
    (ofProgram program).symbolRoots p (symbolAt first position p x) = p.declRoots x.1 := by
  have hdecl : (symbolAt first position p x).decl? (ofProgram program).program = some x.1 :=
    decl?_symbolAt h hx
  unfold symbolRoots Package.declRoots
  rw [hdecl]
  dsimp only [symbolAt]
  cases hreceiver : x.1.receiverType? with
  | none => rfl
  | some receiver =>
    have howner := hasOwner_symbolAt h hkinds hx hreceiver
    simp only [symbolAt, hreceiver] at howner
    simp only [howner]
    rfl

/-- A package is listed with itself first, then with what lies below the addresses of its
declarations. -/
theorem listPackage_eq (h : Placed program p first position)
    (hkinds : ∀ d ∈ p.decls, d.kindAgrees = true) :
    (ofProgram program).listPackage p =
      ({ package := p.path }, .package p) ::
        walkRoots p [Address.render { package := p.path }] p.roots := by
  have hroots : ((ofProgram program).index.inPackage p.path).flatMap
      ((ofProgram program).symbolRoots p) = p.roots := by
    have hsymbols : (ofProgram program).index.inPackage p.path =
        p.decls.zipIdx.map (symbolAt first position p) := h.inPackage
    have hfst := List.zipIdx_map_fst 0 p.decls
    rw [hsymbols, List.flatMap_map, Package.roots]
    nth_rewrite 2 [← hfst]
    rw [List.flatMap_map]
    exact List.flatMap_congr fun x hx => symbolRoots_symbolAt h hkinds hx
  unfold listPackage
  rw [hroots]

/-- The method of the first declaration of a name. -/
theorem methodOf?_symbolAt (h : Placed program p first position) {d : Decl} {i : Nat}
    (howner : d.kind.isType = true → ownerIndex? p.decls d.name = some i) (method : String) :
    (ofProgram program).methodOf? (symbolAt first position p (d, i)) d method =
      if d.kind.isType then p.methodNode? d method else none := by
  unfold methodOf?
  cases htype : d.kind.isType with
  | false => rfl
  | true =>
    have hmethods : (ofProgram program).index.methodsOf (symbolAt first position p (d, i)) =
        (p.decls.zipIdx.filter (·.1.receiverType? == some d.name)).map
          (symbolAt first position p) := methodsOf_symbolAt h htype (howner htype)
    have hfound : ((((p.decls.zipIdx.filter (·.1.receiverType? == some d.name)).map
        (symbolAt first position p)).find? (·.name == method)).bind
          (·.decl? (ofProgram program).program)) = (p.methodsOf d.name).find? (·.name == method) :=
      find?_methods h
    rw [if_pos rfl, if_pos rfl, hmethods, hfound, Package.methodNode?]
    cases (p.methodsOf d.name).find? (·.name == method) <;> rfl

/-- Resolving a symbol, with or without a method, starts from its node and follows the steps. -/
theorem resolveSymbol_eq_ok_iff (h : Placed program p first position) {name : String} {d : Decl}
    {rest : List Decl} (hdecls : p.topLevel name = d :: rest) {i : Nat}
    (howner : d.kind.isType = true → ownerIndex? p.decls name = some i) {a : Address} {node : Node} :
    (ofProgram program).resolveSymbol p (symbolAt first position p (d, i)) d a name = .ok node ↔
      (p.start? name a.method).bind (Node.follow? p · a.subpath) = some node := by
  have hname : d.name = name :=
    (Package.mem_topLevel.mp (hdecls ▸ List.mem_cons_self : d ∈ p.topLevel name)).2.1
  unfold resolveSymbol Package.start?
  rw [hdecls, List.head?_cons, Option.bind_some]
  cases a.method with
  | none => exact Node.descend_eq_ok_iff
  | some method =>
    dsimp only
    rw [methodOf?_symbolAt h (by rwa [hname]) method]
    cases (if d.kind.isType then p.methodNode? d method else none) with
    | none => exact ⟨fun h => (nomatch h), fun h => (nomatch h)⟩
    | some start => exact Node.descend_eq_ok_iff

/-- Resolving an address in a package succeeds with the node of the address in the package. -/
theorem resolveIn_eq_ok_iff (h : Placed program p first position)
    (hkinds : ∀ d ∈ p.decls, d.kindAgrees = true) {a : Address} {r : Resolution} :
    ((ofProgram program).resolveIn p a).2 = .ok r ↔
      p.node? a = some r.node ∧ r.path = readBack (a.withPackage p.path) ∧ r.package = p := by
  obtain ⟨path, node, package⟩ := r
  unfold resolveIn Package.node?
  cases hsymbol : a.symbol with
  | none =>
    simp only [Except.ok.injEq, Resolution.mk.injEq, Option.some.injEq]
    exact ⟨fun ⟨hpath, hnode, hp⟩ => ⟨hnode, hpath.symm, hp.symm⟩,
      fun ⟨hnode, hpath, hp⟩ => ⟨hpath.symm, hnode, hp.symm⟩⟩
  | some name =>
    cases hdecls : p.topLevel name with
    | nil =>
      have hfind : (ofProgram program).index.find p.path name = [] := find_eq_nil h hdecls
      simp [hfind, Package.start?, hdecls]
    | cons d rest =>
      obtain ⟨i, others, hfind, hd, howner⟩ := find_eq_cons h hkinds hdecls
      have hfind' : (ofProgram program).index.find p.path name =
          symbolAt first position p (d, i) :: others := hfind
      have hdecl : (symbolAt first position p (d, i)).decl? (ofProgram program).program = some d :=
        decl?_symbolAt h hd
      simp only [hfind', hdecl, ← resolveSymbol_eq_ok_iff h hdecls howner]
      cases (ofProgram program).resolveSymbol p (symbolAt first position p (d, i)) d a name with
      | error e => exact ⟨fun h => (nomatch h), fun h => (nomatch h.1)⟩
      | ok found =>
        simp only [Except.map, Except.ok.injEq, Resolution.mk.injEq]
        exact ⟨fun ⟨hpath, hnode, hp⟩ => ⟨hnode, hpath.symm, hp.symm⟩,
          fun ⟨hnode, hpath, hp⟩ => ⟨hpath.symm, hnode, hp.symm⟩⟩

end Workspace

end GoAddress
