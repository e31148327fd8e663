import GoAddress.Proofs.Resolve.Universe

/-!
# Two ways to a method

A method is addressed behind its type, or by a step through the methods of the type. Behind the type
a declared method goes before one that an interface asks for; among the steps it is the other way
round. The listing has a rule of its own: what comes first in the source. Main statements: both ways
lead to the same node unless an interface asks for a method that is also declared on it; and what is
listed for a method is what its address means exactly if the first declarations decide alike.
-/

namespace GoAddress

/-- Whether a declaration asks for a method. -/
def Decl.asksFor (d : Decl) (method : String) : Bool :=
  d.elements.any (·.name == method)

/-- A declaration that asks for a method has an element of that name. -/
theorem Decl.find?_elements {d : Decl} {method : String} (h : d.asksFor method = true) :
    ∃ m, d.elements.find? (·.name == method) = some m := by
  obtain ⟨m, hm, hname⟩ := List.any_eq_true.mp h
  exact Option.isSome_iff_exists.mp (List.find?_isSome.mpr ⟨m, hm, hname⟩)

/-- A declaration that does not ask for a method has no element of that name. -/
theorem Decl.find?_elements_eq_none {d : Decl} {method : String} :
    d.elements.find? (·.name == method) = none ↔ d.asksFor method = false := by
  simp [asksFor]

namespace Package

variable {p : Package} {symbol method : String}

/-- Whether a declaration is a method of a type name. -/
def declares (symbol method : String) (d : Decl) : Bool :=
  d.receiverType? == some symbol && d.name == method

/-- When the first declarations decide alike on a method of a name, for the listing and for
resolving. -/
inductive Settled (p : Package) (symbol method : String) : Prop
  /-- No declaration of the name asks for the method. -/
  | unasked (h : ∀ d ∈ p.topLevel symbol, d.asksFor method = false)
  /-- The method is declared on a type, before anything asks for it. -/
  | declared (howns : p.owns symbol = true)
      (hdeclared : p.decls.any (declares symbol method) = true)
      (hbefore : ∀ d ∈ p.decls.takeWhile (!declares symbol method ·), d.name = symbol →
        d.receiverType? = none → d.asksFor method = false)
  /-- The first declaration of the name asks for the method, and none is declared. -/
  | asked (hfirst : (p.topLevel symbol).head?.any (·.asksFor method) = true)
      (hnone : p.decls.any (declares symbol method) = false)

/-- What a declaration is listed for under the address of a method. -/
def rootIn? (p : Package) (symbol method : String) (d : Decl) : Option Node :=
  ((p.declRoots d).find? (·.1 == p.rootAddress symbol (some method))).map (·.2)

/-- The first root of a method, declaration by declaration. -/
theorem find?_roots_method (p : Package) (symbol method : String) :
    (p.roots.find? (·.1 == p.rootAddress symbol (some method))).map (·.2) =
      p.decls.findSome? (p.rootIn? symbol method) :=
  find?_roots p _

/-- A declaration is listed under the address of a method if it is that method and has an owner, or
if it asks for the method. -/
theorem rootIn?_eq (p : Package) (symbol method : String) (d : Decl) :
    p.rootIn? symbol method d =
      if declares symbol method d && p.owns symbol then some (.decl d)
      else if d.name == symbol && d.receiverType?.isNone then
        (d.elements.find? (·.name == method)).map .interfaceMethod
      else none := by
  rw [rootIn?, find?_declRoots_method]
  by_cases hreceiver : d.receiverType? = some symbol
  · by_cases hname : d.name = method <;> by_cases howns : p.owns symbol = true <;>
      simp [declares, hreceiver, hname, howns]
  · simp [declares, hreceiver]

/-- What is listed under the address of a method is declared or asked for. -/
theorem rootIn?_cases {d : Decl} {node : Node} (h : p.rootIn? symbol method d = some node) :
    (node = .decl d ∧ declares symbol method d = true ∧ p.owns symbol = true) ∨
      ∃ m, node = .interfaceMethod m ∧ d.name = symbol ∧ d.receiverType? = none ∧
        d.elements.find? (·.name == method) = some m := by
  rw [rootIn?_eq] at h
  split at h
  · next hdeclares =>
    cases h
    exact Or.inl ⟨rfl, Bool.and_eq_true_iff.mp hdeclares⟩
  · split at h
    · next hnamed =>
      obtain ⟨m, hm, rfl⟩ := Option.map_eq_some_iff.mp h
      rw [Bool.and_eq_true, beq_iff_eq, Option.isNone_iff_eq_none] at hnamed
      exact Or.inr ⟨m, rfl, hnamed.1, hnamed.2, hm⟩
    · cases h

/-- What is not listed under the address of a method is not the method of an owner and does not ask
for it. -/
theorem of_rootIn?_eq_none {d : Decl} (h : p.rootIn? symbol method d = none) :
    (p.owns symbol = true → declares symbol method d = false) ∧
      (d.name = symbol → d.receiverType? = none → d.asksFor method = false) := by
  rw [rootIn?_eq] at h
  split at h
  · cases h
  · next hdeclares =>
    refine ⟨fun howns => by simpa [howns] using hdeclares, fun hname hreceiver => ?_⟩
    rw [if_pos (by simp [hname, hreceiver])] at h
    exact Decl.find?_elements_eq_none.mp (Option.map_eq_none_iff.mp h)

/-- The declarations in front of a method, where it is the first one listed. -/
theorem takeWhile_of_first {before after : List Decl} {d : Decl}
    (hsplit : p.decls = before ++ d :: after) (howns : p.owns symbol = true)
    (hbefore : ∀ e ∈ before, p.rootIn? symbol method e = none) :
    p.decls.takeWhile (!declares symbol method ·) =
      before ++ (d :: after).takeWhile (!declares symbol method ·) := by
  rw [hsplit]
  refine List.takeWhile_append_of_pos fun e he => ?_
  rw [(of_rootIn?_eq_none (hbefore e he)).1 howns]
  rfl

/-- The first method that is listed as a declaration is what its address means. -/
theorem start?_of_findSome?_decl {m : Decl}
    (h : p.decls.findSome? (p.rootIn? symbol method) = some (.decl m)) :
    p.start? symbol (some method) = some (.decl m) := by
  obtain ⟨before, d, after, hsplit, hroot, hbefore⟩ := List.findSome?_eq_some_iff.mp h
  rcases rootIn?_cases hroot with ⟨heq, hdeclares, howns⟩ | ⟨m, heq, -⟩ <;> cases heq
  have hfind : (p.methodsOf symbol).find? (·.name == method) = some m := by
    rw [methodsOf, List.find?_filter, hsplit, List.find?_append]
    have hskip : before.find?
        (fun e => decide (e.receiverType? == some symbol ∧ e.name == method)) = none := by
      refine List.find?_eq_none.mpr fun e he => ?_
      simpa [declares] using (of_rootIn?_eq_none (hbefore e he)).1 howns
    rw [hskip, Option.none_or]
    exact List.find?_cons_of_pos (by simpa [declares] using hdeclares)
  obtain ⟨first, rest, hdecls, htype⟩ := exists_of_owns howns
  have hname : first.name = symbol :=
    (mem_topLevel.mp (hdecls ▸ List.mem_cons_self : first ∈ p.topLevel symbol)).2.1
  rw [start?, hdecls, List.head?_cons, Option.bind_some]
  simp only [htype, if_true, methodNode?, hname, hfind, Option.map_some, Option.some_or]

/-- Where no method is declared, its address means what the first declaration of the name asks
for. -/
theorem start?_of_asked (hkinds : ∀ d ∈ p.decls, d.kindAgrees = true) {d : Decl} {rest : List Decl}
    (hdecls : p.topLevel symbol = d :: rest) {m : InterfaceMethod}
    (hm : d.elements.find? (·.name == method) = some m)
    (hnone : p.decls.any (declares symbol method) = false) :
    p.decls.findSome? (p.rootIn? symbol method) = some (.interfaceMethod m) ∧
      p.start? symbol (some method) = some (.interfaceMethod m) := by
  obtain ⟨hd, rfl, -⟩ := mem_topLevel.mp (hdecls ▸ List.mem_cons_self : d ∈ p.topLevel symbol)
  have hdeclares : ∀ e ∈ p.decls, declares d.name method e = false := by
    simpa only [List.any_eq_false, Bool.not_eq_true] using hnone
  constructor
  · have hper : ∀ e ∈ p.decls, p.rootIn? d.name method e =
        if e.name == d.name && e.receiverType?.isNone then
          (e.elements.find? (·.name == method)).map .interfaceMethod
        else none := by
      intro e he
      rw [rootIn?_eq, hdeclares e he, Bool.false_and, if_neg Bool.false_ne_true]
    rw [findSome?_eq_filter hper]
    change (p.topLevel d.name).findSome? _ = _
    rw [hdecls, List.findSome?_cons, hm]
    rfl
  · have htype : d.kind.isType = true := by
      rw [Decl.kind_of_mem_elements (hkinds d hd) (List.mem_of_find?_eq_some hm)]
      rfl
    have hfind : (p.methodsOf d.name).find? (·.name == method) = none := by
      rw [List.find?_eq_none]
      intro e he
      obtain ⟨he, hreceiver⟩ := mem_methodsOf.mp he
      simpa [declares, hreceiver] using hdeclares e he
    rw [start?, hdecls, List.head?_cons, Option.bind_some]
    simp only [htype, if_true, methodNode?, hfind, hm, Option.map_none, Option.none_or,
      Option.map_some]

/-- Where the first declarations decide alike, the first root of a method is what its address
means. -/
theorem Settled.start? (hkinds : ∀ d ∈ p.decls, d.kindAgrees = true)
    (hsettled : p.Settled symbol method) {node : Node}
    (h : p.decls.findSome? (p.rootIn? symbol method) = some node) :
    p.start? symbol (some method) = some node := by
  obtain ⟨before, d, after, hsplit, hroot, hbefore⟩ := List.findSome?_eq_some_iff.mp h
  rcases rootIn?_cases hroot with ⟨rfl, -⟩ | ⟨m, rfl, hname, hreceiver, hm⟩
  · exact start?_of_findSome?_decl h
  have hd : d ∈ p.decls := hsplit ▸ List.mem_append_right _ List.mem_cons_self
  have hasks : d.asksFor method ≠ false := by
    rw [Ne, ← Decl.find?_elements_eq_none, hm]
    exact Option.some_ne_none m
  cases hsettled with
  | unasked hunasked => exact absurd (hunasked d (mem_topLevel.mpr ⟨hd, hname, hreceiver⟩)) hasks
  | declared howns _ hfirst =>
    -- The declaration asks for the method in front of all that declare it.
    refine absurd (hfirst d ?_ hname hreceiver) hasks
    rw [takeWhile_of_first hsplit howns hbefore,
      List.takeWhile_cons_of_pos (by simp [declares, hreceiver])]
    exact List.mem_append_right _ List.mem_cons_self
  | asked hfirst hnone =>
    obtain ⟨first, hhead, hasked⟩ := (Option.any_eq_true _ _).mp hfirst
    obtain ⟨rest, hdecls⟩ := List.head?_eq_some_iff.mp hhead
    obtain ⟨found, hfound⟩ := Decl.find?_elements hasked
    obtain ⟨hlisted, hstart⟩ := start?_of_asked hkinds hdecls hfound hnone
    rw [hstart, ← hlisted, h]

/-- Where the address of a method means something that is asked for, the first declaration of the
name asks for it, and nothing declares it. -/
theorem asked_of_start? {m : InterfaceMethod}
    (h : p.start? symbol (some method) = some (.interfaceMethod m)) :
    (p.topLevel symbol).head?.any (·.asksFor method) = true ∧
      p.decls.any (declares symbol method) = false := by
  obtain ⟨first, rest, hdecls, rfl, -, -, ⟨hnone, -⟩ | ⟨name, hname, -, hnode⟩⟩ :=
    exists_of_start? h
  · cases hnone
  cases hname
  rcases Option.or_eq_some_iff.mp hnode with hdecl | ⟨hnone, helement⟩
  · obtain ⟨e, -, heq⟩ := Option.map_eq_some_iff.mp hdecl
    cases heq
  obtain ⟨found, hfound, -⟩ := Option.map_eq_some_iff.mp helement
  constructor
  · rw [hdecls, List.head?_cons, Option.any_some]
    have hname : (found.name == method) = true := by simpa using List.find?_some hfound
    exact List.any_eq_true.mpr ⟨found, List.mem_of_find?_eq_some hfound, hname⟩
  · rw [Option.map_eq_none_iff, List.find?_eq_none] at hnone
    rw [List.any_eq_false]
    intro e he hdeclares
    obtain ⟨hreceiver, hename⟩ := Bool.and_eq_true_iff.mp hdeclares
    exact hnone e (mem_methodsOf.mpr ⟨he, beq_iff_eq.mp hreceiver⟩) hename

/-- If the first root of a method is what its address means, the first declarations decide alike. -/
theorem settled_of_start? (h : ∀ node, p.decls.findSome? (p.rootIn? symbol method) = some node →
    p.start? symbol (some method) = some node) : p.Settled symbol method := by
  cases hfind : p.decls.findSome? (p.rootIn? symbol method) with
  | none =>
    refine .unasked fun d hd => ?_
    obtain ⟨hd, hname, hreceiver⟩ := mem_topLevel.mp hd
    exact (of_rootIn?_eq_none (List.findSome?_eq_none_iff.mp hfind d hd)).2 hname hreceiver
  | some node =>
    have hstart := h node hfind
    obtain ⟨before, d, after, hsplit, hroot, hbefore⟩ := List.findSome?_eq_some_iff.mp hfind
    rcases rootIn?_cases hroot with ⟨rfl, hdeclares, howns⟩ | ⟨m, rfl, -⟩
    · refine .declared howns ?_ fun e he hname hreceiver => ?_
      · have hd : d ∈ p.decls := hsplit ▸ List.mem_append_right _ List.mem_cons_self
        exact List.any_eq_true.mpr ⟨d, hd, hdeclares⟩
      · rw [takeWhile_of_first hsplit howns hbefore,
          List.takeWhile_cons_of_neg (by simpa using hdeclares), List.append_nil] at he
        exact (of_rootIn?_eq_none (hbefore e he)).2 hname hreceiver
    · obtain ⟨hfirst, hnone⟩ := asked_of_start? hstart
      exact .asked hfirst hnone

end Package

/-- The declaration of a type has the shape of one. -/
theorem Decl.exists_type?_of_isType {d : Decl} (h : d.kindAgrees = true)
    (htype : d.kind.isType = true) : ∃ t, d.type? = some t := by
  unfold kindAgrees at h
  split at h
  · next f hshape =>
    rw [beq_iff_eq.mp h] at htype
    split at htype <;> cases htype
  · next t hshape => exact ⟨t, by simp [type?, hshape]⟩
  · next v hshape =>
    rcases Bool.or_eq_true_iff.mp h with h | h <;> rw [beq_iff_eq.mp h] at htype <;> cases htype

/-- Every type has methods to step through. -/
theorem Node.methods_mem_categories {d : Decl} {t : TypeShape} (h : d.type? = some t) :
    Category.methods ∈ (Node.decl d).categories.map Prod.fst := by
  unfold Decl.type? at h
  split at h
  · next t' hshape =>
    rw [categories, declCategories, hshape]
    dsimp only
    split_ifs <;> simp
  · cases h

/-- A step to a method of a type leads to what the type asks for, or else to what is declared on
it. -/
theorem Node.step?_methods (p : Package) {d : Decl} {t : TypeShape} (h : d.type? = some t)
    (method : String) :
    (Node.decl d).step? p ⟨.methods, some (.name method)⟩ =
      ((d.elements.find? (·.name == method)).map .interfaceMethod).or
        (((p.methodsOf d.name).find? (·.name == method)).map .decl) := by
  rw [step?, if_pos (methods_mem_categories h)]
  dsimp only
  rw [choices_methods p h, pick?, List.find?_append, List.find?_map, List.find?_map,
    Option.map_or, Option.map_map, Option.map_map]
  simp [Function.comp_def]

/-- Both ways to a method of a type lead to the same node, unless the type asks for a method that is
also declared on it. -/
theorem Package.step?_methods_eq_methodNode? (p : Package) {d : Decl} {t : TypeShape}
    (h : d.type? = some t) {method : String}
    (hapart : d.asksFor method = true → ∀ m ∈ p.methodsOf d.name, m.name ≠ method) :
    (Node.decl d).step? p ⟨.methods, some (.name method)⟩ = p.methodNode? d method := by
  rw [Node.step?_methods p h, methodNode?]
  cases hasks : d.asksFor method with
  | false =>
    rw [Decl.find?_elements_eq_none.mpr hasks, Option.map_none, Option.none_or, Option.or_none]
  | true =>
    have hnone : (p.methodsOf d.name).find? (·.name == method) = none :=
      List.find?_eq_none.mpr fun m hm => by simpa using hapart hasks m hm
    rw [hnone, Option.map_none, Option.none_or, Option.or_none]

namespace Workspace

/-- The node that an address resolves to, with its package. -/
def reached? (w : Workspace) (a : Address) : Option (Node × Package) :=
  (w.resolve a).2.toOption.map fun r => (r.node, r.package)

section

variable {modulePath : String} {files : List SourceFile} {packages : List Package} {p : Package}

/-- Where import paths are distinct, an address of a package reaches its node. -/
theorem reached?_eq (hpaths : (packages.map (·.path)).Nodup) (hp : p ∈ packages)
    (hkinds : ∀ d ∈ p.decls, d.kindAgrees = true) {a : Address} (hpackage : a.package = p.path) :
    (ofProgram (.ofPackages modulePath files packages)).reached? a =
      (p.node? a).map fun node => (node, p) := by
  cases hnode : p.node? a with
  | some node =>
    rw [reached?, resolve_of_node? hpaths hp hkinds hpackage hnode]
    rfl
  | none =>
    cases hresolve : ((ofProgram (.ofPackages modulePath files packages)).resolve a).2 with
    | error e => rw [reached?, hresolve]; rfl
    | ok r =>
      have hr := ((resolve_eq_ok_iff hpaths hp hkinds hpackage).mp hresolve).1
      rw [hnode] at hr
      cases hr

/-- What the first root of an address stands for is listed under it. -/
theorem mem_listPackage_of_find?_roots (hpaths : (packages.map (·.path)).Nodup) (hp : p ∈ packages)
    (hregular : p.Regular) {a : Address} {node : Node}
    (h : (p.roots.find? (·.1 == a)).map (·.2) = some node) :
    (a, node) ∈ (ofProgram (.ofPackages modulePath files packages)).listPackage p := by
  obtain ⟨⟨b, found⟩, hfind, heq⟩ := Option.map_eq_some_iff.mp h
  cases heq
  obtain rfl : b = a := by simpa using List.find?_some hfind
  obtain ⟨first, position, hplaced⟩ :=
    SymbolIndex.exists_placed (@Program.nodup_paths_ofPackages modulePath files packages hpaths)
      (Program.mem_packages_ofPackages.mpr hp)
  exact mem_listPackage_of_chain hplaced hregular hfind (Chain.refl _)

/-- What is listed below a symbol or method is reached if the first root of it is what it means. -/
theorem reached?_of_mem_listPackage (hpaths : (packages.map (·.path)).Nodup) (hp : p ∈ packages)
    (hregular : p.Regular) {x : Listed}
    (hx : x ∈ (ofProgram (.ofPackages modulePath files packages)).listPackage p)
    (hstart : ∀ symbol node, x.1.symbol = some symbol →
      (p.roots.find? (·.1 == p.rootAddress symbol x.1.method)).map (·.2) = some node →
      p.start? symbol x.1.method = some node) :
    (ofProgram (.ofPackages modulePath files packages)).reached? x.1 = some (x.2, p) := by
  obtain ⟨first, position, hplaced⟩ :=
    SymbolIndex.exists_placed (@Program.nodup_paths_ofPackages modulePath files packages hpaths)
      (Program.mem_packages_ofPackages.mpr hp)
  rcases exists_root_of_mem_listPackage hplaced hregular hx with
    rfl | ⟨symbol, method, start, hfind, hchain⟩
  · rw [reached?_eq hpaths hp hregular.kinds rfl]
    rfl
  · obtain ⟨steps, hsteps, -⟩ := hchain.follow?
    rw [hsteps] at hstart
    have hroot : p.start? symbol method = some start :=
      hstart symbol start rfl (congrArg (Option.map (·.2)) hfind)
    rw [reached?_eq hpaths hp hregular.kinds (by rw [hsteps]; rfl), hchain.node? hroot]
    rfl

end

/-- Which repeated declarations keep the listing and resolving together: whatever is listed under a
symbol is reached under its address, however often the name is declared; and whatever is listed for
a method is reached exactly if the first declarations decide alike on it. -/
theorem listed_reached_iff_settled (modulePath : String) (files : List SourceFile)
    {packages : List Package} (hpaths : (packages.map (·.path)).Nodup)
    (hregular : ∀ p ∈ packages, p.Regular) {p : Package} (hp : p ∈ packages) :
    (∀ x ∈ (ofProgram (.ofPackages modulePath files packages)).listPackage p, x.1.method = none →
      (ofProgram (.ofPackages modulePath files packages)).reached? x.1 = some (x.2, p)) ∧
    ∀ symbol method,
      (∀ x ∈ (ofProgram (.ofPackages modulePath files packages)).listPackage p,
        x.1.symbol = some symbol → x.1.method = some method →
        (ofProgram (.ofPackages modulePath files packages)).reached? x.1 = some (x.2, p)) ↔
      p.Settled symbol method := by
  refine ⟨fun x hx hmethod => ?_, fun symbol method =>
    ⟨fun h => ?_, fun hsettled x hx hsymbol hmethod => ?_⟩⟩
  · refine reached?_of_mem_listPackage hpaths hp (hregular p hp) hx fun symbol node _ hfind => ?_
    rw [hmethod, Package.find?_roots_symbol] at hfind
    rw [hmethod, hfind]
  · refine Package.settled_of_start? fun node hfind => ?_
    rw [← Package.find?_roots_method] at hfind
    have hreached := h _ (mem_listPackage_of_find?_roots hpaths hp (hregular p hp) hfind) rfl rfl
    rw [reached?_eq hpaths hp (hregular p hp).kinds rfl] at hreached
    obtain ⟨found, hfound, heq⟩ := Option.map_eq_some_iff.mp hreached
    cases heq
    obtain ⟨start, hstart, hfollow⟩ := Option.bind_eq_some_iff.mp hfound
    cases hfollow
    exact hstart
  · refine reached?_of_mem_listPackage hpaths hp (hregular p hp) hx fun name node hname hfind => ?_
    rw [hsymbol] at hname
    cases hname
    rw [hmethod] at hfind ⊢
    rw [Package.find?_roots_method] at hfind
    exact hsettled.start? (hregular p hp).kinds hfind

/-- A package for two systems: each of its files declares an interface `Conn` of its own, and a file
type with the same method. -/
def connPackage : Package where
  path := "app/net"
  shortPath := "net"
  name := "net"
  decls :=
    [{ name := "Conn", kind := .interface
       shape := .type
        { underlying := { text := "interface" }, members := .interface [{ name := "Read" }] [] } },
     { name := "File", kind := .type
       shape := .type { underlying := { text := "struct" }, members := .struct [] [] } },
     { name := "Close", kind := .method
       shape := .func
        { signature := "func (File) Close() error", receiverType := some "File"
          results := [{ name := none, type := { text := "error" } }] } },
     { name := "Conn", kind := .interface
       shape := .type
        { underlying := { text := "interface" }, members := .interface [{ name := "Write" }] [] } },
     { name := "File", kind := .type
       shape := .type { underlying := { text := "int" } } },
     { name := "Close", kind := .method
       shape := .func
        { signature := "func (File) Close() bool", receiverType := some "File"
          results := [{ name := none, type := { text := "bool" } }] } }]

/-- A method that two files declare is listed for the first of them and reached there. -/
theorem listed_reached_of_repeated_method :
    (∀ p ∈ [connPackage], p.Regular) ∧ connPackage.Settled "File" "Close" ∧
    ∃ x ∈ (ofProgram (.ofPackages "app" [] [connPackage])).listPackage connPackage,
      x.1.symbol = some "File" ∧ x.1.method = some "Close" ∧ x.2 = .typeExpr { text := "error" } ∧
      (ofProgram (.ofPackages "app" [] [connPackage])).reached? x.1 = some (x.2, connPackage) := by
  have hpaths : ([connPackage].map (·.path)).Nodup := by decide
  have hregular : ∀ p ∈ [connPackage], p.Regular := by decide +kernel
  have hsettled : connPackage.Settled "File" "Close" := .unasked (by decide +kernel)
  have hlisted : ((⟨"app/net", some "File", some "Close",
      [⟨.returns, some (.index 0)⟩, ⟨.type, none⟩]⟩, .typeExpr { text := "error" }) : Listed) ∈
      (ofProgram (.ofPackages "app" [] [connPackage])).listPackage connPackage := by
    obtain ⟨first, position, hplaced⟩ :=
      SymbolIndex.exists_placed (@Program.nodup_paths_ofPackages "app" [] _ hpaths)
        (Program.mem_packages_ofPackages.mpr List.mem_cons_self)
    rw [listPackage_eq hplaced (hregular _ List.mem_cons_self).kinds]
    exact List.mem_cons_of_mem _ (by decide +kernel)
  exact ⟨hregular, hsettled, _, hlisted, rfl, rfl, rfl,
    ((listed_reached_iff_settled "app" [] hpaths hregular List.mem_cons_self).2 _ _).mpr hsettled _
      hlisted rfl rfl⟩

/-- A method that only the second interface of a name asks for is listed, and its address resolves
to nothing. -/
theorem listed_method_of_second_interface_fails :
    (∀ p ∈ [connPackage], p.Regular) ∧
    ({ package := "app/net", symbol := some "Conn", method := some "Write" },
        .interfaceMethod { name := "Write" }) ∈
      (ofProgram (.ofPackages "app" [] [connPackage])).listPackage connPackage ∧
    (ofProgram (.ofPackages "app" [] [connPackage])).reached?
      { package := "app/net", symbol := some "Conn", method := some "Write" } = none := by
  have hpaths : ([connPackage].map (·.path)).Nodup := by decide
  have hregular : ∀ p ∈ [connPackage], p.Regular := by decide +kernel
  refine ⟨hregular, ?_, ?_⟩
  · exact mem_listPackage_of_find?_roots hpaths List.mem_cons_self (hregular _ List.mem_cons_self)
      (by decide +kernel)
  · rw [reached?_eq hpaths List.mem_cons_self (hregular _ List.mem_cons_self).kinds rfl]
    decide +kernel

/-- The two forms of a method's address agree: behind the type, or by a step through its methods.
Either way the same further steps reach the same node, or none, unless an interface asks for a
method that is also declared on it. -/
theorem method_forms_agree (modulePath : String) (files : List SourceFile)
    {packages : List Package} (hpaths : (packages.map (·.path)).Nodup)
    (hkinds : ∀ p ∈ packages, ∀ d ∈ p.decls, d.kindAgrees = true) {p : Package} (hp : p ∈ packages)
    {symbol : String} {d : Decl} (hfirst : (p.topLevel symbol).head? = some d)
    (htype : d.kind.isType = true) {method : String}
    (hapart : ¬ (d.kind = .interface ∧ d.asksFor method = true ∧
      ∃ m ∈ p.methodsOf symbol, m.name = method)) (steps : List Segment) :
    (ofProgram (.ofPackages modulePath files packages)).reached?
        { package := p.path, symbol := some symbol, method := some method, subpath := steps } =
      (ofProgram (.ofPackages modulePath files packages)).reached?
        { package := p.path, symbol := some symbol
          subpath := ⟨.methods, some (.name method)⟩ :: steps } := by
  obtain ⟨hd, rfl, -⟩ := Package.mem_topLevel.mp (List.mem_of_head? hfirst)
  obtain ⟨t, ht⟩ := Decl.exists_type?_of_isType (hkinds p hp d hd) htype
  have hstep : (Node.decl d).step? p ⟨.methods, some (.name method)⟩ = p.methodNode? d method := by
    refine p.step?_methods_eq_methodNode? ht fun hasks m hm hname => ?_
    refine hapart ⟨?_, hasks, m, hm, hname⟩
    obtain ⟨element, helement, -⟩ := List.any_eq_true.mp hasks
    exact Decl.kind_of_mem_elements (hkinds p hp d hd) helement
  rw [reached?_eq hpaths hp (hkinds p hp) rfl, reached?_eq hpaths hp (hkinds p hp) rfl]
  simp only [Package.node?, Package.start?, hfirst, Option.bind_some, htype, if_true, Node.follow?,
    hstep]

/-- The type of a result, behind the method of a type and by a step through its methods. -/
theorem method_forms_agree_of_repeated_method :
    (ofProgram (.ofPackages "app" [] [connPackage])).reached?
        { package := "app/net", symbol := some "File", method := some "Close"
          subpath := [⟨.returns, some (.index 0)⟩, ⟨.type, none⟩] } =
      (ofProgram (.ofPackages "app" [] [connPackage])).reached?
        { package := "app/net", symbol := some "File"
          subpath := [⟨.methods, some (.name "Close")⟩, ⟨.returns, some (.index 0)⟩,
            ⟨.type, none⟩] } ∧
    (ofProgram (.ofPackages "app" [] [connPackage])).reached?
        { package := "app/net", symbol := some "File", method := some "Close"
          subpath := [⟨.returns, some (.index 0)⟩, ⟨.type, none⟩] } =
      some (.typeExpr { text := "error" }, connPackage) := by
  have hpaths : ([connPackage].map (·.path)).Nodup := by decide
  have hkinds : ∀ p ∈ [connPackage], ∀ d ∈ p.decls, d.kindAgrees = true := by decide +kernel
  constructor
  · exact method_forms_agree "app" [] hpaths hkinds List.mem_cons_self rfl rfl (by decide +kernel) _
  · rw [reached?_eq hpaths List.mem_cons_self (hkinds _ List.mem_cons_self) rfl]
    decide +kernel

end Workspace

end GoAddress
