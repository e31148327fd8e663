import Mathlib.Data.List.Nodup
import GoAddress.Proofs.Program.Index

/-!
# What the symbol index holds

The index is taken package by package, without a look at import paths, so that what it holds is
settled for every program. Main statement: there is one symbol for each declaration, in package and
source order; the tables list the symbols of a name or of an import path in order; and a method is
listed once, at the first type of its receiver's name in the same package, or nowhere if the package
declares no such type.
-/

namespace GoAddress

/-- What a symbol says of a declaration and of its package. -/
structure Symbol.Describes (s : Symbol) (p : Package) (d : Decl) : Prop where
  /-- What is declared. -/
  kind : s.kind = d.kind
  /-- The declared name. -/
  name : s.name = d.name
  /-- The import path. -/
  package : s.package = p.path
  /-- The path relative to the module. -/
  shortPackage : s.shortPackage = p.shortPath
  /-- The type that a method is declared on. -/
  receiver : s.receiver = d.receiverType?
  /-- Where the declaration stands. -/
  span : s.span = d.span

namespace SymbolIndex

/-! ## Meaning -/

/-- The first type of a name in the package at a position. -/
def firstType? (index : SymbolIndex) (position : Nat) (name : String) : Option Symbol :=
  index.symbols.find? fun s => s.packageIndex == position && (s.kind.isType && s.name == name)

/-- The methods with a receiver of a name in the package at a position. -/
def receiving (index : SymbolIndex) (position : Nat) (name : String) : List Symbol :=
  index.symbols.filter fun s => s.packageIndex == position && s.receiver == some name

/-- The positions of all methods that are listed at some type. -/
def listedMethods (index : SymbolIndex) : List Nat :=
  index.symbols.flatMap (·.methods)

/-- The places of the declarations of packages, by package and by declaration, from a package's
position on. -/
def declPlaces (position : Nat) (packages : List Package) : List (Nat × Nat) :=
  (packages.zipIdx position).flatMap fun x => (List.range x.1.decls.length).map (x.2, ·)

/-- What the index of a program holds. -/
structure IsIndexOf (index : SymbolIndex) (program : Program) : Prop where
  /-- There is one symbol for each declaration, in package and source order. -/
  places : index.symbols.map (fun s => (s.packageIndex, s.declIndex)) =
    declPlaces 0 program.packages
  /-- A symbol is numbered with its position. -/
  ids : ∀ (i : Nat) (s : Symbol), index.symbols[i]? = some s → s.id = i
  /-- A symbol leads back to its declaration. -/
  decls : ∀ s ∈ index.symbols, ∃ p d, program.packages[s.packageIndex]? = some p ∧
    p.decls[s.declIndex]? = some d ∧ s.decl? program = some d ∧ s.Describes p d
  /-- The symbols of a name are found in order. -/
  lookup : ∀ name, index.lookup name = index.symbols.filter (·.name == name)
  /-- The symbols of an import path are found in order. -/
  inPackage : ∀ path, index.inPackage path = index.symbols.filter (·.package == path)
  /-- The symbols of an import path and a name that are no methods are found in order. -/
  find : ∀ path name, index.find path name =
    index.symbols.filter fun s => s.package == path && (s.name == name && s.receiver.isNone)
  /-- The first type of a name lists the methods with its name as receiver in order, and nothing else
  lists methods. -/
  methods : ∀ t ∈ index.symbols, t.methods =
    if index.firstType? t.packageIndex t.name = some t
    then (index.receiving t.packageIndex t.name).map (·.id) else []
  /-- A method is listed once, namely at the first type of its receiver's name. -/
  listed : ∀ s ∈ index.symbols, ∀ receiver, s.receiver = some receiver →
    ∀ owner, index.firstType? s.packageIndex receiver = some owner →
      s.id ∈ owner.methods ∧ index.listedMethods.count s.id = 1
  /-- A method is listed nowhere if there is no type of its receiver's name. -/
  unlisted : ∀ s ∈ index.symbols, ∀ receiver, s.receiver = some receiver →
    index.firstType? s.packageIndex receiver = none → index.listedMethods.count s.id = 0

/-! ## The symbols of one package -/

/-- A symbol of a package describes its declaration. -/
theorem describes_symbolAt (first position : Nat) (p : Package) (x : Decl × Nat) :
    (symbolAt first position p x).Describes p x.1 :=
  ⟨rfl, rfl, rfl, rfl, rfl, rfl⟩

/-- The declarations of packages have their symbols in order. -/
theorem map_place_symbolsFrom (first position : Nat) (packages : List Package) :
    (symbolsFrom first position packages).map (fun s => (s.packageIndex, s.declIndex)) =
      declPlaces position packages := by
  induction packages generalizing first position with
  | nil => rfl
  | cons p packages ih =>
    have hrange : p.decls.zipIdx.map Prod.snd = List.range p.decls.length := by
      rw [List.zipIdx_map_snd, List.range_eq_range']
    rw [symbolsFrom, List.map_append, ih, packageSymbols_eq, List.map_map, declPlaces, declPlaces,
      List.zipIdx_cons, List.flatMap_cons, ← hrange, List.map_map]
    rfl

/-- Every symbol belongs to one of the packages. -/
theorem exists_position_of_mem_symbolsFrom {first position : Nat} {packages : List Package}
    {s : Symbol} (h : s ∈ symbolsFrom first position packages) :
    ∃ i p, packages[i]? = some p ∧ s.packageIndex = position + i := by
  induction packages generalizing first position with
  | nil => exact (List.not_mem_nil h).elim
  | cons p packages ih =>
    rw [symbolsFrom, List.mem_append] at h
    rcases h with h | h
    · obtain ⟨x, -, rfl⟩ := List.mem_map.mp h
      exact ⟨0, p, rfl, rfl⟩
    · obtain ⟨i, q, hq, hi⟩ := ih h
      exact ⟨i + 1, q, hq, by omega⟩

/-- The symbols with the position of a package are those of the package. -/
theorem filter_packageIndex_symbolsFrom {first position i : Nat} {packages : List Package}
    {p : Package} (h : packages[i]? = some p) :
    ∃ start, (symbolsFrom first position packages).filter (·.packageIndex == position + i) =
      packageSymbols start (position + i) p := by
  induction packages generalizing first position i with
  | nil => simp at h
  | cons q packages ih =>
    rw [symbolsFrom, List.filter_append]
    cases i with
    | zero =>
      cases h
      have hself : ∀ s ∈ packageSymbols first position p, (s.packageIndex == position + 0) = true := by
        intro s hs
        obtain ⟨x, -, rfl⟩ := List.mem_map.mp hs
        simp
      have hothers : ∀ s ∈ symbolsFrom (first + p.decls.length) (position + 1) packages,
          ¬ (s.packageIndex == position + 0) = true := by
        intro s hs
        obtain ⟨j, -, -, hj⟩ := exists_position_of_mem_symbolsFrom hs
        simp only [beq_iff_eq]
        omega
      rw [List.filter_eq_self.mpr hself, List.filter_eq_nil_iff.mpr hothers, List.append_nil]
      exact ⟨first, rfl⟩
    | succ i =>
      have hothers : ∀ s ∈ packageSymbols first position q,
          ¬ (s.packageIndex == position + (i + 1)) = true := by
        intro s hs
        obtain ⟨x, -, rfl⟩ := List.mem_map.mp hs
        simp
      have hposition : position + (i + 1) = position + 1 + i := by omega
      rw [List.filter_eq_nil_iff.mpr hothers, List.nil_append, hposition]
      exact ih h

/-- A package at its position, with the position of its first symbol in the index. -/
structure PlacedAt (program : Program) (p : Package) (first position : Nat) : Prop where
  /-- The package stands at its position. -/
  packages : program.packages[position]? = some p
  /-- The symbols with this position are those of the package. -/
  symbols : (build program).symbols.filter (·.packageIndex == position) =
    packageSymbols first position p

/-- Every symbol is that of a declaration of the package at its position. -/
theorem exists_placedAt_of_mem_symbols {program : Program} {s : Symbol}
    (hs : s ∈ (build program).symbols) :
    ∃ p first d, PlacedAt program p first s.packageIndex ∧ p.decls[s.declIndex]? = some d ∧
      s = symbolAt first s.packageIndex p (d, s.declIndex) := by
  obtain ⟨i, p, hp, hi⟩ := exists_position_of_mem_symbolsFrom hs
  obtain ⟨first, hfirst⟩ := @filter_packageIndex_symbolsFrom 0 0 i program.packages p hp
  rw [← hi] at hfirst
  rw [Nat.zero_add] at hi
  have hmem : s ∈ packageSymbols first s.packageIndex p := by
    rw [← hfirst]
    exact List.mem_filter.mpr ⟨hs, beq_self_eq_true _⟩
  obtain ⟨⟨d, j⟩, hx, hsymbol⟩ := List.mem_map.mp hmem
  have hj : j = s.declIndex := by rw [← hsymbol]
  subst hj
  exact ⟨p, first, d, ⟨hi ▸ hp, hfirst⟩, List.mem_zipIdx_iff_getElem?.mp hx, hsymbol.symm⟩

section Placed

variable {program : Program} {p : Package} {first position : Nat}

/-- The first type of a name in a package is that among its declarations. -/
theorem PlacedAt.firstType?_eq (h : PlacedAt program p first position) (name : String) :
    (build program).firstType? position name =
      (p.decls.zipIdx.find? fun x => x.1.kind.isType && x.1.name == name).map
        (symbolAt first position p) := by
  have hfilter : (build program).firstType? position name =
      ((build program).symbols.filter (·.packageIndex == position)).find?
        fun s => s.kind.isType && s.name == name := by
    rw [List.find?_filter, firstType?]
    simp only [Bool.decide_and, Bool.decide_eq_true]
  rw [hfilter, h.symbols, packageSymbols_eq, List.find?_map]
  rfl

/-- The methods with a receiver in a package are those among its declarations. -/
theorem PlacedAt.receiving_eq (h : PlacedAt program p first position) (name : String) :
    (build program).receiving position name =
      (p.decls.zipIdx.filter fun x => x.1.receiverType? == some name).map
        (symbolAt first position p) := by
  have hfilter : (build program).receiving position name =
      ((build program).symbols.filter (·.packageIndex == position)).filter
        fun s => s.receiver == some name := by
    rw [List.filter_filter, receiving]
    simp only [Bool.and_comm]
  rw [hfilter, h.symbols, packageSymbols_eq, List.filter_map]
  rfl

/-- A declaration owns the methods of its name if it is the first type of the name. -/
theorem PlacedAt.firstType?_eq_some_iff (h : PlacedAt program p first position) {d : Decl} {i : Nat}
    (hd : p.decls[i]? = some d) :
    (build program).firstType? position d.name = some (symbolAt first position p (d, i)) ↔
      (d.kind.isType && ownerIndex? p.decls d.name == some i) = true := by
  rw [h.firstType?_eq, ownerIndex?, List.findIdx?_eq_fst_find?_zipIdx, Bool.and_eq_true, beq_iff_eq,
    Option.map_eq_some_iff, Option.map_eq_some_iff]
  constructor
  · rintro ⟨⟨e, j⟩, hfind, hsymbol⟩
    have hj : j = i := congrArg Symbol.declIndex hsymbol
    have hkind : e.kind = d.kind := congrArg Symbol.kind hsymbol
    have htest := List.find?_some hfind
    exact ⟨hkind ▸ (Bool.and_eq_true_iff.mp htest).1, (e, j), hfind, hj⟩
  · rintro ⟨-, ⟨e, j⟩, hfind, hj⟩
    have hj : j = i := hj
    subst hj
    have he := List.mem_zipIdx_iff_getElem?.mp (List.mem_of_find?_eq_some hfind)
    rw [hd] at he
    cases he
    exact ⟨(e, j), hfind, rfl⟩

/-- What the symbol of a declaration lists, in terms of the index. -/
theorem PlacedAt.methods_symbolAt (h : PlacedAt program p first position) {d : Decl} {i : Nat}
    (hd : p.decls[i]? = some d) :
    (symbolAt first position p (d, i)).methods =
      if (build program).firstType? position d.name = some (symbolAt first position p (d, i))
      then ((build program).receiving position d.name).map (·.id) else [] := by
  rw [h.receiving_eq, List.map_map]
  simp only [h.firstType?_eq_some_iff hd]
  rfl

end Placed

/-! ## Methods at their types -/

section Methods

variable {program : Program} {s t : Symbol}

/-- The first type of a name lists the methods with its name as receiver, and nothing else lists
methods. -/
theorem methods_eq (ht : t ∈ (build program).symbols) :
    t.methods =
      if (build program).firstType? t.packageIndex t.name = some t
      then ((build program).receiving t.packageIndex t.name).map (·.id) else [] := by
  obtain ⟨p, first, d, hplaced, hd, hsymbol⟩ := exists_placedAt_of_mem_symbols ht
  have hmethods := hplaced.methods_symbolAt hd
  rw [← hsymbol] at hmethods
  have hname : t.name = d.name := by rw [hsymbol]; rfl
  rw [hname]
  exact hmethods

/-- Whatever is listed at a type is the position of a method with its name as receiver. -/
theorem exists_of_mem_methods (ht : t ∈ (build program).symbols) {id : Nat} (h : id ∈ t.methods) :
    ∃ s ∈ (build program).symbols, s.id = id ∧ s.receiver = some t.name ∧
      (build program).firstType? s.packageIndex t.name = some t := by
  rw [methods_eq ht] at h
  split at h
  · next hfirst =>
    obtain ⟨s, hs, rfl⟩ := List.mem_map.mp h
    obtain ⟨hs, hreceives⟩ := List.mem_filter.mp hs
    rw [Bool.and_eq_true, beq_iff_eq, beq_iff_eq] at hreceives
    exact ⟨s, hs, rfl, hreceives.2, hreceives.1 ▸ hfirst⟩
  · exact (List.not_mem_nil h).elim

/-- The first type of its receiver's name lists a method. -/
theorem mem_methods_of_firstType? (hs : s ∈ (build program).symbols) {receiver : String}
    (hreceiver : s.receiver = some receiver)
    (hfirst : (build program).firstType? s.packageIndex receiver = some t) :
    t ∈ (build program).symbols ∧ s.id ∈ t.methods := by
  have ht := List.mem_of_find?_eq_some hfirst
  have htype := List.find?_some hfirst
  simp only [Bool.and_eq_true, beq_iff_eq] at htype
  obtain ⟨hposition, -, hname⟩ := htype
  refine ⟨ht, ?_⟩
  rw [methods_eq ht, hposition, hname, if_pos hfirst]
  refine List.mem_map.mpr ⟨s, List.mem_filter.mpr ⟨hs, ?_⟩, rfl⟩
  rw [hreceiver, beq_self_eq_true, beq_self_eq_true, Bool.and_self]

/-- No type lists a method twice. -/
theorem nodup_methods (ht : t ∈ (build program).symbols) : t.methods.Nodup := by
  rw [methods_eq ht]
  split
  · refine List.Nodup.map_on ?_ ((nodup_symbols program).filter _)
    intro s hs s' hs' hid
    exact eq_of_id_eq (List.mem_filter.mp hs).1 (List.mem_filter.mp hs').1 hid
  · exact List.nodup_nil

/-- No method is listed twice, whatever the types: the receiver tells where it is listed. -/
theorem nodup_listedMethods (program : Program) : (build program).listedMethods.Nodup := by
  rw [listedMethods, List.nodup_flatMap]
  refine ⟨fun t ht => nodup_methods ht, (nodup_symbols program).pairwise_of_forall_ne ?_⟩
  intro t ht t' ht' hne id hid hid'
  obtain ⟨s, hs, rfl, hreceiver, hfirst⟩ := exists_of_mem_methods ht hid
  obtain ⟨s', hs', hsame, hreceiver', hfirst'⟩ := exists_of_mem_methods ht' hid'
  cases eq_of_id_eq hs' hs hsame
  rw [hreceiver] at hreceiver'
  rw [← Option.some_inj.mp hreceiver', hfirst] at hfirst'
  exact hne (Option.some_inj.mp hfirst')

end Methods

/-- The index of a program has one symbol for each declaration in package and source order, numbered
by its position and leading back to the declaration. Its look-ups are filters of the symbols. Every
method of a type that its package declares is listed once, at the first type of the name and in
source order, and all others nowhere. -/
theorem build_isIndexOf (program : Program) : (build program).IsIndexOf program where
  places := map_place_symbolsFrom 0 0 program.packages
  ids i s h := by
    have hid := id_of_getElem?_symbolsFrom h
    rwa [Nat.zero_add] at hid
  decls s hs := by
    obtain ⟨p, first, d, hplaced, hd, hsymbol⟩ := exists_placedAt_of_mem_symbols hs
    refine ⟨p, d, hplaced.packages, hd, ?_, hsymbol ▸ describes_symbolAt first _ p (d, _)⟩
    rw [Symbol.decl?, hplaced.packages, Option.bind_some, hd]
  lookup name := lookup_eq_filter program name
  inPackage path := inPackage_eq_filter program path
  find path name := by
    rw [SymbolIndex.find, inPackage_eq_filter, List.filter_filter]
    simp only [Bool.and_comm]
  methods t ht := methods_eq ht
  listed s hs receiver hreceiver owner hfirst := by
    obtain ⟨howner, hmem⟩ := mem_methods_of_firstType? hs hreceiver hfirst
    exact ⟨hmem, List.count_eq_one_of_mem (nodup_listedMethods program)
      (List.mem_flatMap.mpr ⟨owner, howner, hmem⟩)⟩
  unlisted s hs receiver hreceiver hnone := by
    refine List.count_eq_zero.mpr fun hmem => ?_
    obtain ⟨t, ht, hid⟩ := List.mem_flatMap.mp hmem
    obtain ⟨s', hs', hsame, hreceiver', hfirst⟩ := exists_of_mem_methods ht hid
    cases eq_of_id_eq hs' hs hsame
    rw [hreceiver] at hreceiver'
    rw [← Option.some_inj.mp hreceiver', hnone] at hfirst
    cases hfirst

end SymbolIndex

end GoAddress
