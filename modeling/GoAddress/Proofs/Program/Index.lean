import GoAddress.Proofs.Program.Lookup
import GoAddress.Resolve.Enumerate

/-!
# Symbols by path and name

The index numbers all declarations in package and source order. Where import paths are distinct, the
symbols of a path are the declarations of one package, so that looking up names, methods and owners
comes down to filtering the declarations of that package.
-/

namespace GoAddress

/-- Adding values one by one appends those of each key in order. -/
theorem Table.get_foldl_add {α β : Type} (key : α → String) (value : α → β) (xs : List α)
    (table : Table β) (k : String) :
    (xs.foldl (fun t x => t.add (key x) (value x)) table).get k =
      table.get k ++ (xs.filter (key · == k)).map value := by
  induction xs generalizing table with
  | nil => simp
  | cons x xs ih =>
    rw [List.foldl_cons, ih, get_add]
    by_cases h : key x = k <;> simp [h]

namespace SymbolIndex

/-- The symbol of a declaration of a package and of the position where it stands. -/
def symbolAt (first position : Nat) (p : Package) (x : Decl × Nat) : Symbol :=
  { id := first + x.2, kind := x.1.kind, name := x.1.name, package := p.path
    shortPackage := p.shortPath, receiver := x.1.receiverType?, packageIndex := position
    declIndex := x.2, span := x.1.span, methods := methodsAt p.decls first x.1 x.2 }

/-- A package has one symbol for each of its declarations. -/
theorem packageSymbols_eq (first position : Nat) (p : Package) :
    packageSymbols first position p = p.decls.zipIdx.map (symbolAt first position p) := rfl

/-- A package has as many symbols as declarations. -/
@[simp] theorem length_packageSymbols (first position : Nat) (p : Package) :
    (packageSymbols first position p).length = p.decls.length := by
  rw [packageSymbols_eq, List.length_map, List.length_zipIdx]

/-- Symbols are numbered in a row. -/
theorem id_of_getElem?_symbolsFrom {first position : Nat} {packages : List Package} {i : Nat}
    {s : Symbol} (h : (symbolsFrom first position packages)[i]? = some s) : s.id = first + i := by
  induction packages generalizing first position i with
  | nil => simp [symbolsFrom] at h
  | cons p packages ih =>
    rw [symbolsFrom] at h
    have hlength := length_packageSymbols first position p
    by_cases hi : i < p.decls.length
    · rw [List.getElem?_append_left (by omega), packageSymbols_eq, List.getElem?_map,
        List.getElem?_zipIdx, Option.map_map, Option.map_eq_some_iff] at h
      obtain ⟨d, -, rfl⟩ := h
      simp [symbolAt]
    · rw [List.getElem?_append_right (by omega), hlength] at h
      have hid := ih h
      omega

/-- Every symbol stands at the position that it is numbered with. -/
theorem get?_id {program : Program} {s : Symbol} (h : s ∈ (build program).symbols) :
    (build program).get? s.id = some s := by
  obtain ⟨i, hi⟩ := List.mem_iff_getElem?.mp h
  have hid := id_of_getElem?_symbolsFrom hi
  rw [hid, Nat.zero_add]
  exact hi

/-- Symbols are told apart by their numbers. -/
theorem eq_of_id_eq {program : Program} {s t : Symbol} (hs : s ∈ (build program).symbols)
    (ht : t ∈ (build program).symbols) (h : s.id = t.id) : s = t := by
  have hget := get?_id hs
  rw [h, get?_id ht] at hget
  exact (Option.some.inj hget).symm

/-- Every number is below the number of symbols. -/
theorem id_lt_length {program : Program} {s : Symbol} (h : s ∈ (build program).symbols) :
    s.id < (build program).symbols.length :=
  (List.getElem?_eq_some_iff.mp (get?_id h)).1

/-- No symbol stands in the index twice. -/
theorem nodup_symbols (program : Program) : (build program).symbols.Nodup := by
  refine List.nodup_iff_getElem?_ne_getElem?.mpr fun i j hij hj heq => ?_
  have hget := List.getElem?_eq_getElem hj
  have hid := id_of_getElem?_symbolsFrom hget
  have hid' := id_of_getElem?_symbolsFrom (heq.trans hget)
  omega

/-- A table of the symbols by a key lists, in order, the symbols of each key. -/
theorem filterMap_get?_table (program : Program) (key : Symbol → String) (k : String) :
    (Table.get k ((build program).symbols.foldl (fun table s => Table.add (key s) s.id table)
      [])).filterMap (build program).get? = (build program).symbols.filter (key · == k) := by
  rw [Table.get_foldl_add key Symbol.id (build program).symbols [] k, Table.get, List.nil_append,
    List.filterMap_map]
  have hself : ∀ s ∈ (build program).symbols.filter (key · == k),
      ((build program).get? ∘ (·.id)) s = some s := fun s hs => get?_id (List.mem_filter.mp hs).1
  rw [List.filterMap_congr hself, List.filterMap_some]

/-- The symbols of an import path, in order. -/
theorem inPackage_eq_filter (program : Program) (path : String) :
    (build program).inPackage path = (build program).symbols.filter (·.package == path) :=
  filterMap_get?_table program Symbol.package path

/-- The symbols of a name, in order. -/
theorem lookup_eq_filter (program : Program) (name : String) :
    (build program).lookup name = (build program).symbols.filter (·.name == name) :=
  filterMap_get?_table program Symbol.name name

/-- Every symbol has the import path of one of the packages. -/
theorem exists_package_of_mem_symbolsFrom {first position : Nat} {packages : List Package}
    {s : Symbol} (h : s ∈ symbolsFrom first position packages) :
    ∃ p ∈ packages, s.package = p.path := by
  induction packages generalizing first position with
  | nil => exact (List.not_mem_nil h).elim
  | cons p packages ih =>
    rw [symbolsFrom, List.mem_append] at h
    rcases h with h | h
    · obtain ⟨x, -, rfl⟩ := List.mem_map.mp h
      exact ⟨p, List.mem_cons_self, rfl⟩
    · obtain ⟨q, hq, hpath⟩ := ih h
      exact ⟨q, List.mem_cons_of_mem p hq, hpath⟩

/-- The symbols of a package stand in one piece, and no other symbol has its import path. -/
theorem symbolsFrom_split {first position : Nat} {packages : List Package} {p : Package}
    (hnodup : (packages.map (·.path)).Nodup) (hp : p ∈ packages) :
    ∃ before after i, packages[i]? = some p ∧
      symbolsFrom first position packages =
        before ++ (packageSymbols (first + before.length) (position + i) p ++ after) ∧
      (∀ s ∈ before, s.package ≠ p.path) ∧ ∀ s ∈ after, s.package ≠ p.path := by
  induction packages generalizing first position with
  | nil => exact (List.not_mem_nil hp).elim
  | cons q packages ih =>
    rw [List.map_cons, List.nodup_cons] at hnodup
    rcases List.mem_cons.mp hp with rfl | hmem
    · refine ⟨[], symbolsFrom (first + p.decls.length) (position + 1) packages, 0, rfl, rfl,
        fun s hs => (List.not_mem_nil hs).elim, fun s hs heq => ?_⟩
      obtain ⟨q, hq, hpath⟩ := exists_package_of_mem_symbolsFrom hs
      exact hnodup.1 (List.mem_map.mpr ⟨q, hq, hpath ▸ heq⟩)
    · obtain ⟨before, after, i, hi, hsymbols, hbefore, hafter⟩ :=
        @ih (first + q.decls.length) (position + 1) hnodup.2 hmem
      refine ⟨packageSymbols first position q ++ before, after, i + 1, hi, ?_, ?_, hafter⟩
      · rw [symbolsFrom, hsymbols, List.length_append, length_packageSymbols, List.append_assoc]
        simp only [Nat.add_assoc, Nat.add_comm 1 i]
      · intro s hs heq
        rcases List.mem_append.mp hs with hs | hs
        · obtain ⟨x, -, rfl⟩ := List.mem_map.mp hs
          exact hnodup.1 (List.mem_map.mpr ⟨p, hmem, heq.symm⟩)
        · exact hbefore s hs heq

/-- The position of a package in a program, and that of its first symbol in the index. -/
structure Placed (program : Program) (p : Package) (first position : Nat) : Prop where
  /-- The package stands at its position. -/
  packages : program.packages[position]? = some p
  /-- The symbols of the import path are those of the package. -/
  inPackage : (build program).inPackage p.path = packageSymbols first position p
  /-- The symbols of the package stand in a row. -/
  get? : ∀ x ∈ p.decls.zipIdx,
    (build program).get? (first + x.2) = some (symbolAt first position p x)

/-- Where import paths are distinct, every package of a program has its place. -/
theorem exists_placed {program : Program} (hnodup : (program.packages.map (·.path)).Nodup)
    {p : Package} (hp : p ∈ program.packages) : ∃ first position, Placed program p first position := by
  obtain ⟨before, after, i, hi, hsymbols, hbefore, hafter⟩ :=
    @symbolsFrom_split 0 0 program.packages p hnodup hp
  rw [Nat.zero_add, Nat.zero_add] at hsymbols
  have hbuild : (build program).symbols =
      before ++ (packageSymbols before.length i p ++ after) := hsymbols
  refine ⟨before.length, i, hi, ?_, ?_⟩
  · have hself : ∀ s ∈ packageSymbols before.length i p, (s.package == p.path) = true := by
      intro s hs
      obtain ⟨x, -, rfl⟩ := List.mem_map.mp hs
      exact beq_self_eq_true p.path
    have hnone : ∀ {symbols : List Symbol}, (∀ s ∈ symbols, s.package ≠ p.path) →
        symbols.filter (·.package == p.path) = [] := by
      intro symbols h
      simpa using h
    rw [inPackage_eq_filter, hbuild, List.filter_append, List.filter_append, hnone hbefore,
      hnone hafter, List.filter_eq_self.mpr hself, List.nil_append, List.append_nil]
  · rintro ⟨d, j⟩ hx
    have hj := List.mem_zipIdx_iff_getElem?.mp hx
    have hlt : j < (packageSymbols before.length i p).length := by
      rw [length_packageSymbols]
      exact (List.getElem?_eq_some_iff.mp hj).1
    rw [SymbolIndex.get?, hbuild, List.getElem?_append_right (Nat.le_add_right _ _),
      Nat.add_sub_cancel_left, List.getElem?_append_left hlt, packageSymbols_eq, List.getElem?_map,
      List.getElem?_zipIdx, hj]
    simp

/-- The declarations of a package have their symbols in the index. -/
theorem Placed.mem_symbols {program : Program} {p : Package} {first position : Nat}
    (h : Placed program p first position) {x : Decl × Nat} (hx : x ∈ p.decls.zipIdx) :
    symbolAt first position p x ∈ (build program).symbols :=
  List.mem_of_getElem? (h.get? x hx)

/-- Where import paths are distinct, every symbol is that of a declaration of a package. -/
theorem exists_placed_of_mem_symbols {program : Program}
    (hnodup : (program.packages.map (·.path)).Nodup) {s : Symbol}
    (hs : s ∈ (build program).symbols) :
    ∃ p ∈ program.packages, ∃ first position, Placed program p first position ∧
      ∃ x ∈ p.decls.zipIdx, symbolAt first position p x = s := by
  obtain ⟨p, hp, hpath⟩ := exists_package_of_mem_symbolsFrom hs
  obtain ⟨first, position, hplaced⟩ := exists_placed hnodup hp
  have hmem : s ∈ (build program).inPackage p.path := by
    rw [inPackage_eq_filter]
    exact List.mem_filter.mpr ⟨hs, beq_iff_eq.mpr hpath⟩
  rw [hplaced.inPackage, packageSymbols_eq, List.mem_map] at hmem
  exact ⟨p, hp, first, position, hplaced, hmem⟩

end SymbolIndex

end GoAddress
