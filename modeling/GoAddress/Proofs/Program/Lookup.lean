import Mathlib.Data.List.Basic
import Mathlib.Data.List.Nodup
import Mathlib.Data.List.Perm.Basic
import GoAddress.Program.Basic
import GoAddress.Proofs.Order

/-!
# Packages by path

A program puts its packages in the order of their import paths and keeps two tables of positions.
In each table the last package with a key has it, and the table of import paths goes first. Main
statement: where import paths are distinct, a path leads to the package that has it as its import
path, else to the last package of the module that has it as its short path, and else nowhere.
-/

namespace GoAddress

/-- A package of the module answers to its short path, unless it is the root. -/
def Package.HasShortPath (p : Package) (path : String) : Prop :=
  p.project = true ∧ p.shortPath ≠ "" ∧ p.shortPath = path

instance (p : Package) (path : String) : Decidable (p.HasShortPath path) :=
  inferInstanceAs (Decidable (_ ∧ _))

/-- In a table with the later positions first, a key has the last of its positions. -/
theorem lookup_eq_some_iff_of_decreasing {entries : List (String × Nat)}
    (h : entries.Pairwise fun a b => b.2 < a.2) {key : String} {i : Nat} :
    entries.lookup key = some i ↔ (key, i) ∈ entries ∧ ∀ j, (key, j) ∈ entries → j ≤ i := by
  induction entries with
  | nil => simp
  | cons entry entries ih =>
    obtain ⟨k, n⟩ := entry
    obtain ⟨hfirst, hrest⟩ := List.pairwise_cons.mp h
    by_cases hk : key = k
    · subst hk
      have hlast : ∀ j, (key, j) ∈ (key, n) :: entries → j ≤ n := by
        intro j hj
        rcases List.mem_cons.mp hj with heq | hj
        · cases heq
          exact le_rfl
        · exact (hfirst _ hj).le
      rw [List.lookup_cons_self]
      constructor
      · intro heq
        cases heq
        exact ⟨List.mem_cons_self, hlast⟩
      · rintro ⟨hmem, hle⟩
        exact congrArg some (le_antisymm (hle n List.mem_cons_self) (hlast i hmem))
    · have hmem : ∀ j, (key, j) ∈ (k, n) :: entries ↔ (key, j) ∈ entries := by
        intro j
        simp [hk]
      rw [List.lookup_cons, beq_eq_false_iff_ne.mpr hk]
      simp only [hmem]
      exact ih hrest

/-- A key without a position is in no entry. -/
theorem lookup_eq_none_iff_forall {entries : List (String × Nat)} {key : String} :
    entries.lookup key = none ↔ ∀ i, (key, i) ∉ entries := by
  rw [List.lookup_eq_none_iff]
  constructor
  · intro h i hi
    simpa using h _ hi
  · rintro h ⟨k, i⟩ hi
    rw [bne_iff_ne]
    rintro rfl
    exact h i hi

namespace Program

/-! ## Answers to a path -/

/-- What a list of packages in order answers to a path: the position of a package, and the
package. -/
inductive Answers (packages : List Package) (path : String) :
    Option Nat → Option Package → Prop where
  /-- A package with the import path. -/
  | importPath {i : Nat} {p : Package} (hat : packages[i]? = some p) (hpath : p.path = path) :
      Answers packages path (some i) (some p)
  /-- Without one, the last package with the short path. -/
  | shortPath {i : Nat} {p : Package} (hno : ∀ q ∈ packages, q.path ≠ path)
      (hat : packages[i]? = some p) (hshort : p.HasShortPath path)
      (hlast : ∀ j q, packages[j]? = some q → q.HasShortPath path → j ≤ i) :
      Answers packages path (some i) (some p)
  /-- Without either, nothing. -/
  | nothing (hno : ∀ q ∈ packages, q.path ≠ path)
      (hshort : ∀ q ∈ packages, ¬ q.HasShortPath path) : Answers packages path none none

/-- Where import paths are distinct, there is one answer to a path. -/
theorem Answers.unique {packages : List Package} (hnodup : (packages.map (·.path)).Nodup)
    {path : String} {index index' : Option Nat} {found found' : Option Package}
    (h : Answers packages path index found) (h' : Answers packages path index' found') :
    index = index' ∧ found = found' := by
  have hsame : ∀ {i j : Nat} {p q : Package}, packages[i]? = some p → packages[j]? = some q →
      i = j → some i = some j ∧ some p = some q := by
    rintro i j p q hi hj rfl
    exact ⟨rfl, hi.symm.trans hj⟩
  cases h with
  | importPath hat hpath =>
    have hmem := List.mem_of_getElem? hat
    cases h' with
    | importPath hat' hpath' =>
      refine hsame hat hat' ((List.getElem?_inj ?_ hnodup).mp ?_)
      · rw [List.length_map]
        exact (List.getElem?_eq_some_iff.mp hat).1
      · rw [List.getElem?_map, List.getElem?_map, hat, hat', Option.map_some, Option.map_some,
          hpath, hpath']
    | shortPath hno _ _ _ => exact absurd hpath (hno _ hmem)
    | nothing hno _ => exact absurd hpath (hno _ hmem)
  | shortPath hno hat hshort hlast =>
    cases h' with
    | importPath hat' hpath' => exact absurd hpath' (hno _ (List.mem_of_getElem? hat'))
    | shortPath _ hat' hshort' hlast' =>
      exact hsame hat hat' (le_antisymm (hlast' _ _ hat hshort) (hlast _ _ hat' hshort'))
    | nothing _ hnone => exact absurd hshort (hnone _ (List.mem_of_getElem? hat))
  | nothing hno hnone =>
    cases h' with
    | importPath hat' hpath' => exact absurd hpath' (hno _ (List.mem_of_getElem? hat'))
    | shortPath _ hat' hshort' _ => exact absurd hshort' (hnone _ (List.mem_of_getElem? hat'))
    | nothing => exact ⟨rfl, rfl⟩

/-- A package that is an answer is one of the list and has the path. -/
theorem Answers.of_some {packages : List Package} {path : String} {index : Option Nat} {p : Package}
    (h : Answers packages path index (some p)) :
    p ∈ packages ∧ (p.path = path ∨ p.HasShortPath path) := by
  cases h with
  | importPath hat hpath => exact ⟨List.mem_of_getElem? hat, Or.inl hpath⟩
  | shortPath _ hat hshort _ => exact ⟨List.mem_of_getElem? hat, Or.inr hshort⟩

/-- A path without an answer is that of no package. -/
theorem Answers.of_none {packages : List Package} {path : String} {index : Option Nat}
    (h : Answers packages path index none) :
    ∀ p ∈ packages, p.path ≠ path ∧ ¬ p.HasShortPath path := by
  cases h with
  | nothing hno hnone => exact fun p hp => ⟨hno p hp, hnone p hp⟩

variable {modulePath : String} {files : List SourceFile} {packages : List Package}

/-! ## The packages of a program -/

/-- A program has the packages that it is made of. -/
theorem mem_packages_ofPackages {p : Package} :
    p ∈ (ofPackages modulePath files packages).packages ↔ p ∈ packages :=
  List.mem_mergeSort

/-- Distinct import paths stay distinct. -/
theorem nodup_paths_ofPackages (h : (packages.map (·.path)).Nodup) :
    ((ofPackages modulePath files packages).packages.map (·.path)).Nodup :=
  ((List.mergeSort_perm packages _).map _).nodup_iff.mpr h

/-- A program does not depend on the order of its packages, where import paths are distinct. -/
theorem ofPackages_eq_of_perm {packages' : List Package} (hnodup : (packages.map (·.path)).Nodup)
    (h : packages'.Perm packages) :
    ofPackages modulePath files packages' = ofPackages modulePath files packages := by
  rw [ofPackages, ofPackages, sortOn_eq_of_perm _ hnodup h]

/-- A program of packages that are in order keeps them as they are. -/
theorem ofPackages_of_pairwise (h : packages.Pairwise fun p q => p.path ≤ q.path) :
    ofPackages modulePath files packages =
      { modulePath, files, packages
        byPath := packages.zipIdx.reverse.map fun x => (x.1.path, x.2)
        byShortPath :=
          (packages.zipIdx.reverse.filter fun x => x.1.project && !x.1.shortPath.isEmpty).map
            fun x => (x.1.shortPath, x.2) } := by
  simp only [ofPackages, sortOn_of_pairwise Package.path h]

/-! ## The tables of positions -/

/-- Packages with their positions, the last one first. -/
theorem pairwise_reverse_zipIdx (packages : List Package) :
    packages.zipIdx.reverse.Pairwise fun x y => y.2 < x.2 := by
  rw [List.pairwise_reverse, ← List.pairwise_map, List.zipIdx_map_snd]
  exact List.pairwise_lt_range' 1

/-- The table of import paths has the later positions first. -/
theorem pairwise_byPath :
    (ofPackages modulePath files packages).byPath.Pairwise fun a b => b.2 < a.2 :=
  List.pairwise_map.mpr (pairwise_reverse_zipIdx _)

/-- The table of short paths has the later positions first. -/
theorem pairwise_byShortPath :
    (ofPackages modulePath files packages).byShortPath.Pairwise fun a b => b.2 < a.2 :=
  List.pairwise_map.mpr ((pairwise_reverse_zipIdx _).filter _)

/-- The positions of an import path are those of packages that have it. -/
theorem mem_byPath_iff {path : String} {i : Nat} :
    (path, i) ∈ (ofPackages modulePath files packages).byPath ↔
      ∃ p, (ofPackages modulePath files packages).packages[i]? = some p ∧ p.path = path := by
  simp only [ofPackages, List.mem_map, List.mem_reverse, Prod.exists, Prod.mk.injEq,
    List.mem_zipIdx_iff_getElem?]
  constructor
  · rintro ⟨p, j, hat, hpath, rfl⟩
    exact ⟨p, hat, hpath⟩
  · rintro ⟨p, hat, hpath⟩
    exact ⟨p, i, hat, hpath, rfl⟩

/-- The positions of a short path are those of packages of the module that have it. -/
theorem mem_byShortPath_iff {path : String} {i : Nat} :
    (path, i) ∈ (ofPackages modulePath files packages).byShortPath ↔
      ∃ p, (ofPackages modulePath files packages).packages[i]? = some p ∧ p.HasShortPath path := by
  simp only [ofPackages, List.mem_map, List.mem_filter, List.mem_reverse, Prod.exists,
    Prod.mk.injEq, List.mem_zipIdx_iff_getElem?, Bool.and_eq_true, Bool.not_eq_true',
    String.isEmpty_eq_false_iff, Package.HasShortPath]
  constructor
  · rintro ⟨p, j, ⟨hat, hproject, hne⟩, hshort, rfl⟩
    exact ⟨p, hat, hproject, hne, hshort⟩
  · rintro ⟨p, hat, hproject, hne, hshort⟩
    exact ⟨p, i, ⟨hat, hproject, hne⟩, hshort, rfl⟩

/-- Packages are looked up by import path and then by short path. -/
theorem answers_package? (path : String) :
    Answers (ofPackages modulePath files packages).packages path
      ((ofPackages modulePath files packages).packageIndex? path)
      ((ofPackages modulePath files packages).package? path) := by
  rw [package?, packageIndex?]
  cases hpath : (ofPackages modulePath files packages).byPath.lookup path with
  | some i =>
    obtain ⟨hmem, -⟩ := (lookup_eq_some_iff_of_decreasing pairwise_byPath).mp hpath
    obtain ⟨p, hat, hp⟩ := mem_byPath_iff.mp hmem
    rw [Option.some_or, Option.bind_some, hat]
    exact .importPath hat hp
  | none =>
    have hno : ∀ q ∈ (ofPackages modulePath files packages).packages, q.path ≠ path := by
      intro q hq heq
      obtain ⟨i, hi⟩ := List.mem_iff_getElem?.mp hq
      exact lookup_eq_none_iff_forall.mp hpath i (mem_byPath_iff.mpr ⟨q, hi, heq⟩)
    rw [Option.none_or]
    cases hshort : (ofPackages modulePath files packages).byShortPath.lookup path with
    | some i =>
      obtain ⟨hmem, hlast⟩ := (lookup_eq_some_iff_of_decreasing pairwise_byShortPath).mp hshort
      obtain ⟨p, hat, hp⟩ := mem_byShortPath_iff.mp hmem
      rw [Option.bind_some, hat]
      exact .shortPath hno hat hp fun j q hj hq => hlast j (mem_byShortPath_iff.mpr ⟨q, hj, hq⟩)
    | none =>
      refine .nothing hno fun q hq hhas => ?_
      obtain ⟨i, hi⟩ := List.mem_iff_getElem?.mp hq
      exact lookup_eq_none_iff_forall.mp hshort i (mem_byShortPath_iff.mpr ⟨q, hi, hhas⟩)

/-! ## Packages that answer -/

/-- Where import paths are distinct, a package answers to its own. -/
theorem package?_path (hnodup : (packages.map (·.path)).Nodup) {p : Package} (hp : p ∈ packages) :
    (ofPackages modulePath files packages).package? p.path = some p := by
  have hmem : p ∈ (ofPackages modulePath files packages).packages := mem_packages_ofPackages.mpr hp
  obtain ⟨i, hat⟩ := List.mem_iff_getElem?.mp hmem
  exact ((answers_package? p.path).unique (nodup_paths_ofPackages hnodup) (.importPath hat rfl)).2

/-- Whatever answers to a path has it, as its import path or as its short path. -/
theorem package?_cases {path : String} {p : Package}
    (h : (ofPackages modulePath files packages).package? path = some p) :
    p ∈ packages ∧ (path = p.path ∨ p.project = true ∧ p.shortPath ≠ "" ∧ path = p.shortPath) := by
  have hanswers := @answers_package? modulePath files packages path
  rw [h] at hanswers
  obtain ⟨hmem, hcases⟩ := hanswers.of_some
  refine ⟨mem_packages_ofPackages.mp hmem, ?_⟩
  rcases hcases with hpath | ⟨hproject, hne, hshort⟩
  · exact Or.inl hpath.symm
  · exact Or.inr ⟨hproject, hne, hshort.symm⟩

/-- A path that is neither the import path nor the short path of a package is not answered. -/
theorem package?_eq_none {path : String}
    (h : ∀ p ∈ packages, p.path ≠ path ∧ p.shortPath ≠ path) :
    (ofPackages modulePath files packages).package? path = none := by
  rw [Option.eq_none_iff_forall_ne_some]
  intro p hp
  obtain ⟨hmem, hpath | ⟨-, -, hshort⟩⟩ := package?_cases hp
  · exact (h p hmem).1 hpath.symm
  · exact (h p hmem).2 hshort.symm

/-- Something answers to the short path of a package of the module. -/
theorem exists_package?_shortPath {p : Package} (hp : p ∈ packages) (hproject : p.project = true)
    (hshort : p.shortPath ≠ "") :
    ∃ q, (ofPackages modulePath files packages).package? p.shortPath = some q := by
  rw [← Option.ne_none_iff_exists']
  intro hnone
  have hanswers := @answers_package? modulePath files packages p.shortPath
  rw [hnone] at hanswers
  exact (hanswers.of_none p (mem_packages_ofPackages.mpr hp)).2 ⟨hproject, hshort, rfl⟩

/-- Whatever answers to a path is a package of the program. -/
theorem mem_of_package? {program : Program} {path : String} {p : Package}
    (h : program.package? path = some p) : p ∈ program.packages := by
  obtain ⟨i, -, hi⟩ := Option.bind_eq_some_iff.mp h
  exact List.mem_of_getElem? hi

/-- A program has the packages that it is made of, by increasing import path. Where these are
distinct, a path leads to the package with this import path, or else to the last package of the module
with this short path, or else nowhere, and the position is that of the package. -/
theorem ofPackages_answers_by_path (modulePath : String) (files : List SourceFile)
    {packages : List Package} (hnodup : (packages.map (·.path)).Nodup) :
    (ofPackages modulePath files packages).packages.Perm packages ∧
      ((ofPackages modulePath files packages).packages.Pairwise fun p q => p.path < q.path) ∧
      ∀ path index found,
        Answers (ofPackages modulePath files packages).packages path index found ↔
          (ofPackages modulePath files packages).packageIndex? path = index ∧
            (ofPackages modulePath files packages).package? path = found := by
  refine ⟨perm_sortOn _ packages, pairwise_lt_sortOn _ hnodup, fun path index found => ?_⟩
  have hanswers := @answers_package? modulePath files packages path
  constructor
  · exact fun h => hanswers.unique (nodup_paths_ofPackages hnodup) h
  · rintro ⟨rfl, rfl⟩
    exact hanswers

/-- A package of the module. -/
def moduleStore : Package :=
  { path := "app/store", shortPath := "store", name := "store" }

/-- A later one with the same short path. -/
def laterStore : Package :=
  { path := "app/v2/store", shortPath := "store", name := "store" }

/-- One that has the import path of another as its short path. -/
def innerStore : Package :=
  { path := "app/app/store", shortPath := "app/store", name := "store" }

/-- One that does not belong to the module. -/
def foreignStore : Package :=
  { path := "lib/store", shortPath := "store", name := "store", project := false }

/-- The four packages, not in order. -/
def fourStores : List Package :=
  [foreignStore, laterStore, moduleStore, innerStore]

/-- An import path goes before a short path, and of two short paths the later one counts. -/
theorem ofPackages_answers_by_path_of_four_stores :
    (fourStores.map (·.path)).Nodup ∧
      (ofPackages "app" [] fourStores).packages =
        [innerStore, moduleStore, laterStore, foreignStore] ∧
      ((ofPackages "app" [] fourStores).packageIndex? "app/store" = some 1 ∧
        (ofPackages "app" [] fourStores).package? "app/store" = some moduleStore) ∧
      (ofPackages "app" [] fourStores).packageIndex? "store" = some 2 ∧
        (ofPackages "app" [] fourStores).package? "store" = some laterStore := by
  have hnodup : (fourStores.map (·.path)).Nodup := by decide
  obtain ⟨hperm, hsorted, hanswers⟩ := ofPackages_answers_by_path "app" [] hnodup
  have hpackages : (ofPackages "app" [] fourStores).packages =
      [innerStore, moduleStore, laterStore, foreignStore] :=
    (hperm.trans (by decide)).eq_of_pairwise (fun _ _ _ _ hab hba => absurd hba (lt_asymm hab))
      hsorted (by decide)
  rw [hpackages] at hanswers
  refine ⟨hnodup, hpackages, (hanswers _ _ _).mp (.importPath rfl rfl),
    (hanswers _ _ _).mp (.shortPath (by decide) rfl (by decide) ?_)⟩
  intro j p hj hp
  have hlength : j < 4 := (List.getElem?_eq_some_iff.mp hj).1
  have hforeign : j ≠ 3 := by
    rintro rfl
    cases hj
    exact absurd hp (by decide)
  omega

end Program

end GoAddress
