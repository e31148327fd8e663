import Mathlib.Data.List.Infix
import GoAddress.Proofs.Program.Loading
import GoAddress.Proofs.Scope.Token

/-!
# Directories and packages

The files of a program are grouped by their directory, and tests from outside a package are a group
of their own. A group goes to a package by its import path. Main statements: different groups meet
in one package only if the tests beside a directory meet a directory of the name that they get, or
if a directory below `vendor` meets a package of the module; and outside of `vendor` the path of a
package tells that it belongs to the module, save for the tests beside the root.
-/

namespace GoAddress

/-- What the files of a program are grouped by. -/
@[ext] structure FileGroup where
  /-- The directory; empty at the root. -/
  dir : String
  /-- Whether the files hold tests from outside the package. -/
  tests : Bool
deriving DecidableEq, Repr

/-- What tests from outside a package have behind its import path. -/
def testSuffix (tests : Bool) : String :=
  if tests then "_test" else ""

@[simp] theorem testSuffix_true : testSuffix true = "_test" := rfl

@[simp] theorem testSuffix_false : testSuffix false = "" := rfl

/-- Whether a directory lies below `vendor`. -/
def isVendored (dir : String) : Bool :=
  (Text.dropPrefix? "vendor/".toList dir.toList).isSome

/-- What a directory of the module has behind the path of the module. -/
def belowModule (dir : String) : String :=
  if dir = "" then "" else "/" ++ dir

namespace FileGroup

/-- The import path of a group. -/
def path (modulePath : String) (g : FileGroup) : String :=
  (packageKey modulePath g.dir).path ++ testSuffix g.tests

/-- Two groups that get one import path, though they are different. -/
inductive Clash (modulePath : String) : FileGroup → FileGroup → Prop where
  /-- The tests beside a directory, and a directory of the name that they get. -/
  | beside {dir : String} (hdir : dir ≠ "") :
      Clash modulePath ⟨dir, true⟩ ⟨dir ++ "_test", false⟩
  /-- A group that stands below `vendor` in the place of the import path of a group of the module. -/
  | vendored {g h : FileGroup} (hmodule : isVendored h.dir = false)
      (hplace : g.dir ++ testSuffix g.tests = "vendor/" ++ h.path modulePath) :
      Clash modulePath g h

end FileGroup

/-! ## Import paths of directories -/

/-- The directories below `vendor`. -/
theorem isVendored_iff_beginning {dir : String} :
    isVendored dir = true ↔ "vendor/".toList <+: dir.toList := by
  rw [isVendored, Text.dropPrefix?, List.isSome_isPrefixOf?_eq_isPrefixOf,
    List.isPrefixOf_iff_prefix]

/-- A directory below `vendor` is written behind `vendor/`. -/
theorem isVendored_iff {dir : String} :
    isVendored dir = true ↔ ∃ rest, dir = "vendor/" ++ rest := by
  rw [isVendored_iff_beginning]
  constructor
  · rintro ⟨rest, hrest⟩
    refine ⟨String.ofList rest, String.toList_inj.mp ?_⟩
    rw [← hrest, String.toList_append]
    exact congrArg ("vendor/".toList ++ ·) String.toList_ofList.symm
  · rintro ⟨rest, rfl⟩
    rw [String.toList_append]
    exact List.prefix_append _ _

/-- What a text begins with does not depend on what stands from a character on that is no part of
it. -/
theorem prefix_append_cons_iff {p cs rest : List Char} {c : Char} (hc : c ∉ p) :
    p <+: cs ++ c :: rest ↔ p <+: cs := by
  refine ⟨fun h => ?_, fun h => h.trans (List.prefix_append _ _)⟩
  rcases List.prefix_or_prefix_of_prefix h (List.prefix_append cs _) with hshort | hlong
  · exact hshort
  · obtain ⟨more, rfl⟩ := hlong
    rw [List.prefix_append_right_inj] at h
    cases more with
    | nil => rw [List.append_nil]
    | cons d more =>
      have hd : d = c := (List.cons_prefix_cons.mp h).1
      exact absurd (hd ▸ List.mem_append_right cs List.mem_cons_self) hc

/-- The ending of tests does not bring a directory below `vendor`. -/
theorem isVendored_append_testSuffix (dir : String) (tests : Bool) :
    isVendored (dir ++ testSuffix tests) = isVendored dir := by
  cases tests with
  | false => rw [testSuffix_false, String.append_empty]
  | true =>
    have hmark : '_' ∉ "vendor/".toList := by decide
    have hsuffix : "_test".toList = '_' :: "test".toList := rfl
    rw [Bool.eq_iff_iff, isVendored_iff_beginning, isVendored_iff_beginning, testSuffix_true,
      String.toList_append, hsuffix, prefix_append_cons_iff hmark]

/-- A directory below `vendor` has its own import path and does not belong to the module. -/
theorem packageKey_vendored (modulePath rest : String) :
    packageKey modulePath ("vendor/" ++ rest) = ⟨rest, rest, false⟩ := by
  have hdrop : Text.dropPrefix? "vendor/".toList ("vendor/" ++ rest).toList = some rest.toList :=
    List.isPrefixOf?_eq_some_iff_append_eq.mpr String.toList_append.symm
  rw [packageKey, hdrop]
  simp only [String.ofList_toList]

/-- Any other directory belongs to the module and lies below its path. -/
theorem packageKey_of_not_isVendored (modulePath : String) {dir : String}
    (h : isVendored dir = false) :
    packageKey modulePath dir = ⟨modulePath ++ belowModule dir, dir, true⟩ := by
  have hdrop : Text.dropPrefix? "vendor/".toList dir.toList = none :=
    Option.isSome_eq_false_iff.mp h |> Option.isNone_iff_eq_none.mp
  rw [packageKey, hdrop, belowModule]
  by_cases hdir : dir = ""
  · simp [hdir]
  · simp [hdir, String.append_assoc]

/-- A directory belongs to the module unless it lies below `vendor`. -/
theorem project_packageKey (modulePath dir : String) :
    (packageKey modulePath dir).project = !isVendored dir := by
  cases h : isVendored dir with
  | true =>
    obtain ⟨rest, rfl⟩ := isVendored_iff.mp h
    rw [packageKey_vendored]
    rfl
  | false =>
    rw [packageKey_of_not_isVendored modulePath h]
    rfl

/-- A name and an ending are told apart, save for a name that itself ends like tests. -/
theorem append_testSuffix_cases {g h : FileGroup}
    (heq : g.dir ++ testSuffix g.tests = h.dir ++ testSuffix h.tests) :
    g = h ∨ (g.tests = true ∧ h = ⟨g.dir ++ "_test", false⟩) ∨
      (h.tests = true ∧ g = ⟨h.dir ++ "_test", false⟩) := by
  obtain ⟨d, s⟩ := g
  obtain ⟨e, t⟩ := h
  cases s <;> cases t <;> simp_all [testSuffix]

namespace FileGroup

variable {modulePath : String} {g h : FileGroup}

/-- The import path of a group below `vendor` is where it stands. -/
theorem vendor_append_path (hvendored : isVendored g.dir = true) :
    "vendor/" ++ g.path modulePath = g.dir ++ testSuffix g.tests := by
  obtain ⟨rest, hrest⟩ := isVendored_iff.mp hvendored
  rw [path, hrest, packageKey_vendored, String.append_assoc]

/-- The import path of a group of the module lies below the module. -/
theorem path_of_not_isVendored (hmodule : isVendored g.dir = false) :
    g.path modulePath = modulePath ++ (belowModule g.dir ++ testSuffix g.tests) := by
  rw [path, packageKey_of_not_isVendored modulePath hmodule, String.append_assoc]

/-- Groups of different directories whose names with their endings are equal clash. -/
theorem eq_or_clash (hg : g.dir ≠ "") (hh : h.dir ≠ "")
    (heq : g.dir ++ testSuffix g.tests = h.dir ++ testSuffix h.tests) :
    g = h ∨ Clash modulePath g h ∨ Clash modulePath h g := by
  obtain ⟨d, s⟩ := g
  obtain ⟨e, t⟩ := h
  rcases append_testSuffix_cases heq with hsame | ⟨htests, hname⟩ | ⟨htests, hname⟩
  · exact Or.inl hsame
  · cases htests
    rw [hname]
    exact Or.inr (Or.inl (.beside hg))
  · cases htests
    rw [hname]
    exact Or.inr (Or.inr (.beside hh))

/-- No ending of tests begins like what lies below a module. -/
theorem testSuffix_ne (tests : Bool) (rest : String) : testSuffix tests ≠ "/" ++ rest := by
  intro heq
  have hlist := congrArg String.toList heq
  cases tests <;> simp [testSuffix] at hlist

/-- Groups of the module with one import path are the same or clash. -/
theorem eq_or_clash_of_belowModule
    (heq : belowModule g.dir ++ testSuffix g.tests = belowModule h.dir ++ testSuffix h.tests) :
    g = h ∨ Clash modulePath g h ∨ Clash modulePath h g := by
  rw [belowModule, belowModule] at heq
  by_cases hg : g.dir = "" <;> by_cases hh : h.dir = ""
  · rw [if_pos hg, if_pos hh] at heq
    have hsame : g.dir ++ testSuffix g.tests = h.dir ++ testSuffix h.tests := by rw [hg, hh, heq]
    rcases append_testSuffix_cases hsame with hsame | ⟨-, hname⟩ | ⟨-, hname⟩
    · exact Or.inl hsame
    · simp [hname] at hh
    · simp [hname] at hg
  · rw [if_pos hg, if_neg hh, String.empty_append, String.append_assoc] at heq
    exact absurd heq (testSuffix_ne _ _)
  · rw [if_neg hg, if_pos hh, String.empty_append, String.append_assoc] at heq
    exact absurd heq.symm (testSuffix_ne _ _)
  · rw [if_neg hg, if_neg hh, String.append_assoc, String.append_assoc,
      String.append_right_inj] at heq
    exact eq_or_clash hg hh heq

/-- Groups that clash get one import path. -/
theorem Clash.path_eq (hclash : Clash modulePath g h) : g.path modulePath = h.path modulePath := by
  cases hclash with
  | @beside dir hdir =>
    have hside := isVendored_append_testSuffix dir true
    rw [testSuffix_true] at hside
    cases hvendored : isVendored dir with
    | true =>
      rw [hvendored] at hside
      have hleft := @vendor_append_path modulePath ⟨dir, true⟩ hvendored
      have hright := @vendor_append_path modulePath ⟨dir ++ "_test", false⟩ hside
      rw [testSuffix_false, String.append_empty] at hright
      exact (String.append_right_inj "vendor/").mp (hleft.trans hright.symm)
    | false =>
      rw [hvendored] at hside
      have hne : dir ++ "_test" ≠ "" := fun hempty => hdir (String.append_eq_empty_iff.mp hempty).1
      have hleft := @path_of_not_isVendored modulePath ⟨dir, true⟩ hvendored
      have hright := @path_of_not_isVendored modulePath ⟨dir ++ "_test", false⟩ hside
      rw [hleft, hright, belowModule, belowModule, if_neg hdir, if_neg hne, testSuffix_true,
        testSuffix_false, String.append_empty, String.append_assoc]
  | vendored hmodule hplace =>
    have hvendored : isVendored g.dir = true := by
      rw [← isVendored_append_testSuffix g.dir g.tests, isVendored_iff]
      exact ⟨_, hplace⟩
    rw [← String.append_right_inj "vendor/", vendor_append_path hvendored, hplace]

/-- Two groups get one import path exactly if they are the same or clash. -/
theorem path_eq_iff :
    g.path modulePath = h.path modulePath ↔
      g = h ∨ Clash modulePath g h ∨ Clash modulePath h g := by
  constructor
  · intro heq
    cases hg : isVendored g.dir <;> cases hh : isVendored h.dir
    · rw [path_of_not_isVendored hg, path_of_not_isVendored hh, String.append_right_inj] at heq
      exact eq_or_clash_of_belowModule heq
    · refine Or.inr (Or.inr (.vendored hg ?_))
      rw [← vendor_append_path hh, heq]
    · refine Or.inr (Or.inl (.vendored hh ?_))
      rw [← vendor_append_path hg, heq]
    · have hne : ∀ {k : FileGroup}, isVendored k.dir = true → k.dir ≠ "" := by
        rintro k hk hempty
        rw [hempty] at hk
        exact absurd hk (by decide)
      rw [← String.append_right_inj "vendor/", vendor_append_path hg, vendor_append_path hh] at heq
      exact eq_or_clash (hne hg) (hne hh) heq
  · rintro (rfl | hclash | hclash)
    · rfl
    · exact hclash.path_eq
    · exact hclash.path_eq.symm

/-- A group of the module has an import path in the module, save for the tests beside the root. -/
theorem below_path (hmodule : isVendored g.dir = false) (hroot : g ≠ ⟨"", true⟩) :
    Scope.Below modulePath.toList (g.path modulePath).toList := by
  rw [path_of_not_isVendored hmodule, belowModule]
  by_cases hdir : g.dir = ""
  · have htests : g.tests = false :=
      Bool.eq_false_iff.mpr fun htests => hroot (FileGroup.ext hdir htests)
    rw [if_pos hdir, htests, testSuffix_false, String.append_empty, String.append_empty]
    exact Or.inl rfl
  · rw [if_neg hdir]
    exact Or.inr ⟨(g.dir ++ testSuffix g.tests).toList, by simp⟩

/-- Groups that clash have different directories. -/
theorem Clash.dir_ne (hclash : Clash modulePath g h) : g.dir ≠ h.dir := by
  cases hclash with
  | beside hdir =>
    intro heq
    have hlist := congrArg String.length heq
    simp at hlist
  | vendored hmodule hplace =>
    intro heq
    rw [← heq, ← isVendored_append_testSuffix g.dir g.tests, hplace] at hmodule
    rw [isVendored_iff.mpr ⟨_, rfl⟩] at hmodule
    cases hmodule

end FileGroup

/-! ## Groups of a loaded program -/

/-- The name of the package clause that a parser finds in a text; empty without one. -/
def Source.Parser.packageName (parse : Source.Parser) (code : String) : String :=
  ((parse.extract? code 0).getD unreadable).packageName

/-- The group of a file. -/
def fileGroup (parse : Source.Parser) (relPath source : String) : FileGroup :=
  ⟨directoryOf relPath, isExternalTest (parse.packageName source)⟩

/-- The group of a file that was read. -/
def LoadedFile.group (f : LoadedFile) : FileGroup :=
  ⟨directoryOf f.input.relPath, isExternalTest f.extracted.packageName⟩

/-- The name of the package clause does not depend on the position of the file. -/
theorem group_loadFile (parse : Source.Parser) (modulePath : String) (input : SourceInput)
    (index : Nat) :
    (loadFile parse modulePath input index).group =
      fileGroup parse input.relPath input.source := by
  have hname : (loadFile parse modulePath input index).extracted.packageName =
      parse.packageName input.source := by
    rw [loadFile_extracted, Source.Parser.packageName, Source.Parser.extract?,
      Source.Parser.extract?]
    cases parse input.source with
    | none => rfl
    | some parsed => rfl
  rw [LoadedFile.group, hname, loadFile_input, fileGroup]

/-- A file goes to the package of its group, and belongs to the module unless it lies below
`vendor`. -/
theorem fileKey_of_group (modulePath relPath name : String) :
    (fileKey modulePath relPath name).path =
        FileGroup.path modulePath ⟨directoryOf relPath, isExternalTest name⟩ ∧
      (fileKey modulePath relPath name).project = !isVendored (directoryOf relPath) := by
  rw [fileKey, FileGroup.path, ← project_packageKey modulePath]
  generalize packageKey modulePath (directoryOf relPath) = key
  cases isExternalTest name with
  | true => exact ⟨rfl, rfl⟩
  | false => exact ⟨String.append_empty.symm, rfl⟩

/-- The package of a file that was read is that of its group. -/
theorem key_of_group {parse : Source.Parser} {modulePath : String} {inputs : List SourceInput}
    {f : LoadedFile} (hf : f ∈ loadedFiles parse modulePath inputs) :
    f.key.path = f.group.path modulePath ∧ f.key.project = !isVendored f.group.dir := by
  obtain ⟨i, -, input, -, rfl⟩ := exists_loadFile_of_mem hf
  exact fileKey_of_group modulePath input.relPath
    (loadFile parse modulePath input i).extracted.packageName

namespace Program

variable {parse : Source.Parser} {modulePath : String} {inputs : List SourceInput}

/-- The group of the file at a position. -/
def group? (parse : Source.Parser) (program : Program) (index : Nat) : Option FileGroup :=
  (program.files[index]?).map fun f => fileGroup parse f.relPath f.source

/-- The groups of a loaded program are those of its inputs in order. -/
theorem group?_ofInputs (parse : Source.Parser) (modulePath : String) (inputs : List SourceInput)
    (index : Nat) :
    (ofInputs parse modulePath inputs).group? parse index =
      ((sortOn (·.relPath) inputs)[index]?).map fun input =>
        fileGroup parse input.relPath input.source := by
  rw [group?, files_ofInputs, List.getElem?_map, getElem?_loadedFiles, Option.map_map,
    Option.map_map]
  rfl

/-- The groups of a loaded program are those of the files that were read. -/
theorem group?_eq_some_iff {index : Nat} {g : FileGroup} :
    (ofInputs parse modulePath inputs).group? parse index = some g ↔
      ∃ f, (loadedFiles parse modulePath inputs)[index]? = some f ∧ f.group = g := by
  rw [group?_ofInputs, getElem?_loadedFiles, ← Option.map_eq_some_iff, Option.map_map]
  simp only [Function.comp_def, group_loadFile]

/-- A file is in the package of the import path of its group. -/
theorem mem_files_iff_path (hbound : inputs.length ≤ 2 ^ 32) {p : Package}
    (hp : p ∈ (ofInputs parse modulePath inputs).packages) {id : Nat} {g : FileGroup}
    (hg : (ofInputs parse modulePath inputs).group? parse id = some g) :
    id ∈ p.files ↔ g.path modulePath = p.path := by
  rw [packages_ofInputs] at hp
  rw [(madeOf_of_mem_groupFiles hp).mem_files_iff]
  obtain ⟨f, hf, rfl⟩ := group?_eq_some_iff.mp hg
  have hmem := List.mem_of_getElem? hf
  have hid : f.id = id := id_of_getElem? hbound hf
  constructor
  · intro hfile
    obtain ⟨f', hf', hpath, hid'⟩ := hfile
    have hget := getElem?_id_of_mem_loadedFiles hbound hf'
    rw [hid', hf] at hget
    cases hget
    rw [← (key_of_group hmem).1, hpath]
  · intro hpath
    exact ⟨f, hmem, (key_of_group hmem).1.trans hpath, hid⟩

/-- Two files share a package exactly if their groups have one import path. -/
theorem share_package_iff_path (hbound : inputs.length ≤ 2 ^ 32) {i j : Nat} {g h : FileGroup}
    (hg : (ofInputs parse modulePath inputs).group? parse i = some g)
    (hh : (ofInputs parse modulePath inputs).group? parse j = some h) :
    (∃ p ∈ (ofInputs parse modulePath inputs).packages, i ∈ p.files ∧ j ∈ p.files) ↔
      g.path modulePath = h.path modulePath := by
  constructor
  · intro hshare
    obtain ⟨p, hp, hi, hj⟩ := hshare
    rw [(mem_files_iff_path hbound hp hg).mp hi, (mem_files_iff_path hbound hp hh).mp hj]
  · intro hpath
    obtain ⟨f, hf, rfl⟩ := group?_eq_some_iff.mp hg
    have hmem := List.mem_of_getElem? hf
    obtain ⟨p, hp, hpackage⟩ := exists_mem_groupFiles hmem
    rw [← packages_ofInputs] at hp
    rw [(key_of_group hmem).1] at hpackage
    exact ⟨p, hp, (mem_files_iff_path hbound hp hg).mpr hpackage.symm,
      (mem_files_iff_path hbound hp hh).mpr (hpath.symm.trans hpackage.symm)⟩

/-- Whatever the parser, two files share a package exactly if they are of one group or of groups that
clash. So files of one directory share a package exactly if both or neither hold tests from outside
the package. -/
theorem share_package_iff (parse : Source.Parser) (modulePath : String)
    {inputs : List SourceInput} (hne : inputs ≠ []) (hbound : inputs.length ≤ 2 ^ 32) :
    ∃ program, load parse modulePath inputs = .ok program ∧
      ∀ i j g h, program.group? parse i = some g → program.group? parse j = some h →
        ((∃ p ∈ program.packages, i ∈ p.files ∧ j ∈ p.files) ↔
          g = h ∨ FileGroup.Clash modulePath g h ∨ FileGroup.Clash modulePath h g) ∧
        (g.dir = h.dir →
          ((∃ p ∈ program.packages, i ∈ p.files ∧ j ∈ p.files) ↔ g.tests = h.tests)) := by
  refine ⟨ofInputs parse modulePath inputs, load_eq_ok_iff.mpr ⟨hne, rfl⟩,
    fun i j g h hg hh => ?_⟩
  rw [share_package_iff_path hbound hg hh, FileGroup.path_eq_iff]
  refine ⟨Iff.rfl, fun hdir => ⟨?_, fun htests => Or.inl (FileGroup.ext hdir htests)⟩⟩
  intro hpath
  rcases hpath with heq | hclash | hclash
  · exact congrArg FileGroup.tests heq
  · exact absurd hdir hclash.dir_ne
  · exact absurd hdir.symm hclash.dir_ne

open Source (clauseParser)

/-- The groups of two files that are in order. -/
theorem groups_of_two (parse : Source.Parser) (modulePath : String) (first second : SourceInput)
    (horder : first.relPath ≤ second.relPath) (index : Nat) (g : FileGroup) :
    (ofInputs parse modulePath [first, second]).group? parse index = some g ↔
      index = 0 ∧ fileGroup parse first.relPath first.source = g ∨
      index = 1 ∧ fileGroup parse second.relPath second.source = g := by
  have hsorted : sortOn (·.relPath) [first, second] = [first, second] :=
    sortOn_of_pairwise _ (List.pairwise_pair.mpr horder)
  rw [group?_ofInputs, hsorted]
  match index with
  | 0 => simp
  | 1 => simp
  | index + 2 => simp

/-- Two files in one directory. -/
def storeInputs : List SourceInput :=
  [⟨"store/more.go", "package store\n"⟩, ⟨"store/store.go", "package store\n"⟩]

/-- Two files of one directory that name one package share it. -/
theorem share_package_of_one_directory :
    ∃ program, load clauseParser "app" storeInputs = .ok program ∧
      program.group? clauseParser 0 = some ⟨"store", false⟩ ∧
      program.group? clauseParser 1 = some ⟨"store", false⟩ ∧
      ∃ p ∈ program.packages, 0 ∈ p.files ∧ 1 ∈ p.files := by
  obtain ⟨program, hload, hshare⟩ :=
    @share_package_iff clauseParser "app" storeInputs (List.cons_ne_nil _ _) (by decide)
  refine ⟨program, hload, ?_⟩
  obtain ⟨-, rfl⟩ := load_eq_ok_iff.mp hload
  have hgroups := groups_of_two clauseParser "app" storeInputs[0] storeInputs[1] (by decide)
  have hfirst := (hgroups 0 ⟨"store", false⟩).mpr (Or.inl ⟨rfl, by decide⟩)
  have hsecond := (hgroups 1 ⟨"store", false⟩).mpr (Or.inr ⟨rfl, by decide⟩)
  exact ⟨hfirst, hsecond, ((hshare 0 1 _ _ hfirst hsecond).2 rfl).mpr rfl⟩

/-- Tests from outside a package, and a file in a directory of the name that they get. -/
def testedInputs : List SourceInput :=
  [⟨"store/ext_test.go", "package store_test\n"⟩, ⟨"store_test/a.go", "package fixtures\n"⟩]

/-- A file of the module, and a file below `vendor` in the place of the import path of the first. -/
def nestedInputs : List SourceInput :=
  [⟨"store/store.go", "package store\n"⟩, ⟨"vendor/app/store/store.go", "package store\n"⟩]

/-- Files of different directories share a package: tests beside a directory and a file in a directory
of the name that they get; a file of the module and one below `vendor`. -/
theorem share_package_of_two_directories :
    (∃ program, load clauseParser "app" testedInputs = .ok program ∧
      program.group? clauseParser 0 = some ⟨"store", true⟩ ∧
      program.group? clauseParser 1 = some ⟨"store_test", false⟩ ∧
      ∃ p ∈ program.packages, 0 ∈ p.files ∧ 1 ∈ p.files) ∧
    ∃ program, load clauseParser "app" nestedInputs = .ok program ∧
      program.group? clauseParser 0 = some ⟨"store", false⟩ ∧
      program.group? clauseParser 1 = some ⟨"vendor/app/store", false⟩ ∧
      ∃ p ∈ program.packages, 0 ∈ p.files ∧ 1 ∈ p.files := by
  have hshare : ∀ {first second : SourceInput} {g h : FileGroup},
      first.relPath ≤ second.relPath → fileGroup clauseParser first.relPath first.source = g →
      fileGroup clauseParser second.relPath second.source = h → g.path "app" = h.path "app" →
      ∃ program, load clauseParser "app" [first, second] = .ok program ∧
        program.group? clauseParser 0 = some g ∧ program.group? clauseParser 1 = some h ∧
        ∃ p ∈ program.packages, 0 ∈ p.files ∧ 1 ∈ p.files := by
    intro first second g h horder hg hh hpath
    have hgroups := groups_of_two clauseParser "app" first second horder
    have hfirst := (hgroups 0 g).mpr (Or.inl ⟨rfl, hg⟩)
    have hsecond := (hgroups 1 h).mpr (Or.inr ⟨rfl, hh⟩)
    have hbound : [first, second].length ≤ 2 ^ 32 := by simp
    exact ⟨_, load_eq_ok_iff.mpr ⟨List.cons_ne_nil _ _, rfl⟩, hfirst, hsecond,
      (share_package_iff_path hbound hfirst hsecond).mpr hpath⟩
  exact ⟨hshare (by decide) (by decide) (by decide) (by decide),
    hshare (by decide) (by decide) (by decide) (by decide)⟩

/-! ## Packages of the module -/

/-- Whether an import path lies inside the module. -/
theorem isProjectPath_iff {program : Program} {path : String} :
    program.isProjectPath path = true ↔ Scope.Below program.modulePath.toList path.toList :=
  Scope.isUnder_iff

/-- The flag of a package comes from the directory of one of its files. -/
theorem exists_group_of_mem_packages {p : Package}
    (hp : p ∈ (ofInputs parse modulePath inputs).packages) :
    ∃ index, fileId index ∈ p.files ∧
      ∃ g, (ofInputs parse modulePath inputs).group? parse index = some g ∧
        g.path modulePath = p.path ∧ p.project = !isVendored g.dir := by
  rw [packages_ofInputs] at hp
  have hmade := madeOf_of_mem_groupFiles hp
  obtain ⟨f, hf, hkey⟩ := hmade.key
  obtain ⟨hpath, hproject⟩ := key_of_group hf
  rw [hkey] at hpath hproject
  obtain ⟨index, hindex, input, -, hread⟩ := exists_loadFile_of_mem hf
  have hid : f.id = fileId index := by rw [hread, loadFile_id]
  have hfile : f.key.path = p.path := by rw [hkey]
  exact ⟨index, hmade.mem_files_iff.mpr ⟨f, hf, hfile, hid⟩, f.group,
    group?_eq_some_iff.mpr ⟨f, hindex, rfl⟩, hpath.symm, hproject⟩

/-- Whatever the parser, a package belongs to the module exactly if its import path lies inside the
module and it does not come from below `vendor`. This is said of packages all of whose files are on
one side, and not of the tests beside the root of the module. -/
theorem project_iff_isProjectPath_and_not_vendored (parse : Source.Parser) (modulePath : String)
    {inputs : List SourceInput} (hne : inputs ≠ []) :
    ∃ program, load parse modulePath inputs = .ok program ∧
      ∀ p ∈ program.packages, ∀ vendored : Bool,
        (∀ index, fileId index ∈ p.files → ∀ g ∈ program.group? parse index,
          isVendored g.dir = vendored ∧ g ≠ ⟨"", true⟩) →
        p.project = !vendored ∧ p.project = (program.isProjectPath p.path && !vendored) := by
  refine ⟨ofInputs parse modulePath inputs, load_eq_ok_iff.mpr ⟨hne, rfl⟩,
    fun p hp vendored hfiles => ?_⟩
  obtain ⟨index, hindex, g, hg, hpath, hproject⟩ := exists_group_of_mem_packages hp
  obtain ⟨hside, hroot⟩ := hfiles index hindex g hg
  rw [hside] at hproject
  refine ⟨hproject, hproject.trans ?_⟩
  cases vendored with
  | true => rw [Bool.not_true, Bool.and_false]
  | false =>
    have hbelow : (ofInputs parse modulePath inputs).isProjectPath p.path = true :=
      isProjectPath_iff.mpr (hpath ▸ FileGroup.below_path hside hroot)
    rw [hbelow, Bool.true_and]

/-- Files of two directories of the module. -/
def moduleInputs : List SourceInput :=
  [⟨"cache/cache.go", "package store\n"⟩, ⟨"store/store.go", "package store\n"⟩]

/-- The packages of two directories of the module belong to it, and their import paths say so. -/
theorem project_iff_isProjectPath_of_two_directories :
    ∃ program, load clauseParser "app" moduleInputs = .ok program ∧
      (∃ p ∈ program.packages, 0 ∈ p.files) ∧
      ∀ p ∈ program.packages, p.project = true ∧ p.project = program.isProjectPath p.path := by
  obtain ⟨program, hload, hproject⟩ := @project_iff_isProjectPath_and_not_vendored clauseParser
    "app" moduleInputs (List.cons_ne_nil _ _)
  refine ⟨program, hload, ?_⟩
  obtain ⟨-, rfl⟩ := load_eq_ok_iff.mp hload
  have hgroups := groups_of_two clauseParser "app" moduleInputs[0] moduleInputs[1] (by decide)
  have hfirst := (hgroups 0 ⟨"cache", false⟩).mpr (Or.inl ⟨rfl, by decide⟩)
  have hbound : moduleInputs.length ≤ 2 ^ 32 := by decide
  obtain ⟨p, hp, hmem, -⟩ := (share_package_iff_path hbound hfirst hfirst).mpr rfl
  refine ⟨⟨p, hp, hmem⟩, fun p hp => ?_⟩
  have hfiles : ∀ index, fileId index ∈ p.files →
      ∀ g ∈ (ofInputs clauseParser "app" moduleInputs).group? clauseParser index,
        isVendored g.dir = false ∧ g ≠ ⟨"", true⟩ := by
    intro index _ g hg
    rcases (hgroups index g).mp hg with ⟨-, hcache⟩ | ⟨-, hstore⟩
    · rw [← hcache]
      decide
    · rw [← hstore]
      decide
  have hflag := hproject p hp false hfiles
  rwa [Bool.not_false, Bool.and_true] at hflag

/-- Files of two directories below `vendor`, with import paths inside the module. -/
def vendoredInputs : List SourceInput :=
  [⟨"vendor/app/cache/cache.go", "package store\n"⟩,
   ⟨"vendor/app/store/store.go", "package store\n"⟩]

/-- Packages below `vendor` do not belong to the module, though their import paths lie inside. -/
theorem vendored_packages_in_module :
    ∃ program, load clauseParser "app" vendoredInputs = .ok program ∧
      (∃ p, p ∈ program.packages) ∧
      ∀ p ∈ program.packages, p.project = false ∧ program.isProjectPath p.path = true := by
  have hload : load clauseParser "app" vendoredInputs =
      .ok (ofInputs clauseParser "app" vendoredInputs) :=
    load_eq_ok_iff.mpr ⟨List.cons_ne_nil _ _, rfl⟩
  have hgroups := groups_of_two clauseParser "app" vendoredInputs[0] vendoredInputs[1] (by decide)
  refine ⟨_, hload, ?_, fun p hp => ?_⟩
  · have hfirst := (hgroups 0 _).mpr (Or.inl ⟨rfl, rfl⟩)
    obtain ⟨p, hp, -⟩ := (share_package_iff_path (by decide) hfirst hfirst).mpr rfl
    exact ⟨p, hp⟩
  · obtain ⟨index, -, g, hg, hpath, hproject⟩ := exists_group_of_mem_packages hp
    have hinside : isVendored g.dir = true ∧ Scope.Below "app".toList (g.path "app").toList := by
      rcases (hgroups index g).mp hg with ⟨-, hcache⟩ | ⟨-, hstore⟩
      · rw [← hcache]
        exact ⟨by decide, Or.inr (by decide)⟩
      · rw [← hstore]
        exact ⟨by decide, Or.inr (by decide)⟩
    rw [hproject, hinside.1, Bool.not_true, isProjectPath_iff, ← hpath]
    exact ⟨rfl, hinside.2⟩

end Program

end GoAddress
