import Mathlib.Data.List.Basic
import Mathlib.Data.List.Nodup
import Mathlib.Data.List.Pairwise
import GoAddress.Program.Load
import GoAddress.Proofs.Order
import GoAddress.Proofs.Source.Declarations

/-!
# Loaded programs

A program is loaded from files by sorting, reading and grouping them. Main statement: whatever the
parser, loading forgets the order of its inputs and nothing else. Every file is kept once and belongs
to one package, and a package holds what its files declare, in their order. Numbers of files tell
them apart as long as there are at most `2 ^ 32` files.
-/

namespace GoAddress

/-- The files of a program in order, each read at its position. -/
def loadedFiles (parse : Source.Parser) (modulePath : String) (inputs : List SourceInput) :
    List LoadedFile :=
  (sortOn (·.relPath) inputs).zipIdx.map fun (input, index) => loadFile parse modulePath input index

/-- What a program keeps of a file that was read. -/
def LoadedFile.sourceFile (f : LoadedFile) : SourceFile :=
  ⟨f.input.relPath, f.input.source, f.extracted.hasErrors⟩

/-- As long as there are not too many files, their numbers are their positions. -/
theorem fileId_of_lt {index : Nat} (h : index < 2 ^ 32) : fileId index = index :=
  Nat.mod_eq_of_lt h

section ReadFile

variable (parse : Source.Parser) (modulePath : String) (input : SourceInput) (index : Nat)

/-- A file has the number of its position. -/
@[simp] theorem loadFile_id : (loadFile parse modulePath input index).id = fileId index := rfl

/-- A file that was read is still there. -/
@[simp] theorem loadFile_input : (loadFile parse modulePath input index).input = input := rfl

/-- What was read of a file is what the parser finds in its text. -/
theorem loadFile_extracted :
    (loadFile parse modulePath input index).extracted =
      (parse.extract? input.source (fileId index)).getD unreadable := rfl

/-- The package of a file comes from its path and from the name of its package clause. -/
theorem loadFile_key :
    (loadFile parse modulePath input index).key = fileKey modulePath input.relPath
      (loadFile parse modulePath input index).extracted.packageName := rfl

variable {parse modulePath input index} in
/-- Only a file that the parser makes something of has declarations. -/
theorem exists_extracted_of_mem_loadFile {d : Decl}
    (h : d ∈ (loadFile parse modulePath input index).extracted.decls) :
    ∃ extracted ∈ parse.extract? input.source (fileId index), d ∈ extracted.decls := by
  rw [loadFile_extracted] at h
  cases hread : parse.extract? input.source (fileId index) with
  | none =>
    rw [hread] at h
    cases h
  | some extracted =>
    rw [hread] at h
    exact ⟨extracted, rfl, h⟩

end ReadFile

/-- The package of a file is that of its directory, or that of the tests beside it. -/
theorem fileKey_cases (modulePath relPath name : String) :
    ∃ suffix, (suffix = "" ∨ suffix = "_test") ∧
      (fileKey modulePath relPath name).path =
        (packageKey modulePath (directoryOf relPath)).path ++ suffix ∧
      (fileKey modulePath relPath name).shortPath =
        (packageKey modulePath (directoryOf relPath)).shortPath ++ suffix ∧
      (fileKey modulePath relPath name).project =
        (packageKey modulePath (directoryOf relPath)).project := by
  unfold fileKey
  generalize packageKey modulePath (directoryOf relPath) = key
  dsimp only
  split
  · exact ⟨"_test", Or.inr rfl, rfl, rfl, rfl⟩
  · exact ⟨"", Or.inl rfl, String.append_empty.symm, String.append_empty.symm, rfl⟩

/-- A package of the module has the path of the module or lies below it. -/
theorem packageKey_of_project {modulePath dir : String}
    (hproject : (packageKey modulePath dir).project = true) :
    packageKey modulePath dir = ⟨modulePath, "", true⟩ ∨
      packageKey modulePath dir = ⟨modulePath ++ "/" ++ dir, dir, true⟩ := by
  unfold packageKey at *
  split at hproject
  · cases hproject
  · split
    · exact Or.inl rfl
    · exact Or.inr rfl

/-- The import path of a package of the module is its short path behind that of the module, save for
the tests beside the root of the module. -/
theorem path_of_fileKey {modulePath relPath name : String}
    (hproject : (fileKey modulePath relPath name).project = true)
    (hshort : (fileKey modulePath relPath name).shortPath ≠ "") :
    (fileKey modulePath relPath name).path =
        modulePath ++ "/" ++ (fileKey modulePath relPath name).shortPath ∨
      (fileKey modulePath relPath name).path = modulePath ++ "_test" ∧
        (fileKey modulePath relPath name).shortPath = "_test" := by
  obtain ⟨suffix, hsuffix, hpath, hshortPath, hkey⟩ := fileKey_cases modulePath relPath name
  rw [hkey] at hproject
  rw [hshortPath] at hshort
  rw [hpath, hshortPath]
  rcases packageKey_of_project hproject with hroot | hbelow
  · rw [hroot] at hshort ⊢
    rcases hsuffix with rfl | rfl
    · exact absurd String.append_empty hshort
    · exact Or.inr ⟨rfl, String.empty_append⟩
  · rw [hbelow]
    exact Or.inl String.append_assoc

section LoadedFiles

variable {parse : Source.Parser} {modulePath : String} {inputs : List SourceInput} {f : LoadedFile}

/-- The file at a position is the input at the same place of the order, read there. -/
theorem getElem?_loadedFiles (parse : Source.Parser) (modulePath : String)
    (inputs : List SourceInput) (i : Nat) :
    (loadedFiles parse modulePath inputs)[i]? =
      ((sortOn (·.relPath) inputs)[i]?).map (loadFile parse modulePath · i) := by
  rw [loadedFiles, List.getElem?_map, List.getElem?_zipIdx, Option.map_map]
  simp [Function.comp_def]

/-- No file is lost and none is added. -/
theorem length_loadedFiles (parse : Source.Parser) (modulePath : String)
    (inputs : List SourceInput) : (loadedFiles parse modulePath inputs).length = inputs.length := by
  rw [loadedFiles, List.length_map, List.length_zipIdx, (perm_sortOn _ inputs).length_eq]

/-- A file of a program is one of the inputs, read at its position. -/
theorem exists_loadFile_of_getElem? {i : Nat}
    (h : (loadedFiles parse modulePath inputs)[i]? = some f) :
    ∃ input ∈ inputs, f = loadFile parse modulePath input i := by
  rw [getElem?_loadedFiles] at h
  obtain ⟨input, hinput, rfl⟩ := Option.map_eq_some_iff.mp h
  exact ⟨input, (perm_sortOn _ inputs).mem_iff.mp (List.mem_of_getElem? hinput), rfl⟩

/-- A file of a program is one of the inputs, read at some position. -/
theorem exists_loadFile_of_mem (h : f ∈ loadedFiles parse modulePath inputs) :
    ∃ i, (loadedFiles parse modulePath inputs)[i]? = some f ∧
      ∃ input ∈ inputs, f = loadFile parse modulePath input i := by
  obtain ⟨i, hi⟩ := List.mem_iff_getElem?.mp h
  exact ⟨i, hi, exists_loadFile_of_getElem? hi⟩

/-- The file at a position has the position as its number. -/
theorem id_of_getElem? (hbound : inputs.length ≤ 2 ^ 32) {i : Nat}
    (h : (loadedFiles parse modulePath inputs)[i]? = some f) : f.id = i := by
  have hlength := (List.getElem?_eq_some_iff.mp h).1
  rw [length_loadedFiles] at hlength
  obtain ⟨input, -, rfl⟩ := exists_loadFile_of_getElem? h
  rw [loadFile_id, fileId_of_lt (hlength.trans_le hbound)]

/-- Every file stands at the position that its number says. -/
theorem getElem?_id_of_mem_loadedFiles (hbound : inputs.length ≤ 2 ^ 32)
    (h : f ∈ loadedFiles parse modulePath inputs) :
    (loadedFiles parse modulePath inputs)[f.id]? = some f := by
  obtain ⟨i, hi, -⟩ := exists_loadFile_of_mem h
  rw [id_of_getElem? hbound hi, hi]

/-- The package of a file comes from a path and the name of a package clause. -/
theorem key_of_mem_loadedFiles (h : f ∈ loadedFiles parse modulePath inputs) :
    ∃ input ∈ inputs, ∃ name, f.key = fileKey modulePath input.relPath name := by
  obtain ⟨i, -, input, hinput, rfl⟩ := exists_loadFile_of_mem h
  exact ⟨input, hinput, _, loadFile_key parse modulePath input i⟩

/-- The numbers of files are in order. -/
theorem pairwise_id_loadedFiles (parse : Source.Parser) (modulePath : String)
    (hbound : inputs.length ≤ 2 ^ 32) :
    (loadedFiles parse modulePath inputs).Pairwise fun f g => f.id < g.id := by
  rw [List.pairwise_iff_getElem]
  intro i j hi hj hij
  rw [id_of_getElem? hbound (List.getElem?_eq_getElem hi),
    id_of_getElem? hbound (List.getElem?_eq_getElem hj)]
  exact hij

end LoadedFiles

/-- The package that files make up: it has the key of one of them, and the files of its import path
with all that they declare, in their order. -/
structure Package.MadeOf (p : Package) (loaded : List LoadedFile) : Prop where
  /-- Some file has the key of the package. -/
  key : ∃ f ∈ loaded, f.key = ⟨p.path, p.shortPath, p.project⟩
  /-- The files of the package are those of its import path. -/
  files : p.files = (loaded.filter (·.key.path == p.path)).map (·.id)
  /-- The package declares what its files declare. -/
  decls : p.decls = (loaded.filter (·.key.path == p.path)).flatMap (·.extracted.decls)
  /-- The package is broken if one of its files is. -/
  hasErrors : p.hasErrors = (loaded.filter (·.key.path == p.path)).any (·.extracted.hasErrors)

/-- A package has the files of its import path. -/
theorem Package.MadeOf.mem_files_iff {p : Package} {loaded : List LoadedFile} (h : p.MadeOf loaded)
    {id : Nat} : id ∈ p.files ↔ ∃ f ∈ loaded, f.key.path = p.path ∧ f.id = id := by
  rw [h.files, List.mem_map]
  simp only [List.mem_filter, beq_iff_eq, and_assoc]

/-- Files of one import path make up a package of that path. -/
theorem packageOfFiles_cases {files : List LoadedFile} {path : String} {p : Package}
    (h : packageOfFiles (files.filter (·.key.path == path)) = some p) :
    p.path = path ∧ p.MadeOf files := by
  obtain ⟨first, hfirst, rfl⟩ := Option.map_eq_some_iff.mp h
  obtain ⟨hmem, hpath⟩ := List.mem_filter.mp (List.mem_of_head? hfirst)
  have hkey : first.key.path = path := beq_iff_eq.mp hpath
  exact ⟨hkey, { key := ⟨first, hmem, rfl⟩, files := by simp only [hkey],
                 decls := by simp only [hkey], hasErrors := by simp only [hkey] }⟩

/-- The packages of files are made of them. -/
theorem madeOf_of_mem_groupFiles {files : List LoadedFile} {p : Package}
    (h : p ∈ groupFiles files) : p.MadeOf files := by
  obtain ⟨path, -, hp⟩ := List.mem_filterMap.mp h
  exact (packageOfFiles_cases hp).2

/-- Every file belongs to the package of its import path. -/
theorem exists_mem_groupFiles {files : List LoadedFile} {f : LoadedFile} (h : f ∈ files) :
    ∃ p ∈ groupFiles files, p.path = f.key.path := by
  have hmem : f ∈ files.filter (·.key.path == f.key.path) :=
    List.mem_filter.mpr ⟨h, beq_self_eq_true _⟩
  obtain ⟨first, hfirst⟩ := Option.ne_none_iff_exists'.mp
    (mt List.head?_eq_none_iff.mp (List.ne_nil_of_mem hmem))
  obtain ⟨p, hp⟩ : ∃ p, packageOfFiles (files.filter (·.key.path == f.key.path)) = some p :=
    ⟨_, Option.map_eq_some_iff.mpr ⟨first, hfirst, rfl⟩⟩
  refine ⟨p, List.mem_filterMap.mpr ⟨f.key.path, ?_, hp⟩, (packageOfFiles_cases hp).1⟩
  exact mem_sortedSet.mpr (List.mem_map.mpr ⟨f, h, rfl⟩)

/-- The packages of files are in strict order of their import paths. -/
theorem pairwise_groupFiles (files : List LoadedFile) :
    (groupFiles files).Pairwise fun p q => p.path < q.path := by
  rw [groupFiles, List.pairwise_filterMap]
  refine (pairwise_sortedSet _).imp ?_
  intro path path' hlt p hp q hq
  rw [(packageOfFiles_cases hp).1, (packageOfFiles_cases hq).1]
  exact hlt

/-- One file makes up one package, which has its key. -/
theorem exists_groupFiles_singleton (f : LoadedFile) :
    ∃ p, groupFiles [f] = [p] ∧ f.key = ⟨p.path, p.shortPath, p.project⟩ := by
  have hpaths : sortedSet [f.key.path] = [f.key.path] := by
    rw [sortedSet, sortOn_of_pairwise _ (List.pairwise_singleton _ _)]
    simp [dropRepeats]
  have hfiles : [f].filter (·.key.path == f.key.path) = [f] := by simp
  rw [groupFiles, List.map_singleton, hpaths, List.filterMap_cons, hfiles]
  exact ⟨_, rfl, rfl⟩

/-- A file alone is read at the first position. -/
theorem loadedFiles_singleton (parse : Source.Parser) (modulePath : String) (input : SourceInput) :
    loadedFiles parse modulePath [input] = [loadFile parse modulePath input 0] := by
  rw [loadedFiles, sortOn_of_pairwise _ (List.pairwise_singleton _ _), List.zipIdx_cons,
    List.zipIdx_nil, List.map_cons, List.map_nil]

namespace Source

/-- A phrase that stands on one line. -/
def Phrase.onLine (line start stop : Nat) (kind : Grammar.Symbol) (role : Option Grammar.Role)
    (parts : List Phrase) : Phrase :=
  .mk kind role ⟨⟨start, line⟩, ⟨stop, line⟩⟩ parts

/-- The package clause `package name` on the first line of a text. -/
def Phrase.clause (name : String) : Phrase :=
  let stop := 8 + name.utf8ByteSize
  .onLine 0 0 stop (.category .packageClause) none
    [.onLine 0 0 7 (.token .packageWord) none [],
     .onLine 0 8 stop (.category .packageIdentifier) none []]

/-- The function `func name() \x7b\x7d` on a line. -/
def Phrase.emptyFunction (line start : Nat) (name : String) : Phrase :=
  let stop := start + 5 + name.utf8ByteSize
  .onLine line start (stop + 5) (.category .functionDeclaration) none
    [.onLine line start (start + 4) (.token .funcWord) none [],
     .onLine line (start + 5) stop (.token .identifier) (some .name) [],
     .onLine line stop (stop + 2) (.category .parameterList) (some .parameters)
       [.onLine line stop (stop + 1) (.token .leftParen) none [],
        .onLine line (stop + 1) (stop + 2) (.token .rightParen) none []],
     .onLine line (stop + 3) (stop + 5) (.category .block) (some .body)
       [.onLine line (stop + 3) (stop + 4) (.token .leftBrace) none [],
        .onLine line (stop + 4) (stop + 5) (.token .rightBrace) none []]]

/-- What a parser finds in a text of a package clause. -/
def Parsed.ofClause (name : String) : Parsed :=
  ⟨[.clause name], false⟩

/-- A parser that knows the package clauses of some packages. -/
def clauseParser : Parser :=
  .ofTable (["store", "store_test", "fixtures"].map fun name =>
    ("package " ++ name ++ "\n", .ofClause name))

/-- What a parser finds in a text of a package clause and, behind a blank line, an empty function. -/
def Parsed.ofFunction (package name : String) : Parsed :=
  ⟨[.clause package, .emptyFunction 2 (10 + package.utf8ByteSize) name], false⟩

end Source

namespace Program

variable {parse : Source.Parser} {modulePath : String} {inputs : List SourceInput}

/-- A loaded program is made of the packages of its files. -/
theorem ofInputs_eq (parse : Source.Parser) (modulePath : String) (inputs : List SourceInput) :
    ofInputs parse modulePath inputs =
      ofPackages modulePath ((loadedFiles parse modulePath inputs).map LoadedFile.sourceFile)
        (groupFiles (loadedFiles parse modulePath inputs)) := rfl

/-- A program is loaded from any list of files that is not empty. -/
theorem load_eq_ok_iff {program : Program} :
    load parse modulePath inputs = .ok program ↔
      inputs ≠ [] ∧ ofInputs parse modulePath inputs = program := by
  unfold load
  cases inputs with
  | nil => simp
  | cons input inputs => simp

/-- The packages of a loaded program are those of its files, in their order. -/
theorem packages_ofInputs (parse : Source.Parser) (modulePath : String)
    (inputs : List SourceInput) :
    (ofInputs parse modulePath inputs).packages =
      groupFiles (loadedFiles parse modulePath inputs) := by
  have horder := pairwise_groupFiles (loadedFiles parse modulePath inputs)
  exact sortOn_of_pairwise Package.path (horder.imp le_of_lt)

/-- The files of a loaded program. -/
theorem files_ofInputs (parse : Source.Parser) (modulePath : String) (inputs : List SourceInput) :
    (ofInputs parse modulePath inputs).files =
      (loadedFiles parse modulePath inputs).map LoadedFile.sourceFile := rfl

/-- The import paths of a loaded program are distinct. -/
theorem nodup_paths_ofInputs (parse : Source.Parser) (modulePath : String)
    (inputs : List SourceInput) :
    ((groupFiles (loadedFiles parse modulePath inputs)).map (·.path)).Nodup :=
  List.pairwise_map.mpr ((pairwise_groupFiles _).imp ne_of_lt)

/-- The key of a package of a loaded program is that of one of its files. -/
theorem exists_fileKey_of_mem_groupFiles {p : Package}
    (hp : p ∈ groupFiles (loadedFiles parse modulePath inputs)) :
    ∃ input ∈ inputs, ∃ name,
      fileKey modulePath input.relPath name = ⟨p.path, p.shortPath, p.project⟩ := by
  obtain ⟨f, hf, hkey⟩ := (madeOf_of_mem_groupFiles hp).key
  obtain ⟨input, hinput, name, hname⟩ := key_of_mem_loadedFiles hf
  exact ⟨input, hinput, name, hname.symm.trans hkey⟩

/-- In a loaded program, the import path of a package of the module is its short path behind that of
the module, save for the tests beside the root of the module. -/
theorem path_of_mem_groupFiles {p : Package}
    (hp : p ∈ groupFiles (loadedFiles parse modulePath inputs))
    (hproject : p.project = true) (hshort : p.shortPath ≠ "") :
    p.path = modulePath ++ "/" ++ p.shortPath ∨
      p.path = modulePath ++ "_test" ∧ p.shortPath = "_test" := by
  obtain ⟨input, -, name, hkey⟩ := exists_fileKey_of_mem_groupFiles hp
  have hpath := @path_of_fileKey modulePath input.relPath name
  rw [hkey] at hpath
  exact hpath hproject hshort

/-- What is read of the file at a position, if the parser makes something of it. -/
def extracted? (parse : Source.Parser) (program : Program) (id : Nat) : Option Source.Extracted :=
  (program.files[id]?).bind fun f => parse.extract? f.source id

/-- What is kept of a file of a loaded program is what was read of it. -/
theorem extracted?_of_mem (hbound : inputs.length ≤ 2 ^ 32) {f : LoadedFile}
    (h : f ∈ loadedFiles parse modulePath inputs) :
    f.extracted = ((ofInputs parse modulePath inputs).extracted? parse f.id).getD unreadable := by
  have hget := getElem?_id_of_mem_loadedFiles hbound h
  obtain ⟨i, -, input, -, rfl⟩ := exists_loadFile_of_mem h
  rw [extracted?, files_ofInputs, List.getElem?_map, hget, Option.map_some, Option.bind_some]
  rfl

/-- What is read of a file is in the order of its text. -/
theorem pairwise_decls_of_extracted? (hparse : parse.Ordered) {program : Program} {id : Nat}
    {extracted : Source.Extracted} (h : extracted ∈ program.extracted? parse id) :
    extracted.decls.Pairwise fun d e => d.span.startByte ≤ e.span.startByte := by
  obtain ⟨f, -, hextracted⟩ := Option.bind_eq_some_iff.mp h
  exact Source.pairwise_decls_extract hparse hextracted

/-- The flag of a file tells whether it could be read. -/
theorem hasErrors_of_mem (hbound : inputs.length ≤ 2 ^ 32) {f : LoadedFile}
    (h : f ∈ loadedFiles parse modulePath inputs) :
    ((ofInputs parse modulePath inputs).files[f.id]?).any (·.hasErrors) =
      f.extracted.hasErrors := by
  rw [files_ofInputs, List.getElem?_map, getElem?_id_of_mem_loadedFiles hbound h]
  rfl

/-- A file is broken if the parser finds it so, or makes nothing of it. -/
theorem hasErrors_of_mem_files {f : SourceFile} (h : f ∈ (ofInputs parse modulePath inputs).files) :
    f.hasErrors = ((parse f.source).map (·.hasErrors)).getD true := by
  rw [files_ofInputs] at h
  obtain ⟨loaded, hloaded, rfl⟩ := List.mem_map.mp h
  obtain ⟨i, -, input, -, rfl⟩ := exists_loadFile_of_mem hloaded
  have hread : (loadFile parse modulePath input i).sourceFile.hasErrors =
      ((parse.extract? input.source (fileId i)).getD unreadable).hasErrors := rfl
  have hsource : (loadFile parse modulePath input i).sourceFile.source = input.source := rfl
  rw [hread, hsource, Source.Parser.extract?]
  cases parse input.source with
  | none => rfl
  | some parsed => rfl

/-- The files of a loaded program are its inputs, sorted. -/
theorem map_files_ofInputs (parse : Source.Parser) (modulePath : String)
    (inputs : List SourceInput) :
    ((ofInputs parse modulePath inputs).files.map
      fun f => (⟨f.relPath, f.source⟩ : SourceInput)) = sortOn (·.relPath) inputs := by
  have hinput : ∀ f : LoadedFile,
      (⟨f.sourceFile.relPath, f.sourceFile.source⟩ : SourceInput) = f.input := fun _ => rfl
  rw [files_ofInputs, List.map_map]
  simp only [Function.comp_def, hinput]
  rw [loadedFiles, List.map_map]
  simp only [Function.comp_def, loadFile_input]
  exact List.zipIdx_map_fst 0 _

/-- Every position of a file is in one package. -/
theorem existsUnique_package_of_file (hbound : inputs.length ≤ 2 ^ 32) {id : Nat}
    (hid : id < (ofInputs parse modulePath inputs).files.length) :
    ∃! p, p ∈ (ofInputs parse modulePath inputs).packages ∧ id ∈ p.files := by
  rw [files_ofInputs, List.length_map] at hid
  obtain ⟨f, hf⟩ : ∃ f, (loadedFiles parse modulePath inputs)[id]? = some f :=
    ⟨_, List.getElem?_eq_getElem hid⟩
  have hmem := List.mem_of_getElem? hf
  have hplace : ∀ g ∈ loadedFiles parse modulePath inputs, g.id = id → g = f := by
    intro g hg hgid
    have hget := getElem?_id_of_mem_loadedFiles hbound hg
    rw [hgid, hf] at hget
    exact (Option.some.inj hget).symm
  rw [packages_ofInputs]
  obtain ⟨p, hp, hpath⟩ := exists_mem_groupFiles hmem
  refine ⟨p, ⟨hp, ?_⟩, ?_⟩
  · have hfid : f.id = id := id_of_getElem? hbound hf
    exact (madeOf_of_mem_groupFiles hp).mem_files_iff.mpr ⟨f, hmem, hpath.symm, hfid⟩
  · intro q hq
    obtain ⟨hq, hin⟩ := hq
    obtain ⟨g, hg, hgpath, hgid⟩ := (madeOf_of_mem_groupFiles hq).mem_files_iff.mp hin
    rw [hplace g hg hgid, ← hpath] at hgpath
    exact List.inj_on_of_nodup_map (nodup_paths_ofInputs parse modulePath inputs) hq hp hgpath.symm

/-- A package of a loaded program has its files in order, declares what they declare, one file after
the other, and is broken if one of them is. -/
theorem contents_of_mem_packages (hbound : inputs.length ≤ 2 ^ 32) {p : Package}
    (hp : p ∈ (ofInputs parse modulePath inputs).packages) :
    p.files.Pairwise (· < ·) ∧
      (∀ id ∈ p.files, id < (ofInputs parse modulePath inputs).files.length) ∧
      p.decls = p.files.flatMap (fun id =>
        (((ofInputs parse modulePath inputs).extracted? parse id).map (·.decls)).getD []) ∧
      p.hasErrors = p.files.any fun id =>
        ((ofInputs parse modulePath inputs).files[id]?).any (·.hasErrors) := by
  rw [packages_ofInputs] at hp
  have hmade := madeOf_of_mem_groupFiles hp
  have hloaded : ∀ f ∈ (loadedFiles parse modulePath inputs).filter (·.key.path == p.path),
      f ∈ loadedFiles parse modulePath inputs := fun f hf => (List.mem_filter.mp hf).1
  refine ⟨?_, ?_, ?_, ?_⟩
  · rw [hmade.files, List.pairwise_map]
    exact (pairwise_id_loadedFiles parse modulePath hbound).filter _
  · intro id hid
    obtain ⟨f, hf, -, rfl⟩ := hmade.mem_files_iff.mp hid
    rw [files_ofInputs, List.length_map]
    exact (List.getElem?_eq_some_iff.mp (getElem?_id_of_mem_loadedFiles hbound hf)).1
  · rw [hmade.decls, hmade.files, List.flatMap_map]
    refine List.flatMap_congr fun f hf => ?_
    rw [extracted?_of_mem hbound (hloaded f hf)]
    cases (ofInputs parse modulePath inputs).extracted? parse f.id with
    | none => rfl
    | some extracted => rfl
  · rw [hmade.hasErrors, hmade.files, List.any_map, Bool.eq_iff_iff, List.any_eq_true,
      List.any_eq_true]
    refine exists_congr fun f => and_congr_right fun hf => ?_
    rw [Function.comp_apply, hasErrors_of_mem hbound (hloaded f hf)]

/-- A declaration of a package of a loaded program was read from one of the files of the package. -/
theorem exists_extracted_of_mem_decls {p : Package}
    (hp : p ∈ (ofInputs parse modulePath inputs).packages) {d : Decl} (hd : d ∈ p.decls) :
    ∃ index, fileId index ∈ p.files ∧
      ∃ f, (ofInputs parse modulePath inputs).files[index]? = some f ∧
        ∃ extracted ∈ parse.extract? f.source (fileId index), d ∈ extracted.decls := by
  rw [packages_ofInputs] at hp
  have hmade := madeOf_of_mem_groupFiles hp
  rw [hmade.decls] at hd
  obtain ⟨f, hf, hd⟩ := List.mem_flatMap.mp hd
  obtain ⟨hloaded, hpath⟩ := List.mem_filter.mp hf
  obtain ⟨index, hindex, input, -, rfl⟩ := exists_loadFile_of_mem hloaded
  have hfile : (ofInputs parse modulePath inputs).files[index]? =
      some (loadFile parse modulePath input index).sourceFile := by
    rw [files_ofInputs, List.getElem?_map, hindex, Option.map_some]
  exact ⟨index, hmade.mem_files_iff.mpr ⟨_, hloaded, beq_iff_eq.mp hpath, rfl⟩, _, hfile,
    exists_extracted_of_mem_loadFile hd⟩

/-- Loading keeps everything and depends on no order: whatever the order of the files, the same
program is loaded. Its files are the given ones by increasing path, broken if the parser finds them so
or makes nothing of them, and its packages are by increasing import path. Every file belongs to one
package, and a package declares what its files declare, file by file, and is broken if one of them is.
The declarations of a file are in the order of its text if the phrases of the parser are. -/
theorem load_keeps_files_in_order {parse : Source.Parser} (hparse : parse.Ordered)
    (modulePath : String) {inputs : List SourceInput} (hne : inputs ≠ [])
    (hpaths : (inputs.map (·.relPath)).Nodup) :
    ∃ program, load parse modulePath inputs = .ok program ∧
      (∀ inputs' : List SourceInput,
        inputs'.Perm inputs → load parse modulePath inputs' = .ok program) ∧
      (program.files.map fun f => (⟨f.relPath, f.source⟩ : SourceInput)).Perm inputs ∧
      (program.files.Pairwise fun f g => f.relPath < g.relPath) ∧
      (∀ f ∈ program.files, f.hasErrors = ((parse f.source).map (·.hasErrors)).getD true) ∧
      (program.packages.Pairwise fun p q => p.path < q.path) ∧
      (inputs.length ≤ 2 ^ 32 →
        (∀ id < program.files.length, ∃! p, p ∈ program.packages ∧ id ∈ p.files) ∧
        ∀ p ∈ program.packages,
          p.files.Pairwise (· < ·) ∧ (∀ id ∈ p.files, id < program.files.length) ∧
          p.decls = p.files.flatMap (fun id =>
            ((program.extracted? parse id).map (·.decls)).getD []) ∧
          (∀ id ∈ p.files, ∀ extracted ∈ program.extracted? parse id,
            extracted.decls.Pairwise fun d e => d.span.startByte ≤ e.span.startByte) ∧
          p.hasErrors = p.files.any fun id => (program.files[id]?).any (·.hasErrors)) := by
  refine ⟨ofInputs parse modulePath inputs, load_eq_ok_iff.mpr ⟨hne, rfl⟩, ?_, ?_, ?_,
    fun f hf => hasErrors_of_mem_files hf, ?_, fun hbound =>
      ⟨fun id hid => existsUnique_package_of_file hbound hid, ?_⟩⟩
  · intro inputs' hperm
    have hsame : loadedFiles parse modulePath inputs' = loadedFiles parse modulePath inputs := by
      rw [loadedFiles, loadedFiles, sortOn_eq_of_perm _ hpaths hperm]
    have hne' : inputs' ≠ [] := fun hnil => hne (hperm.symm.trans (hnil ▸ List.Perm.refl _)).eq_nil
    rw [load_eq_ok_iff, ofInputs_eq, ofInputs_eq, hsame]
    exact ⟨hne', rfl⟩
  · rw [map_files_ofInputs]
    exact perm_sortOn _ inputs
  · have hsorted := pairwise_lt_sortOn _ hpaths
    rwa [← map_files_ofInputs parse modulePath, List.pairwise_map] at hsorted
  · rw [packages_ofInputs]
    exact pairwise_groupFiles _
  · intro p hp
    obtain ⟨hfiles, hids, hdecls, herrors⟩ := contents_of_mem_packages hbound hp
    exact ⟨hfiles, hids, hdecls, fun _ _ _ hread => pairwise_decls_of_extracted? hparse hread,
      herrors⟩

/-- Three files of two directories, out of order. -/
def utilInputs : List SourceInput :=
  [⟨"util/b.go", "package util\n\nfunc B() {}\n"⟩,
   ⟨"main.go", "package main\n\nfunc main() {}\n"⟩,
   ⟨"util/a.go", "package util\n\nfunc A() {}\n"⟩]

/-- What a parser finds in the three files. -/
def utilParser : Source.Parser :=
  .ofTable [("package util\n\nfunc B() {}\n", .ofFunction "util" "B"),
    ("package main\n\nfunc main() {}\n", .ofFunction "main" "main"),
    ("package util\n\nfunc A() {}\n", .ofFunction "util" "A")]

/-- The three files are loaded from back to front as well, the one at the root comes first, none is
broken, and the last one belongs to one package. -/
theorem load_keeps_files_in_order_of_three :
    ∃ program, load utilParser "example.com/app" utilInputs = .ok program ∧
      load utilParser "example.com/app" utilInputs.reverse = .ok program ∧
      program.files.map (·.relPath) = ["main.go", "util/a.go", "util/b.go"] ∧
      (∀ f ∈ program.files, f.hasErrors = false) ∧ ∃! p, p ∈ program.packages ∧ 2 ∈ p.files := by
  have hordered : utilParser.Ordered := Source.Parser.ordered_ofTable (by decide)
  obtain ⟨program, hload, hsame, hperm, hfiles, hflags, -, hcontents⟩ :=
    @load_keeps_files_in_order utilParser hordered "example.com/app" utilInputs (by decide)
      (by decide)
  have hpaths := hperm.map (·.relPath)
  rw [List.map_map] at hpaths
  have hlength := hperm.length_eq
  rw [List.length_map] at hlength
  obtain ⟨hunique, -⟩ := hcontents (by decide)
  refine ⟨program, hload, hsame _ (List.reverse_perm _), ?_, ?_,
    hunique 2 (by rw [hlength]; decide)⟩
  · have hinputs : (utilInputs.map (·.relPath)).Perm ["main.go", "util/a.go", "util/b.go"] := by
      decide
    exact eq_of_pairwise_lt (List.pairwise_map.mpr hfiles) (by decide) fun path =>
      (hpaths.trans hinputs).mem_iff
  · intro f hf
    have hknown : ∀ input ∈ utilInputs,
        ((utilParser input.source).map (·.hasErrors)).getD true = false := by decide
    rw [hflags f hf]
    exact hknown _ (hperm.mem_iff.mp (List.mem_map_of_mem hf))

end Program

end GoAddress
