import GoAddress.Program.Basic
import GoAddress.Source.Extract

/-!
# Loading programs

Files are put in the order of their paths, read with a parser, and grouped into packages by
directory. Files whose package name ends in `_test` form a package of their own beside the one they
test. Packages below `vendor` keep their own import path and do not belong to the module.
-/

namespace GoAddress

/-- Why no program could be loaded. -/
inductive LoadError where
  | io (path reason : String)
  | parserInit (reason : String)
  | noPackages (root : String)
deriving DecidableEq, Repr

/-- The wording of a load error. -/
def LoadError.message : LoadError → String
  | .io path reason => s!"Failed to read '{path}': {reason}"
  | .parserInit reason => s!"Failed to initialize Go parser: {reason}"
  | .noPackages root => s!"No Go packages found under '{root}'"

/-- A source file before it is read. -/
structure SourceInput where
  /-- The path relative to the root, with slashes. -/
  relPath : String
  /-- The text. -/
  source : String
deriving DecidableEq, Repr

/-- The directory of a path; empty at the root. -/
def directoryOf (relPath : String) : String :=
  match Text.cutAtLast? (· == '/') relPath.toList with
  | some (dir, _, _) => String.ofList dir
  | none => ""

/-- Where the declarations of a directory go. -/
structure PackageKey where
  /-- The import path. -/
  path : String
  /-- The path relative to the module. -/
  shortPath : String
  /-- Whether the package belongs to the module. -/
  project : Bool
deriving DecidableEq, Repr

/-- The package of a directory. -/
def packageKey (modulePath dir : String) : PackageKey :=
  match Text.dropPrefix? "vendor/".toList dir.toList with
  | some vendored => ⟨String.ofList vendored, String.ofList vendored, false⟩
  | none => if dir.isEmpty then ⟨modulePath, "", true⟩ else ⟨modulePath ++ "/" ++ dir, dir, true⟩

/-- Whether a package name is that of tests from outside the package. -/
def isExternalTest (name : String) : Bool :=
  (Text.dropSuffix? "_test".toList name.toList).isSome

/-- The key of a file's package, given the name of its package clause. -/
def fileKey (modulePath relPath name : String) : PackageKey :=
  let key := packageKey modulePath (directoryOf relPath)
  if isExternalTest name then
    { key with path := key.path ++ "_test", shortPath := key.shortPath ++ "_test" }
  else key

/-- The number of the file at a position. Numbers have 32 bits, so those of very many files wrap
around. -/
def fileId (index : Nat) : Nat :=
  index % UInt32.size

/-- A file that was read, with its place in the program. -/
structure LoadedFile where
  /-- The number of the file. -/
  id : Nat
  /-- The file. -/
  input : SourceInput
  /-- The package it belongs to. -/
  key : PackageKey
  /-- What it declares. -/
  extracted : Source.Extracted

/-- What is kept of a file that the parser makes nothing of. -/
def unreadable : Source.Extracted :=
  { packageName := "", decls := [], hasErrors := true }

/-- Reads the file at a position. -/
def loadFile (parse : Source.Parser) (modulePath : String) (input : SourceInput) (index : Nat) :
    LoadedFile :=
  let extracted := (parse.extract? input.source (fileId index)).getD unreadable
  { id := fileId index, input, key := fileKey modulePath input.relPath extracted.packageName
    extracted }

/-- The package of files with one key: named by the first file that has a package clause. -/
def packageOfFiles (files : List LoadedFile) : Option Package :=
  files.head?.map fun first =>
    { path := first.key.path
      shortPath := first.key.shortPath
      name := ((files.map (·.extracted.packageName)).find? (!·.isEmpty)).getD ""
      files := files.map (·.id)
      decls := files.flatMap (·.extracted.decls)
      project := first.key.project
      hasErrors := files.any (·.extracted.hasErrors) }

/-- The packages of all files by increasing import path. -/
def groupFiles (files : List LoadedFile) : List Package :=
  (sortedSet (files.map (·.key.path))).filterMap fun path =>
    packageOfFiles (files.filter (·.key.path == path))

/-- The program of the files, whatever their order. -/
def Program.ofInputs (parse : Source.Parser) (modulePath : String) (inputs : List SourceInput) :
    Program :=
  let files := (sortOn (·.relPath) inputs).zipIdx.map fun (input, index) =>
    loadFile parse modulePath input index
  Program.ofPackages modulePath
    (files.map fun f => ⟨f.input.relPath, f.input.source, f.extracted.hasErrors⟩)
    (groupFiles files)

/-- Loads a program from files in memory; there must be at least one. -/
def Program.load (parse : Source.Parser) (modulePath : String) (inputs : List SourceInput) :
    Except LoadError Program :=
  if inputs.isEmpty then .error (.noPackages modulePath)
  else .ok (.ofInputs parse modulePath inputs)

end GoAddress
