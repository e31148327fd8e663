import GoAddress.Decl.Basic
import GoAddress.Order
import GoAddress.Text.Slice

/-!
# Programs

A program is a set of packages with the files that their declarations stand in. Packages are kept
in the order of their import paths. A package answers to its import path and, if it belongs to the
loaded module, to its path relative to the module; an import path goes first.
-/

namespace GoAddress

/-- A package with its declarations. -/
structure Package where
  /-- The import path. -/
  path : String
  /-- The path relative to the module; empty for its root. -/
  shortPath : String
  /-- The name of the package clause. -/
  name : String
  /-- The positions of its files in the program. -/
  files : List Nat := []
  /-- The declarations, file by file in source order. -/
  decls : List Decl := []
  /-- Whether it belongs to the loaded module. -/
  project : Bool := true
  /-- Whether some file could not be read completely. -/
  hasErrors : Bool := false
deriving DecidableEq, Repr

namespace Package

/-- Whether an import path is private to its module: a component is `internal`. -/
def isInternalPath (path : String) : Bool :=
  (Text.splitOn '/' path.toList).contains "internal".toList

/-- The path for display: relative to the module, except at its root. -/
def displayPath (path shortPath : String) : String :=
  if shortPath.isEmpty then path else shortPath

/-- The declarations with a name that are no methods, in source order. -/
def topLevel (p : Package) (name : String) : List Decl :=
  p.decls.filter fun d => d.name == name && d.receiverType?.isNone

/-- The methods whose receiver is the named type, in source order. -/
def methodsOf (p : Package) (typeName : String) : List Decl :=
  p.decls.filter fun d => d.receiverType? == some typeName

end Package

/-- A source file of a program. -/
structure SourceFile where
  /-- The path relative to the root, with slashes. -/
  relPath : String
  /-- The text. -/
  source : String
  /-- Whether it could not be read completely. -/
  hasErrors : Bool := false
deriving DecidableEq, Repr

/-- Whether the file holds tests. -/
def SourceFile.isTest (f : SourceFile) : Bool :=
  (Text.dropSuffix? "_test.go".toList f.relPath.toList).isSome

/-- A loaded program. -/
structure Program where
  /-- The import path of the module. -/
  modulePath : String
  /-- The files in order of their positions. -/
  files : List SourceFile
  /-- The packages by increasing import path. -/
  packages : List Package
  /-- The position of the package of an import path. -/
  byPath : List (String × Nat)
  /-- The position of the package of a path relative to the module. -/
  byShortPath : List (String × Nat)
deriving DecidableEq, Repr

namespace Program

/-- A program of the packages. Where several packages have one key, the last one has it. -/
def ofPackages (modulePath : String) (files : List SourceFile) (packages : List Package) :
    Program :=
  let sorted := sortOn (·.path) packages
  let placed := sorted.zipIdx.reverse
  { modulePath, files, packages := sorted
    byPath := placed.map fun (p, i) => (p.path, i)
    byShortPath := (placed.filter fun (p, _) => p.project && !p.shortPath.isEmpty).map
      fun (p, i) => (p.shortPath, i) }

/-- The position of the package that answers to a path. -/
def packageIndex? (p : Program) (path : String) : Option Nat :=
  (p.byPath.lookup path).or (p.byShortPath.lookup path)

/-- The package that answers to a path. -/
def package? (p : Program) (path : String) : Option Package :=
  (p.packageIndex? path).bind (p.packages[·]?)

/-- The text of a span. -/
def text? (p : Program) (s : Span) : Option String :=
  (p.files[s.file]?).bind fun f => Text.slice? f.source s.startByte s.endByte

/-- The file and line of a span, lines counted from one. -/
def location (p : Program) (s : Span) : String :=
  let name := ((p.files[s.file]?).map (·.relPath)).getD "<unknown>"
  s!"{name}:{s.startLine + 1}"

/-- Whether an import path lies inside the module. -/
def isProjectPath (p : Program) (path : String) : Bool :=
  match Text.dropPrefix? p.modulePath.toList path.toList with
  | some [] => true
  | some (c :: _) => c == '/'
  | none => false

/-- The number of all declarations. -/
def declCount (p : Program) : Nat :=
  p.packages.foldl (fun n k => n + k.decls.length) 0

end Program

end GoAddress
