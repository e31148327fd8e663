import GoAddress.Program.Basic

/-!
# The symbol index

Every declaration of a program is a symbol, numbered in package and source order. The index finds
symbols by name and by package, and lists for every type the methods declared on it: a method
belongs to the first type of its receiver's name in the same package.
-/

namespace GoAddress

/-- A declaration in the index. -/
structure Symbol where
  /-- The position among all symbols. -/
  id : Nat
  /-- What is declared. -/
  kind : Kind
  /-- The declared name. -/
  name : String
  /-- The import path of the package. -/
  package : String
  /-- The path of the package relative to the module. -/
  shortPackage : String
  /-- The name of the receiver's type, for a method. -/
  receiver : Option String := none
  /-- The position of the package in the program. -/
  packageIndex : Nat
  /-- The position of the declaration in the package. -/
  declIndex : Nat
  /-- Where it stands. -/
  span : Span
  /-- The methods declared on a type, in source order. -/
  methods : List Nat := []
deriving DecidableEq, Repr

namespace Symbol

/-- The full address of a symbol. -/
def address (s : Symbol) : String :=
  match s.receiver with
  | some receiver => s.package ++ "." ++ receiver ++ "." ++ s.name
  | none => s.package ++ "." ++ s.name

/-- The declaration of a symbol. -/
def decl? (s : Symbol) (p : Program) : Option Decl :=
  (p.packages[s.packageIndex]?).bind (·.decls[s.declIndex]?)

/-- Whether the name is visible outside its package. -/
def isExported (s : Symbol) : Bool :=
  GoAddress.isExported s.name

end Symbol

/-- All symbols of a program with tables by name and by package. -/
structure SymbolIndex where
  /-- The symbols in order of their positions. -/
  symbols : List Symbol := []
  /-- The positions of the symbols of a name. -/
  byName : Table Nat := []
  /-- The positions of the symbols of an import path. -/
  byPackage : Table Nat := []

namespace SymbolIndex

/-- The position of the first type with a name among declarations. -/
def ownerIndex? (decls : List Decl) (name : String) : Option Nat :=
  decls.findIdx? fun d => d.kind.isType && d.name == name

/-- The positions of the methods that belong to the declaration at a position, counted from the
first symbol of the package. -/
def methodsAt (decls : List Decl) (first : Nat) (d : Decl) (i : Nat) : List Nat :=
  if d.kind.isType && ownerIndex? decls d.name == some i then
    (decls.zipIdx.filter fun (m, _) => m.receiverType? == some d.name).map fun (_, j) => first + j
  else []

/-- The symbols of a package whose first symbol has the given position. -/
def packageSymbols (first packageIndex : Nat) (p : Package) : List Symbol :=
  p.decls.zipIdx.map fun (d, i) =>
    { id := first + i, kind := d.kind, name := d.name, package := p.path
      shortPackage := p.shortPath, receiver := d.receiverType?, packageIndex, declIndex := i
      span := d.span, methods := methodsAt p.decls first d i }

/-- The symbols of packages in order, from a position on. -/
def symbolsFrom (first packageIndex : Nat) : List Package → List Symbol
  | [] => []
  | p :: rest =>
    packageSymbols first packageIndex p ++
      symbolsFrom (first + p.decls.length) (packageIndex + 1) rest

/-- The index of a program. -/
def build (p : Program) : SymbolIndex :=
  let symbols := symbolsFrom 0 0 p.packages
  { symbols
    byName := symbols.foldl (fun table s => table.add s.name s.id) []
    byPackage := symbols.foldl (fun table s => table.add s.package s.id) [] }

/-- The symbol at a position. -/
def get? (index : SymbolIndex) (id : Nat) : Option Symbol :=
  index.symbols[id]?

/-- The symbols with a name, in all packages. -/
def lookup (index : SymbolIndex) (name : String) : List Symbol :=
  (index.byName.get name).filterMap index.get?

/-- The symbols of the package with an import path. -/
def inPackage (index : SymbolIndex) (package : String) : List Symbol :=
  (index.byPackage.get package).filterMap index.get?

/-- The symbols of a package with a name that are no methods, in source order. -/
def find (index : SymbolIndex) (package name : String) : List Symbol :=
  (index.inPackage package).filter fun s => s.name == name && s.receiver.isNone

/-- The methods declared on a type. -/
def methodsOf (index : SymbolIndex) (s : Symbol) : List Symbol :=
  s.methods.filterMap index.get?

/-- The symbols of a kind. -/
def ofKind (index : SymbolIndex) (kind : Kind) : List Symbol :=
  index.symbols.filter (·.kind == kind)

end SymbolIndex

end GoAddress
