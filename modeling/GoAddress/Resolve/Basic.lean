import GoAddress.Diagnostic
import GoAddress.Program.Symbol
import GoAddress.Resolve.Children

/-!
# Resolving addresses

An address is resolved in stages: the package, the symbol, the method, then one step at a time.
The answer carries the canonical address, with the package in full. A text that is a lone name is
looked up among all symbols and never guessed.
-/

namespace GoAddress

/-- A program with its index. -/
structure Workspace where
  /-- The program. -/
  program : Program
  /-- Its symbols. -/
  index : SymbolIndex

/-- A program with the index built from it. -/
def Workspace.ofProgram (p : Program) : Workspace :=
  ⟨p, .build p⟩

/-- What an address names. -/
structure Resolution where
  /-- The canonical address, as it reads back. -/
  path : Address
  /-- What it names. -/
  node : Node
  /-- The package it lies in. -/
  package : Package
deriving DecidableEq, Repr

namespace Resolution

/-- The canonical address as text. -/
def address (r : Resolution) : String :=
  r.path.render

/-- The text of what is named: names, values of tag pairs and doc comments are their content,
everything else is the source at its place. -/
def source? (r : Resolution) (p : Program) : Option String :=
  match r.node with
  | .name text _ => some text
  | .tag _ (some (_, value)) => some value
  | .doc s => some s.text
  | node => node.span?.bind p.text?

/-- The file and line of what is named. -/
def location? (r : Resolution) (p : Program) : Option String :=
  r.node.span?.map p.location

end Resolution

/-- An answer with the remarks made on the way. -/
abbrev Remarked (ε α : Type) := List Diagnostic × Except ε α

/-- The address as its written form reads; itself where that is no address. -/
def readBack (a : Address) : Address :=
  (Address.parse? a.render).getD a

namespace Workspace

/-- The method of a type: one declared on it, or else one that an interface asks for. -/
def methodOf? (w : Workspace) (s : Symbol) (d : Decl) (method : String) : Option Node :=
  if d.kind.isType then
    match ((w.index.methodsOf s).find? (·.name == method)).bind (·.decl? w.program) with
    | some found => some (.decl found)
    | none => ((d.type?.map (·.interfaceMethods)).getD []).find? (·.name == method) |>.map
        .interfaceMethod
  else none

/-- Follows steps from a node; `resolved` is the address of the node. -/
def descend (p : Package) : Node → (resolved : String) → List Segment → Except ResolveError Node
  | node, _, [] => .ok node
  | node, resolved, s :: rest =>
    match node.child p s resolved with
    | .error e => .error e
    | .ok next => descend p next (resolved ++ "/" ++ s.text) rest

/-- The node of a symbol's declaration, method and steps. -/
def resolveSymbol (w : Workspace) (p : Package) (s : Symbol) (d : Decl) (a : Address)
    (name : String) : Except ResolveError Node :=
  let resolved := p.path ++ "." ++ name
  match a.method with
  | none => descend p (.decl d) resolved a.subpath
  | some method =>
    match w.methodOf? s d method with
    | none => .error (.methodNotFound resolved method)
    | some node => descend p node (resolved ++ "." ++ method) a.subpath

/-- Resolves an address in a package that answers to its package part. Of several symbols the first
is taken, with a remark. -/
def resolveIn (w : Workspace) (p : Package) (a : Address) : Remarked ResolveError Resolution :=
  let canonical := a.withPackage p.path
  match a.symbol with
  | none => ([], .ok { path := readBack canonical, node := .package p, package := p })
  | some name =>
    match w.index.find p.path name with
    | [] => ([], .error (.symbolNotFound p.path name))
    | first :: others =>
      let remarks := if others.isEmpty then [] else
        [.ambiguous first.address ((first :: others).map fun s =>
          s.address ++ " (" ++ w.program.location s.span ++ ")")]
      match first.decl? w.program with
      | none => (remarks, .error (.symbolNotFound p.path name))
      | some d =>
        (remarks, (w.resolveSymbol p first d a name).map fun node =>
          { path := readBack canonical, node, package := p })

/-- The first reading of an address whose package is loaded. -/
def reading? (w : Workspace) (a : Address) : Option (Package × Address) :=
  (a :: a.alternatives).findSome? fun reading =>
    (w.program.package? reading.package).map fun p => (p, reading)

/-- Resolves an address. -/
def resolve (w : Workspace) (a : Address) : Remarked ResolveError Resolution :=
  match w.reading? a with
  | some (p, reading) => w.resolveIn p reading
  | none => ([], .error (.packageNotFound a.package))

/-- The package named in an error when a lone name is found nowhere. -/
def anyPackage : String := "*"

/-- Resolves a lone name: it has to name exactly one symbol. -/
def resolveName (w : Workspace) (name : String) : Remarked ResolveError Resolution :=
  match w.index.lookup name with
  | [] => ([], .error (.symbolNotFound anyPackage name))
  | [only] =>
    match Address.parse only.address with
    | .ok a => w.resolve a
    | .error e => ([], .error (.parse e))
  | many =>
    let candidates := sortedSet (many.map (·.address))
    ([.ambiguous name candidates], .error (.ambiguous name candidates))

/-- Resolves a text: a lone name that no package answers to, or an address. -/
def resolveText (w : Workspace) (input : String) : Remarked ResolveError Resolution :=
  let text := Text.trimBlanks input
  if isIdentifier text && (w.program.package? text).isNone then w.resolveName text
  else match Address.parse text with
    | .ok a => w.resolve a
    | .error e => ([], .error (.parse e))

end Workspace

end GoAddress
