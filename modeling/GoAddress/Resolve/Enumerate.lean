import GoAddress.Pattern.Entry
import GoAddress.Resolve.Basic

/-!
# The universe of addresses

Every package, declaration and part of one has an entry. Below a declaration the walk follows all
steps, except that the methods of a type are listed but not entered: their parts stand below the
method's own address. An address that was already listed is skipped with all below it.
-/

namespace GoAddress

/-- An address with the node it was listed for. -/
abbrev Listed := Address × Node

namespace Workspace

/-- Below a declaration there are parts, and below these only details. -/
def walkDepth : Nat := 3

/-- Lists the nodes that steps lead to. A step to a method is listed alone; `visit` lists what any
other step leads to, given the addresses listed before. -/
def walkSteps (visit : List String → Address → Node → List Listed) (seen : List String)
    (a : Address) : List (Segment × Node) → List Listed
  | [] => []
  | (s, node) :: rest =>
    let found :=
      if s.category = .methods then
        if seen.contains (a.child s).render then [] else [(a.child s, node)]
      else visit seen (a.child s) node
    found ++ walkSteps visit ((found.map (·.1.render)).reverse ++ seen) a rest

/-- Lists a node and what lies below it, at most `depth` levels. `seen` holds the addresses listed
before. -/
def walk (p : Package) : (depth : Nat) → (seen : List String) → Address → Node → List Listed
  | 0, _, _, _ => []
  | depth + 1, seen, a, node =>
    if seen.contains a.render then []
    else (a, node) :: walkSteps (walk p depth) (a.render :: seen) a (node.children p)

/-- Whether a method belongs to the first symbol that its receiver names. -/
def hasOwner (w : Workspace) (s : Symbol) (receiver : String) : Bool :=
  match w.index.find s.package receiver with
  | [] => false
  | owner :: _ => owner.methods.contains s.id

/-- The addresses that a symbol stands under: its own, and those of the methods that an interface
asks for. -/
def symbolRoots (w : Workspace) (p : Package) (s : Symbol) : List Listed :=
  match s.decl? w.program with
  | none => []
  | some d =>
    let elements := ((d.type?.map (·.interfaceMethods)).getD []).map fun m =>
      (({ package := p.path, symbol := some s.name, method := some m.name } : Address),
        Node.interfaceMethod m)
    match s.receiver with
    | some receiver =>
      if w.hasOwner s receiver then
        ({ package := p.path, symbol := some receiver, method := some s.name }, .decl d) :: elements
      else []
    | none => ({ package := p.path, symbol := some s.name }, .decl d) :: elements

/-- Lists what lies below roots in order. -/
def walkRoots (p : Package) (seen : List String) : List Listed → List Listed
  | [] => []
  | (a, node) :: rest =>
    let found := walk p walkDepth seen a node
    found ++ walkRoots p ((found.map (·.1.render)).reverse ++ seen) rest

/-- All addresses of a package. -/
def listPackage (w : Workspace) (p : Package) : List Listed :=
  let root : Address := { package := p.path }
  (root, .package p) ::
    walkRoots p [root.render] ((w.index.inPackage p.path).flatMap (w.symbolRoots p))

/-- The entry of a listed address. -/
def entryOf (p : Package) (listed : Listed) : Entry :=
  { path := listed.1.render, kind := listed.2.kindLabel, note := listed.2.note
    package := p.path, shortPackage := p.shortPath }

/-- The entries of the packages with a property, in package order. -/
def entriesWhere (w : Workspace) (keep : Package → Bool) : List Entry :=
  (w.program.packages.filter keep).flatMap fun p => (w.listPackage p).map (entryOf p)

/-- All entries. -/
def entries (w : Workspace) : List Entry :=
  w.entriesWhere fun _ => true

end Workspace

end GoAddress
