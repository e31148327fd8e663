import GoAddress.Diagnostic
import GoAddress.Program.Symbol
import GoAddress.Scope

/-!
# Reachable declarations

A declaration is live if a chain of uses leads to it from an entry point: a live declaration keeps
every symbol whose name it mentions, in any package, and a live type keeps its exported methods.
What is not live is dead. Nothing is said about packages that could not be read completely.
-/

namespace GoAddress.Reachability

/-- The number of symbols below `size` that were not visited. -/
def unvisited (size : Nat) (visited : List Nat) : Nat :=
  ((List.range size).filter fun i => !visited.contains i).length

/-- Visiting a new symbol leaves fewer to visit. -/
theorem unvisited_cons_lt {size id : Nat} {visited : List Nat} (hid : id < size)
    (hnew : id ∉ visited) : unvisited size (id :: visited) < unvisited size visited := by
  have hsub : ((List.range size).filter fun i => !(id :: visited).contains i) =
      ((List.range size).filter fun i => !visited.contains i).filter (· != id) := by
    rw [List.filter_filter]
    congr 1
    funext i
    by_cases h : i = id <;> simp [h]
  unfold unvisited
  rw [hsub]
  refine List.length_filter_lt_length_iff_exists.mpr ⟨id, ?_, by simp⟩
  simp [hid, hnew]

/-- All that can be reached from a queue by following `methods` and `mentions`, together with what was
visited. Nothing visited is put in the queue for being mentioned. -/
def search (size : Nat) (methods mentions : Nat → List Nat) (visited queue : List Nat) : List Nat :=
  match queue with
  | [] => visited
  | id :: rest =>
    if h : id < size ∧ id ∉ visited then
      have := unvisited_cons_lt h.1 h.2
      let unseen := (mentions id).filter fun other => !(id :: visited).contains other
      search size methods mentions (id :: visited) (rest ++ (methods id ++ unseen))
    else search size methods mentions visited rest
termination_by (unvisited size visited, queue.length)

/-- The beginnings of the names of test functions. -/
def testMarks : List String :=
  ["Test", "Benchmark", "Example", "Fuzz"]

/-- Whether a function in a test file is run by the test tool. -/
def isTestFunction (program : Program) (s : Symbol) : Bool :=
  ((program.files[s.span.file]?).map (·.isTest)).getD false &&
    testMarks.any fun mark => mark.toList.isPrefixOf s.name.toList

/-- Entry points: blank declarations, `init`, the main function, test functions and, if they are
to count, exported names of packages other than main ones. -/
def isRoot (program : Program) (exportedAreRoots : Bool) (s : Symbol) : Bool :=
  match program.package? s.package with
  | none => false
  | some package =>
    let inMain := package.name == "main"
    s.name == "_" ||
      (s.kind == .func &&
        (s.name == "init" || (inMain && s.name == "main") || isTestFunction program s)) ||
      (exportedAreRoots && !inMain && s.isExported)

/-- The methods that a live symbol keeps alive if it is a type: the exported ones. -/
def keptMethods (index : SymbolIndex) (id : Nat) : List Nat :=
  match index.get? id with
  | none => []
  | some s =>
    if s.kind.isType then ((index.methodsOf s).filter (·.isExported)).map (·.id) else []

/-- The symbols that a live symbol keeps alive by mentioning their names. -/
def mentioned (program : Program) (index : SymbolIndex) (id : Nat) : List Nat :=
  match (index.get? id).bind (·.decl? program) with
  | none => []
  | some d => d.references.flatMap fun name => (index.lookup name).map (·.id)

/-- The live symbols. -/
def live (program : Program) (index : SymbolIndex) (exportedAreRoots : Bool) : List Nat :=
  search index.symbols.length (keptMethods index) (mentioned program index) []
    ((index.symbols.filter (isRoot program exportedAreRoots)).map (·.id))

/-- What is known about the use of a symbol. -/
inductive Verdict where
  | reachable
  | unreachable
  | unknown (reason : String)
deriving DecidableEq, Repr

/-- The verdict on each symbol: unknown in packages with syntax errors, else whether it is live. -/
def verdict (program : Program) (live : List Nat) (s : Symbol) : Verdict :=
  if program.packages.any fun p => p.hasErrors && p.path == s.package then
    .unknown "package has syntax errors"
  else if live.contains s.id then .reachable
  else .unreachable

/-- The verdicts that follow from the names that declarations mention. -/
def verdicts (program : Program) (index : SymbolIndex) (exportedAreRoots : Bool) :
    Symbol → Verdict :=
  verdict program (live program index exportedAreRoots)

/-- The symbols that a report is about: in scope, and neither blank nor `init`. -/
def examined (index : SymbolIndex) (scope : Scope) : List Symbol :=
  index.symbols.filter fun s => scope.contains s.package && s.name != "_" && s.name != "init"

/-- The dead symbols in scope by increasing address, and a remark on each that has no verdict. -/
def deadCode (index : SymbolIndex) (judge : Symbol → Verdict) (scope : Scope) :
    List Diagnostic × List Symbol :=
  let symbols := examined index scope
  let remarks := symbols.filterMap fun s => match judge s with
    | .unknown reason => some (.unanalyzable s.address reason)
    | _ => none
  (remarks, sortOn (·.address) (symbols.filter fun s => judge s == .unreachable))

end GoAddress.Reachability
