import GoAddress.Resolve.Basic
import GoAddress.Suggest.Rank

/-!
# Suggested addresses

For an address that names nothing, addresses near it that name something: packages with a similar
path, symbols with a similar name, or the parts of the node that was reached.
-/

namespace GoAddress.Suggest

/-- The greatest number of suggestions. -/
def maxSuggestions : Nat := 5

/-- The addresses of the parts of what a text names. -/
def childAddresses (w : Workspace) (resolved : String) : List String :=
  match Address.parse resolved with
  | .error _ => []
  | .ok a =>
    match (w.resolve a).2 with
    | .error _ => []
    | .ok r => (r.node.children r.package).map fun (s, _) => (r.path.child s).render

/-- Packages with a path near the one sought, or else with a last component near its last. -/
def packagesNear (w : Workspace) (package : String) : List String :=
  let paths := (w.program.packages.flatMap fun p => [p.path, p.shortPath]).filter (!·.isEmpty)
  let found := rank package paths id maxSuggestions
  if found.isEmpty then rank (afterLast '/' package) paths (afterLast '/') maxSuggestions else found

/-- Symbols with a name near the one sought, in the package or anywhere. -/
def symbolsNear (w : Workspace) (package symbol : String) : List String :=
  let symbols := if package == Workspace.anyPackage then w.index.symbols
    else w.index.inPackage package
  rank symbol (symbols.map (·.address)) (afterLast '.') maxSuggestions

/-- Methods of a type with a name near the one sought. -/
def methodsNear (w : Workspace) (resolved method : String) : List String :=
  let step := (resolved ++ "/methods[").toList
  let methods := (childAddresses w resolved).filterMap fun address => do
    let rest ← Text.dropPrefix? step address.toList
    let name ← Text.dropSuffix? [']'] rest
    return resolved ++ "." ++ String.ofList name
  rank method methods (afterLast '.') maxSuggestions

/-- The first parts of a category. -/
def partsOf (children : List String) (resolved category : String) : List String :=
  let start := (resolved ++ "/" ++ category).toList
  (children.filter fun c => start.isPrefixOf c.toList).take maxSuggestions

/-- Parts near the one sought, or else parts of its category. -/
def partsNear (w : Workspace) (resolved category selector : String) : List String :=
  let children := childAddresses w resolved
  let wanted := category ++ "[" ++ selector ++ "]"
  let found := rank wanted children (afterLast '/') maxSuggestions
  if found.isEmpty then partsOf children resolved category else found

/-- Parts of the category sought, or else any parts. -/
def anyParts (w : Workspace) (resolved category : String) : List String :=
  let children := childAddresses w resolved
  let found := partsOf children resolved category
  if found.isEmpty then children.take maxSuggestions else found

/-- The suggestions for a failed resolution, best first. -/
def forError (w : Workspace) : ResolveError → List String
  | .parse _ => []
  | .packageNotFound package => packagesNear w package
  | .symbolNotFound package symbol => symbolsNear w package symbol
  | .methodNotFound resolved method => methodsNear w resolved method
  | .childNotFound resolved category selector => partsNear w resolved category selector
  | .invalidCategory resolved _ category | .missingSelector resolved category
  | .unexpectedSelector resolved category | .missingChild resolved category =>
    anyParts w resolved category
  | .ambiguous _ candidates => candidates

end GoAddress.Suggest
