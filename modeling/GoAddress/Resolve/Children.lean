import GoAddress.Resolve.Node

/-!
# Steps between nodes

One step leads from a node to a part of it. `child` follows a given step, `children` lists all
steps with where they lead; both read the same table of members.
-/

namespace GoAddress

/-- Why an address names nothing in a program. The text `resolved` is the longest beginning of the
address that does name something. -/
inductive ResolveError where
  | parse (error : AddressError)
  | packageNotFound (package : String)
  | symbolNotFound (package symbol : String)
  | methodNotFound (resolved method : String)
  | invalidCategory (resolved node category : String)
  | missingSelector (resolved category : String)
  | unexpectedSelector (resolved category : String)
  | missingChild (resolved category : String)
  | childNotFound (resolved category selector : String)
  | ambiguous (name : String) (candidates : List String)
deriving DecidableEq, Repr

namespace ResolveError

/-- The wording of a resolve error. -/
def message : ResolveError → String
  | parse error => error.message
  | packageNotFound package => s!"Package '{package}' not found"
  | symbolNotFound package symbol => s!"Symbol '{symbol}' not found in package '{package}'"
  | methodNotFound resolved method => s!"Type '{resolved}' has no method '{method}'"
  | invalidCategory resolved node category => s!"'{resolved}' ({node}) has no '{category}' children"
  | missingSelector resolved category =>
    s!"Category '{category}' on '{resolved}' requires a selector"
  | unexpectedSelector resolved category =>
    s!"Category '{category}' on '{resolved}' does not take a selector"
  | missingChild resolved category => s!"'{resolved}' has no {category}"
  | childNotFound resolved category selector => s!"'{resolved}' has no {category} '{selector}'"
  | ambiguous name candidates => s!"'{name}' is ambiguous: " ++ Text.joinStrings ", " candidates

/-- The part of the address that does name something. -/
def partial? : ResolveError → Option String
  | methodNotFound resolved _ | invalidCategory resolved _ _ | missingSelector resolved _
  | unexpectedSelector resolved _ | missingChild resolved _ | childNotFound resolved _ _ =>
    some resolved
  | symbolNotFound package _ => some package
  | _ => none

/-- A miss can be mended by a suggestion, a malformed address cannot. -/
def isRecoverable : ResolveError → Bool
  | parse _ => false
  | _ => true

end ResolveError

/-- The members of one category: parts to select from, each with its name if it has one, or at most
one part. -/
inductive Members where
  | list (parts : List (Option String × Node))
  | single (part : Option Node)

namespace Node

/-- Parameters as parts. -/
def paramParts (role : ParamRole) (params : List Param) : List (Option String × Node) :=
  params.map fun p => (p.name, .param p role)

/-- Type parameters as parts. -/
def typeParamParts (params : List TypeParam) : List (Option String × Node) :=
  params.map fun t => (some t.name, .typeParam t)

/-- The methods of a type as parts: those an interface asks for, then those declared in the
package. -/
def methodParts (p : Package) (d : Decl) (t : TypeShape) : List (Option String × Node) :=
  t.interfaceMethods.map (fun m => (some m.name, .interfaceMethod m)) ++
    (p.methodsOf d.name).map fun m => (some m.name, .decl m)

/-- The members of a declaration. -/
def declMembers (p : Package) (d : Decl) (category : Category) : Members :=
  match d.shape, category with
  | .func f, .params => .list (paramParts .param f.params)
  | .func f, .returns => .list (paramParts .result f.results)
  | .func f, .typeparams => .list (typeParamParts f.typeParams)
  | .func f, .receiver => .single (f.receiver.map (.param · .receiver))
  | .func f, .body => .single (f.body.map .body)
  | .type t, .fields => .list (t.fields.map fun f => (some f.name, .field f))
  | .type t, .embeds => .list (t.embeds.map fun e => (e.name, .embed e))
  | .type t, .methods => .list (methodParts p d t)
  | .type t, .typeparams => .list (typeParamParts t.typeParams)
  | .type t, .type => .single (some (.typeExpr t.underlying))
  | .value v, .type => .single (v.type.map .typeExpr)
  | .value v, .value => .single (v.value.map .value)
  | _, .doc => .single (d.doc.map .doc)
  | _, _ => .single none

/-- The members of a node in a category other than tags. -/
def members (p : Package) (node : Node) (category : Category) : Members :=
  match node, category with
  | .decl d, _ => declMembers p d category
  | .interfaceMethod m, .params => .list (paramParts .param m.params)
  | .interfaceMethod m, .returns => .list (paramParts .result m.results)
  | .interfaceMethod m, .doc => .single (m.doc.map .doc)
  | .field f, .name => .single (some (.name f.name f.span))
  | .field f, .type => .single (some (.typeExpr f.type))
  | .field f, .doc => .single (f.doc.map .doc)
  | .embed e, .type => .single (some (.typeExpr e.type))
  | .embed e, .doc => .single (e.doc.map .doc)
  | .param q _, .name => .single (q.name.map (.name · q.span))
  | .param q _, .type => .single (some (.typeExpr q.type))
  | .typeParam t, .name => .single (some (.name t.name t.span))
  | .typeParam t, .constraint => .single (some (.constraint t.constraint))
  | _, _ => .single none

/-- The tag of a field or embedded member. -/
def tag? : Node → Option Tag
  | .field f => f.tag
  | .embed e => e.tag
  | _ => none

/-- The part that a selector picks from named parts: the first with the name, or the one at the
position. -/
def pick? {α : Type} (parts : List (Option String × α)) : Selector → Option α
  | Selector.name wanted => (parts.find? (·.1 == some wanted)).map (·.2)
  | .index i => (parts[i]?).map (·.2)

/-- The pairs of a tag as parts, named by their keys. -/
def pairParts (t : Tag) : List (Option String × Node) :=
  t.pairs.map fun pair => (some pair.1, .tag t (some pair))

/-- Whether a rule admits the selector; the fault if it does not. -/
def checkSelector (rule : SelectorRule) (s : Segment) (resolved : String) :
    Except ResolveError Unit :=
  match rule, s.selector with
  | .required, none => .error (.missingSelector resolved s.category.text)
  | .forbidden, some _ => .error (.unexpectedSelector resolved s.category.text)
  | _, _ => .ok ()

/-- The part that a step without selector or with one leads to. -/
def choose (parts : Members) (s : Segment) (resolved : String) : Except ResolveError Node :=
  let missing := ResolveError.missingChild resolved s.category.text
  match parts, s.selector with
  | .single (some part), _ => .ok part
  | .single none, _ => .error missing
  | .list _, none => .error missing
  | .list parts, some selector =>
    match pick? parts selector with
    | some part => .ok part
    | none => .error (.childNotFound resolved s.category.text selector.text)

/-- Where a step through a tag leads: to the tag, or to one of its pairs. -/
def chooseTag (node : Node) (s : Segment) (resolved : String) : Except ResolveError Node :=
  match node.tag?, s.selector with
  | none, _ => .error (.missingChild resolved s.category.text)
  | some t, none => .ok (.tag t none)
  | some t, some _ => choose (.list (pairParts t)) s resolved

/-- Where a step from a node of a package leads. The text `resolved` is the address of the node. -/
def child (p : Package) (node : Node) (s : Segment) (resolved : String) :
    Except ResolveError Node :=
  match node.categories.find? (·.1 == s.category) with
  | none => .error (.invalidCategory resolved node.kindLabel s.category.text)
  | some (_, rule) =>
    match checkSelector rule s resolved with
    | .error e => .error e
    | .ok () =>
      if s.category = .tag then chooseTag node s resolved
      else choose (node.members p s.category) s resolved

/-- The step to the part at a position: by name if it is an identifier other than `_` that no other
part has, by position otherwise. -/
def stepTo (category : Category) (names : List (Option String)) (i : Nat) : Segment :=
  match (names[i]?).join with
  | some own =>
    if own != "_" && isIdentifier own && names.count (some own) == 1 then
      { category, selector := some (.name own) }
    else { category, selector := some (.index i) }
  | none => { category, selector := some (.index i) }

/-- The steps to parts of one category. -/
def stepsTo (category : Category) (parts : List (Option String × Node)) : List (Segment × Node) :=
  let names := parts.map (·.1)
  parts.zipIdx.map fun ((_, part), i) => (stepTo category names i, part)

/-- The steps of one category. -/
def childrenIn (p : Package) (node : Node) (category : Category) : List (Segment × Node) :=
  if category = .tag then
    match node.tag? with
    | none => []
    | some t => ({ category }, .tag t none) :: stepsTo category (pairParts t)
  else match node.members p category with
    | .single none => []
    | .single (some part) => [({ category }, part)]
    | .list parts => stepsTo category parts

/-- All steps from a node of a package, with where they lead. -/
def children (p : Package) (node : Node) : List (Segment × Node) :=
  node.categories.flatMap fun (category, _) => node.childrenIn p category

end Node

end GoAddress
