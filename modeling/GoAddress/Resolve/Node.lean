import GoAddress.Address.Parser
import GoAddress.Program.Basic

/-!
# Nodes

A node is what an address can name: a package, a declaration or a part of one. Each kind of node
has a fixed list of categories that lead further down, and says for each whether a selector has to
follow.
-/

namespace GoAddress

/-- What a parameter is to its function. -/
inductive ParamRole where
  | param | result | receiver
deriving DecidableEq, Repr

/-- How a category uses its selector. -/
inductive SelectorRule where
  | required | forbidden | optional
deriving DecidableEq, Repr

/-- What an address can name. -/
inductive Node where
  | package (p : Package)
  | decl (d : Decl)
  | interfaceMethod (m : InterfaceMethod)
  | field (f : Field)
  | embed (e : Embed)
  | param (p : Param) (role : ParamRole)
  | typeParam (t : TypeParam)
  | body (span : Span)
  | doc (s : Snippet)
  /-- A whole tag, or one pair of it. -/
  | tag (t : Tag) (pair : Option (String × String))
  | typeExpr (s : Snippet)
  | name (text : String) (span : Span)
  | constraint (s : Snippet)
  | value (s : Snippet)
deriving DecidableEq, Repr

/-- Parameters as they are shown. -/
def paramListText (params : List Param) : String :=
  Text.joinStrings ", " (params.map fun p => match p.name with
    | some name => name ++ " " ++ p.typeText
    | none => p.typeText)

/-- Results as they are shown behind parameters. -/
def resultsText : List Param → String
  | [] => ""
  | [single] =>
    if single.name.isNone then " " ++ single.typeText else " (" ++ paramListText [single] ++ ")"
  | many => " (" ++ paramListText many ++ ")"

namespace Node

/-- The word for the kind of node. -/
def kindLabel : Node → String
  | package _ => "package"
  | decl d => d.kind.text
  | interfaceMethod _ => "method"
  | field _ => "field"
  | embed _ => "embed"
  | param _ .param => "param"
  | param _ .result => "return"
  | param _ .receiver => "receiver"
  | typeParam _ => "typeparam"
  | body _ => "body"
  | doc _ => "doc"
  | tag .. => "tag"
  | typeExpr _ => "type-expr"
  | name .. => "name"
  | constraint _ => "constraint"
  | value _ => "value"

/-- The categories of a declaration, in the order of enumeration. -/
def declCategories (d : Decl) : List (Category × SelectorRule) :=
  match d.shape with
  | .func _ =>
    (if d.kind = .method then [(.receiver, .forbidden)] else []) ++
      [(.params, .required), (.returns, .required), (.typeparams, .required), (.body, .forbidden),
        (.doc, .forbidden)]
  | .type t =>
    (if t.isStruct then [(.fields, .required), (.embeds, .required), (.methods, .required)]
      else if t.isInterface then [(.methods, .required), (.embeds, .required)]
      else [(.methods, .required)]) ++
      [(.typeparams, .required), (.type, .forbidden), (.doc, .forbidden)]
  | .value _ => [(.type, .forbidden), (.value, .forbidden), (.doc, .forbidden)]

/-- The categories of a node, in the order of enumeration. -/
def categories : Node → List (Category × SelectorRule)
  | decl d => declCategories d
  | interfaceMethod _ => [(.params, .required), (.returns, .required), (.doc, .forbidden)]
  | field _ => [(.name, .forbidden), (.type, .forbidden), (.tag, .optional), (.doc, .forbidden)]
  | embed _ => [(.type, .forbidden), (.tag, .optional), (.doc, .forbidden)]
  | param .. => [(.name, .forbidden), (.type, .forbidden)]
  | typeParam _ => [(.name, .forbidden), (.constraint, .forbidden)]
  | _ => []

/-- Where the node stands; packages stand nowhere in particular. -/
def span? : Node → Option Span
  | package _ => none
  | decl d => some d.span
  | interfaceMethod m => some m.span
  | field f => some f.span
  | embed e => some e.span
  | param p _ => some p.span
  | typeParam t => some t.span
  | body span | name _ span => some span
  | doc s | typeExpr s | constraint s | value s => some s.span
  | tag t _ => some t.span

/-- What is shown next to the address of a node. -/
def note : Node → Option String
  | package p => some ("package " ++ p.name)
  | decl d => d.note
  | interfaceMethod m =>
    some (m.name ++ "(" ++ paramListText m.params ++ ")" ++ resultsText m.results)
  | field f => some f.type.text
  | embed e => some e.type.text
  | param p _ => some p.typeText
  | typeParam t => some t.constraint.text
  | tag t pair => some ((pair.map (·.2)).getD t.raw)
  | typeExpr s | constraint s | value s => some s.text
  | body _ | doc _ | name .. => none

end Node

end GoAddress
