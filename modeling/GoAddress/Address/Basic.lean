import GoAddress.Address.Identifier

/-!
# Addresses

An address names a package, a declaration, or a part of a declaration:
`package.Symbol.Method/category[selector]/...`. This module has the data and its written form.
-/

namespace GoAddress

/-- The kinds of parts that a subpath can step into. -/
inductive Category where
  | fields | methods | embeds | params | returns | receiver | typeparams
  | body | doc | tag | type | name | constraint | value
deriving DecidableEq, Repr

namespace Category

/-- Every category, in the order of the vocabulary. -/
def all : List Category :=
  [fields, methods, embeds, params, returns, receiver, typeparams, body, doc, tag, type, name,
    constraint, value]

/-- The written name of a category. -/
def text : Category → String
  | fields => "fields"
  | methods => "methods"
  | embeds => "embeds"
  | params => "params"
  | returns => "returns"
  | receiver => "receiver"
  | typeparams => "typeparams"
  | body => "body"
  | doc => "doc"
  | tag => "tag"
  | type => "type"
  | name => "name"
  | constraint => "constraint"
  | value => "value"

/-- The category with the written name. -/
def ofText? (s : String) : Option Category :=
  all.find? (·.text == s)

/-- Every category is found by its written name. -/
theorem ofText?_text (c : Category) : ofText? c.text = some c := by
  cases c <;> decide

end Category

/-- Picks one part of a category: by declared name or by position from zero. -/
inductive Selector where
  | name (text : String)
  | index (position : Nat)
deriving DecidableEq, Repr

/-- The written form of a selector; positions are decimal numbers. -/
def Selector.text : Selector → String
  | .name s => s
  | .index i => toString i

/-- One step below a declaration. -/
structure Segment where
  /-- The kind of part. -/
  category : Category
  /-- Which part, where a category has several. -/
  selector : Option Selector := none
deriving DecidableEq, Repr

/-- The written form of a step: the category, and the selector in brackets. -/
def Segment.text (s : Segment) : String :=
  match s.selector with
  | none => s.category.text
  | some selector => s.category.text ++ "[" ++ selector.text ++ "]"

/-- An address. Steps come only below a symbol. -/
structure Address where
  /-- The import path, in full or relative to the module. -/
  package : String
  /-- The declared name. -/
  symbol : Option String := none
  /-- The method of a type. -/
  method : Option String := none
  /-- Steps into the declaration. -/
  subpath : List Segment := []
deriving DecidableEq, Repr

namespace Address

/-- The written form of an address. -/
def render (a : Address) : String :=
  a.package ++ (a.symbol.map ("." ++ ·)).getD "" ++ (a.method.map ("." ++ ·)).getD "" ++
    String.join (a.subpath.map ("/" ++ ·.text))

/-- Whether the address names a package and nothing in it. -/
def isPackageOnly (a : Address) : Bool :=
  a.symbol.isNone

/-- The address one step further down. -/
def child (a : Address) (s : Segment) : Address :=
  { a with subpath := a.subpath ++ [s] }

/-- The same place in another package. -/
def withPackage (a : Address) (package : String) : Address :=
  { a with package := package }

/-- Other readings of the same text, in which the package takes in one more dotted part. An import
path such as `example.org/yaml.v3` needs them, since its last dot reads as the symbol's. -/
def alternatives (a : Address) : List Address :=
  match a.symbol, a.method with
  | some symbol, some method =>
    [{ package := a.package ++ "." ++ symbol, symbol := some method, subpath := a.subpath }]
  | some symbol, none =>
    if a.subpath.isEmpty then [{ package := a.package ++ "." ++ symbol }] else []
  | none, _ => []

end Address

end GoAddress
