import GoAddress.Address.Identifier
import GoAddress.Decl.Tag

/-!
# Declarations

What a source file declares at its top level, with the parts that addresses can step into. Every
part keeps the text it was written with and the place where it stands.
-/

namespace GoAddress

/-- A piece of source text and its place. -/
structure Snippet where
  /-- The text. -/
  text : String
  /-- Where it stands. -/
  span : Span := {}
deriving DecidableEq, Repr

/-- A parameter, result or receiver. -/
structure Param where
  /-- The declared name. -/
  name : Option String
  /-- The type, without the dots of a variadic parameter. -/
  type : Snippet
  /-- Whether it takes any number of arguments. -/
  variadic : Bool := false
  /-- The whole declaration; names declared together share it. -/
  span : Span := {}
deriving DecidableEq, Repr

/-- The type of a parameter as it is shown. -/
def Param.typeText (p : Param) : String :=
  if p.variadic then "..." ++ p.type.text else p.type.text

/-- A type parameter. -/
structure TypeParam where
  /-- The declared name. -/
  name : String
  /-- The constraint. -/
  constraint : Snippet
  /-- The whole declaration; names declared together share it. -/
  span : Span := {}
deriving DecidableEq, Repr

/-- A named field of a struct. -/
structure Field where
  /-- The declared name. -/
  name : String
  /-- The type. -/
  type : Snippet
  /-- The tag. -/
  tag : Option Tag := none
  /-- The comment above. -/
  doc : Option Snippet := none
  /-- The whole declaration; fields declared together share it. -/
  span : Span := {}
deriving DecidableEq, Repr

/-- An embedded member of a struct, or an element of an interface that is no method. -/
structure Embed where
  /-- The implicit name; unions and type literals have none. -/
  name : Option String
  /-- The type, with the star of a pointer. -/
  type : Snippet
  /-- The tag. -/
  tag : Option Tag := none
  /-- The comment above. -/
  doc : Option Snippet := none
  /-- The whole declaration. -/
  span : Span := {}
deriving DecidableEq, Repr

/-- A method that an interface asks for. -/
structure InterfaceMethod where
  /-- The method's name. -/
  name : String
  /-- The parameters. -/
  params : List Param := []
  /-- The results. -/
  results : List Param := []
  /-- The comment above. -/
  doc : Option Snippet := none
  /-- The whole declaration. -/
  span : Span := {}
deriving DecidableEq, Repr

/-- The parts of a function or method. -/
structure FuncShape where
  /-- The declaration up to the body. -/
  signature : String
  /-- The receiver of a method. -/
  receiver : Option Param := none
  /-- The name of the receiver's type, without pointer and type arguments. -/
  receiverType : Option String := none
  /-- The type parameters. -/
  typeParams : List TypeParam := []
  /-- The parameters. -/
  params : List Param := []
  /-- The results. -/
  results : List Param := []
  /-- The place of the body. -/
  body : Option Span := none
deriving DecidableEq, Repr

/-- What a type consists of. -/
inductive TypeStructure where
  | struct (fields : List Field) (embeds : List Embed)
  | interface (methods : List InterfaceMethod) (embeds : List Embed)
  | other
deriving DecidableEq, Repr

/-- The parts of a type declaration. -/
structure TypeShape where
  /-- The type parameters. -/
  typeParams : List TypeParam := []
  /-- The type on the right-hand side. -/
  underlying : Snippet
  /-- Whether the declaration is an alias. -/
  isAlias : Bool := false
  /-- The members. -/
  members : TypeStructure := .other
deriving DecidableEq, Repr

namespace TypeShape

/-- The fields of a struct. -/
def fields (t : TypeShape) : List Field :=
  match t.members with
  | .struct fields _ => fields
  | _ => []

/-- The embedded members of a struct or interface. -/
def embeds (t : TypeShape) : List Embed :=
  match t.members with
  | .struct _ embeds | .interface _ embeds => embeds
  | .other => []

/-- The methods of an interface. -/
def interfaceMethods (t : TypeShape) : List InterfaceMethod :=
  match t.members with
  | .interface methods _ => methods
  | _ => []

/-- Whether the type is a struct. -/
def isStruct (t : TypeShape) : Bool :=
  match t.members with
  | .struct .. => true
  | _ => false

/-- Whether the type is an interface. -/
def isInterface (t : TypeShape) : Bool :=
  match t.members with
  | .interface .. => true
  | _ => false

/-- The word for the structure of the type. -/
def structureLabel (t : TypeShape) : String :=
  match t.members with
  | .struct .. => "struct"
  | .interface .. => "interface"
  | .other => "type"

end TypeShape

/-- The parts of a constant or variable. -/
structure ValueShape where
  /-- The declared type. -/
  type : Option Snippet := none
  /-- The value. -/
  value : Option Snippet := none
deriving DecidableEq, Repr

/-- The parts of a declaration. -/
inductive Shape where
  | func (shape : FuncShape)
  | type (shape : TypeShape)
  | value (shape : ValueShape)
deriving DecidableEq, Repr

/-- One declaration at the top level of a package. -/
structure Decl where
  /-- The declared name. -/
  name : String
  /-- What is declared. -/
  kind : Kind
  /-- The whole declaration. -/
  span : Span := {}
  /-- The comment above. -/
  doc : Option Snippet := none
  /-- The parts. -/
  shape : Shape
  /-- The names that the declaration mentions, sorted and each once. -/
  references : List String := []
deriving DecidableEq, Repr

namespace Decl

/-- The parts of a function, if it is one. -/
def func? (d : Decl) : Option FuncShape :=
  match d.shape with
  | .func f => some f
  | _ => none

/-- The parts of a type, if it is one. -/
def type? (d : Decl) : Option TypeShape :=
  match d.shape with
  | .type t => some t
  | _ => none

/-- The name of the receiver's type, for a method. -/
def receiverType? (d : Decl) : Option String :=
  d.func?.bind (·.receiverType)

/-- Whether the name is visible outside the package. -/
def isExported (d : Decl) : Bool :=
  GoAddress.isExported d.name

/-- What is shown next to the address of a declaration. -/
def note (d : Decl) : Option String :=
  match d.shape with
  | .func f => some f.signature
  | .type t => some (if t.isAlias then "= " ++ t.underlying.text else t.structureLabel)
  | .value v => v.type.map (·.text)

end Decl

end GoAddress
