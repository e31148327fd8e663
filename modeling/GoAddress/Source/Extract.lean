import GoAddress.Decl.Basic
import GoAddress.Order
import GoAddress.Source.DocComment
import GoAddress.Source.TypeName

/-!
# Declarations of a source file

Turns the phrases that a parser finds at the top level of a file into declarations: texts are cut
out of the file at the places of the phrases, names that are declared together become declarations of
their own, and the mentioned names become the references. Nothing is taken for granted of the parser.
-/

namespace GoAddress.Source

open Grammar

/-- The file that declarations are taken from. -/
structure Origin where
  /-- The text of the file. -/
  code : String
  /-- The number of the file in the program. -/
  file : Nat

/-- The declarations of one file. -/
structure Extracted where
  /-- The name of the package clause; empty without one. -/
  packageName : String
  /-- The declarations in order. -/
  decls : List Decl
  /-- Whether some part of the file could not be read. -/
  hasErrors : Bool
deriving DecidableEq, Repr

/-- A phrase together with what stands before it in the same surroundings, nearest first. -/
structure Placed where
  /-- The phrase. -/
  phrase : Phrase
  /-- The phrases before it. -/
  before : List Phrase

/-- Phrases of one surroundings, each with what stands before it. -/
def placed (before : List Phrase) : List Phrase → List Placed
  | [] => []
  | p :: more => ⟨p, before⟩ :: placed (p :: before) more

/-- The phrases inside that are of one of the categories, with what stands before them. -/
def Phrase.placedParts (p : Phrase) (cs : List Grammar.Category) : List Placed :=
  (placed [] p.parts).filter fun part => cs.any part.phrase.isA

namespace Origin

/-- The text of a region. -/
def text (o : Origin) (r : Region) : String :=
  textOf o.code r

/-- The span of a region. -/
def span (o : Origin) (r : Region) : Span :=
  { file := o.file, startByte := r.start.byte, endByte := r.stop.byte
    startLine := r.start.line, endLine := r.stop.line }

/-- The text of a region with its place. -/
def snippet (o : Origin) (r : Region) : Snippet :=
  { text := o.text r, span := o.span r }

/-- The text of a phrase. -/
def name (o : Origin) (p : Phrase) : String :=
  o.text p.region

/-- The doc comment of a phrase. -/
def doc (o : Origin) (p : Placed) : Option Snippet :=
  docComment o.code o.file p.phrase.region.start.line p.before

/-- The names mentioned in a phrase, sorted. -/
def references (o : Origin) (p : Phrase) : List String :=
  sortedSet ((p.mentions []).map o.name)

/-- The parameters of an entry: one for each name, or one without a name. -/
def paramsOf (o : Origin) (p : Phrase) : List Param :=
  match p.part? .type with
  | none => []
  | some type =>
    let param := fun name => ({ name, type := o.snippet type.region
                                variadic := p.isA .variadicParameterDeclaration
                                span := o.span p.region } : Param)
    if p.names.isEmpty then [param none] else p.names.map fun n => param (some (o.name n))

/-- The parameters of a list. -/
def params (o : Origin) (list : Phrase) : List Param :=
  (list.parts.filter fun p =>
    p.isA .parameterDeclaration || p.isA .variadicParameterDeclaration).flatMap o.paramsOf

/-- The parameters in a role of a phrase. -/
def paramsIn (o : Origin) (p : Phrase) (r : Role) : List Param :=
  ((p.part? r).map o.params).getD []

/-- The results of a function: those of a list, or a single type. -/
def results (o : Origin) (p : Phrase) : List Param :=
  match p.part? .result with
  | none => []
  | some result =>
    if result.isA .parameterList then o.params result
    else [{ name := none, type := o.snippet result.region, span := o.span result.region }]

/-- The type parameters of an entry, one for each name. -/
def typeParamsOf (o : Origin) (p : Phrase) : List TypeParam :=
  match p.part? .type with
  | none => []
  | some constraint => p.names.map fun name =>
    { name := o.name name, constraint := o.snippet constraint.region, span := o.span p.region }

/-- The type parameters of a declaration. -/
def typeParams (o : Origin) (p : Phrase) : List TypeParam :=
  match p.part? .typeParameters with
  | none => []
  | some list => (list.partsOf .typeParameterDeclaration).flatMap o.typeParamsOf

/-- A tag, whose text is what stands between the quotes. What is too short for two quotes is taken as
it stands. -/
def tag (o : Origin) (r : Region) : Tag :=
  let text := o.text r
  { raw := if 2 ≤ text.utf8ByteSize then String.ofList (text.toList.drop 1).dropLast else text
    span := o.span r }

/-- The tag of a field declaration. -/
def tagOf (o : Origin) (p : Phrase) : Option Tag :=
  (p.part? .tag).map fun t => o.tag t.region

/-- The fields of a field declaration. -/
def fieldsOf (o : Origin) (p : Placed) : List Field :=
  match p.phrase.part? .type with
  | none => []
  | some type => p.phrase.names.map fun name =>
    { name := o.name name, type := o.snippet type.region, tag := o.tagOf p.phrase
      doc := o.doc p, span := o.span p.phrase.region }

/-- The implicit name of an embedded type. -/
def embeddedName (type : Snippet) : Option String :=
  (embeddedName? type.text.toList).map String.ofList

/-- The embedded member of a field declaration without names; its type starts at the star. -/
def embedOf? (o : Origin) (p : Placed) : Option Embed :=
  match p.phrase.part? .type with
  | none => none
  | some type =>
    if p.phrase.names.isEmpty then
      let type := o.snippet ⟨p.phrase.region.start, type.region.stop⟩
      some { name := embeddedName type, type, tag := o.tagOf p.phrase
             doc := o.doc p, span := o.span p.phrase.region }
    else none

/-- A method of an interface. -/
def interfaceMethod? (o : Origin) (p : Placed) : Option InterfaceMethod :=
  (p.phrase.part? .name).map fun name =>
    { name := o.name name, params := o.paramsIn p.phrase .parameters
      results := o.results p.phrase, doc := o.doc p, span := o.span p.phrase.region }

/-- An element of an interface that is no method. -/
def interfaceEmbed (o : Origin) (p : Placed) : Embed :=
  let type := o.snippet p.phrase.region
  { name := embeddedName type, type, doc := o.doc p, span := o.span p.phrase.region }

/-- The members of a type that is written out. -/
def members (o : Origin) (type : Phrase) : TypeStructure :=
  if type.isA .structType then
    match (type.partsOf .fieldDeclarationList).head? with
    | none => .struct [] []
    | some list =>
      let fields := list.placedParts [.fieldDeclaration]
      .struct (fields.flatMap o.fieldsOf) (fields.filterMap o.embedOf?)
  else if type.isA .interfaceType then
    .interface ((type.placedParts [.methodElement, .methodSpec]).filterMap o.interfaceMethod?)
      ((type.placedParts [.typeElement, .constraintElement, .interfaceTypeName, .qualifiedType,
        .typeIdentifier]).map o.interfaceEmbed)
  else .other

/-- A function or method. It is a method if its receiver list has an entry. -/
def func? (o : Origin) (p : Placed) : Option Decl :=
  (p.phrase.part? .name).map fun name =>
    let region := p.phrase.region
    let body := (p.phrase.part? .body).map (·.region)
    let receiver := (o.paramsIn p.phrase .receiver).head?
    let signatureEnd := (body.map (·.start)).getD region.stop
    let signature := Text.trimEnd Text.isBlank (o.text ⟨region.start, signatureEnd⟩).toList
    { name := o.name name
      kind := if receiver.isSome then .method else .func
      span := o.span region
      doc := o.doc p
      shape := .func {
        signature := String.ofList signature
        receiver
        receiverType := receiver.map fun r => String.ofList (baseTypeName r.type.text.toList)
        typeParams := o.typeParams p.phrase
        params := o.paramsIn p.phrase .parameters
        results := o.results p.phrase
        body := body.map o.span }
      references := o.references p.phrase }

/-- The place that stands for an entry: the whole declaration if nothing else is in it, else the
entry. -/
def outer (declaration entry : Placed) : Placed :=
  if (declaration.phrase.parts.filter (·.isContent)).length = 1 then declaration else entry

/-- One type of a declaration. -/
def typeDecl? (o : Origin) (declaration entry : Placed) : Option Decl :=
  match entry.phrase.part? .name, entry.phrase.part? .type with
  | some name, some type =>
    let place := outer declaration entry
    let members := o.members type
    some {
      name := o.name name
      kind := match members with
        | .interface .. => .interface
        | _ => .type
      span := o.span place.phrase.region
      doc := o.doc place
      shape := .type {
        typeParams := o.typeParams entry.phrase
        underlying := o.snippet type.region
        isAlias := entry.phrase.isA .typeAlias
        members }
      references := o.references entry.phrase }
  | _, _ => none

/-- The value of each name of an entry: the one at the same position if there are as many values as
names, else the whole list. -/
def specValues (o : Origin) (p : Phrase) : List (Option Snippet) :=
  match p.part? .value with
  | none => p.names.map fun _ => none
  | some list =>
    let values := list.parts.filter (·.isContent)
    if values.length = p.names.length then values.map fun v => some (o.snippet v.region)
    else p.names.map fun _ => some (o.snippet list.region)

/-- The constants or variables of an entry; the place stands for it. -/
def valueDecls (o : Origin) (kind : Kind) (place : Placed) (p : Phrase) : List Decl :=
  List.zipWith (fun name value =>
    { name := o.name name, kind, span := o.span place.phrase.region, doc := o.doc place
      shape := .value { type := (p.part? .type).map fun t => o.snippet t.region, value }
      references := o.references p }) p.names (o.specValues p)

/-- The entries of a declaration of constants or variables, each with the place that stands for
it. Variables in parentheses have a list of their own around them. -/
def valueEntries (spec : Grammar.Category) (declaration : Placed) : List (Phrase × Placed) :=
  (placed [] declaration.phrase.parts).flatMap fun part =>
    if part.phrase.isA spec then [(part.phrase, outer declaration part)]
    else if part.phrase.isList then
      (part.phrase.placedParts [spec]).map fun entry => (entry.phrase, entry)
    else []

/-- The declarations of a phrase at the top level. -/
def decls (o : Origin) (p : Placed) : List Decl :=
  if p.phrase.isA .functionDeclaration || p.phrase.isA .methodDeclaration then (o.func? p).toList
  else if p.phrase.isA .typeDeclaration then
    (p.phrase.placedParts [.typeSpec, .typeAlias]).filterMap (o.typeDecl? p)
  else if p.phrase.isA .constDeclaration then
    (valueEntries .constSpec p).flatMap fun (entry, place) => o.valueDecls .const place entry
  else if p.phrase.isA .varDeclaration then
    (valueEntries .varSpec p).flatMap fun (entry, place) => o.valueDecls .var place entry
  else []

/-- The name in a package clause. -/
def packageName? (o : Origin) (p : Phrase) : Option String :=
  if p.isA .packageClause then (p.partsOf .packageIdentifier).head?.map o.name else none

/-- The declarations of a file with the phrases at its top level. -/
def extracted (o : Origin) (phrases : List Phrase) (hasErrors : Bool) : Extracted :=
  { packageName := ((phrases.filterMap o.packageName?).getLast?).getD ""
    decls := (placed [] phrases).flatMap o.decls
    hasErrors }

end Origin

/-- The declarations of a source file, given its number in the program. There are none to speak of if
the parser makes nothing of the text. -/
def Parser.extract? (parse : Parser) (code : String) (file : Nat) : Option Extracted :=
  (parse code).map fun parsed => Origin.extracted ⟨code, file⟩ parsed.phrases parsed.hasErrors

end GoAddress.Source
