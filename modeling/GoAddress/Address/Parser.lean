import GoAddress.Address.Basic
import GoAddress.Text.Split

/-!
# Reading addresses

The reader checks delimiters and brackets first, then cuts the text at slashes and looks for the
last component with a dot: its last one or two dotted parts are the symbol and the method, what
stands before is the package and what follows are the steps. A text whose later components do not
read as steps is an import path as a whole.
-/

namespace GoAddress

/-- What is wrong with a text that is no address. -/
inductive AddressFault where
  | empty
  | missingPackage
  | missingSymbol
  | doubledDelimiter (delimiter : String)
  | emptyComponent
  | emptySelector
  | unclosedBracket
  | unmatchedBracket
  | missingCategory
  | unknownCategory (category : String)
  | invalidSelector (selector : String)
  | invalidIdentifier (ident : String)
  | invalidComponent (component : String)
deriving DecidableEq, Repr

/-- A text that is no address, with the reason. -/
structure AddressError where
  /-- The whole text. -/
  input : String
  /-- The first fault found in it. -/
  fault : AddressFault
deriving DecidableEq, Repr

/-- The wording of a fault. -/
def AddressError.message (e : AddressError) : String :=
  match e.fault with
  | .empty => "Empty address"
  | .missingPackage => s!"Address '{e.input}' names a symbol but no package"
  | .missingSymbol => s!"Address '{e.input}' ends with '.' but names no symbol"
  | .doubledDelimiter d => s!"Address '{e.input}' contains doubled delimiter '{d}'"
  | .emptyComponent => s!"Address '{e.input}' has an empty path component"
  | .emptySelector => s!"Address '{e.input}' has an empty selector '[]'"
  | .unclosedBracket => s!"Address '{e.input}' has an unclosed '['"
  | .unmatchedBracket => s!"Address '{e.input}' has an unmatched ']'"
  | .missingCategory => s!"Address '{e.input}' has a selector with no preceding category"
  | .unknownCategory c => s!"Unknown category '{c}' in '{e.input}'"
  | .invalidSelector s => s!"Invalid selector '{s}' in '{e.input}'"
  | .invalidIdentifier i => s!"Invalid identifier '{i}' in '{e.input}'"
  | .invalidComponent c => s!"Invalid package path component '{c}' in '{e.input}'"

namespace Address

/-- Selectors do not nest: an opening bracket closes before the next one opens. -/
def checkBrackets : (isOpen : Bool) → List Char → Except AddressFault Unit
  | false, [] => .ok ()
  | true, [] => .error .unclosedBracket
  | isOpen, c :: rest =>
    if c = '[' then
      if isOpen then .error .unclosedBracket else checkBrackets true rest
    else if c = ']' then
      if isOpen then checkBrackets false rest else .error .unmatchedBracket
    else checkBrackets isOpen rest

/-- Whether the text ends with the character. -/
def endsWithChar (c : Char) (cs : List Char) : Bool :=
  cs.getLast? == some c

/-- Whether a component may stand in an import path. -/
def isPackageChar (c : Char) : Bool :=
  isAlphanumeric c || c == '_' || c == '-' || c == '.' || c == '~'

/-- A component of an import path is not empty and holds only characters of such paths. -/
def checkPackageComponent (component : List Char) : Except AddressFault Unit :=
  if component.contains '[' || component.contains ']' then .error .missingCategory
  else if !component.isEmpty && component.all isPackageChar then .ok ()
  else .error (.invalidComponent (String.ofList component))

/-- The first fault among the components of an import path. -/
def checkPackage (components : List (List Char)) : Except AddressFault Unit :=
  components.forM checkPackageComponent

/-- Whether a component reads as a step: it has a bracket or is the name of a category. -/
def looksLikeSegment (component : List Char) : Bool :=
  component.contains '[' || (Category.ofText? (String.ofList component)).isSome

/-- The value of a decimal numeral. -/
def decimalValue (digits : List Char) : Nat :=
  digits.foldl (fun n d => 10 * n + (d.toNat - '0'.toNat)) 0

/-- Positions stay below this bound. -/
def positionBound : Nat := Nat.pow 2 64

/-- Reads the inside of brackets: a position without leading zeros, or an identifier. -/
def parseSelector (inner : List Char) : Except AddressFault Selector :=
  let invalid := AddressFault.invalidSelector (String.ofList inner)
  if inner.all (·.isDigit) then
    if inner.length > 1 && inner.head? == some '0' then .error invalid
    else if decimalValue inner < positionBound then .ok (.index (decimalValue inner))
    else .error invalid
  else if isIdentifierChars inner then .ok (.name (String.ofList inner))
  else .error invalid

/-- The category of a step. -/
def parseCategory (name : List Char) : Except AddressFault Category :=
  match Category.ofText? (String.ofList name) with
  | some category => .ok category
  | none => .error (.unknownCategory (String.ofList name))

/-- Reads one step. A fault of the selector is reported before one of the category. -/
def parseSegment (component : List Char) : Except AddressFault Segment :=
  let name := component.takeWhile (· != '[')
  match component.dropWhile (· != '[') with
  | [] => do return { category := ← parseCategory name }
  | bracket :: rest =>
    if name.isEmpty then .error .missingCategory
    else match Text.dropSuffix? [']'] rest with
      | none => .error (.invalidSelector (String.ofList (bracket :: rest)))
      | some inner =>
        if inner.isEmpty then .error .emptySelector
        else do
          let selector ← parseSelector inner
          return { category := ← parseCategory name, selector := some selector }

/-- The dotted parts of the component that holds the symbol: the rest of the package, the symbol
and the method. With two parts there is no method. -/
def symbolParts (component : List Char) : List Char × List Char × Option (List Char) :=
  match (Text.splitOn '.' component).reverse with
  | method :: symbol :: part :: parts =>
    (Text.joinWith '.' (part :: parts).reverse, symbol, some method)
  | [symbol, part] => (part, symbol, none)
  | _ => (component, [], none)

/-- A fault unless the characters form an identifier. -/
def checkIdentifier (ident : List Char) : Except AddressFault Unit :=
  if isIdentifierChars ident then .ok () else .error (.invalidIdentifier (String.ofList ident))

/-- Reads an address whose symbol stands in `component`, after the components `before` of the
package and before the steps `after`. -/
def parseSymbol (before : List (List Char)) (component : List Char) (after : List (List Char)) :
    Except AddressFault Address := do
  if component.contains '[' then throw .missingCategory
  if component.head? == some '.' then throw .emptyComponent
  if endsWithChar '.' component then throw .missingSymbol
  let (tail, symbol, method) := symbolParts component
  checkIdentifier symbol
  method.forM checkIdentifier
  let package := before ++ [tail]
  checkPackage package
  let subpath ← after.mapM parseSegment
  return {
    package := String.ofList (Text.joinWith '/' package)
    symbol := some (String.ofList symbol)
    method := method.map String.ofList
    subpath }

/-- Reads a text as the import path of a package. -/
def parsePackage (cs : List Char) (components : List (List Char)) :
    Except AddressFault Address := do
  checkPackage components
  return { package := String.ofList cs }

/-- The faults that delimiters alone decide, in the order in which they are reported. -/
def checkDelimiters (cs : List Char) : Except AddressFault Unit := do
  if cs.isEmpty then throw .empty
  if cs.head? == some '.' then throw .missingPackage
  checkBrackets false cs
  if Text.hasPart ['/', '/'] cs then throw (.doubledDelimiter "//")
  if Text.hasPart ['.', '.'] cs then throw (.doubledDelimiter "..")
  if cs.head? == some '/' || endsWithChar '/' cs then throw .emptyComponent
  if endsWithChar '.' cs then throw .missingSymbol

/-- Reads a list of characters as an address. -/
def parseChars (cs : List Char) : Except AddressFault Address := do
  checkDelimiters cs
  let components := Text.splitOn '/' cs
  match Text.cutAtLast? (·.contains '.') components with
  | none => parsePackage cs components
  | some (before, component, after) =>
    if !after.isEmpty && !after.any looksLikeSegment then parsePackage cs components
    else parseSymbol before component after

/-- Reads a text as an address. -/
def parse (s : String) : Except AddressError Address :=
  match parseChars s.toList with
  | .ok a => .ok a
  | .error fault => .error ⟨s, fault⟩

/-- The address that a text reads as, if any. -/
def parse? (s : String) : Option Address :=
  (parse s).toOption

end Address

end GoAddress
