import GoAddress.Address.Identifier
import GoAddress.Suggest.Rank
import GoAddress.Text.Split

/-!
# Names in type texts

The name of a type behind pointers, parentheses, a qualifier and type arguments, and the implicit
name of an embedded member.
-/

namespace GoAddress.Source

/-- The text behind the last dot, or all of it. -/
def lastDotted (cs : List Char) : List Char :=
  ((Text.splitOn '.' cs).getLast?).getD cs

/-- The name of the type that a receiver's text refers to. -/
def baseTypeName (text : List Char) : List Char :=
  let bare := Text.trim Text.isBlank text
  let unwrapped := Text.trimEnd (· == ')') (Text.trimStart (· == '(') bare)
  let named := Text.trim Text.isBlank (Text.trimStart (· == '*') (Text.trim Text.isBlank unwrapped))
  Text.trim Text.isBlank (lastDotted (named.takeWhile (· != '[')))

/-- Whether the character shows that a type is a union, a type literal or written with blanks. -/
def isCompoundMark (c : Char) : Bool :=
  c == '|' || c == '~' || c == '(' || c == '\x7b' || c == ' '

/-- The implicit name of an embedded member. -/
def embeddedName? (text : List Char) : Option (List Char) :=
  let bare := Text.trim Text.isBlank text
  if bare.any isCompoundMark then none
  else
    let base := baseTypeName bare
    if isIdentifierChars base then some base else none

end GoAddress.Source
