import GoAddress.Text.Alphabetic
import GoAddress.Text.Case
import GoAddress.Text.Numeric

/-!
# Identifiers

An identifier is a letter or underscore followed by letters, digits and underscores. A name is
exported when its first character is upper case.
-/

namespace GoAddress

/-- Whether the character may begin an identifier. -/
def isIdentStart (c : Char) : Bool :=
  Text.isAlphabetic c || c == '_'

/-- Whether the character is a letter or a digit of any script. -/
def isAlphanumeric (c : Char) : Bool :=
  Text.isAlphabetic c || Text.isNumeric c

/-- Whether the character may continue an identifier. -/
def isIdentContinue (c : Char) : Bool :=
  isAlphanumeric c || c == '_'

/-- Whether the characters form an identifier. -/
def isIdentifierChars : List Char → Bool
  | [] => false
  | c :: rest => isIdentStart c && rest.all isIdentContinue

/-- Whether the text is an identifier. -/
def isIdentifier (s : String) : Bool :=
  isIdentifierChars s.toList

/-- Whether the name is visible outside its package. -/
def isExported (name : String) : Bool :=
  match name.toList with
  | [] => false
  | c :: _ => Text.isUppercase c

end GoAddress
