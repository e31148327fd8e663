import GoAddress.Text.WordChar

/-!
# Literals

How far the literals of a source file reach: numbers, characters in single quotes, the pieces of
quoted texts, and comments. Each function takes the text from the literal's first character on; the
text is cut into tokens by the longest one, so only the length of a literal matters.
-/

namespace GoAddress.Source

/-- Whether the character is a digit of base sixteen. -/
def isHexDigit (c : Char) : Bool :=
  c.isDigit || ('a' ≤ c && c ≤ 'f') || ('A' ≤ c && c ≤ 'F')

/-- Whether the character is a digit of base eight. -/
def isOctalDigit (c : Char) : Bool :=
  '0' ≤ c && c ≤ '7'

/-- Whether the character is a digit of base two. -/
def isBinaryDigit (c : Char) : Bool :=
  c = '0' || c = '1'

/-- What follows a run of digits that has begun; single underscores may stand between digits. -/
def afterMoreDigits (digit : Char → Bool) : List Char → List Char
  | '_' :: c :: rest => if digit c then afterMoreDigits digit rest else '_' :: c :: rest
  | c :: rest => if digit c then afterMoreDigits digit rest else c :: rest
  | [] => []

/-- What follows a run of digits, if one stands here. -/
def afterDigits? (digit : Char → Bool) : List Char → Option (List Char)
  | c :: rest => if digit c then some (afterMoreDigits digit rest) else none
  | [] => none

/-- What follows an underscore, or the text itself if there is none. -/
def afterUnderscore : List Char → List Char
  | '_' :: rest => rest
  | cs => cs

/-- What follows an exponent with one of the marks, if one stands here. -/
def afterExponent? (marks : List Char) : List Char → Option (List Char)
  | mark :: rest =>
    if !marks.contains mark then none
    else match rest with
      | '+' :: rest | '-' :: rest => afterDigits? Char.isDigit rest
      | _ => afterDigits? Char.isDigit rest
  | [] => none

/-- What follows each kind of whole number that stands here. -/
def afterIntegers (cs : List Char) : List (Option (List Char)) :=
  match cs with
  | '0' :: rest =>
    let marked := match rest with
      | mark :: digits =>
        let digits := afterUnderscore digits
        if mark = 'x' || mark = 'X' then afterDigits? isHexDigit digits
        else if mark = 'b' || mark = 'B' then afterDigits? isBinaryDigit digits
        else if mark = 'o' || mark = 'O' then afterDigits? isOctalDigit digits
        else none
      | [] => none
    [some rest, marked, afterDigits? isOctalDigit (afterUnderscore rest)]
  | _ => [afterDigits? Char.isDigit cs]

/-- What follows each kind of number with a point or an exponent that stands here. -/
def afterFractions (cs : List Char) : List (Option (List Char)) :=
  let power := afterExponent? ['e', 'E']
  let binaryPower := afterExponent? ['p', 'P']
  let decimal := match cs with
    | '.' :: rest => (afterDigits? Char.isDigit rest).map fun rest => (power rest).getD rest
    | _ => (afterDigits? Char.isDigit cs).bind fun
      | '.' :: rest =>
        let rest := (afterDigits? Char.isDigit rest).getD rest
        some ((power rest).getD rest)
      | rest => power rest
  let hexadecimal := match cs with
    | '0' :: mark :: rest =>
      if mark = 'x' || mark = 'X' then
        let mantissa := match rest with
          | '.' :: rest => afterDigits? isHexDigit rest
          | _ => (afterDigits? isHexDigit (afterUnderscore rest)).map fun
            | '.' :: rest => (afterDigits? isHexDigit rest).getD rest
            | rest => rest
        mantissa.bind binaryPower
      else none
    | _ => none
  [decimal, hexadecimal]

/-- The characters that numbers are made of. -/
def isNumberPart (c : Char) : Bool :=
  isHexDigit c || "_.+-xXoOpPi".toList.contains c

/-- The number of characters up to the farthest of the ends. -/
def farthest (cs : List Char) (ends : List (Option (List Char))) : Option Nat :=
  (ends.filterMap fun stop => stop.map fun rest => cs.length - rest.length).max?

/-- The length of the longest whole number. -/
def integerLength? (cs : List Char) : Option Nat :=
  let cs := cs.takeWhile isNumberPart
  farthest cs (afterIntegers cs)

/-- The length of the longest number with a point or an exponent. -/
def decimalLength? (cs : List Char) : Option Nat :=
  let cs := cs.takeWhile isNumberPart
  farthest cs (afterFractions cs)

/-- The length of the longest imaginary number: a number and the letter `i`. -/
def imaginaryLength? (cs : List Char) : Option Nat :=
  let cs := cs.takeWhile isNumberPart
  let real := afterDigits? Char.isDigit cs :: (afterIntegers cs ++ afterFractions cs)
  farthest cs (real.map fun stop => stop.bind fun
    | 'i' :: rest => some rest
    | _ => none)

/-- Whether the text goes on with as many characters of a kind. -/
def hasRun (count : Nat) (kind : Char → Bool) (cs : List Char) : Bool :=
  (cs.take count).length = count && (cs.take count).all kind

/-- The length of an escape in single quotes, without the backslash: three digits of base eight, an
escape by code, or a letter or quote that stands for a character. -/
def runeEscapeLength? : List Char → Option Nat
  | [] => none
  | c :: rest =>
    if c = 'x' then if hasRun 2 isHexDigit rest then some 3 else none
    else if c = 'u' then if hasRun 4 isHexDigit rest then some 5 else none
    else if c = 'U' then if hasRun 8 isHexDigit rest then some 9 else none
    else if "abfnrtv\\'\"".toList.contains c then some 1
    else if hasRun 3 isOctalDigit (c :: rest) then some 3
    else none

/-- The length of a character in single quotes. -/
def runeLength? : List Char → Option Nat
  | '\'' :: '\\' :: rest =>
    (runeEscapeLength? rest).bind fun n => if rest[n]? = some '\'' then some (n + 3) else none
  | '\'' :: c :: '\'' :: _ => if c = '\'' || c = '\x00' then none else some 3
  | _ => none

/-- The number of characters before the first of a kind that must come before any zero character. -/
def lengthBefore? (stop : Char) : List Char → Option Nat
  | [] => none
  | c :: rest =>
    if c = stop then some 0
    else if c = '\x00' then none
    else (lengthBefore? stop rest).map (· + 1)

/-- The length of a text between backquotes. -/
def rawStringLength? : List Char → Option Nat
  | c :: rest =>
    if c.toNat = 0x60 then (lengthBefore? c rest).map (· + 2) else none
  | [] => none

/-- Whether the character can stand for itself in a text between double quotes. -/
def isPlainContent (c : Char) : Bool :=
  c != '"' && c != '\n' && c != '\\' && c != '\x00'

/-- The length of an escape in a text between double quotes: a code of two or more, four or eight
digits of base sixteen, up to three digits, or any other character. -/
def stringEscapeLength? : List Char → Option Nat
  | '\\' :: c :: rest =>
    if c = '\x00' then none
    else if c = 'x' then
      let digits := (rest.takeWhile isHexDigit).length
      if 2 ≤ digits then some (digits + 2) else none
    else if c = 'u' then if hasRun 4 isHexDigit rest then some 6 else none
    else if c = 'U' then if hasRun 8 isHexDigit rest then some 10 else none
    else if c.isDigit then some (2 + ((rest.take 2).takeWhile Char.isDigit).length)
    else some 2
  | _ => none

/-- The number of characters up to the end of a block comment. -/
def blockLength? : List Char → Option Nat
  | '*' :: '/' :: _ => some 2
  | c :: rest => if c = '\x00' then none else (blockLength? rest).map (· + 1)
  | [] => none

/-- The length of a comment. -/
def commentLength? : List Char → Option Nat
  | '/' :: '/' :: rest => some (2 + (rest.takeWhile fun c => c != '\n' && c != '\x00').length)
  | '/' :: '*' :: rest => (blockLength? rest).map (· + 2)
  | _ => none

end GoAddress.Source
