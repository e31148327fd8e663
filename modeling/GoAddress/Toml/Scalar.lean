import GoAddress.Settings.Value
import GoAddress.Text.Split

/-!
# Scalars of settings files

Strings, numbers and dates of a TOML document. A reader takes the text from its place on and gives
the value with the text behind it, or nothing if the text is malformed there.
-/

namespace GoAddress.Toml

/-- Characters that strings and comments may hold as they are. -/
def isTextChar (c : Char) : Bool :=
  c == '\t' || (0x20 ≤ c.toNat && c.toNat != 0x7F)

/-- Blanks inside a line. -/
def isSpace (c : Char) : Bool :=
  c == ' ' || c == '\t'

/-- The text behind a line end, if it starts with one. -/
def lineEnd? : List Char → Option (List Char)
  | '\n' :: rest => some rest
  | '\r' :: '\n' :: rest => some rest
  | _ => none

/-! ### Strings -/

/-- The value of a digit in base sixteen. -/
def hexDigit? (c : Char) : Option Nat :=
  if '0' ≤ c ∧ c ≤ '9' then some (c.toNat - '0'.toNat)
  else if 'a' ≤ c ∧ c ≤ 'f' then some (c.toNat - 'a'.toNat + 10)
  else if 'A' ≤ c ∧ c ≤ 'F' then some (c.toNat - 'A'.toNat + 10)
  else none

/-- The number that digits in base sixteen write. -/
def hexNumber? (cs : List Char) : Option Nat :=
  cs.foldlM (fun n c => (hexDigit? c).map fun d => n * 16 + d) 0

/-- The character with a code written with a fixed number of digits. -/
def readCode (digits : Nat) (cs : List Char) : Option (Char × List Char) := do
  if cs.length < digits then none
  let n ← hexNumber? (cs.take digits)
  if n < 0xD800 || (0xE000 ≤ n && n < 0x110000) then some (Char.ofNat n, cs.drop digits) else none

/-- The character of an escape, behind its backslash. -/
def readEscape : List Char → Option (Char × List Char)
  | 'b' :: rest => some (Char.ofNat 8, rest)
  | 't' :: rest => some ('\t', rest)
  | 'n' :: rest => some ('\n', rest)
  | 'f' :: rest => some (Char.ofNat 12, rest)
  | 'r' :: rest => some ('\r', rest)
  | '"' :: rest => some ('"', rest)
  | '\\' :: rest => some ('\\', rest)
  | 'u' :: rest => readCode 4 rest
  | 'U' :: rest => readCode 8 rest
  | _ => none

/-- The rest of a string on one line with escapes, up to its quote. -/
def readBasic : (fuel : Nat) → List Char → Option (List Char × List Char)
  | 0, _ => none
  | fuel + 1, cs =>
    match cs with
    | '"' :: rest => some ([], rest)
    | '\\' :: rest => do
      let (c, rest) ← readEscape rest
      let (more, rest) ← readBasic fuel rest
      some (c :: more, rest)
    | c :: rest =>
      if isTextChar c then (readBasic fuel rest).map fun (more, rest) => (c :: more, rest) else none
    | [] => none

/-- The rest of a string on one line without escapes, up to its quote. -/
def readLiteral : List Char → Option (List Char × List Char)
  | [] => none
  | c :: rest =>
    if c = '\'' then some ([], rest)
    else if isTextChar c then (readLiteral rest).map fun (more, rest) => (c :: more, rest)
    else none

/-- The end of a string over several lines: its last two quotes may touch the closing ones. -/
def closing? (quote : Char) (cs : List Char) : Option (List Char × List Char) :=
  let run := min (cs.takeWhile (· == quote)).length 5
  if run < 3 then none else some (List.replicate (run - 3) quote, cs.drop run)

/-- The text behind a backslash at the end of a line: blanks and line ends are skipped. -/
def continuation? (cs : List Char) : Option (List Char) :=
  (lineEnd? (cs.dropWhile isSpace)).map fun rest =>
    rest.dropWhile fun c => isSpace c || c == '\n' || c == '\r'

/-- The rest of a string over several lines with escapes. -/
def readLongBasic : (fuel : Nat) → List Char → Option (List Char × List Char)
  | 0, _ => none
  | fuel + 1, cs =>
    let keep := fun (c : Char) (rest : List Char) =>
      (readLongBasic fuel rest).map fun (more, rest) => (c :: more, rest)
    match closing? '"' cs with
    | some done => some done
    | none =>
      match lineEnd? cs with
      | some rest => keep '\n' rest
      | none =>
        match cs with
        | '\\' :: rest =>
          match continuation? rest with
          | some rest => readLongBasic fuel rest
          | none => (readEscape rest).bind fun (c, rest) => keep c rest
        | c :: rest => if isTextChar c then keep c rest else none
        | [] => none

/-- The rest of a string over several lines without escapes. -/
def readLongLiteral : (fuel : Nat) → List Char → Option (List Char × List Char)
  | 0, _ => none
  | fuel + 1, cs =>
    let keep := fun (c : Char) (rest : List Char) =>
      (readLongLiteral fuel rest).map fun (more, rest) => (c :: more, rest)
    match closing? '\'' cs with
    | some done => some done
    | none =>
      match lineEnd? cs with
      | some rest => keep '\n' rest
      | none =>
        match cs with
        | c :: rest => if isTextChar c then keep c rest else none
        | [] => none

/-- A string on one line, as keys and values may be. -/
def readShortString (cs : List Char) : Option (String × List Char) :=
  match cs with
  | '"' :: rest => (readBasic (rest.length + 1) rest).map fun (s, rest) => (String.ofList s, rest)
  | '\'' :: rest => (readLiteral rest).map fun (s, rest) => (String.ofList s, rest)
  | _ => none

/-- A string; a line end right behind three opening quotes does not count. -/
def readString (cs : List Char) : Option (String × List Char) :=
  match cs with
  | '"' :: '"' :: '"' :: rest =>
    let body := (lineEnd? rest).getD rest
    (readLongBasic (body.length + 1) body).map fun (s, rest) => (String.ofList s, rest)
  | '\'' :: '\'' :: '\'' :: rest =>
    let body := (lineEnd? rest).getD rest
    (readLongLiteral (body.length + 1) body).map fun (s, rest) => (String.ofList s, rest)
  | _ => readShortString cs

/-! ### Numbers -/

/-- The value of a decimal digit. -/
def digitValue (c : Char) : Nat :=
  c.toNat - '0'.toNat

/-- The number that decimal digits write. -/
def decimalNumber (cs : List Char) : Nat :=
  cs.foldl (fun n c => n * 10 + digitValue c) 0

/-- The digits of a number, if single underscores stand only between them. -/
def digitsOf? (isDigit : Char → Bool) (cs : List Char) : Option (List Char) :=
  let groups := Text.splitOn '_' cs
  if groups.all fun group => !group.isEmpty && group.all isDigit then some groups.flatten else none

/-- The digits of a whole decimal number: more than one do not start with a zero. -/
def wholeDigits? (cs : List Char) : Option (List Char) :=
  match digitsOf? Char.isDigit cs with
  | some ('0' :: _ :: _) => none
  | found => found

/-- The sign of a number and what follows it. -/
def splitSign : List Char → Bool × List Char
  | '-' :: rest => (true, rest)
  | '+' :: rest => (false, rest)
  | cs => (false, cs)

/-- A whole number in a base of the letters `x`, `o` and `b`. -/
def basedNumber? (letter : Char) (cs : List Char) : Option Nat :=
  let base? : Option Nat := match letter with
    | 'x' => some 16
    | 'o' => some 8
    | 'b' => some 2
    | _ => none
  base?.bind fun base => do
    let digits ← digitsOf? (fun c => (hexDigit? c).any (· < base)) cs
    digits.foldlM (fun n c => (hexDigit? c).map fun d => n * base + d) 0

/-- A whole number that fits in 64 bits with a sign. -/
def integer? (cs : List Char) : Option Int :=
  let bound : Int := Nat.pow 2 63
  let fits := fun (n : Int) => if -bound ≤ n ∧ n < bound then some n else none
  match cs with
  | '0' :: letter :: rest =>
    if letter.isAlpha then (basedNumber? letter rest).bind fun n => fits n else none
  | _ =>
    let (negative, rest) := splitSign cs
    (wholeDigits? rest).bind fun digits =>
      fits (if negative then -(decimalNumber digits : Int) else decimalNumber digits)

/-- The exponent of a number, behind its letter. -/
def exponent? (cs : List Char) : Option Int :=
  let (negative, rest) := splitSign cs
  (digitsOf? Char.isDigit rest).map fun digits =>
    if negative then -(decimalNumber digits : Int) else decimalNumber digits

/-- The number with digits before and behind the point and an exponent. -/
def floatOf (negative : Bool) (whole fraction : List Char) (exponent : Int) : Binary64 :=
  .ofDecimal negative (decimalNumber (whole ++ fraction)) (exponent - fraction.length)

/-- A number with a point, an exponent or both, behind its sign. -/
def decimal? (negative : Bool) (cs : List Char) : Option Binary64 := do
  let isMark := fun (c : Char) => c == 'e' || c == 'E'
  let mantissa := cs.takeWhile (!isMark ·)
  let exponent ← match cs.dropWhile (!isMark ·) with
    | [] => some 0
    | _ :: power => exponent? power
  match mantissa.takeWhile (· != '.'), mantissa.dropWhile (· != '.') with
  | whole, '.' :: fraction =>
    let fraction ← digitsOf? Char.isDigit fraction
    some (floatOf negative (← wholeDigits? whole) fraction exponent)
  | whole, _ =>
    if cs.any isMark then some (floatOf negative (← wholeDigits? whole) [] exponent) else none

/-- A number with a point, an exponent or both, or one of the words for no finite number. Digits
do not stand for positive infinity. -/
def float? (cs : List Char) : Option Binary64 :=
  let (negative, rest) := splitSign cs
  if rest == "inf".toList then some (.infinite negative)
  else if rest == "nan".toList then some .notANumber
  else (decimal? negative rest).filter (· != .infinite false)

/-! ### Dates and times -/

/-- The number of days of a month. -/
def daysIn (year month : Nat) : Nat :=
  match month with
  | 2 => if (year % 4 == 0 && year % 100 != 0) || year % 400 == 0 then 29 else 28
  | 4 | 6 | 9 | 11 => 30
  | _ => 31

/-- A number of exactly so many digits, within bounds. -/
def field? (digits low high : Nat) (cs : List Char) : Option (Nat × List Char) :=
  let found := cs.take digits
  let n := decimalNumber found
  if found.length = digits && found.all Char.isDigit && low ≤ n && n ≤ high then
    some (n, cs.drop digits)
  else none

/-- The text behind a character, if it starts with it. -/
def behind? (c : Char) : List Char → Option (List Char)
  | d :: rest => if d = c then some rest else none
  | [] => none

/-- The text behind a date. -/
def date? (cs : List Char) : Option (List Char) := do
  let (year, rest) ← field? 4 0 9999 cs
  let (month, rest) ← field? 2 1 12 (← behind? '-' rest)
  let (_, rest) ← field? 2 1 (daysIn year month) (← behind? '-' rest)
  some rest

/-- The text behind a time of day. -/
def time? (cs : List Char) : Option (List Char) := do
  let (_, rest) ← field? 2 0 23 cs
  let (_, rest) ← field? 2 0 59 (← behind? ':' rest)
  let (_, rest) ← field? 2 0 60 (← behind? ':' rest)
  match rest with
  | '.' :: fraction =>
    if (fraction.takeWhile Char.isDigit).isEmpty then none
    else some (fraction.dropWhile Char.isDigit)
  | _ => some rest

/-- Whether a text is a distance from universal time, or none. -/
def isOffset (cs : List Char) : Bool :=
  match cs with
  | [] | ['Z'] | ['z'] => true
  | sign :: rest =>
    (sign == '+' || sign == '-') && ((do
      let (_, rest) ← field? 2 0 23 rest
      let (_, rest) ← field? 2 0 59 (← behind? ':' rest)
      some rest) == some [])

/-- Whether a text is a date, a time of day, or both. -/
def isDateTime (cs : List Char) : Bool :=
  time? cs == some [] ||
    match date? cs with
    | none => false
    | some [] => true
    | some (mark :: rest) =>
      (mark == 'T' || mark == 't' || mark == ' ') && (time? rest).any isOffset

/-- The key under which a date is kept as text. -/
def dateKey : String := "$__toml_private_datetime"

/-! ### Scalars that are not quoted -/

/-- Characters of numbers, dates and words. -/
def isBareChar (c : Char) : Bool :=
  c.isAlphanum || c == '+' || c == '-' || c == '_' || c == '.' || c == ':'

/-- The text of a scalar that is not quoted; a blank between date and time belongs to it. -/
def bareText (cs : List Char) : List Char × List Char :=
  let word := cs.takeWhile isBareChar
  match date? word, cs.dropWhile isBareChar with
  | some [], ' ' :: rest =>
    match rest with
    | c :: _ =>
      if c.isDigit then (word ++ ' ' :: rest.takeWhile isBareChar, rest.dropWhile isBareChar)
      else (word, ' ' :: rest)
    | [] => (word, [' '])
  | _, rest => (word, rest)

/-- The value of a scalar that is not quoted. -/
def bareValue? (cs : List Char) : Option SettingValue :=
  if cs == "true".toList then some (.bool true)
  else if cs == "false".toList then some (.bool false)
  else match integer? cs with
    | some n => some (.integer true n)
    | none =>
      match float? cs with
      | some x => some (.float x)
      | none =>
        if isDateTime cs then some (.table [(dateKey, .string (String.ofList cs))]) else none

/-- A scalar. -/
def readScalar (cs : List Char) : Option (SettingValue × List Char) :=
  match cs with
  | '"' :: _ | '\'' :: _ => (readString cs).map fun (s, rest) => (.string s, rest)
  | _ =>
    let (word, rest) := bareText cs
    (bareValue? word).map fun value => (value, rest)

end GoAddress.Toml
