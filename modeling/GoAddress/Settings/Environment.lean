import GoAddress.Settings.Value
import GoAddress.Text.Case
import GoAddress.Toml.Scalar

/-!
# Settings from the environment

A variable whose name starts with `SPATH_`, in any case, sets the key that follows: two underscores
step into a table. Its value may be a truth value, a number, a quoted text, an array in brackets or
a table in braces; anything else is text.
-/

namespace GoAddress.Environment

/-- What names of variables for settings start with. -/
def nameStart : List Char := "SPATH_".toList

/-! ### Values -/

/-- Characters that end a text that is not quoted. -/
def isSeparator (c : Char) : Bool :=
  c == ',' || c == '\x7b' || c == '\x7d' || c == '[' || c == ']'

/-- Blanks around values. -/
def isSpace (c : Char) : Bool :=
  c == ' ' || c == '\t' || c == '\n' || c == '\r' || c.toNat == 12

/-- The body of a text in double quotes, as it is written; a backslash covers a quote. -/
def quotedBody : (covered : Bool) → List Char → Option (List Char × List Char)
  | _, [] => none
  | covered, c :: rest =>
    if c = '"' && !covered then some ([], rest)
    else (quotedBody (c == '\\' && !covered) rest).map fun (body, rest) => (c :: body, rest)

/-- The text that a body with escapes stands for. -/
def unescape? : (fuel : Nat) → List Char → Option (List Char)
  | _, [] => some []
  | 0, _ => none
  | fuel + 1, '\\' :: rest => do
    let (c, rest) ← Toml.readEscape rest
    (unescape? fuel rest).map (c :: ·)
  | fuel + 1, c :: rest => if Toml.isTextChar c then (unescape? fuel rest).map (c :: ·) else none

/-- The characters that lie in the first bytes of a text. -/
def firstBytes : (count : Nat) → List Char → List Char
  | _, [] => []
  | count, c :: rest =>
    if c.utf8Size ≤ count then c :: firstBytes (count - c.utf8Size) rest else []

/-- A text in double quotes, behind the first. Of what stands before the first escape as many bytes
are kept as it has characters. -/
def readQuoted (cs : List Char) : Option (String × List Char) := do
  let (body, rest) ← quotedBody false cs
  let text ← unescape? body.length body
  let plain := body.takeWhile (· != '\\')
  let kept := if plain.length = body.length then plain else firstBytes plain.length plain
  some (String.ofList (kept ++ text.drop plain.length), rest)

/-- The digits of a text that is a decimal number. -/
def digits? (cs : List Char) : Option (List Char) :=
  if !cs.isEmpty && cs.all Char.isDigit then some cs else none

/-- A number with a point: digits on at least one side of it, and perhaps an exponent. -/
def float? (cs : List Char) : Option Binary64 :=
  let (negative, rest) := Toml.splitSign cs
  let isMark := fun (c : Char) => c == 'e' || c == 'E'
  let mantissa := rest.takeWhile (!isMark ·)
  let whole := mantissa.takeWhile (· != '.')
  let fraction := (mantissa.dropWhile (· != '.')).drop 1
  let power? : Option Int := match rest.dropWhile (!isMark ·) with
    | [] => some 0
    | _ :: power =>
      let (negative, power) := Toml.splitSign power
      (digits? power).map fun digits =>
        if negative then -(Toml.decimalNumber digits : Int) else Toml.decimalNumber digits
  if mantissa.contains '.' && (digits? (whole ++ fraction)).isSome then
    power?.map fun power => Toml.floatOf negative whole fraction power
  else none

/-- A whole number that is not negative and fits in 64 bits; a plus may stand before it. -/
def natural? (cs : List Char) : Option Nat :=
  let digits := match cs with
    | '+' :: rest => rest
    | cs => cs
  (digits? digits).bind fun digits =>
    let n := Toml.decimalNumber digits
    if n < Nat.pow 2 64 then some n else none

/-- A whole number with a minus that fits in 64 bits. -/
def negative? (cs : List Char) : Option Int :=
  match cs with
  | '-' :: rest => (digits? rest).bind fun digits =>
      let n := Toml.decimalNumber digits
      if n ≤ Nat.pow 2 63 then some (-(n : Int)) else none
  | _ => none

/-- The value of a text that is not quoted. -/
def plainValue (cs : List Char) : SettingValue :=
  match (if cs.contains '.' then float? cs else none), natural? cs, negative? cs with
  | some x, _, _ => .float x
  | none, some n, _ => .integer false n
  | none, none, some n => .integer true n
  | none, none, none => .string (String.ofList cs)

/-- A key of a table in braces. -/
def readKey (cs : List Char) : Option (String × List Char) :=
  match cs with
  | '"' :: rest => readQuoted rest
  | _ =>
    let isKeyChar := fun (c : Char) => c.isAlphanum || c == '_' || c == '-'
    let key := cs.takeWhile isKeyChar
    if key.isEmpty then none else some (String.ofList key, cs.dropWhile isKeyChar)

/-- A pair of key and value, given how values are read. -/
def readPair (value : List Char → Option (SettingValue × List Char)) (cs : List Char) :
    Option ((String × SettingValue) × List Char) := do
  let (key, rest) ← readKey (cs.dropWhile isSpace)
  let (v, rest) ← value (← Toml.behind? '=' (rest.dropWhile isSpace))
  some ((key, v), rest)

/-- Items with commas between them, up to a closing bracket. A comma may stand behind the last. -/
def readItems {α : Type} (item : List Char → Option (α × List Char)) (close : Char) :
    (fuel : Nat) → List Char → Option (List α × List Char)
  | 0, _ => none
  | fuel + 1, cs =>
    match Toml.behind? close cs with
    | some rest => some ([], rest)
    | none => do
      let (x, rest) ← item cs
      match rest with
      | ',' :: rest =>
        let (more, rest) ← readItems item close fuel rest
        some (x :: more, rest)
      | rest => some ([x], ← Toml.behind? close rest)

/-- A value with the blanks around it, nested at most `depth` deep. -/
def readValue : (depth : Nat) → List Char → Option (SettingValue × List Char)
  | 0, _ => none
  | depth + 1, cs =>
    let start := cs.dropWhile isSpace
    let found : Option (SettingValue × List Char) :=
      match Text.dropPrefix? "true".toList start, Text.dropPrefix? "false".toList start with
      | some rest, _ => some (.bool true, rest)
      | none, some rest => some (.bool false, rest)
      | none, none =>
        match start with
        | '\x7b' :: rest =>
          (readItems (readPair (readValue depth)) '\x7d' (rest.length + 1) rest).map
            fun (pairs, rest) =>
              (.table (pairs.foldl (fun t (k, v) => SettingValue.setEntry k v t) []), rest)
        | '[' :: rest => (readItems (readValue depth) ']' (rest.length + 1) rest).map
            fun (items, rest) => (.array items, rest)
        | '"' :: rest => (readQuoted rest).map fun (s, rest) => (.string s, rest)
        | '\'' :: c :: '\'' :: rest => some (.string (String.ofList [c]), rest)
        | '\'' :: _ => none
        | _ => some (plainValue (Text.trim Text.isBlank (start.takeWhile (!isSeparator ·))),
            start.dropWhile (!isSeparator ·))
    found.map fun (v, rest) => (v, rest.dropWhile isSpace)

/-- The value of a variable; a text that does not read to its end is taken as it is. -/
def value (text : String) : SettingValue :=
  let cs := text.toList
  match readValue (cs.length + 1) cs with
  | some (v, []) => v
  | _ => .string text

/-! ### Names -/

/-- Two underscores become a dot. -/
def dotted : List Char → List Char
  | '_' :: '_' :: rest => '.' :: dotted rest
  | c :: rest => c :: dotted rest
  | [] => []

/-- The key that a variable sets, part by part; none if it is no variable for settings or a part
is empty. -/
def keyOf? (name : String) : Option (List String) :=
  let cs := Text.trim Text.isBlank name.toList
  let start := cs.take nameStart.length
  if start.map Char.toUpper == nameStart then
    let key := dotted (Text.lowercase (String.ofList (cs.drop nameStart.length))).toList
    let parts := Text.splitOn '.' (Text.trim Text.isBlank key)
    if parts.any (·.isEmpty) then none else some (parts.map String.ofList)
  else none

/-- The table with one value at the end of a path. -/
def nest (v : SettingValue) : List String → SettingValue
  | [] => v
  | key :: rest => .table [(key, nest v rest)]

/-- The layer of settings that variables make; later ones go over earlier ones. -/
def layer (environment : List (String × String)) : SettingValue :=
  (environment.filterMap fun (name, text) => (keyOf? name).map (nest (value text))).foldl
    SettingValue.merge (.table [])

end GoAddress.Environment
