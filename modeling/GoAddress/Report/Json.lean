/-!
# Structured output

The values that reports are made of, and their written form: objects and arrays with one entry a
line, indented by two blanks.
-/

namespace GoAddress.Report

/-- A structured value. Numbers are whole and not negative. -/
inductive Json where
  | null
  | bool (b : Bool)
  | number (n : Nat)
  | string (s : String)
  | array (items : List Json)
  | object (fields : List (String × Json))

namespace Json

/-- An array of texts. -/
def strings (xs : List String) : Json :=
  .array (xs.map .string)

/-- A field that is left out when there is no value. -/
def optional {α : Type} (key : String) (f : α → Json) (x : Option α) : List (String × Json) :=
  match x with
  | some a => [(key, f a)]
  | none => []

/-- A field that is left out when the list is empty. -/
def unlessEmpty {α : Type} (key : String) (f : α → Json) (xs : List α) : List (String × Json) :=
  if xs.isEmpty then [] else [(key, .array (xs.map f))]

/-- The digits of a character code in base sixteen, four of them. -/
def hexCode (n : Nat) : List Char :=
  let digits := Nat.toDigits 16 n
  List.replicate (4 - digits.length) '0' ++ digits

/-- A character inside quotes. -/
def escapeChar (c : Char) : List Char :=
  if c = '"' then ['\\', '"']
  else if c = '\\' then ['\\', '\\']
  else if c = '\n' then ['\\', 'n']
  else if c = '\r' then ['\\', 'r']
  else if c = '\t' then ['\\', 't']
  else if c.toNat = 8 then ['\\', 'b']
  else if c.toNat = 12 then ['\\', 'f']
  else if c.toNat < 0x20 then '\\' :: 'u' :: hexCode c.toNat
  else [c]

/-- A text in quotes. -/
def quote (s : String) : String :=
  String.ofList ('"' :: s.toList.flatMap escapeChar ++ ['"'])

/-- Entries between brackets, one a line. -/
def block (opening closing : String) (indent : String) (entries : List String) : String :=
  if entries.isEmpty then opening ++ closing
  else
    let inner := indent ++ "  "
    opening ++ "\n" ++ inner ++ (",\n" ++ inner).intercalate entries ++ "\n" ++ indent ++ closing

mutual

/-- The written form of a value whose first line is indented already. -/
def render (indent : String) : Json → String
  | null => "null"
  | bool b => if b then "true" else "false"
  | number n => toString n
  | string s => quote s
  | array items => block "[" "]" indent (renderItems (indent ++ "  ") items)
  | object fields => block "\x7b" "\x7d" indent (renderFields (indent ++ "  ") fields)

/-- The written forms of the items of an array. -/
def renderItems (indent : String) : List Json → List String
  | [] => []
  | item :: rest => render indent item :: renderItems indent rest

/-- The written forms of the fields of an object. -/
def renderFields (indent : String) : List (String × Json) → List String
  | [] => []
  | (key, value) :: rest => (quote key ++ ": " ++ render indent value) :: renderFields indent rest

end

end Json

end GoAddress.Report
