import GoAddress.Toml.Scalar

/-!
# Reading settings files

A TOML document is a sequence of lines: headers open tables, and pairs of key and value go into
the open table. A table is opened once; keys with dots add to tables that only such keys made.
Values nest less than eighty deep.
-/

namespace GoAddress.Toml

/-- What stands under a key while a document is read. -/
inductive Item where
  | value (v : SettingValue)
  /-- A table: `implicit` if no header opened it, `dotted` if keys with dots made it. -/
  | table (implicit dotted : Bool) (entries : List (String × Item))
  /-- Tables under one header; the last one is open. -/
  | tables (items : List (List (String × Item)))

/-- Entries of a table while a document is read. -/
abbrev Items := List (String × Item)

mutual

/-- The value of an item. -/
def Item.toValue : Item → SettingValue
  | .value v => v
  | .table _ _ entries => .table (itemEntries entries)
  | .tables items => .array (itemTables items)

/-- The values of entries. -/
def itemEntries : List (String × Item) → List (String × SettingValue)
  | [] => []
  | (key, item) :: rest => (key, item.toValue) :: itemEntries rest

/-- The values of several tables. -/
def itemTables : List (List (String × Item)) → List SettingValue
  | [] => []
  | entries :: rest => .table (itemEntries entries) :: itemTables rest

end

/-- Changes the table at a path, given whether keys with dots made it; tables on the way are made
where they are missing. Keys with dots do not enter tables that a header opened. -/
def updateAt (dotted : Bool) (update : Bool → Items → Option Items) :
    (path : List String) → (here : Bool) → Items → Option Items
  | [], here, entries => update here entries
  | key :: path, _, entries =>
    match entries.lookup key with
    | none => do
      let inner ← updateAt dotted update path dotted []
      some (SettingValue.setEntry key (.table true dotted inner) entries)
    | some (.value _) => none
    | some (.table implicit wasDotted inner) =>
      if dotted && !implicit then none
      else do
        let inner ← updateAt dotted update path wasDotted inner
        some (SettingValue.setEntry key (.table implicit wasDotted inner) entries)
    | some (.tables items) =>
      match items.reverse with
      | [] => none
      | last :: before => do
        let last ← updateAt dotted update path false last
        some (SettingValue.setEntry key (.tables (last :: before).reverse) entries)

/-- Adds a pair under a key with dots; its last part must be new in its table. -/
def insertPair (key : List String) (value : SettingValue) (entries : Items) : Option Items :=
  match key.reverse with
  | [] => none
  | last :: path =>
    updateAt true (fun here entries =>
      if here == path.isEmpty then none
      else match entries.lookup last with
        | some _ => none
        | none => some (entries ++ [(last, .value value)])) path.reverse false entries

/-- Opens the table of a header: one that is new, or that only lies on the way to others. -/
def openTable (key : List String) (document : Items) : Option Items :=
  match key.reverse with
  | [] => none
  | last :: path =>
    updateAt false (fun _ entries => match entries.lookup last with
      | none => some (entries ++ [(last, .table false false [])])
      | some (.table true false inner) =>
        some (SettingValue.setEntry last (.table false false inner) entries)
      | some _ => none) path.reverse false document

/-- Opens one more table of a header in double brackets. -/
def openNextTable (key : List String) (document : Items) : Option Items :=
  match key.reverse with
  | [] => none
  | last :: path =>
    updateAt false (fun _ entries => match entries.lookup last with
      | none => some (entries ++ [(last, .tables [[]])])
      | some (.tables items) =>
        some (SettingValue.setEntry last (.tables (items ++ [[]])) entries)
      | some _ => none) path.reverse false document

/-! ### Keys and values -/

/-- The greatest depth of values, and the greatest number of parts of a key. -/
def maxDepth : Nat := 79

/-- Characters of keys that are not quoted. -/
def isKeyChar (c : Char) : Bool :=
  c.isAlphanum || c == '_' || c == '-'

/-- One part of a key. -/
def readKeyPart (cs : List Char) : Option (String × List Char) :=
  match cs with
  | '"' :: _ | '\'' :: _ => readShortString cs
  | _ =>
    let part := cs.takeWhile isKeyChar
    if part.isEmpty then none else some (String.ofList part, cs.dropWhile isKeyChar)

/-- A key: parts with dots between them. Blanks around the dots and behind the key are skipped. -/
def readKey : (fuel : Nat) → List Char → Option (List String × List Char)
  | 0, _ => none
  | fuel + 1, cs => do
    let (part, rest) ← readKeyPart cs
    match rest.dropWhile isSpace with
    | '.' :: rest =>
      let (parts, rest) ← readKey fuel (rest.dropWhile isSpace)
      some (part :: parts, rest)
    | rest => some ([part], rest)

/-- Skips a comment. -/
def skipComment (cs : List Char) : List Char :=
  match cs with
  | '#' :: rest => rest.dropWhile isTextChar
  | _ => cs

/-- Skips blanks, line ends and comments. -/
def skipLines : (fuel : Nat) → List Char → List Char
  | 0, cs => cs
  | fuel + 1, cs =>
    let rest := skipComment (cs.dropWhile isSpace)
    match lineEnd? rest with
    | some rest => skipLines fuel rest
    | none => rest

/-- A pair of key and value, given how values are read. -/
def readPair (value : List Char → Option (SettingValue × List Char)) (cs : List Char) :
    Option ((List String × SettingValue) × List Char) := do
  let (key, rest) ← readKey maxDepth cs
  let (v, rest) ← value ((← behind? '=' rest).dropWhile isSpace)
  some ((key, v), rest)

/-- The items of an array up to its bracket. -/
def readItems (value : List Char → Option (SettingValue × List Char)) :
    (fuel : Nat) → List Char → Option (List SettingValue × List Char)
  | 0, _ => none
  | fuel + 1, cs =>
    match skipLines cs.length cs with
    | ']' :: rest => some ([], rest)
    | start => do
      let (item, rest) ← value start
      match skipLines rest.length rest with
      | ',' :: rest =>
        let (items, rest) ← readItems value fuel rest
        some (item :: items, rest)
      | ']' :: rest => some ([item], rest)
      | _ => none

/-- The pairs of an inline table up to its brace; there is at least one. -/
def readPairs (value : List Char → Option (SettingValue × List Char)) :
    (fuel : Nat) → Items → List Char → Option (Items × List Char)
  | 0, _, _ => none
  | fuel + 1, entries, cs => do
    let ((key, v), rest) ← readPair value (cs.dropWhile isSpace)
    let entries ← insertPair key v entries
    match rest.dropWhile isSpace with
    | ',' :: rest => readPairs value fuel entries rest
    | '\x7d' :: rest => some (entries, rest)
    | _ => none

/-- A value that nests at most `depth` deep. -/
def readValue : (depth : Nat) → List Char → Option (SettingValue × List Char)
  | 0, cs => match cs with
    | '[' :: _ | '\x7b' :: _ => none
    | _ => readScalar cs
  | depth + 1, cs =>
    match cs with
    | '[' :: rest =>
      (readItems (readValue depth) (rest.length + 1) rest).map fun (items, rest) =>
        (.array items, rest)
    | '\x7b' :: rest =>
      match rest.dropWhile isSpace with
      | '\x7d' :: rest => some (.table [], rest)
      | _ => (readPairs (readValue depth) (rest.length + 1) [] rest).map fun (entries, rest) =>
          (.table (itemEntries entries), rest)
    | _ => readScalar cs

/-! ### Documents -/

/-- A document as far as it was read: all entries, and the path of the open table. -/
structure Document where
  /-- The entries of the outermost table. -/
  entries : Items := []
  /-- The path of the table that pairs go into. -/
  path : List String := []

/-- The key of a header in brackets, and the text behind the key. -/
def readHeaderKey (cs : List Char) : Option (List String × List Char) :=
  readKey maxDepth (cs.dropWhile isSpace)

/-- Adds a pair to the open table. -/
def Document.insert (d : Document) (key : List String) (value : SettingValue) : Option Document :=
  (updateAt false (fun _ entries => insertPair key value entries) d.path false d.entries).map
    fun entries => { d with entries }

/-- Reads a header or a pair. -/
def readStatement (d : Document) (cs : List Char) : Option (Document × List Char) :=
  match cs with
  | '[' :: '[' :: rest => do
    let (key, rest) ← readHeaderKey rest
    let rest ← behind? ']' (← behind? ']' rest)
    some ({ entries := ← openNextTable key d.entries, path := key }, rest)
  | '[' :: rest => do
    let (key, rest) ← readHeaderKey rest
    let rest ← behind? ']' rest
    some ({ entries := ← openTable key d.entries, path := key }, rest)
  | _ => do
    let ((key, value), rest) ← readPair (readValue maxDepth) cs
    some (← d.insert key value, rest)

/-- Reads lines to the end of the text. -/
def readLines : (fuel : Nat) → Document → List Char → Option Document
  | 0, _, _ => none
  | fuel + 1, d, cs =>
    match skipLines cs.length cs with
    | [] => some d
    | start => do
      let (d, rest) ← readStatement d start
      match skipComment (rest.dropWhile isSpace) with
      | [] => some d
      | rest => readLines fuel d (← lineEnd? rest)

/-- The entries of a TOML document; nothing if it is malformed. -/
def parse? (text : String) : Option (List (String × SettingValue)) :=
  let cs := match text.toList with
    | '\ufeff' :: rest => rest
    | cs => cs
  (readLines (cs.length + 1) {} cs).map fun d => itemEntries d.entries

end GoAddress.Toml
