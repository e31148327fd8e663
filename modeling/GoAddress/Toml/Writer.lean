import GoAddress.Toml.Scalar

/-!
# Writing strings of settings files

Of the four kinds of strings, the first is taken that needs no escapes: on one line in double
quotes, in single quotes, over several lines in double quotes, then in single quotes. Where none
will do, characters are escaped.
-/

namespace GoAddress.Toml

/-- Characters that only an escape can write. -/
def needsEscape (c : Char) : Bool :=
  c != '\n' && !isTextChar c

/-- The length of the longest run of a character. -/
def longestRun (c : Char) (cs : List Char) : Nat :=
  (cs.foldl (fun (best, run) d =>
    let run := if d = c then run + 1 else 0
    (max best run, run)) (0, 0)).1

/-- A code in base sixteen with four digits. -/
def fourDigits (n : Nat) : List Char :=
  let digits := (Nat.toDigits 16 n).map Char.toUpper
  List.replicate (4 - digits.length) '0' ++ digits

/-- A character in double quotes, except quotes; over several lines line ends stay. -/
def escaped (long : Bool) (c : Char) : List Char :=
  if c = '\\' then ['\\', '\\']
  else if c = '\t' then ['\\', 't']
  else if c = '\n' then if long then ['\n'] else ['\\', 'n']
  else if c = '\r' then ['\\', 'r']
  else if c.toNat = 8 then ['\\', 'b']
  else if c.toNat = 12 then ['\\', 'f']
  else if needsEscape c then '\\' :: 'u' :: fourDigits c.toNat
  else [c]

/-- The body of a string in double quotes. On one line every quote is escaped, over several lines
each third one of a run; `run` quotes have just been written. -/
def basicBody (long : Bool) : (run : Nat) → List Char → List Char
  | _, [] => []
  | run, c :: rest =>
    if c = '"' then
      if run < (if long then 2 else 0) then '"' :: basicBody long (run + 1) rest
      else '\\' :: '"' :: basicBody long 0 rest
    else escaped long c ++ basicBody long 0 rest

/-- Text between quotes; a line end comes first where the text has one. -/
def longString (quote : String) (lines : Bool) (body : List Char) : String :=
  quote ++ (if lines then "\n" else "") ++ String.ofList body ++ quote

/-- The written form of a string. -/
def writeString (s : String) : String :=
  let cs := s.toList
  let lines := cs.contains '\n'
  let escapes := cs.any needsEscape
  let backslash := cs.contains '\\'
  let single := longestRun '\'' cs
  let double := longestRun '"' cs
  let basic := "\"" ++ String.ofList (basicBody false 0 cs) ++ "\""
  let longBasic := longString "\"\"\"" lines (basicBody true 0 cs)
  if !escapes && !backslash && double = 0 && !lines then basic
  else if !escapes && single = 0 && !lines then "'" ++ s ++ "'"
  else if !escapes && !backslash && double ≤ 2 then longBasic
  else if !escapes && single ≤ 2 then longString "'''" lines cs
  else if lines then longBasic else basic

/-- The written form of an array of strings: several are written one a line. -/
def writeStrings (items : List String) : String :=
  match items with
  | [] => "[]"
  | [item] => "[" ++ writeString item ++ "]"
  | items => "[\n" ++ String.join (items.map fun item => "    " ++ writeString item ++ ",\n") ++ "]"

end GoAddress.Toml
