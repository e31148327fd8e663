import GoAddress.Files.Glob
import GoAddress.Files.Tree

/-!
# Ignore files

An ignore file has one pattern a line. The last line that matches a path decides: it ignores the
path, or keeps it if the line starts with an exclamation mark. A directory has up to four ignore
files of different strength. Of files of one strength the one nearest to the path decides, and a
stronger decision goes before a weaker one.
-/

namespace GoAddress

/-- One line of an ignore file. -/
structure IgnoreRule where
  /-- Whether the line keeps what it matches. -/
  keeps : Bool
  /-- Whether the line is about directories only. -/
  directoriesOnly : Bool
  /-- The pattern. -/
  pattern : List GlobToken

namespace IgnoreRule

/-- The line without its marks: whether it keeps, whether a slash ties it to the directory of the
file, and the pattern. A backslash covers a mark. -/
def splitMarks (line : List Char) : Bool × Bool × List Char :=
  match line with
  | '\\' :: '!' :: _ | '\\' :: '#' :: _ => (false, false, line.drop 1)
  | _ =>
    let (keeps, rest) := match line with
      | '!' :: rest => (true, rest)
      | _ => (false, line)
    match rest with
    | '/' :: rest => (keeps, true, rest)
    | _ => (keeps, false, rest)

/-- The pattern without a slash at its end, and whether there was one. -/
def splitSlash (pattern : List Char) : Bool × List Char :=
  match Text.dropSuffix? ['/'] pattern with
  | some rest => (true, (Text.dropSuffix? ['\\'] rest).getD rest)
  | none => (false, pattern)

/-- The pattern as it is matched: without a slash it matches in every directory, and two stars at
its end match only what lies below. -/
def placed (tied : Bool) (pattern : List Char) : List Char :=
  let anywhere := !tied && !pattern.contains '/' && pattern != ['*', '*']
  let pattern := if anywhere then '*' :: '*' :: '/' :: pattern else pattern
  if (Text.dropSuffix? ['/', '*', '*'] pattern).isSome then pattern ++ ['/', '*'] else pattern

/-- The rule of a line; comments, blank lines and malformed patterns have none. -/
def ofLine? (line : List Char) : Option IgnoreRule :=
  let trimmed := if (Text.dropSuffix? ['\\', ' '] line).isSome then line
    else Text.trimEnd Text.isBlank line
  if line.head? == some '#' || trimmed.isEmpty then none
  else
    let (keeps, tied, rest) := splitMarks trimmed
    let (directoriesOnly, pattern) := splitSlash rest
    (Glob.parse? (placed tied pattern)).map fun pattern => { keeps, directoriesOnly, pattern }

/-- The bytes of the lines of a file; a return before a line break does not belong to the line. -/
def pieces (bytes : ByteArray) : List (List UInt8) :=
  let found := bytes.toList.splitOn 10
  found.dropLast.map (fun line => if line.getLast? == some 13 then line.dropLast else line) ++
    found.getLast?.toList

/-- The lines of a file up to the first that is no text; a mark of byte order at the start does not
count. -/
def linesOf (bytes : ByteArray) : List (List Char) :=
  let texts := (pieces bytes).map fun line => String.fromUTF8? ⟨line.toArray⟩
  match ((texts.takeWhile (·.isSome)).filterMap fun text? => text?.map (·.toList)) with
  | [] => []
  | first :: rest => first.dropWhile (· == '\ufeff') :: rest

/-- The rules of a file. -/
def ofFile (bytes : ByteArray) : List IgnoreRule :=
  (linesOf bytes).filterMap ofLine?

/-- What the rules of a file say about a relative path: whether to keep it. -/
def decide? (rules : List IgnoreRule) (isDirectory : Bool) (path : List UInt8) : Option Bool :=
  (rules.reverse.find? fun rule =>
    (isDirectory || !rule.directoriesOnly) && Glob.isMatch rule.pattern path).map (·.keeps)

end IgnoreRule

/-- The rules of a directory, strongest first. -/
structure IgnoreLevel where
  /-- The directory. -/
  place : Place
  /-- The rules of each strength. -/
  rules : List (List IgnoreRule)

namespace IgnoreLevel

/-- The ignore files of a directory, strongest first. -/
def fileNames : List Place :=
  [[".spathignore"], [".ignore"], [".gitignore"], [".git", "info", "exclude"]]

/-- The rules of the directory at a place. -/
def ofDirectory (root : FileTree) (place : Place) : IgnoreLevel :=
  { place, rules := fileNames.map fun name =>
      ((root.read? (place ++ name)).map IgnoreRule.ofFile).getD [] }

/-- The bytes of a place as seen from the directory of a level. -/
def relativeBytes (level : IgnoreLevel) (place : Place) : List UInt8 :=
  (Text.joinStrings "/" (place.drop level.place.length)).toUTF8.toList

/-- What rules of one strength say, the nearest directory first. -/
def decideStrength? (levels : List IgnoreLevel) (isDirectory : Bool) (place : Place)
    (strength : Nat) : Option Bool :=
  levels.findSome? fun level =>
    IgnoreRule.decide? ((level.rules[strength]?).getD []) isDirectory (level.relativeBytes place)

/-- What the rules of a directory and those around it, nearest first, say about a place. -/
def decide? (levels : List IgnoreLevel) (isDirectory : Bool) (place : Place) : Option Bool :=
  (List.range fileNames.length).findSome? (decideStrength? levels isDirectory place)

/-- Whether a name is hidden. -/
def isHidden (name : String) : Bool :=
  name.toList.head? == some '.'

/-- Whether an entry is passed over: it is ignored, or it is hidden and no rule keeps it. -/
def skips (levels : List IgnoreLevel) (isDirectory : Bool) (place : Place) : Bool :=
  match decide? levels isDirectory place with
  | some keeps => !keeps
  | none => (place.getLast?.map isHidden).getD false

end IgnoreLevel

end GoAddress
