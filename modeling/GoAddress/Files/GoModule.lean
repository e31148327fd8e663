import GoAddress.Files.Ignore
import GoAddress.Program.Load
import GoAddress.Settings.Basic

/-!
# Loading programs from file trees

A program is loaded from a directory: its source files are those below it that no ignore file and
no setting excludes and that are texts. The import path of the module comes from the module file,
else from the settings, else from the name of the directory.
-/

namespace GoAddress

namespace FileTree

/-- A file that was found, with its place. -/
abbrev Found := Place × ByteArray

/-- Whether the settings exclude a directory of a name. -/
def isExcluded (settings : LoaderSettings) (name : String) : Bool :=
  (name == "vendor" && !settings.includeVendor) || settings.excludeDirs.contains name

/-- Whether the walk passes over an entry, given the rules of the directories around it. -/
def passesOver (settings : LoaderSettings) (levels : List IgnoreLevel) (place : Place)
    (name : String) : FileTree → Bool
  | .directory _ => IgnoreLevel.skips levels true place || isExcluded settings name
  | _ => IgnoreLevel.skips levels false place

mutual

/-- The files at and below a place; links are not followed. -/
def walk (root : FileTree) (settings : LoaderSettings) (levels : List IgnoreLevel)
    (place : Place) : FileTree → List Found
  | .file bytes => [(place, bytes)]
  | .link _ => []
  | .directory entries =>
    walkEntries root settings (.ofDirectory root place :: levels) place entries

/-- The files at and below the entries of a directory. -/
def walkEntries (root : FileTree) (settings : LoaderSettings) (levels : List IgnoreLevel)
    (place : Place) : List (String × FileTree) → List Found
  | [] => []
  | (name, node) :: rest =>
    let here := place ++ [name]
    let found := if passesOver settings levels here name node then []
      else walk root settings levels here node
    found ++ walkEntries root settings levels place rest

end

end FileTree

/-- Whether a name is that of a source file: it ends in `.go` and has something before. -/
def isSourceName (name : String) : Bool :=
  match Text.dropSuffix? ".go".toList name.toList with
  | some start => !start.isEmpty
  | none => false

/-- The import path on a line of a module file. -/
def moduleOnLine? (line : List Char) : Option String := do
  let code := Text.trim Text.isBlank (uncommented line)
  let rest ← Text.dropPrefix? "module".toList code
  if rest.head?.any Text.isBlank then
    let path := Text.trim (· == '"') (Text.trim Text.isBlank rest)
    if path.isEmpty then none else some (String.ofList path)
  else none
where
  /-- A line up to its comment. -/
  uncommented : List Char → List Char
    | '/' :: '/' :: _ => []
    | c :: rest => c :: uncommented rest
    | [] => []

/-- The import path that a module file gives. -/
def moduleDirective? (text : String) : Option String :=
  (Text.splitOn '\n' text.toList).findSome? moduleOnLine?

/-- The import path of the module in a directory. -/
def modulePathAt (root : FileTree) (settings : LoaderSettings) (place : Place) : String :=
  match (root.readText? (place ++ ["go.mod"])).bind moduleDirective? with
  | some path => path
  | none => settings.modulePath.getD (place.getLast?.getD "main")

/-- The source files below a directory, with paths relative to it. Files of tests are left out
unless the settings ask for them. -/
def sourcesAt (root : FileTree) (settings : LoaderSettings) (place : Place) (node : FileTree) :
    List SourceInput :=
  let around := place.ancestors.drop 1
  let found := root.walk settings (around.map (.ofDirectory root)) place node
  found.filterMap fun (file, bytes) =>
    let relPath := Text.joinStrings "/" (file.drop place.length)
    let isTest := (Text.dropSuffix? "_test.go".toList relPath.toList).isSome
    if file.getLast?.any isSourceName && (settings.includeTests || !isTest) then
      (String.fromUTF8? bytes).map fun source => { relPath, source }
    else none

/-- Loads the program in the directory that a path leads to from another directory. -/
def Program.loadDirectory (parse : Source.Parser) (root : FileTree) (settings : LoaderSettings)
    (directory : Place) (path : String) : Except LoadError Program :=
  match root.resolve (Place.ofPath directory path) with
  | .error e => .error (.io path e.message)
  | .ok (place, node) =>
    let inputs := sourcesAt root settings place node
    if inputs.isEmpty then .error (.noPackages (Place.text place))
    else .ok (.ofInputs parse (modulePathAt root settings place) inputs)

end GoAddress
