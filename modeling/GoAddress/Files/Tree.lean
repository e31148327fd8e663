import GoAddress.Text.Split

/-!
# File trees

A directory tree as data: files with their bytes, symbolic links with their targets, directories
with named entries. Places are lists of names from the outermost directory on. Looking up a place
follows links as a file system does.
-/

namespace GoAddress

/-- A file, a symbolic link or a directory. -/
inductive FileTree where
  | file (bytes : ByteArray)
  | link (target : String)
  | directory (entries : List (String × FileTree))

/-- A place in a file tree: the names on the way to it. -/
abbrev Place := List String

/-- Why a place cannot be used. -/
inductive FileError where
  | notFound
  | notDirectory
  | tooManyLinks
  | alreadyThere
  | isDirectory
deriving DecidableEq, Repr

/-- The wording of a file error. -/
def FileError.message : FileError → String
  | .notFound => "No such file or directory (os error 2)"
  | .alreadyThere => "File exists (os error 17)"
  | .notDirectory => "Not a directory (os error 20)"
  | .isDirectory => "Is a directory (os error 21)"
  | .tooManyLinks => "Too many levels of symbolic links (os error 40)"

namespace Place

/-- The names of a path; empty names and single dots say nothing. -/
def names (path : String) : Place :=
  ((Text.splitOn '/' path.toList).map String.ofList).filter fun s => s != "" && s != "."

/-- Whether a path starts at the outermost directory. -/
def isAbsolute (path : String) : Bool :=
  path.toList.head? == some '/'

/-- The place of a path as seen from a directory. -/
def ofPath (directory : Place) (path : String) : Place :=
  if isAbsolute path then names path else directory ++ names path

/-- A place as an absolute path. -/
def text (place : Place) : String :=
  if place.isEmpty then "/" else String.join (place.map ("/" ++ ·))

/-- A place and all directories around it, the nearest first. -/
def ancestors (place : Place) : List Place :=
  (List.range (place.length + 1)).reverse.map (place.take ·)

end Place

namespace FileTree

/-- A directory without entries. -/
def empty : FileTree := .directory []

/-- What stands at a place; links are not followed. -/
def get? : Place → FileTree → Option FileTree
  | [], node => some node
  | name :: rest, .directory entries => (entries.lookup name).bind (get? rest)
  | _ :: _, _ => none

/-- The greatest number of links that are followed on the way to a place. -/
def linkLimit : Nat := 40

/-- The place that a path leads to, and what stands there. `done` is the part of the way without
links that was taken, `todo` the names to come. -/
def resolveFrom (root : FileTree) :
    (links : Nat) → (done todo : Place) → Except FileError (Place × FileTree)
  | _, done, [] =>
    match root.get? done with
    | some node => .ok (done, node)
    | none => .error .notFound
  | links, done, name :: rest =>
    match root.get? done with
    | some (.directory entries) =>
      if name = ".." then resolveFrom root links done.dropLast rest
      else match entries.lookup name with
        | none => .error .notFound
        | some (.link target) =>
          match links with
          | 0 => .error .tooManyLinks
          | links + 1 =>
            resolveFrom root links (if Place.isAbsolute target then [] else done)
              (Place.names target ++ rest)
        | some _ => resolveFrom root links (done ++ [name]) rest
    | some _ => .error .notDirectory
    | none => .error .notFound
termination_by links _ todo => (links, todo.length)

/-- The place without links that a place leads to, and what stands there. -/
def resolve (root : FileTree) (place : Place) : Except FileError (Place × FileTree) :=
  resolveFrom root linkLimit [] place

/-- The bytes of the file at a place. -/
def read? (root : FileTree) (place : Place) : Option ByteArray :=
  match root.resolve place with
  | .ok (_, .file bytes) => some bytes
  | _ => none

/-- The text of the file at a place. -/
def readText? (root : FileTree) (place : Place) : Option String :=
  (root.read? place).bind String.fromUTF8?

/-- Whether there is a file at a place. -/
def isFile (root : FileTree) (place : Place) : Bool :=
  (root.read? place).isSome

/-- Whether there is a directory at a place. -/
def isDirectory (root : FileTree) (place : Place) : Bool :=
  match root.resolve place with
  | .ok (_, .directory _) => true
  | _ => false

/-- Whether there is anything at a place. -/
def contains (root : FileTree) (place : Place) : Bool :=
  match root.resolve place with
  | .ok _ => true
  | .error _ => false

/-- Entries with one name set; a new name goes to the end. -/
def setEntry (name : String) (node : FileTree) :
    List (String × FileTree) → List (String × FileTree)
  | [] => [(name, node)]
  | (n, old) :: rest =>
    if n = name then (n, node) :: rest else (n, old) :: setEntry name node rest

/-- The tree with a node at a place; directories on the way are made. -/
def insert (node : FileTree) : Place → FileTree → FileTree
  | [], _ => node
  | name :: rest, tree =>
    let entries := match tree with
      | .directory entries => entries
      | _ => []
    .directory (setEntry name (insert node rest ((entries.lookup name).getD empty)) entries)

/-- The tree without what stands at a place. -/
def erase : Place → FileTree → FileTree
  | [], tree => tree
  | [name], .directory entries => .directory (entries.filter (·.1 != name))
  | name :: next :: rest, .directory entries =>
    match entries.lookup name with
    | some inner => .directory (setEntry name (erase (next :: rest) inner) entries)
    | none => .directory entries
  | _, tree => tree

/-- The tree with a text file at a place, links on the way and at the place being followed. -/
def write (text : String) (place : Place) (tree : FileTree) : FileTree :=
  let target := match tree.resolve place, tree.resolve place.dropLast with
    | .ok (found, _), _ => found
    | .error _, .ok (around, _) => around ++ place.getLast?.toList
    | .error _, .error _ => place
  insert (.file text.toUTF8) target tree

end FileTree

end GoAddress
