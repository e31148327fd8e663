import GoAddress.CommandLine.Run

/-!
# The program

The outer layer of the command line. It gathers what a run looks at, the environment and a part of
the file system, and does what the run answers: it writes files, prints, and exits.
-/

namespace GoAddress.CommandLine

/-- The result of an action; one that fails has none. -/
def attempt? {α : Type} (action : IO α) : BaseIO (Option α) := do
  match ← action.toBaseIO with
  | .ok a => return some a
  | .error _ => return none

/-- What stands at places of the file system. -/
abbrev Findings := List (Place × FileTree)

/-- A tree with one more finding; a directory that is there stays as it is. -/
def addFinding (tree : FileTree) : Place × FileTree → FileTree
  | (place, .directory entries) =>
    if (tree.get? place).isSome then tree else FileTree.insert (.directory entries) place tree
  | (place, node) => FileTree.insert node place tree

/-- The place without links that a path of the file system leads to. -/
def realPlace? (place : Place) : BaseIO (Option Place) := do
  return (← attempt? (IO.FS.realPath place.text)).map fun path => Place.names path.toString

/-- The file at a place. -/
def readFile (place : Place) : BaseIO Findings := do
  return ((← attempt? (IO.FS.readBinFile place.text)).map fun bytes => (place, .file bytes)).toList

/-- The link at a place, and the file it leads to. -/
def readLink (place : Place) : BaseIO Findings := do
  match ← realPlace? place with
  | some target => return (place, .link target.text) :: (← readFile target)
  | none => return [(place, .link "")]

/-- The files around source files that a run looks into. -/
def sideFiles : List Place :=
  [["go.mod"], Init.settingsFile] ++ IgnoreLevel.fileNames

/-- All that stands at and below a directory. Of other files than those a run looks into, only the
names are kept. -/
partial def readBelow (place : Place) : BaseIO Findings := do
  let some directory ← attempt? (IO.FS.realPath place.text) | return ← readFile place
  let some entries ← attempt? directory.readDir | return ← readFile place
  let below ← entries.toList.mapM fun entry => do
    let here := place ++ [entry.fileName]
    match (← attempt? entry.path.symlinkMetadata).map (·.type) with
    | some .dir => readBelow here
    | some .symlink => readLink here
    | some .file =>
      if isSourceName entry.fileName || sideFiles.any (·.getLast? == some entry.fileName) then
        readFile here
      else return [(here, .file .empty)]
    | _ => return []
  return (place, .empty) :: below.flatten

/-- Goes along names from a place without links: where they lead to, and what is met on the way. -/
def follow (done : Place) : (names : Place) → BaseIO (Place × Findings)
  | [] => return (done, [])
  | name :: rest => do
    if name == ".." then return ← follow done.dropLast rest
    let here := done ++ [name]
    match ← realPlace? here with
    | none => return (here ++ rest, [])
    | some real =>
      let found ← readFile real
      let met := if found.isEmpty then [(real, .empty)] else found
      let (last, more) ← follow real rest
      return (last, (if real == here then met else (here, .link real.text) :: met) ++ more)

/-- The side files of a directory and of those around it. -/
def readAround (place : Place) : BaseIO Findings := do
  let found ← place.ancestors.mapM fun around => do
    let files ← sideFiles.mapM fun name => readFile (around ++ name)
    let (_, met) ← follow around [Init.settingsDirectory]
    return met ++ files.flatten
  return found.flatten

/-- The part of the file system that a run looks at. -/
def readTree (directory : Place) (i : Invocation) : BaseIO FileTree := do
  let (root, way) ← follow [] (Place.ofPath directory i.root)
  let candidates := (i.config.map (settingsPlaces directory)).getD []
  let configs ← candidates.mapM fun place => return (← follow [] place).2
  let (_, here) ← follow [] directory
  let findings := here ++ way ++ configs.flatten ++ (← readAround directory) ++
    (← readAround root) ++ (← readBelow root)
  return findings.foldl addFinding .empty

/-- The variables in the table of a process, where a zero byte ends each. -/
def environmentOf (table : ByteArray) : List (String × String) :=
  (table.toList.splitOn 0).filterMap fun bytes => do
    let text ← String.fromUTF8? ⟨bytes.toArray⟩
    let name := text.toList.takeWhile (· != '=')
    let value := (text.toList.dropWhile (· != '=')).drop 1
    if name.isEmpty then none else some (String.ofList name, String.ofList value)

/-- What a run with arguments sees. -/
def readWorld (arguments : List String) : IO World := do
  let directory := Place.names (← IO.currentDir).toString
  let block ← attempt? (IO.FS.readBinFile "/proc/self/environ")
  let environment := (block.map environmentOf).getD []
  match parse (environment.lookup rootVariable) arguments with
  | .ok i => return { tree := ← readTree directory i, directory, environment }
  | .error _ => return { tree := .empty, directory, environment }

/-- Writes a file, and the directories around it. -/
def writeFile (w : FileWrite) : IO Unit := do
  IO.FS.createDirAll (Place.text w.place.dropLast)
  IO.FS.writeFile w.place.text w.text

/-- Does what a run answers; the exit code. -/
def finish (outcome : Outcome) : IO UInt32 := do
  try
    outcome.writes.forM writeFile
    match outcome.stdout with
    | .text s => IO.print s
    | .envelope value => IO.println (value.render "")
    IO.eprint outcome.stderr
    return outcome.exit.toUInt32
  catch error =>
    IO.eprint (Report.lines [Report.failureText error.toString])
    return ExitCode.configError.number.toUInt32

end GoAddress.CommandLine

/-- Runs the command line. -/
def main (arguments : List String) : IO UInt32 := do
  let world ← GoAddress.CommandLine.readWorld arguments
  GoAddress.CommandLine.finish (GoAddress.CommandLine.run world arguments)
