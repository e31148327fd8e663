import GoAddress.CommandLine.Arguments
import GoAddress.Files.GoModule
import GoAddress.Report.Command
import GoAddress.Settings.Init
import GoAddress.Settings.Load
import GoAddress.Source.Salvage

/-!
# Running the command line

A run sees the file tree, the current directory and the environment. It answers with an exit code,
with what goes to the two outputs, and with the files to be written.
-/

namespace GoAddress.CommandLine

/-- What a run sees. -/
structure World where
  /-- All files. -/
  tree : FileTree
  /-- The current directory, without links. -/
  directory : Place
  /-- The variables of the environment. -/
  environment : List (String × String) := []

/-- How a run ends. -/
structure Outcome where
  /-- The exit code. -/
  exit : Nat
  /-- Standard output. -/
  stdout : Stdout := .text ""
  /-- Standard error. -/
  stderr : String := ""
  /-- The files to be written. -/
  writes : List FileWrite := []

/-- The exit code for arguments that cannot be read. -/
def usageExit : Nat := 2

/-- The variable with the directory to load. -/
def rootVariable : String := "SPATH_ROOT"

/-- A short reminder of the commands. -/
def usageText : String :=
  "Usage: spath [OPTIONS] <COMMAND>\n\nCommands: " ++
  Text.joinStrings ", " (commandRules.map (·.name)) ++ "\n"

/-- Where a settings file is looked for: a relative path is tried in a directory and then in those
around it. -/
def settingsPlaces (directory : Place) (path : String) : List Place :=
  if Place.isAbsolute path then [Place.names path]
  else directory.ancestors.map (· ++ Place.names path)

namespace World

/-- The nearest directory, from the current one outwards, that was set up. -/
def workspace? (w : World) : Option Place :=
  w.directory.ancestors.find? fun place => w.tree.isDirectory (place ++ [Init.settingsDirectory])

/-- The bytes of a settings file. -/
def findFile? (w : World) (path : String) : Option ByteArray :=
  (settingsPlaces w.directory path).findSome? w.tree.read?

/-- The settings with a given settings file, if there is one. -/
def settingsOf (w : World) (file : Option ByteArray) : Except SettingsError Settings :=
  match file with
  | none => Settings.load none w.environment
  | some bytes =>
    match String.fromUTF8? bytes with
    | some text => Settings.load (some text) w.environment
    | none => .error { fault := .malformed }

/-- The settings file of the directory that was set up. -/
def ownSettings? (w : World) : Option ByteArray :=
  w.workspace?.bind fun place => w.tree.read? (place ++ Init.settingsFile)

end World

/-- A settings error as text. -/
def settingsErrorText (e : SettingsError) : String :=
  match e.fault with
  | .malformed => "malformed settings file"
  | fault => s!"{fault.message} for key \"{e.keyText}\""

/-- A path below another. -/
def joinPath (base below : String) : String :=
  if base.isEmpty || (Text.dropSuffix? ['/'] base.toList).isSome then base ++ below
  else base ++ "/" ++ below

/-- Sets up the workspace around the current directory, or else the directory to load. -/
def runInit (w : World) (root : String) (force : Bool) : Outcome :=
  let (place, shown) := match w.workspace? with
    | some place => (place, Place.text place)
    | none => (Place.ofPath w.directory root, root)
  match Init.plan w.tree place force with
  | (writes, .error e) =>
    { exit := ExitCode.configError.number, writes
      stderr := Report.lines [Report.failureText e.message] }
  | (writes, .ok ()) =>
    { exit := 0, writes
      stdout := .text (Report.lines [
        "Created configuration file at: " ++
          joinPath shown (Text.joinStrings "/" Init.settingsFile),
        "Edit this file to customize your settings."]) }

/-- Shows the settings. -/
def runConfig (settings : Settings) : Outcome :=
  { exit := 0
    stdout := .text (Report.lines ["Current Configuration:",
      String.ofList (List.replicate 50 '='), settings.toToml]) }

/-- Answers a command about a loaded program; the other commands have no answer here. -/
def answer (session : Session) (format : OutputFormat) : Command → Option Printed
  | .resolve address source => some (session.resolve format address source)
  | .list pattern limit scope target => some (session.list format pattern limit scope target)
  | .symbols scope target kind => some (session.symbols format scope target kind)
  | .lookup name => some (session.lookup format name)
  | .scope expression target => some (session.scope format expression target)
  | .dead scope target => some (session.dead format scope target)
  | .init _ | .config => none

/-- Loads the program and answers a command about it. -/
def runQuery (w : World) (i : Invocation) (settings : Settings) : Outcome :=
  let format := if i.json then OutputFormat.json else .text
  match Program.loadDirectory Source.goParser w.tree settings.loader w.directory i.root with
  | .error e =>
    let printed := Report.failure format (.load e) [] []
    { exit := printed.exit.number, stdout := printed.stdout, stderr := printed.stderr }
  | .ok program =>
    match answer (.ofProgram settings program) format i.command with
    | none => { exit := 0 }
    | some printed =>
      { exit := printed.exit.number, stdout := printed.stdout, stderr := printed.stderr }

/-- Runs a command with settings. -/
def runCommand (w : World) (i : Invocation) (settings : Settings) : Outcome :=
  match i.command with
  | .init force => runInit w i.root force
  | .config => runConfig settings
  | _ => runQuery w i settings

/-- Runs an invocation. A settings file that was asked for has to be right; another one that is
wrong is passed over with a remark. -/
def runInvocation (w : World) (i : Invocation) : Outcome :=
  match i.config with
  | some path =>
    match w.settingsOf (w.findFile? path) with
    | .ok settings => runCommand w i settings
    | .error e =>
      { exit := ExitCode.generalError.number
        stderr := Report.lines [Report.failureText
          ("loading configuration from " ++ path ++ ": " ++ settingsErrorText e)] }
  | none =>
    match w.settingsOf w.ownSettings? with
    | .ok settings => runCommand w i settings
    | .error e =>
      let outcome := runCommand w i {}
      { outcome with stderr := Report.lines ["Configuration error: " ++ settingsErrorText e,
          "Using default configuration."] ++ outcome.stderr }

/-- Runs the command line with its arguments. -/
def run (w : World) (arguments : List String) : Outcome :=
  match parse (w.environment.lookup rootVariable) arguments with
  | .ok i => runInvocation w i
  | .error .usage => { exit := usageExit, stderr := usageText }
  | .error .help => { exit := 0, stdout := .text usageText }
  | .error .version => { exit := 0, stdout := .text s!"spath {toolVersion}\n" }

end GoAddress.CommandLine
