import GoAddress.Files.Tree

/-!
# Setting up a directory

A directory is set up with a settings file that holds the defaults and explains them, and with an
ignore file. A settings file that is already there is overwritten only by force; an ignore file that
is already there is kept unless force is used.
-/

namespace GoAddress

/-- A file to be written. -/
structure FileWrite where
  /-- Where it goes. -/
  place : Place
  /-- Its text. -/
  text : String

/-- Why a directory could not be set up. -/
inductive InitError where
  | settingsExist
  | file (error : FileError)
deriving DecidableEq, Repr

/-- The wording of the error. -/
def InitError.message : InitError → String
  | .settingsExist => "Configuration file already exists. Use --force to overwrite"
  | .file error => error.message

namespace Init

/-- The directory of the settings file. -/
def settingsDirectory : String := ".spath"

/-- The place of the settings file below a directory. -/
def settingsFile : Place := [settingsDirectory, "settings.toml"]

/-- The place of the ignore file below a directory. -/
def ignoreFile : Place := [".spathignore"]

/-- The settings file with the defaults. -/
def settingsText : String :=
  "# spath configuration file\n\n" ++
  "# Version of the configuration schema\nversion = 1\n\n" ++
  "# Global debug mode (same as --verbose)\ndebug = false\n\n" ++
  "[loader]\n# Load _test.go files\ninclude_tests = false\n\n" ++
  "# Load vendor/ trees; vendored packages are never project packages\n" ++
  "include_vendor = false\n\n" ++
  "# Directory names skipped anywhere in the tree\n" ++
  "exclude_dirs = [\"testdata\", \"node_modules\"]\n\n" ++
  "# Module path used when the root has no go.mod\n" ++
  "# module_path = \"example.com/project\"\n\n" ++
  "[query]\n# Result limit for 'spath list'\ndefault_limit = 100\n\n" ++
  "# Scope expression used when --scope is omitted\ndefault_scope = \"project\"\n\n" ++
  "[dead_code]\n# Treat exported declarations of library packages as entry points\n" ++
  "exported_are_roots = true\n"

/-- The ignore file. -/
def ignoreText : String :=
  "# spath ignore patterns (gitignore syntax)\n#\n" ++
  "# Files and directories listed here are not loaded.\n\n" ++
  "# Generated code\n*.pb.go\n*_gen.go\nzz_generated*.go\n\n" ++
  "# Tool state\n.spath/\n"

/-- A file can be written where no directory stands. -/
def checkWritable (tree : FileTree) (place : Place) : Except InitError Unit :=
  if tree.isDirectory place then .error (.file .isDirectory) else .ok ()

/-- The files that setting up a directory writes, and how it ends. What was written before an error
stays. -/
def plan (tree : FileTree) (directory : Place) (force : Bool) :
    List FileWrite × Except InitError Unit :=
  let settings := directory ++ settingsFile
  let ignore := directory ++ ignoreFile
  if !force && tree.contains settings then ([], .error .settingsExist)
  else if tree.isFile (directory ++ [settingsDirectory]) then ([], .error (.file .alreadyThere))
  else match checkWritable tree settings with
    | .error e => ([], .error e)
    | .ok () =>
      let first : FileWrite := ⟨settings, settingsText⟩
      if !force && tree.contains ignore then ([first], .ok ())
      else match checkWritable tree ignore with
        | .error e => ([first], .error e)
        | .ok () => ([first, ⟨ignore, ignoreText⟩], .ok ())

/-- The tree after files were written. -/
def apply (tree : FileTree) (writes : List FileWrite) : FileTree :=
  writes.foldl (fun tree w => tree.write w.text w.place) tree

end Init

end GoAddress
