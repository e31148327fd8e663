import GoAddress.Settings.Environment
import GoAddress.Settings.Printer
import GoAddress.Toml.Reader

/-!
# Loading settings

Settings are made from three layers: the defaults, the settings file, and the environment. The
merged layers are then read field by field, in the order of the keys; keys that name no setting
are passed over.
-/

namespace GoAddress

/-- What is wrong with settings. -/
inductive SettingsFault where
  | invalidType (found expected : String)
  | invalidValue (found expected : String)
  | invalidLength (length : Nat) (expected : String)
  /-- The file is malformed. -/
  | malformed
deriving DecidableEq, Repr

/-- Why settings could not be loaded, and at which key. -/
structure SettingsError where
  /-- The fault. -/
  fault : SettingsFault
  /-- The key, part by part; the positions in an array are parts as well. -/
  key : List String := []
deriving DecidableEq, Repr

/-- The wording of a fault. A malformed file has none of its own. -/
def SettingsFault.message : SettingsFault → String
  | invalidType found expected => s!"invalid type: found {found}, expected {expected}"
  | invalidValue found expected => s!"invalid value {found}, expected {expected}"
  | invalidLength length expected => s!"invalid length {length}, expected {expected}"
  | malformed => ""

/-- The key with dots between its parts. -/
def SettingsError.keyText (e : SettingsError) : String :=
  Text.joinStrings "." e.key

namespace Settings

/-- What reading a value gives. -/
abbrev Read (α : Type) := Except SettingsError α

/-- An error about a value of the wrong type. -/
def wrongType {α : Type} (v : SettingValue) (expected : String) : Read α :=
  .error { fault := .invalidType v.description expected }

/-- An error below a key is an error at the longer key. -/
def below {α : Type} (key : String) (r : Read α) : Read α :=
  match r with
  | .ok a => .ok a
  | .error e => .error { e with key := key :: e.key }

/-- Reads a truth value. -/
def readBool : SettingValue → Read Bool
  | .bool b => .ok b
  | v => wrongType v "a boolean"

/-- Reads a text. -/
def readText : SettingValue → Read String
  | .string s => .ok s
  | v => wrongType v "a string"

/-- Reads a number that is not negative and has so many bits. -/
def readNumber (bits : Nat) (expected : String) : SettingValue → Read Nat
  | .integer signed n =>
    if 0 ≤ n ∧ n.toNat < Nat.pow 2 bits then .ok n.toNat
    else .error { fault := .invalidValue (SettingValue.integer signed n).description expected }
  | v => wrongType v expected

/-- Reads items from a position on. -/
def readItemsFrom {α : Type} (read : SettingValue → Read α) :
    (position : Nat) → List SettingValue → Read (List α)
  | _, [] => .ok []
  | position, v :: rest => do
    let x ← below (toString position) (read v)
    let xs ← readItemsFrom read (position + 1) rest
    return x :: xs

/-- Reads an array of texts. -/
def readTexts : SettingValue → Read (List String)
  | .array items => readItemsFrom readText 0 items
  | v => wrongType v "a sequence"

/-- Reads the value of a key; the default where there is none. -/
def readKey {α : Type} (entries : List (String × SettingValue)) (key : String)
    (read : SettingValue → Read α) (default : α) : Read α :=
  match entries.lookup key with
  | some v => below key (read v)
  | none => .ok default

/-- Reads the value at a position; the default where there is none. -/
def readPosition {α : Type} (items : List SettingValue) (position : Nat)
    (read : SettingValue → Read α) (default : α) : Read α :=
  match items[position]? with
  | some v => below (toString position) (read v)
  | none => .ok default

/-- Reads the options for loading. As an array it needs all four of them. -/
def readLoader : SettingValue → Read LoaderSettings
  | .table entries => do
    let d : LoaderSettings := {}
    let excludeDirs ← readKey entries "exclude_dirs" readTexts d.excludeDirs
    let includeTests ← readKey entries "include_tests" readBool d.includeTests
    let includeVendor ← readKey entries "include_vendor" readBool d.includeVendor
    let modulePath ← readKey entries "module_path" (fun v => some <$> readText v) none
    return { includeTests, includeVendor, excludeDirs, modulePath }
  | .array items => do
    let d : LoaderSettings := {}
    let includeTests ← readPosition items 0 readBool d.includeTests
    let includeVendor ← readPosition items 1 readBool d.includeVendor
    let excludeDirs ← readPosition items 2 readTexts d.excludeDirs
    if items.length < 4 then
      .error { fault := .invalidLength 3 "struct LoaderConfig with 4 elements" }
    else
      let modulePath ← readPosition items 3 (fun v => some <$> readText v) none
      return { includeTests, includeVendor, excludeDirs, modulePath }
  | v => wrongType v "struct LoaderConfig"

/-- Reads the options for queries. -/
def readQuery : SettingValue → Read QuerySettings
  | .table entries => do
    let d : QuerySettings := {}
    let defaultLimit ← readKey entries "default_limit" (readNumber 64 "usize") d.defaultLimit
    let defaultScope ← readKey entries "default_scope" readText d.defaultScope
    return { defaultLimit, defaultScope }
  | .array items => do
    let d : QuerySettings := {}
    let defaultLimit ← readPosition items 0 (readNumber 64 "usize") d.defaultLimit
    let defaultScope ← readPosition items 1 readText d.defaultScope
    return { defaultLimit, defaultScope }
  | v => wrongType v "struct QueryConfig"

/-- Reads the options for the search for dead code. -/
def readDeadCode : SettingValue → Read DeadCodeSettings
  | .table entries => do
    let d : DeadCodeSettings := {}
    let exportedAreRoots ← readKey entries "exported_are_roots" readBool d.exportedAreRoots
    return { exportedAreRoots }
  | .array items => do
    let d : DeadCodeSettings := {}
    let exportedAreRoots ← readPosition items 0 readBool d.exportedAreRoots
    return { exportedAreRoots }
  | v => wrongType v "struct DeadCodeConfig"

/-- Reads all settings. -/
def ofValue : SettingValue → Read Settings
  | .table entries => do
    let d : Settings := {}
    let deadCode ← readKey entries "dead_code" readDeadCode d.deadCode
    let debug ← readKey entries "debug" readBool d.debug
    let loader ← readKey entries "loader" readLoader d.loader
    let query ← readKey entries "query" readQuery d.query
    let version ← readKey entries "version" (readNumber 32 "u32") d.version
    return { version, debug, loader, query, deadCode }
  | v => wrongType v "struct Settings"

/-- Loads settings from the text of the settings file, if there is one, and the environment. -/
def load (file : Option String) (environment : List (String × String)) : Read Settings :=
  let defaults : SettingValue := .table (toEntries {})
  let last := Environment.layer environment
  match file with
  | none => ofValue (defaults.merge last)
  | some text =>
    match Toml.parse? text with
    | none => .error { fault := .malformed }
    | some entries => ofValue ((defaults.merge (.table entries)).merge last)

end Settings

end GoAddress
