import GoAddress.Settings.Basic
import GoAddress.Toml.Writer

/-!
# Settings as text

The written form of settings as a TOML document, and as a layer of plain values.
-/

namespace GoAddress.Settings

/-- The written form of a truth value. -/
def boolText (b : Bool) : String :=
  if b then "true" else "false"

/-- The settings as a TOML document. -/
def toToml (s : Settings) : String :=
  String.join [
    s!"version = {s.version}\n", "debug = ", boolText s.debug, "\n\n[loader]\n",
    "include_tests = ", boolText s.loader.includeTests, "\n",
    "include_vendor = ", boolText s.loader.includeVendor, "\n",
    "exclude_dirs = ", Toml.writeStrings s.loader.excludeDirs, "\n",
    match s.loader.modulePath with
      | some path => "module_path = " ++ Toml.writeString path ++ "\n"
      | none => "",
    s!"\n[query]\ndefault_limit = {s.query.defaultLimit}\n",
    "default_scope = ", Toml.writeString s.query.defaultScope, "\n",
    "\n[dead_code]\nexported_are_roots = ", boolText s.deadCode.exportedAreRoots, "\n"]

/-- The settings as a layer. -/
def toEntries (s : Settings) : List (String × SettingValue) :=
  [("version", .integer false s.version), ("debug", .bool s.debug),
    ("loader", .table ([("include_tests", .bool s.loader.includeTests),
      ("include_vendor", .bool s.loader.includeVendor),
      ("exclude_dirs", .array (s.loader.excludeDirs.map .string))] ++
      (s.loader.modulePath.map fun path => ("module_path", SettingValue.string path)).toList)),
    ("query", .table [("default_limit", .integer false s.query.defaultLimit),
      ("default_scope", .string s.query.defaultScope)]),
    ("dead_code", .table [("exported_are_roots", .bool s.deadCode.exportedAreRoots)])]

end GoAddress.Settings
