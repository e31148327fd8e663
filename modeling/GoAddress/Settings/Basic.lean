/-!
# Settings

The options that requests are answered with, and their defaults.
-/

namespace GoAddress

/-- Options for loading programs. -/
structure LoaderSettings where
  /-- Whether test files are loaded. -/
  includeTests : Bool := false
  /-- Whether packages below `vendor` are loaded. -/
  includeVendor : Bool := false
  /-- The names of directories that are skipped anywhere. -/
  excludeDirs : List String := ["testdata", "node_modules"]
  /-- The import path of the module where no module file says it. -/
  modulePath : Option String := none
deriving DecidableEq, Repr

/-- Options for queries. -/
structure QuerySettings where
  /-- The number of matches shown where a request gives none. -/
  defaultLimit : Nat := 100
  /-- The scope where a request gives none. -/
  defaultScope : String := "project"
deriving DecidableEq, Repr

/-- Options for the search for dead code. -/
structure DeadCodeSettings where
  /-- Whether exported names of library packages are entry points. -/
  exportedAreRoots : Bool := true
deriving DecidableEq, Repr

/-- All options. -/
structure Settings where
  /-- The version of the layout of the settings. -/
  version : Nat := 1
  /-- Whether details are logged. -/
  debug : Bool := false
  /-- Options for loading. -/
  loader : LoaderSettings := {}
  /-- Options for queries. -/
  query : QuerySettings := {}
  /-- Options for the search for dead code. -/
  deadCode : DeadCodeSettings := {}
deriving DecidableEq, Repr

end GoAddress
