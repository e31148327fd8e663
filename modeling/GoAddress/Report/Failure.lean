import GoAddress.Program.Load
import GoAddress.Resolve.Children
import GoAddress.Scope

/-!
# Failures and exit codes

Every reason for which a request can fail, with its wording, a stable code for programs, advice
for people, and the exit code of the command line.
-/

namespace GoAddress

/-- The exit codes of the command line. -/
inductive ExitCode where
  | success | generalError | notFound | parseError | ioError | configError | invalidPattern
deriving DecidableEq, Repr

namespace ExitCode

/-- The number of an exit code. -/
def number : ExitCode → Nat
  | success => 0
  | generalError => 1
  | notFound => 3
  | parseError => 4
  | ioError => 5
  | configError => 6
  | invalidPattern => 8

/-- An exit code in words. -/
def description : ExitCode → String
  | success => "Success"
  | generalError => "General error"
  | notFound => "Not found"
  | parseError => "Parse error"
  | ioError => "I/O error"
  | configError => "Configuration error"
  | invalidPattern => "Invalid pattern"

/-- Whether the request succeeded. -/
def isSuccess : ExitCode → Bool
  | success => true
  | _ => false

/-- The words of an exit code as a stable code. -/
def token (code : ExitCode) : String :=
  String.ofList (code.description.toList.map fun c =>
    if c = ' ' || c = '/' then '_' else c.toUpper)

end ExitCode

/-- Why a request failed. -/
inductive Failure where
  | parse (error : AddressError)
  | pattern (error : PatternError)
  | resolve (error : ResolveError)
  | scope (error : ScopeError)
  | load (error : LoadError)
  | config (reason : String)
  | general (message : String)
deriving DecidableEq, Repr

namespace Failure

/-- The failure of a resolution; a malformed address counts as such. -/
def ofResolve : ResolveError → Failure
  | .parse error => .parse error
  | error => .resolve error

/-- The wording of a failure. -/
def message : Failure → String
  | parse error => error.message
  | pattern error => error.message
  | resolve error => error.message
  | scope error => error.message
  | load error => error.message
  | config reason => s!"Invalid configuration: {reason}"
  | general message => message

/-- The stable code of a failure. -/
def statusCode : Failure → String
  | parse _ => "PARSE_ERROR"
  | pattern _ => "INVALID_PATTERN"
  | resolve (.packageNotFound _) => "PACKAGE_NOT_FOUND"
  | resolve (.symbolNotFound ..) | resolve (.methodNotFound ..) => "SYMBOL_NOT_FOUND"
  | resolve (.ambiguous ..) => "AMBIGUOUS_MATCH"
  | resolve _ => "RESOLUTION_ERROR"
  | scope _ => "SCOPE_ERROR"
  | load (.io ..) => "IO_ERROR"
  | load _ => "LOAD_ERROR"
  | config _ => "CONFIG_ERROR"
  | general _ => "GENERAL_ERROR"

/-- Advice after a failure. -/
def advice : Failure → List String
  | parse _ =>
    ["Addresses look like pkg.Symbol, pkg.Type.Method or pkg.Symbol/category[selector]",
      "Selectors are identifiers or zero-based indexes, e.g. params[0]"]
  | pattern _ =>
    ["'*' matches within one segment, '**' crosses '.', '/' and brackets",
      "Use at most two consecutive '*'"]
  | resolve (.packageNotFound _) =>
    ["Use the full import path or the module-relative path",
      "Run 'spath list \"**\" --limit 20' to see available addresses"]
  | resolve (.symbolNotFound ..) | resolve (.methodNotFound ..) =>
    ["Run 'spath lookup <name>' to find the symbol in other packages"]
  | resolve (.ambiguous ..) => ["Retry with one of the qualified candidates"]
  | resolve _ => ["Run 'spath list \"<address>/**\"' to see valid children"]
  | scope _ =>
    ["Scope expressions are comma-separated: all, project, package, pkg/..., -excluded"]
  | load (.noPackages _) =>
    ["Point --root at a directory containing .go files",
      "Check loader.exclude_dirs in .spath/settings.toml"]
  | load _ => ["Check that the files exist and are readable"]
  | config _ => ["Run 'spath init --force' to regenerate settings"]
  | general _ => []

/-- The exit code of a failure. -/
def exitCode : Failure → ExitCode
  | resolve _ => .notFound
  | parse _ => .parseError
  | pattern _ | scope _ => .invalidPattern
  | load (.io ..) => .ioError
  | load (.noPackages _) => .notFound
  | config _ => .configError
  | load _ | general _ => .generalError

/-- The longest beginning of an address that names something. -/
def partial? : Failure → Option String
  | resolve error => error.partial?
  | _ => none

end Failure

end GoAddress
