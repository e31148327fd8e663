import GoAddress.Order

/-!
# Diagnostics

Remarks that go along with an answer: ambiguous names, declarations whose use is unknown, scope
patterns that select nothing, and warnings from loading. They never stop a request.
-/

namespace GoAddress

/-- How grave a remark is. -/
inductive Severity where
  | info | warning | error
deriving DecidableEq, Repr

/-- The written name of a severity. -/
def Severity.text : Severity → String
  | .info => "info"
  | .warning => "warning"
  | .error => "error"

/-- What a remark is about. -/
inductive DiagnosticKind where
  | ambiguousMatch | unanalyzableSymbol | unmatchedScopePattern | loadWarning
deriving DecidableEq, Repr

namespace DiagnosticKind

/-- Every kind of remark. -/
def all : List DiagnosticKind :=
  [ambiguousMatch, unanalyzableSymbol, unmatchedScopePattern, loadWarning]

/-- The written name of a kind. -/
def text : DiagnosticKind → String
  | ambiguousMatch => "ambiguous_match"
  | unanalyzableSymbol => "unanalyzable_symbol"
  | unmatchedScopePattern => "unmatched_scope_pattern"
  | loadWarning => "load_warning"

end DiagnosticKind

/-- A remark that goes along with an answer. -/
structure Diagnostic where
  /-- What it is about. -/
  kind : DiagnosticKind
  /-- How grave it is. -/
  severity : Severity
  /-- The wording. -/
  message : String
  /-- The declarations in question. -/
  candidates : List String := []
deriving DecidableEq, Repr

namespace Diagnostic

/-- Several declarations answer to one name; they are listed in order, each once. -/
def ambiguous (name : String) (candidates : List String) : Diagnostic :=
  let listed := sortedSet candidates
  { kind := .ambiguousMatch, severity := .warning
    message := s!"'{name}' matches {listed.length} declarations", candidates := listed }

/-- Whether a declaration is used could not be found out. -/
def unanalyzable (address reason : String) : Diagnostic :=
  { kind := .unanalyzableSymbol, severity := .warning
    message := s!"reachability of '{address}' could not be determined: {reason}" }

/-- A token of a scope expression selects no package. -/
def unmatchedScope (pattern : String) : Diagnostic :=
  { kind := .unmatchedScopePattern, severity := .warning
    message := s!"scope pattern '{pattern}' matched no packages" }

/-- Something went wrong while loading. -/
def load (message : String) : Diagnostic :=
  { kind := .loadWarning, severity := .info, message }

/-- The remark as text: its severity and wording, then a line for each candidate. -/
def text (d : Diagnostic) : String :=
  d.severity.text ++ ": " ++ d.message ++ String.join (d.candidates.map ("\n  - " ++ ·))

end Diagnostic

end GoAddress
