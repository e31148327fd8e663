import GoAddress.Reachability
import GoAddress.Report.Envelope
import GoAddress.Report.Grid
import GoAddress.Resolve.Enumerate
import GoAddress.Settings.Basic
import GoAddress.Suggest.Address

/-!
# Commands

The requests of the command line against a loaded program: resolve an address, list addresses,
summarise symbols, look up a name, show a scope, and report dead code.
-/

namespace GoAddress

open Report (Json)

/-- A loaded program, the settings it was loaded with and the remarks made on loading. -/
structure Session where
  /-- The settings. -/
  settings : Settings := {}
  /-- The program and its index. -/
  workspace : Workspace
  /-- Remarks on loading, which go along with every answer. -/
  remarks : List Diagnostic

namespace Session

/-- A session with a program; packages with syntax errors are remarked on. -/
def ofProgram (settings : Settings) (program : Program) : Session :=
  { settings, workspace := .ofProgram program
    remarks := (program.packages.filter (·.hasErrors)).map fun p =>
      .load s!"package {p.path} has syntax errors; its declarations may be incomplete" }

/-- The file and line of a symbol. -/
def locationOf (session : Session) (s : Symbol) : String :=
  session.workspace.program.location s.span

/-- Prints a failed resolution with suggestions. -/
def unresolved (session : Session) (format : OutputFormat) (error : ResolveError)
    (remarks : List Diagnostic) : Printed :=
  Report.failure format (.ofResolve error) (Suggest.forError session.workspace error) remarks

/-- Prints what an address names, with its source if that is asked for. -/
def resolve (session : Session) (format : OutputFormat) (address : String) (withSource : Bool) :
    Printed :=
  let (made, outcome) := session.workspace.resolveText address
  let remarks := session.remarks ++ made
  let program := session.workspace.program
  match outcome with
  | .error error => session.unresolved format error remarks
  | .ok r =>
    let note := r.node.note
    let location := r.location? program
    let source := if withSource then r.source? program else none
    let data := Json.object ([("address", .string r.address), ("kind", .string r.node.kindLabel)] ++
      Json.optional "annotation" .string note ++ [("package", .string r.package.path)] ++
      Json.optional "location" .string location ++ Json.optional "source" .string source)
    let text := r.address ++ " " ++ r.node.kindLabel ++ (note.map (" " ++ ·)).getD "" ++ "\n" ++
      (location.map fun l => "  at " ++ l ++ "\n").getD "" ++
      (source.map fun s => "\n" ++ s ++ "\n").getD ""
    Report.success format data text remarks

/-- An entry as a structured value. -/
def entryJson (e : Entry) : Json :=
  .object ([("path", .string e.path), ("kind", .string e.kind)] ++
    Json.optional "annotation" .string e.note ++
    [("package", .string e.package), ("short_package", .string e.shortPackage)])

/-- Prints the matches of a pattern. -/
def listMatches (format : OutputFormat) (pattern : String) (found : Matches)
    (remarks : List Diagnostic) : Printed :=
  let data := Json.object [("pattern", .string pattern), ("total", .number found.total),
    ("truncated", .bool found.isTruncated), ("entries", .array (found.shown.map entryJson))]
  let summary := if found.isTruncated then
      s!"Showing {found.shown.length} of {found.total} matches (use --limit to see more)"
    else s!"{found.total} matches"
  let text := if found.shown.isEmpty then "" else Report.lines [Grid.entries found.shown, summary]
  if found.total = 0 then
    Report.result format data text .notFound s!"No addresses match '{pattern}'" remarks
  else Report.success format data text remarks

/-- The limit of a list: the one asked for, or that of the settings; zero is none. -/
def limitOf (session : Session) (limit : Option Nat) : Option Nat :=
  let n := limit.getD session.settings.query.defaultLimit
  if n > 0 then some n else none

/-- Answers a request about the packages in scope, or prints what is wrong with the scope. -/
def withScope (session : Session) (format : OutputFormat) (expr : String) (target : Option String)
    (answer : Scope → List Diagnostic → Printed) : Printed :=
  let (made, outcome) := Scope.parse session.workspace.program target expr
  let remarks := session.remarks ++ made
  match outcome with
  | .error e => Report.failure format (.scope e) [] remarks
  | .ok scope => answer scope remarks

/-- Prints the addresses that a pattern matches; a text without wildcards is resolved. -/
def list (session : Session) (format : OutputFormat) (pattern : String) (limit : Option Nat)
    (scope target : Option String) : Printed :=
  if !Pattern.isPattern pattern then session.resolve format pattern false
  else match Pattern.compile pattern with
    | .error e => Report.failure format (.pattern e) [] session.remarks
    | .ok compiled =>
      let finish := fun (entries : List Entry) (remarks : List Diagnostic) =>
        listMatches format pattern (compiled.matchEntries entries (session.limitOf limit)) remarks
      match scope with
      | none => finish session.workspace.entries session.remarks
      | some expr => session.withScope format expr target fun scope =>
        finish (session.workspace.entriesWhere fun p => scope.contains p.path)

/-- A symbol's address, kind and place as a structured value. -/
def symbolJson (session : Session) (s : Symbol) : Json :=
  .object [("address", .string s.address), ("kind", .string s.kind.text),
    ("location", .string (session.locationOf s))]

/-- A symbol's address, kind and place as text. -/
def symbolText (session : Session) (s : Symbol) : String :=
  s.address ++ "  " ++ s.kind.text ++ "  " ++ session.locationOf s

/-- The kinds in the order of summaries. -/
def kindOrder : List Kind :=
  [.func, .method, .type, .interface, .const, .var]

/-- The number of symbols of each kind that occurs. -/
def kindCounts (symbols : List Symbol) : List (String × Nat) :=
  kindOrder.filterMap fun kind =>
    let n := symbols.countP (·.kind == kind)
    if n = 0 then none else some (kind.text, n)

/-- Prints the symbols of the packages in scope, of one kind if that is asked for. -/
def symbols (session : Session) (format : OutputFormat) (scope target : Option String)
    (kind : Option Kind) : Printed :=
  let expr := scope.getD session.settings.query.defaultScope
  session.withScope format expr target fun scope remarks =>
    let packages := scope.packages.filterMap session.workspace.program.package?
    let rows := packages.map fun p =>
      (p, (session.workspace.index.inPackage p.path).filter fun s => kind.all (s.kind == ·))
    let data := Json.object [("scope", .string scope.expression),
      ("packages", .array (rows.map fun (p, symbols) => .object [("package", .string p.path),
        ("short_package", .string p.shortPath),
        ("counts", .object ((kindCounts symbols).map fun (kind, n) => (kind, .number n))),
        ("symbols", .array (symbols.map session.symbolJson))]))]
    let table := Grid.packages (rows.map fun (p, symbols) =>
      (p.path, kindCounts symbols, symbols.length))
    if rows.any (!·.2.isEmpty) then Report.success format data (table ++ "\n") remarks
    else Report.result format data (table ++ "\n") .notFound "No symbols in scope" remarks

/-- Prints every symbol with a name. -/
def lookup (session : Session) (format : OutputFormat) (name : String) : Printed :=
  let found := sortOn (·.address) (session.workspace.index.lookup name)
  if found.isEmpty then
    session.unresolved format (.symbolNotFound Workspace.anyPackage name) session.remarks
  else
    Report.success format
      (.object [("name", .string name), ("candidates", .array (found.map session.symbolJson))])
      (Report.lines (found.map session.symbolText)) session.remarks

/-- The packages that a scope expression selects, and why, as a structured value. -/
def scopeJson (scope : Scope) : Json :=
  .object [("expression", .string scope.expression),
    ("include_patterns", Json.strings scope.includePatterns),
    ("exclude_patterns", Json.strings scope.excludePatterns),
    ("included", Json.strings scope.included), ("excluded", Json.strings scope.excluded),
    ("in_scope", Json.strings scope.packages)]

/-- Prints the packages that a scope expression selects. -/
def scope (session : Session) (format : OutputFormat) (expr : String) (target : Option String) :
    Printed :=
  session.withScope format expr target fun scope remarks =>
    let text := Report.lines ["Scope: " ++ scope.expression,
      Grid.scope scope.included scope.excluded, s!"{scope.packages.length} package(s) in scope"]
    Report.success format (scopeJson scope) text remarks

/-- Prints the dead declarations of the packages in scope. -/
def dead (session : Session) (format : OutputFormat) (scope target : Option String) : Printed :=
  let expr := scope.getD session.settings.query.defaultScope
  session.withScope format expr target fun scope remarks =>
    let w := session.workspace
    let judge := Reachability.verdicts w.program w.index session.settings.deadCode.exportedAreRoots
    let (made, found) := Reachability.deadCode w.index judge scope
    let data := Json.object [("scope", .string scope.expression),
      ("symbols", .array (found.map session.symbolJson))]
    let text := if found.isEmpty then
        Report.lines [Report.successText "No unreachable declarations"]
      else Report.lines (found.map session.symbolText ++
        [s!"{found.length} unreachable declaration(s)"])
    Report.success format data text (remarks ++ made)

end Session

end GoAddress
