import GoAddress.Diagnostic
import GoAddress.Pattern.Basic
import GoAddress.Program.Basic

/-!
# Scope expressions

A scope expression selects packages. Its tokens are separated by commas; a token behind a minus
takes packages away, all others add packages. A package is in scope if some token adds it and none
takes it away, whatever the order of the tokens. A token that selects nothing is remarked on.
-/

namespace GoAddress

/-- Why a text is no scope expression. -/
inductive ScopeError where
  | negatedKeyword (keyword : String)
  | emptyExclusion (token : String)
  | missingDefaultTarget
  | pattern (error : PatternError)
deriving DecidableEq, Repr

/-- The wording of a scope error. -/
def ScopeError.message : ScopeError → String
  | .negatedKeyword keyword => s!"Keyword '{keyword}' cannot be negated"
  | .emptyExclusion token => s!"Scope token '{token}' is empty after '-'"
  | .missingDefaultTarget => "Scope keyword 'package' needs a default target package"
  | .pattern error => error.message

/-- What a scope expression selects. -/
structure Scope where
  /-- The expression without blanks around it. -/
  expression : String
  /-- The tokens that add packages. -/
  includePatterns : List String := []
  /-- The tokens that take packages away, without the minus. -/
  excludePatterns : List String := []
  /-- The import paths that some token adds, sorted. -/
  included : List String := []
  /-- The import paths that some token takes away, sorted. -/
  excluded : List String := []
  /-- The import path of each path relative to the module, last packages first. -/
  aliases : List (String × String) := []
deriving DecidableEq, Repr

/-- One token of an expression. -/
structure ScopeToken where
  /-- The token as written. -/
  raw : String
  /-- Whether it takes packages away. -/
  negated : Bool
  /-- The token without the minus. -/
  text : String
deriving DecidableEq, Repr

namespace Scope

/-- The words with a meaning of their own. -/
def keywords : List String :=
  ["all", "project", "package"]

/-- Reads a token; a minus needs something behind it that is no keyword. -/
def readToken (raw : List Char) : Except ScopeError ScopeToken :=
  match raw with
  | '-' :: rest =>
    let token := String.ofList (Text.trim Text.isBlank rest)
    if token.isEmpty then .error (.emptyExclusion (String.ofList raw))
    else if keywords.contains token then .error (.negatedKeyword token)
    else .ok ⟨String.ofList raw, true, token⟩
  | _ => .ok ⟨String.ofList raw, false, String.ofList raw⟩

/-- The tokens of an expression, as written. -/
def rawTokens (expression : String) : List (List Char) :=
  ((Text.splitOn ',' expression.toList).map (Text.trim Text.isBlank)).filter (!·.isEmpty)

/-- Whether a path is the base or lies below it. -/
def isUnder (base path : List Char) : Bool :=
  match Text.dropPrefix? base path with
  | some [] => true
  | some (c :: _) => c == '/'
  | none => false

/-- Whether a test holds of a package's import path or of its path relative to the module, if that
is not empty. -/
def eitherPath (test : String → Bool) (p : Package) : Bool :=
  test p.path || (!p.shortPath.isEmpty && test p.shortPath)

/-- The import paths of the packages with a property. -/
def pathsWhere (program : Program) (keep : Package → Bool) : List String :=
  (program.packages.filter keep).map (·.path)

/-- The import path of the package that answers to a path. -/
def pathOf (program : Program) (path : String) : List String :=
  ((program.package? path).map (·.path)).toList

/-- What a token that is no keyword selects: packages that match a pattern, packages below a base,
or one package. -/
def selectPlaces (program : Program) (token : List Char) : Except ScopeError (List String) :=
  let text := String.ofList token
  if text == "..." then .ok (pathsWhere program (·.project))
  else if Pattern.isPattern text then
    match Pattern.compile text with
    | .ok pattern => .ok (pathsWhere program (eitherPath pattern.matchesText))
    | .error e => .error (.pattern e)
  else match Text.dropSuffix? "/...".toList token with
    | some base => .ok (pathsWhere program (eitherPath fun path => isUnder base path.toList))
    | none => .ok (pathOf program text)

/-- The import paths that a token selects. A leading `./` says nothing. -/
def select (program : Program) (target : Option String) (token : String) :
    Except ScopeError (List String) :=
  match token with
  | "all" => .ok (pathsWhere program fun _ => true)
  | "project" => .ok (pathsWhere program (·.project))
  | "package" =>
    match target with
    | some path => .ok (pathOf program path)
    | none => .error .missingDefaultTarget
  | _ =>
    let cs := token.toList
    selectPlaces program ((Text.dropPrefix? ['.', '/'] cs).getD cs)

/-- Adds what a token selects. -/
def add (scope : Scope) (token : ScopeToken) (selected : List String) : Scope :=
  if token.negated then
    { scope with excludePatterns := scope.excludePatterns ++ [token.text]
                 excluded := sortedSet (scope.excluded ++ selected) }
  else
    { scope with includePatterns := scope.includePatterns ++ [token.text]
                 included := sortedSet (scope.included ++ selected) }

/-- The expression without blanks around it; a blank one stands for the target package. -/
def expressionOf (expr : String) : String :=
  let trimmed := Text.trimBlanks expr
  if trimmed.isEmpty then "package" else trimmed

/-- The scope before its first token. -/
def start (program : Program) (expression : String) : Scope :=
  { expression
    aliases := ((program.packages.filter (!·.shortPath.isEmpty)).map
      fun p => (p.shortPath, p.path)).reverse }

/-- Reads tokens in order, up to the first that is wrong. -/
def readTokens (program : Program) (target : Option String) :
    Scope → List (List Char) → List Diagnostic × Except ScopeError Scope
  | scope, [] => ([], .ok scope)
  | scope, raw :: rest =>
    match readToken raw with
    | .error e => ([], .error e)
    | .ok token =>
      match select program target token.text with
      | .error e => ([], .error e)
      | .ok selected =>
        let remarks := if selected.isEmpty then [.unmatchedScope token.raw] else []
        let (more, result) := readTokens program target (scope.add token selected) rest
        (remarks ++ more, result)

/-- Reads a scope expression. The word `package` stands for the target. -/
def parse (program : Program) (target : Option String) (expr : String) :
    List Diagnostic × Except ScopeError Scope :=
  let expression := expressionOf expr
  readTokens program target (start program expression) (rawTokens expression)

/-- Whether the package with an import path, or with a path relative to the module, is in scope. -/
def contains (scope : Scope) (package : String) : Bool :=
  let path := (scope.aliases.lookup package).getD package
  scope.included.contains path && !scope.excluded.contains path

/-- The import paths in scope, sorted. -/
def packages (scope : Scope) : List String :=
  scope.included.filter (!scope.excluded.contains ·)

end Scope

end GoAddress
