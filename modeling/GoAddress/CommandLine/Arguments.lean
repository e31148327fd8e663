import GoAddress.Decl.Span
import GoAddress.Text.Split

/-!
# Arguments of the command line

Options for all commands stand before or behind the command; options of a command stand behind it.
An option is given once at each of the two places, and behind the command it goes before. A text
that starts with a minus is a value only where it is attached to its option, or behind `--`.
-/

namespace GoAddress.CommandLine

/-- What is asked for. -/
inductive Command where
  | resolve (address : String) (source : Bool)
  | list (pattern : String) (limit : Option Nat) (scope target : Option String)
  | symbols (scope target : Option String) (kind : Option Kind)
  | lookup (name : String)
  | scope (expression : String) (target : Option String)
  | dead (scope target : Option String)
  | init (force : Bool)
  | config
deriving DecidableEq, Repr

/-- A command with the options for all commands. -/
structure Invocation where
  /-- The directory to load. -/
  root : String
  /-- The settings file. -/
  config : Option String := none
  /-- Whether answers are envelopes. -/
  json : Bool := false
  /-- Whether details are logged. -/
  verbose : Bool := false
  /-- The command. -/
  command : Command
deriving DecidableEq, Repr

/-- Why there is no command to run. -/
inductive Stop where
  | usage | help | version
deriving DecidableEq, Repr

/-- What the value of an option has to be. -/
inductive ValueRule where
  | text | path | number | kind
deriving DecidableEq, Repr

/-- An option: with a value, or none. -/
structure OptionRule where
  /-- The name behind two minus signs. -/
  long : String
  /-- The letter behind one. -/
  short : Option Char := none
  /-- What its value has to be, if it has one. -/
  value : Option ValueRule := none

/-- The options for all commands. -/
def globalOptions : List OptionRule :=
  [⟨"root", some 'r', some .path⟩, ⟨"config", some 'c', some .path⟩, ⟨"json", none, none⟩,
    ⟨"verbose", some 'v', none⟩, ⟨"help", some 'h', none⟩]

/-- The option that asks for the version. -/
def versionOption : OptionRule := ⟨"version", some 'V', none⟩

/-- A number that fits in 64 bits; a plus may stand before it. -/
def number? (s : String) : Option Nat :=
  let digits := match s.toList with
    | '+' :: rest => rest
    | cs => cs
  let n := digits.foldl (fun n c => n * 10 + (c.toNat - '0'.toNat)) 0
  if !digits.isEmpty && digits.all Char.isDigit && n < Nat.pow 2 64 then some n else none

/-- Whether a text is a value of the kind. -/
def ValueRule.admits : ValueRule → String → Bool
  | .text, _ => true
  | .path, s => !s.isEmpty
  | .number, s => (number? s).isSome
  | .kind, s => (Kind.ofText? s).isSome

/-- The arguments at one place: options by name with their values, and the other texts. -/
structure Given where
  /-- The options, each once. -/
  options : List (String × String) := []
  /-- The texts that belong to no option. -/
  texts : List String := []

/-- The value of an option. -/
def Given.value? (g : Given) (name : String) : Option String :=
  g.options.lookup name

/-- Whether an option was given. -/
def Given.has (g : Given) (name : String) : Bool :=
  (g.value? name).isSome

/-- Adds an option without value. Help and version stop the reading. -/
def addFlag (g : Given) (rule : OptionRule) : Except Stop Given :=
  if rule.value.isSome || g.has rule.long then .error .usage
  else if rule.long == "help" then .error .help
  else if rule.long == versionOption.long then .error .version
  else .ok { g with options := g.options ++ [(rule.long, "")] }

/-- Adds an option with its value. -/
def addValue (g : Given) (rule : OptionRule) (value : String) : Except Stop Given :=
  match rule.value with
  | none => .error .usage
  | some expected =>
    if g.has rule.long || !expected.admits value then .error .usage
    else .ok { g with options := g.options ++ [(rule.long, value)] }

/-- Whether a text can be the value of the option before it. -/
def canFollow (s : String) : Bool :=
  s == "-" || s.toList.head? != some '-'

/-- The letters of an argument with one minus: options without value, up to one with a value, which
is attached or comes next. The option that waits for its value is given back. -/
def readLetters (rules : List OptionRule) :
    Given → List Char → Except Stop (Given × Option OptionRule)
  | g, [] => .ok (g, none)
  | g, c :: rest =>
    match rules.find? (·.short == some c) with
    | none => .error .usage
    | some rule =>
      if rule.value.isNone then
        match addFlag g rule with
        | .error e => .error e
        | .ok g => readLetters rules g rest
      else if rest.isEmpty then .ok (g, some rule)
      else
        let value := match rest with
          | '=' :: value => value
          | value => value
        (addValue g rule (String.ofList value)).map fun g => (g, none)

/-- An argument with two minus signs. -/
def readLong (rules : List OptionRule) (g : Given) (cs : List Char) :
    Except Stop (Given × Option OptionRule) :=
  let name := String.ofList (cs.takeWhile (· != '='))
  match rules.find? (·.long == name), cs.dropWhile (· != '=') with
  | none, _ => .error .usage
  | some rule, '=' :: value => (addValue g rule (String.ofList value)).map fun g => (g, none)
  | some rule, _ =>
    if rule.value.isSome then .ok (g, some rule) else (addFlag g rule).map fun g => (g, none)

/-- An argument that starts with a minus and is more than that. -/
def readOption (rules : List OptionRule) (g : Given) (argument : List Char) :
    Except Stop (Given × Option OptionRule) :=
  match argument with
  | '-' :: '-' :: name => readLong rules g name
  | _ => readLetters rules g (argument.drop 1)

/-- Reads arguments behind a command: `limit` texts at most belong to no option, and `waiting` is
the option whose value comes next. -/
def readArguments (rules : List OptionRule) (limit : Nat) :
    Given → (waiting : Option OptionRule) → List String → Except Stop Given
  | g, none, [] => .ok g
  | _, some _, [] => .error .usage
  | g, some rule, argument :: rest =>
    if canFollow argument then
      match addValue g rule argument with
      | .error e => .error e
      | .ok g => readArguments rules limit g none rest
    else .error .usage
  | g, none, argument :: rest =>
    if argument == "--" then
      if g.texts.length + rest.length ≤ limit then .ok { g with texts := g.texts ++ rest }
      else .error .usage
    else if canFollow argument then
      if g.texts.length < limit then
        readArguments rules limit { g with texts := g.texts ++ [argument] } none rest
      else .error .usage
    else match readOption rules g argument.toList with
      | .error e => .error e
      | .ok (g, waiting) => readArguments rules limit g waiting rest

/-- Reads arguments before the command: the options, the command's name and what follows it. -/
def readLeading (rules : List OptionRule) :
    Given → (waiting : Option OptionRule) → List String →
      Except Stop (Given × String × List String)
  | _, _, [] => .error .usage
  | g, some rule, argument :: rest =>
    if canFollow argument then
      match addValue g rule argument with
      | .error e => .error e
      | .ok g => readLeading rules g none rest
    else .error .usage
  | g, none, argument :: rest =>
    if argument == "--" then .error .usage
    else if canFollow argument then .ok (g, argument, rest)
    else match readOption rules g argument.toList with
      | .error e => .error e
      | .ok (g, waiting) => readLeading rules g waiting rest

/-! ### Commands -/

/-- The option that restricts packages. -/
def scopeOption : OptionRule := ⟨"scope", some 's', some .text⟩

/-- The option that names the package of the word `package`. -/
def targetOption : OptionRule := ⟨"target", some 't', some .text⟩

/-- How a command is read: its options, the number of its texts, and what it means. -/
structure CommandRule where
  /-- The name. -/
  name : String
  /-- The options of its own. -/
  options : List OptionRule := []
  /-- The number of texts it needs. -/
  texts : Nat := 0
  /-- The command with its arguments. -/
  make : Given → (text : String) → Command

/-- All commands. -/
def commandRules : List CommandRule :=
  [ { name := "resolve", options := [⟨"source", some 's', none⟩], texts := 1
      make := fun g text => .resolve text (g.has "source") },
    { name := "list", texts := 1
      options := [⟨"limit", some 'l', some .number⟩, scopeOption, targetOption]
      make := fun g text =>
        .list text ((g.value? "limit").bind number?) (g.value? "scope") (g.value? "target") },
    { name := "symbols", options := [scopeOption, targetOption, ⟨"kind", some 'k', some .kind⟩]
      make := fun g _ =>
        .symbols (g.value? "scope") (g.value? "target") ((g.value? "kind").bind Kind.ofText?) },
    { name := "lookup", texts := 1, make := fun _ text => .lookup text },
    { name := "scope", options := [targetOption], texts := 1
      make := fun g text => .scope text (g.value? "target") },
    { name := "dead", options := [scopeOption, targetOption]
      make := fun g _ => .dead (g.value? "scope") (g.value? "target") },
    { name := "init", options := [⟨"force", some 'f', none⟩]
      make := fun g _ => .init (g.has "force") },
    { name := "config", make := fun _ _ => .config } ]

/-- Reads the arguments of the command line. The directory to load comes from the arguments, else
from the environment, else it is the current one. -/
def parse (rootVariable : Option String) (arguments : List String) : Except Stop Invocation := do
  let (before, name, rest) ← readLeading (globalOptions ++ [versionOption]) {} none arguments
  match commandRules.find? (·.name == name) with
  | none => if name == "help" then throw .help else throw .usage
  | some rule =>
    let behind ← readArguments (rule.options ++ globalOptions) rule.texts {} none rest
    if behind.texts.length < rule.texts || rootVariable == some "" then throw .usage
    let either := fun (name : String) => (behind.value? name).or (before.value? name)
    return { root := ((either "root").or rootVariable).getD "."
             config := either "config"
             json := (either "json").isSome
             verbose := (either "verbose").isSome
             command := rule.make behind (behind.texts.head?.getD "") }

end GoAddress.CommandLine
