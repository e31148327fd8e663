import GoAddress.Grammar.Vocabulary

/-!
# Grammar rules

A rule says how the phrases of a category are put together. Beside sequence, choice and repetition
it can settle how operators bind: a level and a grouping decide between reading on and ending a
phrase, and a weight decides between two readings of one text.
-/

namespace GoAddress.Grammar

/-- How operators of one level group. -/
inductive Grouping where
  | left
  | right
deriving DecidableEq, Repr

/-- How phrases are put together. -/
inductive Rule where
  /-- One symbol. -/
  | symbol (s : Symbol)
  /-- Nothing. -/
  | empty
  /-- One rule after the other. -/
  | both (first second : Rule)
  /-- Either of two rules. -/
  | either (first second : Rule)
  /-- A rule once or more often. -/
  | many (body : Rule)
  /-- A rule whose symbols play a role in the phrase. -/
  | role (r : Role) (body : Rule)
  /-- A rule whose symbols go by another name here. -/
  | named (name : Symbol) (body : Rule)
  /-- A rule that binds on a level. -/
  | level (n : Int) (grouping : Option Grouping) (body : Rule)
  /-- A rule whose reading counts more or less than others. -/
  | weight (w : Int) (body : Rule)
deriving DecidableEq, Repr

namespace Rule

instance : Coe Token Rule := ⟨fun t => symbol (.token t)⟩

instance : Coe Category Rule := ⟨fun c => symbol (.category c)⟩

/-- All the rules in turn. -/
def seq : List Rule → Rule
  | [] => empty
  | [rule] => rule
  | rule :: more => both rule (seq more)

/-- One of the rules. -/
def choice : List Rule → Rule
  | [] => empty
  | [rule] => rule
  | rule :: more => either rule (choice more)

/-- The rule or nothing. -/
def optional (rule : Rule) : Rule :=
  either rule empty

/-- The rule any number of times. -/
def any (rule : Rule) : Rule :=
  optional (many rule)

/-- The rule once or more often, with a separator between. -/
def separated (separator rule : Rule) : Rule :=
  both rule (any (both separator rule))

/-- The rule once or more often, with commas between. -/
def commaList (rule : Rule) : Rule :=
  separated Token.comma rule

end Rule

end GoAddress.Grammar
