import GoAddress.Grammar.Rules

/-!
# Productions

The rules are spread out into productions: a category and the steps that make up one of its
phrases. A repetition becomes a symbol of its own, which stands for one round, or for itself and
one more round; equal repetitions share their symbol. Choices are multiplied out.
-/

namespace GoAddress.Grammar

/-- One symbol of a production. -/
structure Step where
  /-- The symbol. -/
  symbol : Symbol
  /-- The level that holds behind it. -/
  level : Int := 0
  /-- The grouping that holds behind it. -/
  grouping : Option Grouping := none
  /-- The other name that it goes by. -/
  name : Option Symbol := none
  /-- The role that it plays. -/
  role : Option Role := none
deriving DecidableEq, Repr

/-- A way to make a phrase. -/
structure Production where
  /-- What it makes. -/
  head : Symbol
  /-- What it is made of. -/
  steps : List Step
  /-- How much the reading counts. -/
  weight : Int := 0
deriving DecidableEq, Repr

namespace Rule

/-- The rule with symbols in place of repetitions; the state lists the repeated rules. -/
def unroll : Rule → StateM (List Rule) Rule
  | symbol s => return symbol s
  | empty => return empty
  | both first second => return both (← first.unroll) (← second.unroll)
  | either first second => return either (← first.unroll) (← second.unroll)
  | many body => do
    let body ← body.unroll
    let seen ← get
    match seen.idxOf? body with
    | some n => return symbol (.repetition n)
    | none =>
      set (seen ++ [body])
      return symbol (.repetition seen.length)
  | role r body => return role r (← body.unroll)
  | named name body => return named name (← body.unroll)
  | level n grouping body => return level n grouping (← body.unroll)
  | weight w body => return weight w (← body.unroll)

/-- The rules without choices that together say the same. -/
def alternatives : Rule → List Rule
  | both first second =>
    first.alternatives.flatMap fun a => second.alternatives.map fun b => both a b
  | either first second => first.alternatives ++ second.alternatives
  | role r body => body.alternatives.map (role r)
  | named name body => body.alternatives.map (named name)
  | level n grouping body => body.alternatives.map (level n grouping)
  | weight w body => body.alternatives.map (weight w)
  | symbol s => [symbol s]
  | empty => [empty]
  | many body => [many body]

/-- Steps whose last one has the level, and the grouping if there is one to set back. -/
def endAt (n : Int) (grouping : Option (Option Grouping)) : List Step → List Step
  | [] => []
  | [step] => [{ step with level := n, grouping := grouping.getD step.grouping }]
  | step :: more => step :: endAt n grouping more

/-- The steps of a rule without choices and repetitions. The levels around it hold for its symbols;
they end behind its last symbol unless it is the end of the whole rule. -/
def steps (around : Step) (isLast : Bool) : Rule → List Step
  | symbol s => [{ around with symbol := s }]
  | both first second => first.steps around false ++ second.steps around isLast
  | role r body => body.steps { around with role := some r } isLast
  | named name body => body.steps { around with name := some name } isLast
  | level n grouping body =>
    let found := body.steps { around with level := n, grouping := grouping <|> around.grouping }
      isLast
    if isLast then found else endAt around.level (grouping.map fun _ => around.grouping) found
  | weight _ body => body.steps around isLast
  | empty | either _ _ | many _ => []

/-- The weight that decides for a rule: the greatest in either direction. -/
def totalWeight : Rule → Int
  | both first second =>
    if first.totalWeight.natAbs < second.totalWeight.natAbs then second.totalWeight
    else first.totalWeight
  | weight w body => if w.natAbs < body.totalWeight.natAbs then body.totalWeight else w
  | role _ body | named _ body | level _ _ body => body.totalWeight
  | symbol _ | empty | either _ _ | many _ => 0

/-- The productions of a symbol with the rule. -/
def productions (head : Symbol) (rule : Rule) : List Production :=
  (rule.alternatives.map fun r =>
    { head, steps := r.steps { symbol := head } true, weight := r.totalWeight }).eraseDups

end Rule

/-- The rules of the categories without repetitions, and what is repeated in them. -/
def unrolledRules : List (Symbol × Rule) × List Rule :=
  (categories.mapM fun c => do return (Symbol.category c, ← (rule c).unroll)).run []

/-- The rule of each repetition: one round, or the repetition and one more round. -/
def repetitionRules : List (Symbol × Rule) :=
  unrolledRules.2.zipIdx.map fun (body, n) =>
    (.repetition n, .either (.both (.symbol (.repetition n)) body) body)

/-- The number of symbols that productions make. -/
def headCount : Nat :=
  Category.ruleCount + repetitionRules.length

/-- What a whole text is: a source file. -/
def wholeText : Production :=
  { head := .token .endOfText, steps := [{ symbol := .category .sourceFile }] }

/-- All productions: the whole text, the categories in order, the repetitions. -/
def productions : List Production :=
  wholeText :: (unrolledRules.1 ++ repetitionRules).flatMap fun (head, rule) =>
    rule.productions head

end GoAddress.Grammar
