import GoAddress.Grammar.Table

/-!
# The automaton of the grammar

A state is a set of items, each with the tokens that can follow its production; it tells which
tokens can come next and what to do with them. States are built when they are first entered and
kept in the automaton. Two states with the same items can be joined into one that allows what
either allows, unless the text would be cut into tokens differently in them.
-/

namespace GoAddress.Grammar

/-- An item with the tokens that can follow its production. -/
structure Goal where
  /-- The number of the item. -/
  item : Nat
  /-- The tokens that can follow. -/
  followers : TokenSet
deriving DecidableEq, Repr

/-- A state of the automaton. -/
structure State where
  /-- The items that the state was entered with, shorter beginnings first. -/
  goals : List Goal
  /-- For each head that can begin here the tokens that can follow it. -/
  heads : Array TokenSet
  /-- The tokens that can be read. -/
  shifts : TokenSet
  /-- The tokens that can come next. -/
  valid : TokenSet

/-- Adds what can begin where the goal stands. -/
def Goal.expand (goal : Goal) (heads : Array TokenSet) : Array TokenSet :=
  match (itemAt goal.item).next with
  | none => heads
  | some symbol =>
    let behind := match (itemAt (goal.item + 1)).next with
      | some next => firstTokens next
      | none => goal.followers
    (atHead firstHeadTable [] symbol).foldl (fun heads (head, reach) =>
      let followers := if reach.reachesEnd then reach.followers.union behind else reach.followers
      heads.modify head (·.union followers)) heads

/-- The followers of a goal whose production ends here. -/
def Goal.ending (goal : Goal) : TokenSet :=
  if (itemAt goal.item).next.isNone then goal.followers else {}

/-- The token behind the place of a goal. -/
def Goal.shift (goal : Goal) : TokenSet :=
  match (itemAt goal.item).next with
  | some (.token t) => .single t
  | _ => {}

/-- The state that is entered with the goals. -/
def State.ofGoals (goals : List Goal) : State :=
  let heads := goals.foldl (fun heads goal => goal.expand heads) (Array.replicate headCount {})
  let opened := (heads.toList.zip openerTable.toList).foldl (fun set (followers, openers) =>
    if followers.isEmpty then set else set.union openers) {}
  let shifts := goals.foldl (fun set goal => set.union goal.shift) opened
  let behindEmpty := emptyItems.foldl (fun set opening =>
    set.union (heads[opening.head]?.getD {})) shifts
  { goals, heads, shifts
    valid := goals.foldl (fun set goal => set.union goal.ending) behindEmpty }

namespace State

/-- The goals whose production ends here, shorter ones first. -/
def endings (s : State) : List Goal :=
  (emptyItems.map fun opening => ⟨opening.item, s.heads[opening.head]?.getD {}⟩) ++
    s.goals.filter fun goal => (itemAt goal.item).next.isNone

/-- The goals behind a symbol. -/
def goalsBehind (s : State) (symbol : Symbol) : List Goal :=
  ((openingTable[symbol.rank]?.getD []).filterMap fun opening =>
    let followers := s.heads[opening.head]?.getD {}
    if followers.isEmpty then none else some ⟨opening.item, followers⟩) ++
    s.goals.filterMap fun goal =>
      if (itemAt goal.item).next = some symbol then some { goal with item := goal.item + 1 }
      else none

end State

/-- What to do with a token. -/
structure Action where
  /-- The productions that may end before the token. -/
  reductions : List Nat
  /-- Whether the token may be read. -/
  shift : Bool
deriving DecidableEq, Repr

/-- What to do with a token. Of the productions that may end before it those on the highest level
do. If it may also be read, the levels of the productions that go on decide, then the grouping;
if these do not decide either, both readings are followed. -/
def State.action (s : State) (t : Token) : Action :=
  let ending := (s.endings.filter (·.followers.contains t)).map fun goal => itemAt goal.item
  match ending.map (·.level) with
  | [] => { reductions := [], shift := s.shifts.contains t }
  | first :: others =>
    let level := others.foldl max first
    let best := ending.filter (·.level == level)
    let reductions := best.map (·.production)
    if !s.shifts.contains t then { reductions, shift := false }
    else
      let going := s.goals.filterMap fun goal =>
        let item := itemAt goal.item
        if (item.next.map fun n => (firstTokens n).contains t) == some true then some item.level
        else none
      let higher := going.any (level < ·)
      let lower := going.any (· < level)
      if higher && !lower then { reductions := [], shift := true }
      else if lower && !higher then { reductions, shift := false }
      else if higher || lower then { reductions, shift := true }
      else if best.all (·.grouping == some .left) then { reductions, shift := false }
      else if best.all (·.grouping == some .right) then { reductions := [], shift := true }
      else { reductions, shift := true }

/-- The tokens that begin with other tokens, and these. -/
def extensions : List (Token × TokenSet) :=
  [(.decrement, .ofList [.minus]), (.increment, .ofList [.plus]),
    (.arrow, .ofList [.less, .leftShift, .lessEqual]), (.bothSigns, .ofList [.amp, .ampCaret]),
    (.ampCaret, .ofList [.amp, .bothSigns]), (.leftShift, .ofList [.less, .arrow])]

/-- Whether a text is cut into tokens alike where the one set or the other is valid: line breaks
are tokens in both or neither, and a token of one set alone does not begin like one of the
other. -/
def cutsAlike (a b : TokenSet) : Bool :=
  a.contains .lineBreak == b.contains .lineBreak && extensions.all fun (long, short) =>
    !(a.contains long && !b.contains long && !(short.inter b).isEmpty) &&
      !(b.contains long && !a.contains long && !(short.inter a).isEmpty)

/-- The tokens that rules are made of. -/
def grammarTokens : List Token :=
  (productions.flatMap fun p => p.steps.filterMap fun step =>
    match step.symbol with
    | .token t => some t
    | _ => none).eraseDups ++ [.endOfText]

/-- Whether two states with the same items agree on what to do with the tokens valid in both. -/
def State.actsAlike (a b : State) : Bool :=
  let changed := (List.zipWith (fun g h => g.ending.difference h.ending) a.goals b.goals).foldl
    TokenSet.union {}
  let both := (a.valid.inter b.valid).inter changed
  both.isEmpty || (both.among grammarTokens).all fun t => a.action t = b.action t

/-- The states built so far. -/
structure Automaton where
  /-- The states by number. -/
  states : Array State := #[]
  /-- The numbers of the states by their goals. -/
  known : List (List Goal × Nat) := []
  /-- The moves found so far, by number of the state. -/
  moves : Array (List (Symbol × Nat)) := #[]

namespace Automaton

/-- The state with the number. -/
def state (a : Automaton) (n : Nat) : State :=
  a.states[n]?.getD (.ofGoals [])

/-- The number of the state that is entered with the goals. -/
def enter (goals : List Goal) : StateM Automaton Nat := do
  let a ← get
  match a.known.lookup goals with
  | some n => return n
  | none =>
    let n := a.states.size
    set ({ states := a.states.push (.ofGoals goals), known := (goals, n) :: a.known
           moves := a.moves.push [] } : Automaton)
    return n

/-- The number of the state behind a symbol. -/
def move (n : Nat) (symbol : Symbol) : StateM Automaton Nat := do
  let a ← get
  match (a.moves[n]?.getD []).lookup symbol with
  | some m => return m
  | none =>
    let m ← enter ((a.state n).goalsBehind symbol)
    modify fun a => { a with moves := a.moves.modify n ((symbol, m) :: ·) }
    return m

/-- The state that allows what either state allows, if they can be joined. -/
def join? (m n : Nat) : StateM Automaton (Option Nat) := do
  if m = n then return some m
  let a ← get
  let s := a.state m
  let t := a.state n
  if s.goals.map (·.item) = t.goals.map (·.item) && cutsAlike s.valid t.valid &&
      s.actsAlike t then
    return some (← enter (List.zipWith (fun g h =>
      { g with followers := g.followers.union h.followers }) s.goals t.goals))
  else return none

end Automaton

/-- The goal of a whole text. -/
def startGoals : List Goal :=
  [⟨0, .single .endOfText⟩]

end GoAddress.Grammar
