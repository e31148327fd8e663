import GoAddress.Source.Lexer
import GoAddress.Source.Stack

/-!
# Reading a source file

The readings of a text take turns. One that can go on in several ways is split; readings that meet
are joined, and the better trees are kept. A reading that the next token does not fit is given up
as long as another one goes on. If none does, the text is no source file.
-/

namespace GoAddress.Source

open Grammar

namespace Stack

/-- The reading with the number. -/
def version (s : Stack) (v : Nat) : Version :=
  s.versions[v]?.getD { top := 0, status := .replaced }

/-- The state of a reading. -/
def stateOf (s : Stack) (v : Version) : State :=
  s.automaton.state (s.frame v.top).state

/-- Changes the reading with the number. -/
def setVersion (v : Nat) (version : Version) : StateM Stack Unit :=
  modify fun s => { s with versions := s.versions.set v version }

/-- Sets the status of the reading with the number. -/
def setStatus (v : Nat) (status : Status) : StateM Stack Unit :=
  modify fun s => { s with versions := s.versions.modify v fun version => { version with status } }

/-- Joins a reading into the first of the others that it can be joined with, if there is one. -/
def mergeInto (version : Version) : List Version → StateM Stack Bool
  | [] => return false
  | other :: more => do
    if ← merge other version then return true else mergeInto version more

/-- Splits trees into what comes before the comments at their end, and these. -/
def splitComments (trees : List Tree) : List Tree × List Tree :=
  let comments := trees.reverse.takeWhile Tree.isComment
  (trees.take (trees.length - comments.length), comments.reverse)

/-- The use of a production for the trees of a path, and the comments behind it. -/
def usePath (production : Nat) (before : Cursor) (trees : List Tree) : Tree × List Tree :=
  let (parts, comments) := splitComments trees
  (Tree.ofParts production before parts, comments)

/-- Follows the use of a production down to one frame: the best tree is put on it, with the
comments behind the tree, and the reading joins another one or becomes a new one. -/
def reduceTo (v production base : Nat) (paths : List Path) : StateM Stack Unit := do
  let s ← get
  let replaced := s.versions.countP (·.status = .replaced)
  if maxVersions + versionOverflow + replaced < s.versions.length then return ()
  match paths.map fun p => usePath production (s.frame base).cursor p.trees with
  | [] => return ()
  | first :: others =>
    let (tree, comments) := Tree.best first others
    let state ← withAutomaton (Automaton.move (s.frame base).state tree.symbol)
    let mut top ← push base state tree
    for comment in comments do
      top ← push top state comment
    let version : Version := { top }
    unless ← mergeInto version (s.versions.eraseIdx v) do
      modify fun s => { s with versions := s.versions ++ [version] }

/-- Uses a production at the top of the reading, and tells the number of the first new reading. -/
def reduce (v production : Nat) : StateM Stack (Option Nat) := do
  let s ← get
  let length := (productionAt production).steps.length
  let paths := s.pathsDown length (s.frames.size + 1) [{ frame := (s.version v).top }]
  for (base, paths) in groupByFrame paths do
    reduceTo v production base paths
  return if s.versions.length < (← get).versions.length then some s.versions.length else none

/-- Takes the whole text as read by the reading, if no better one has been found. -/
def accept (v : Nat) : StateM Stack Unit := do
  let s ← get
  for trees in s.wholePaths (s.frames.size + 1) (s.version v).top [] do
    modify fun s => { s with finished := match s.finished with
      | none => some trees
      | some found =>
        let before := Tree.totalWeight found
        let now := Tree.totalWeight trees
        if before < now || (before == now && Tree.orderParts found trees == .gt)
        then some trees else some found }
  setStatus v .replaced

/-- Puts a tree on top of a reading. -/
def shift (v : Nat) (state : Nat) (tree : Tree) : StateM Stack Unit := do
  let top ← push ((← get).version v).top state tree
  setVersion v { top }

/-- Does with the token what the state of the reading says, until the token is read. -/
def consume : (fuel : Nat) → (v : Nat) → Lexeme → StateM Stack Unit
  | 0, v, _ => setStatus v .stuck
  | fuel + 1, v, lexeme => do
    let s ← get
    let top := s.version v
    let action := (s.stateOf top).action lexeme.token
    if action.reductions.head? = some 0 then accept v
    else
      let created ← action.reductions.filterMapM (reduce v)
      if action.shift then
        let state ← withAutomaton
          (Automaton.move (s.frame top.top).state (.token lexeme.token))
        shift v state (.leaf lexeme.token lexeme.start lexeme.stop)
      else match created.getLast? with
        | some n =>
          modify fun s => { s with versions := (s.versions.set v (s.version n)).eraseIdx n }
          consume fuel v lexeme
        | none => setStatus v (if action.reductions.isEmpty then .stuck else .replaced)

/-- Reads the next token of a reading. -/
def advance (v : Nat) : StateM Stack Unit := do
  let s ← get
  let version := s.version v
  let frame := s.frame version.top
  match lex? (s.stateOf version).valid frame.cursor with
  | none => setStatus v .stuck
  | some lexeme =>
    if lexeme.token = .comment then
      shift v frame.state (.leaf .comment lexeme.start lexeme.stop)
    else consume (s.frames.size + 1000) v lexeme

/-- Lets a reading go on until it is behind the others. -/
def runVersion (v : Nat) : (fuel : Nat) → (last : Nat) → StateM Stack Nat
  | 0, last => return last
  | fuel + 1, last => do
    if ((← get).version v).status = .active then
      advance v
      let s ← get
      let version := s.version v
      let byte := (s.frame version.top).cursor.pos.byte
      if version.status ≠ .active then return last
      else if last < byte || (0 < v && byte = last) then return byte
      else runVersion v fuel last
    else return last

/-- Lets all readings from a number on take their turn. -/
def runVersions (length : Nat) : (fuel : Nat) → (v last : Nat) → StateM Stack Nat
  | 0, _, last => return last
  | fuel + 1, v, last => do
    if v < (← get).versions.length then
      runVersions length fuel (v + 1) (← runVersion v length last)
    else return last

/-- Adds a reading to those that are kept: a stuck one is given up for one that goes on, equal ones
are joined, and those of greater weight come first. -/
def keep (version : Version) : List Version → StateM Stack (List Version)
  | [] => return [version]
  | other :: more => do
    let s ← get
    let lighter := (s.frame other.top).weight < (s.frame version.top).weight
    if other.status = .active && version.status = .stuck then return other :: more
    else if other.status = .stuck && version.status = .active then keep version more
    else if ← merge other version then return other :: more
    else if lighter then return version :: (← keep other more)
    else return other :: (← keep version more)

/-- Puts the readings in order and gives up what is not worth following. -/
def condense : StateM Stack Unit := do
  let versions := (← get).versions.filter (·.status != .replaced)
  let mut kept := []
  for version in versions do
    kept ← keep version kept
  let first := kept.take maxVersions
  modify fun s => { s with versions := first.filter (·.status = .active) }

/-- Notes how far the text is a source file by itself. -/
def noteComplete : StateM Stack Unit :=
  modify fun s =>
    let complete := s.versions.foldl (fun found v =>
      if (s.stateOf v).valid.contains .endOfText then max found (s.frame v.top).cursor.pos.byte
      else found) s.complete
    { s with complete }

/-- Reads on until no reading is left. -/
def run (length : Nat) : (fuel : Nat) → (last : Nat) → StateM Stack Unit
  | 0, _ => return ()
  | fuel + 1, last => do
    if (← get).versions.isEmpty then return ()
    let last ← runVersions length 1000 0 last
    condense
    noteComplete
    run length fuel last

end Stack

/-- The stack that an action makes out of nothing. -/
def Stack.madeBy (action : StateM Stack Unit) : Stack :=
  (action.run {}).2

/-- What comes of reading a text as a source file. -/
def read (code : List Char) : Stack :=
  Stack.madeBy do
    let state ← Stack.withAutomaton (Automaton.enter startGoals)
    modify fun s => { s with frames := s.frames.insert 0 { state, cursor := Cursor.ofText code }
                             versions := [{ top := 0 }] }
    let length := 2 * code.length + 100
    Stack.run length length 0

end GoAddress.Source
