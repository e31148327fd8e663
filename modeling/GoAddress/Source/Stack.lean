import GoAddress.Grammar.Automaton
import GoAddress.Source.Tree
import Std.Data.TreeMap

/-!
# Stacks of readings

While a text is read, several readings of what was read so far are followed side by side. Each is
the top of a stack of trees, and stacks share what they have in common: a frame is a state of the
automaton at a place of the text, and its links lead over a tree to the frames below. Readings
that come to the same place in states that can be joined become one.
-/

namespace GoAddress.Source

open Grammar

/-- A way down from a frame. -/
structure Link where
  /-- The reading of the text between the frames. -/
  tree : Tree
  /-- The frame below. -/
  below : Nat

/-- A state at a place of the text. -/
structure Frame where
  /-- The state of the automaton. -/
  state : Nat
  /-- The place. -/
  cursor : Cursor
  /-- The ways down. -/
  links : List Link := []
  /-- The greatest weight of the readings below. -/
  weight : Int := 0

/-- Whether a reading goes on. -/
inductive Status where
  /-- It waits for the next token. -/
  | active
  /-- The next token does not fit it. -/
  | stuck
  /-- It has been replaced by others. -/
  | replaced
deriving DecidableEq, Repr

/-- A reading of the text so far. -/
structure Version where
  /-- The top of its stack. -/
  top : Nat
  /-- Whether it goes on. -/
  status : Status := .active

/-- All the readings of a text so far. -/
structure Stack where
  /-- The states of the automaton. -/
  automaton : Automaton := {}
  /-- The frames by number. -/
  frames : Std.TreeMap Nat Frame := {}
  /-- The readings. -/
  versions : List Version := []
  /-- The trees of the best reading of the whole text. -/
  finished : Option (List Tree) := none
  /-- The last byte before which the text is a source file by itself. -/
  complete : Nat := 0

/-- Most links of a frame. -/
def maxLinks : Nat := 8

/-- Most ways that are followed down from a frame at once. -/
def maxPaths : Nat := 64

/-- Most readings that are followed side by side. -/
def maxVersions : Nat := 6

/-- By how many the readings may exceed their number for the moment. -/
def versionOverflow : Nat := 4

namespace Stack

/-- The frame with the number. -/
def frame (s : Stack) (n : Nat) : Frame :=
  s.frames[n]?.getD { state := 0, cursor := ⟨{}, []⟩ }

/-- Uses the automaton. -/
def withAutomaton {α : Type} (use : StateM Automaton α) : StateM Stack α := fun s =>
  let (a, automaton) := use s.automaton
  (a, { s with automaton })

/-- Changes the frame with the number. -/
def modifyFrame (n : Nat) (change : Frame → Frame) : StateM Stack Unit :=
  modify fun s => { s with frames := s.frames.insert n (change (s.frame n)) }

/-- Adds a frame over another one and tells its number. -/
def push (below : Nat) (state : Nat) (tree : Tree) : StateM Stack Nat :=
  modifyGet fun s =>
    let weight := (s.frame below).weight + tree.weight
    (s.frames.size,
      { s with frames := s.frames.insert s.frames.size
                 { state, cursor := tree.stop, links := [⟨tree, below⟩], weight } })

/-- The state that joins those of two frames at the same place. -/
def join? (m n : Nat) : StateM Stack (Option Nat) := do
  let s ← get
  if (s.frame m).cursor.pos.byte = (s.frame n).cursor.pos.byte then
    withAutomaton (Automaton.join? (s.frame m).state (s.frame n).state)
  else return none

/-- The first of the links over a like tree that leads to the frame or to one that can be joined
with it, by position, and the joined state in that case. -/
def joinable? (tree : Tree) (below : Nat) :
    (position : Nat) → List Link → StateM Stack (Option (Nat × Link × Option Nat))
  | _, [] => return none
  | position, link :: more => do
    let s ← get
    if link.tree.isLike tree &&
        (s.frame link.below).cursor.pos.byte == (s.frame below).cursor.pos.byte then
      if link.below = below then return some (position, link, none)
      else match ← join? link.below below with
        | some state => return some (position, link, some state)
        | none => joinable? tree below (position + 1) more
    else joinable? tree below (position + 1) more

/-- Adds a way down to a frame. A way over a like tree to the same frame keeps the better tree; one
to a frame that can be joined with it joins the frames below. -/
def addLink : (fuel : Nat) → (frame : Nat) → Link → StateM Stack Unit
  | 0, _, _ => return ()
  | fuel + 1, n, ⟨tree, below⟩ => do
    if below = n then return ()
    let s ← get
    let weight := (s.frame below).weight + tree.weight
    match ← joinable? tree below 0 (s.frame n).links with
    | some (position, link, none) =>
      if link.tree.weight < tree.weight then
        modifyFrame n fun f => { f with links := f.links.set position ⟨tree, below⟩, weight }
    | some (_, link, some state) =>
      modifyFrame link.below fun f => { f with state }
      for l in (s.frame below).links do
        addLink fuel link.below l
      modifyFrame n fun f => { f with weight := max f.weight weight }
    | none =>
      if (s.frame n).links.length < maxLinks then
        modifyFrame n fun f =>
          { f with links := f.links ++ [⟨tree, below⟩], weight := max f.weight weight }

/-- Joins the second reading into the first, and tells whether that could be done. -/
def merge (a b : Version) : StateM Stack Bool := do
  if a.status = .active && b.status = .active then
    match ← join? a.top b.top with
    | none => return false
    | some state =>
      modifyFrame a.top fun f => { f with state }
      let s ← get
      for l in (s.frame b.top).links do
        addLink s.frames.size a.top l
      return true
  else return false

/-- A way down from the top of a stack. -/
structure Path where
  /-- The frame reached. -/
  frame : Nat
  /-- The trees passed, from the frame upwards. -/
  trees : List Tree := []
  /-- How many of them are no comments. -/
  count : Nat := 0

/-- The path one step further down. -/
def Path.step (p : Path) (l : Link) : Path :=
  { frame := l.below, trees := l.tree :: p.trees
    count := if l.tree.isComment then p.count else p.count + 1 }

/-- One step down on each of the paths. The first way on keeps the place of a path, the others
follow at the end while there are not too many. Paths of the length are done; paths that end before
it are dropped. -/
def stepDown (s : Stack) (length : Nat) : (live : Nat) → List Path → (kept added : List Path) →
    List Path → List Path × List Path
  | _, [], kept, added, done => (kept.reverse ++ added.reverse, done.reverse)
  | live, p :: more, kept, added, done =>
    if p.count = length then stepDown s length (live - 1) more kept added (p :: done)
    else match (s.frame p.frame).links with
      | [] => stepDown s length (live - 1) more kept added done
      | first :: others =>
        let others := others.take (maxPaths - live)
        stepDown s length (live + others.length) more (p.step first :: kept)
          ((others.map p.step).reverse ++ added) done

/-- The paths of a length down from the given ones, in the order in which they are done. -/
def pathsDown (s : Stack) (length : Nat) : (fuel : Nat) → List Path → List Path
  | 0, _ => []
  | _, [] => []
  | fuel + 1, paths =>
    let (next, done) := stepDown s length paths.length paths [] [] []
    done ++ s.pathsDown length fuel next

/-- The paths by the frame that they reach, in the order of the first path to it. -/
def groupByFrame : List Path → List (Nat × List Path)
  | paths => paths.foldl insert []
where
  /-- Adds a path to the group of its frame. -/
  insert : List (Nat × List Path) → Path → List (Nat × List Path)
    | [], p => [(p.frame, [p])]
    | (n, group) :: more, p =>
      if n = p.frame then (n, group ++ [p]) :: more else (n, group) :: insert more p

/-- Paths from a frame to the bottom of the stack, as their trees. -/
def wholePaths (s : Stack) : (fuel : Nat) → (frame : Nat) → List Tree → List (List Tree)
  | 0, _, _ => []
  | fuel + 1, n, above =>
    match (s.frame n).links with
    | [] => [above]
    | links => links.flatMap fun l => s.wholePaths fuel l.below (l.tree :: above)

end Stack

end GoAddress.Source
