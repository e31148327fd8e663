import GoAddress.Grammar.Table
import GoAddress.Source.Position

/-!
# Readings of a text

A tree is one reading of a stretch of text: a token, or the use of a production for the readings of
its parts. Comments can stand between the parts. Of two readings of one stretch the one with the
greater weight is taken, then the one that comes first in the order of readings.
-/

namespace GoAddress.Source

open Grammar

/-- A reading of a stretch of text. -/
inductive Tree where
  /-- A token. -/
  | leaf (token : Token) (start : Pos) (stop : Cursor)
  /-- The use of a production. -/
  | node (production : Nat) (start : Pos) (stop : Cursor) (weight : Int) (parts : List Tree)

namespace Tree

/-- Where it starts. -/
def start : Tree → Pos
  | leaf _ start _ | node _ start _ _ _ => start

/-- What follows it. -/
def stop : Tree → Cursor
  | leaf _ _ stop | node _ _ stop _ _ => stop

/-- What it is a reading as. -/
def symbol : Tree → Symbol
  | leaf token _ _ => .token token
  | node production _ _ _ _ => (productionAt production).head

/-- How much the reading counts. -/
def weight : Tree → Int
  | leaf _ _ _ => 0
  | node _ _ _ weight _ => weight

/-- The readings of its parts. -/
def parts : Tree → List Tree
  | leaf _ _ _ => []
  | node _ _ _ _ parts => parts

/-- Whether it is a comment. -/
def isComment : Tree → Bool
  | leaf .comment _ _ => true
  | _ => false

/-- How much readings count together. -/
def totalWeight (trees : List Tree) : Int :=
  trees.foldl (fun total tree => total + tree.weight) 0

/-- The use of a production behind a cursor. -/
def ofParts (production : Nat) (before : Cursor) (parts : List Tree) : Tree :=
  let start := (parts.head?.map start).getD before.pos
  let stop := (parts.getLast?.map stop).getD before
  node production start stop (totalWeight parts + (productionAt production).weight) parts

/-- Whether two readings cover the same stretch in the same way at the top. -/
def isLike (a b : Tree) : Bool :=
  a.symbol = b.symbol && a.start.byte = b.start.byte && a.stop.pos.byte = b.stop.pos.byte &&
    a.parts.length = b.parts.length

mutual

/-- The order of readings: by symbol, by number of parts, then part by part. -/
def order : Tree → Tree → Ordering
  | leaf t _ _, other => compare (Symbol.token t).rank other.symbol.rank
  | node production _ _ _ parts, other =>
    (compare (productionAt production).head.rank other.symbol.rank).then
      ((compare parts.length other.parts.length).then (orderParts parts other.parts))

/-- The order of parts, which the first ones that differ decide. -/
def orderParts : List Tree → List Tree → Ordering
  | a :: as, b :: bs => (a.order b).then (orderParts as bs)
  | _, _ => .eq

end

/-- Whether the second reading is to be preferred to the first. -/
def prefers (a b : Tree) : Bool :=
  a.weight < b.weight || (a.weight == b.weight && a.order b == .gt)

/-- The reading that is to be preferred. -/
def best (first : Tree × List Tree) (others : List (Tree × List Tree)) : Tree × List Tree :=
  others.foldl (fun a b => if prefers a.1 b.1 then b else a) first

end Tree

end GoAddress.Source
