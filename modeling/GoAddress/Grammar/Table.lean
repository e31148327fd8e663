import GoAddress.Grammar.Production
import GoAddress.Grammar.TokenSet

/-!
# Tables of the grammar

What reading a text asks of the grammar again and again. An item is a place in a production; the
items are numbered so that the next place in a production has the next number. For every symbol
the tables hold the tokens that can begin it, and what can stand first in it.
-/

namespace GoAddress.Grammar

/-- A place in a production. -/
structure Item where
  /-- The number of the production. -/
  production : Nat
  /-- The symbol behind the place; none at the end. -/
  next : Option Symbol
  /-- The level of the step before the place. -/
  level : Int := 0
  /-- The grouping of the step before the place. -/
  grouping : Option Grouping := none

/-- The places of a production behind its first steps. -/
def itemsAfter (production : Nat) : List Step → List Item
  | [] => []
  | step :: more =>
    { production, next := more.head?.map (·.symbol), level := step.level
      grouping := step.grouping } :: itemsAfter production more

/-- The places of a production. -/
def Production.items (p : Production) (n : Nat) : List Item :=
  { production := n, next := p.steps.head?.map (·.symbol) } :: itemsAfter n p.steps

/-- The productions by number. -/
def productionTable : Array Production :=
  productions.toArray

/-- The items by number. -/
def itemTable : Array Item :=
  (productions.zipIdx.flatMap fun (p, n) => p.items n).toArray

/-- The item with the number. -/
def itemAt (n : Nat) : Item :=
  itemTable[n]?.getD { production := 0, next := none }

/-- The production with the number. -/
def productionAt (n : Nat) : Production :=
  productionTable[n]?.getD wholeText

/-- The number of the first item of each production. -/
def firstItems : List (Production × Nat) :=
  go 0 productions
where
  /-- From the number of an item on. -/
  go (n : Nat) : List Production → List (Production × Nat)
    | [] => []
    | p :: more => (p, n) :: go (n + p.steps.length + 1) more

/-- The position of a head among the symbols that productions make; none for tokens. -/
def Symbol.headIndex? : Symbol → Option Nat
  | .token _ => none
  | .category c => some c.ctorIdx
  | .repetition n => some (Category.ruleCount + n)

/-- The value that a list by head has for a symbol. -/
def atHead {α : Type} (table : Array α) (default : α) (s : Symbol) : α :=
  match s.headIndex? with
  | some n => table[n]?.getD default
  | none => default

/-- The tokens that can begin a symbol, as far as the table knows. -/
def beginnings (table : Array TokenSet) : Symbol → TokenSet
  | .token t => .single t
  | s => atHead table {} s

/-- The table with the beginnings of one more round of productions. -/
def beginningsRound (table : Array TokenSet) : Array TokenSet :=
  productions.foldl (fun table p =>
    match p.head.headIndex?, p.steps.head? with
    | some n, some step => table.modify n (·.union (beginnings table step.symbol))
    | _, _ => table) table

/-- The table of beginnings after rounds that still change it. -/
def beginningsRounds : (rounds : Nat) → Array TokenSet → Array TokenSet
  | 0, table => table
  | rounds + 1, table =>
    let next := beginningsRound table
    if next = table then table else beginningsRounds rounds next

/-- The tokens that can begin each head. -/
def beginningTable : Array TokenSet :=
  beginningsRounds headCount (Array.replicate headCount {})

/-- The tokens that can begin a symbol. -/
def firstTokens (s : Symbol) : TokenSet :=
  beginnings beginningTable s

/-- A head that can stand first in another. -/
structure Lead where
  /-- The head. -/
  head : Nat
  /-- The tokens that can follow it; none if it ends where the other one ends. -/
  followers : Option TokenSet

/-- The heads that stand first in the productions of each head. -/
def leadTable : Array (List Lead) :=
  productions.foldl (fun table p =>
    match p.head.headIndex?, p.steps with
    | some n, first :: rest =>
      match first.symbol.headIndex? with
      | some head =>
        table.modify n
          (· ++ [{ head, followers := rest.head?.map fun step => firstTokens step.symbol }])
      | none => table
    | _, _ => table) (Array.replicate headCount [])

/-- What can follow a head that stands first in another one. -/
structure Reach where
  /-- Tokens that follow it inside. -/
  followers : TokenSet := {}
  /-- Whether it can also end where the other one ends. -/
  reachesEnd : Bool := false
deriving DecidableEq

/-- Adds what is still to be done to what is known of the heads. -/
def spread : (fuel : Nat) → List (Nat × Reach) → Array Reach → Array Reach
  | 0, _, known => known
  | _, [], known => known
  | fuel + 1, (head, reach) :: work, known =>
    let old := known[head]?.getD {}
    let new : Reach :=
      ⟨old.followers.union reach.followers, old.reachesEnd || reach.reachesEnd⟩
    if new = old then spread fuel work known
    else
      let more := (leadTable[head]?.getD []).map fun lead =>
        (lead.head, match lead.followers with
          | some followers => { followers }
          | none => new)
      spread fuel (more ++ work) (known.setIfInBounds head new)

/-- More steps than spreading over the heads takes. -/
def spreadFuel : Nat :=
  1000000

/-- The heads that can stand first in a head, itself included, with what can follow them. -/
def firstHeads (head : Nat) : List (Nat × Reach) :=
  ((spread spreadFuel [(head, { reachesEnd := true })]
    (Array.replicate headCount {})).toList.zipIdx.filter fun (reach, _) => reach != {}).map
      fun (reach, n) => (n, reach)

/-- For each head the heads that can stand first in it. -/
def firstHeadTable : Array (List (Nat × Reach)) :=
  ((List.range headCount).map firstHeads).toArray

/-- A production that begins with a symbol. -/
structure Opening where
  /-- The head of the production. -/
  head : Nat
  /-- The item behind the symbol. -/
  item : Nat

/-- The productions that begin with each symbol, by its rank. -/
def openingTable : Array (List Opening) :=
  firstItems.reverse.foldl (fun table (p, n) =>
    match p.head.headIndex?, p.steps.head? with
    | some head, some step => table.modify step.symbol.rank (⟨head, n + 1⟩ :: ·)
    | _, _ => table) (Array.replicate (tokenCount + headCount) [])

/-- The tokens that stand first in a production of each head. -/
def openerTable : Array TokenSet :=
  productions.foldl (fun table p =>
    match p.head.headIndex?, p.steps.head? with
    | some head, some { symbol := .token t, .. } => table.modify head (·.union (.single t))
    | _, _ => table) (Array.replicate headCount {})

/-- The heads that can be empty, with the item of the empty production. -/
def emptyItems : List Opening :=
  firstItems.filterMap fun (p, n) =>
    if p.steps.isEmpty then p.head.headIndex?.map fun head => ⟨head, n⟩ else none

end GoAddress.Grammar
