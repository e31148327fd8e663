import GoAddress.Grammar.Vocabulary

/-!
# Sets of tokens

A set of tokens is a number whose binary digits say which tokens belong to it. Main statements: a
token belongs to a union if it belongs to either part, and to a set of one if it is that one.
-/

namespace GoAddress.Grammar

/-- A set of tokens. -/
structure TokenSet where
  /-- The digit at the index of a token tells whether it belongs to the set. -/
  bits : Nat := 0
deriving DecidableEq, Repr

namespace TokenSet

/-- Whether the token belongs to the set. -/
def contains (s : TokenSet) (t : Token) : Bool :=
  s.bits.testBit t.index

/-- The set of one token. -/
def single (t : Token) : TokenSet :=
  ⟨Nat.pow 2 t.index⟩

/-- The tokens of either set. -/
def union (s t : TokenSet) : TokenSet :=
  ⟨s.bits ||| t.bits⟩

/-- The tokens of both sets. -/
def inter (s t : TokenSet) : TokenSet :=
  ⟨s.bits &&& t.bits⟩

/-- The tokens of exactly one of the sets. -/
def difference (s t : TokenSet) : TokenSet :=
  ⟨s.bits ^^^ t.bits⟩

/-- Whether the set has no token. -/
def isEmpty (s : TokenSet) : Bool :=
  s.bits == 0

/-- The tokens of a list that belong to the set. -/
def among (s : TokenSet) (ts : List Token) : List Token :=
  ts.filter s.contains

/-- The set of the tokens of a list. -/
def ofList (ts : List Token) : TokenSet :=
  ts.foldl (fun s t => s.union (single t)) {}

theorem contains_union (s t : TokenSet) (a : Token) :
    (s.union t).contains a = (s.contains a || t.contains a) :=
  Nat.testBit_or ..

theorem contains_inter (s t : TokenSet) (a : Token) :
    (s.inter t).contains a = (s.contains a && t.contains a) :=
  Nat.testBit_and ..

theorem contains_difference (s t : TokenSet) (a : Token) :
    (s.difference t).contains a = (s.contains a ^^ t.contains a) :=
  Nat.testBit_xor ..

theorem contains_single (t a : Token) : (single t).contains a = decide (t.index = a.index) :=
  Nat.testBit_two_pow

end TokenSet

end GoAddress.Grammar
