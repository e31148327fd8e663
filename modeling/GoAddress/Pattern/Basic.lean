import GoAddress.Address.Parser

/-!
# Wildcard patterns

A pattern is read from left to right into tokens. A star stays inside one part of an address: it
never crosses `.`, `/` or a bracket. A double star crosses everything; together with a slash it is
an optional run of leading or trailing path components. Matching fills one row of answers per
token, from the last token to the first, so it takes time proportional to pattern times text.
-/

namespace GoAddress

/-- Why a text is no pattern. -/
inductive PatternFault where
  | empty
  | starRun
  | unbalancedBrackets
  | compile (reason : String)
deriving DecidableEq, Repr

/-- A text that is no pattern, with the reason. -/
structure PatternError where
  /-- The whole text. -/
  pattern : String
  /-- The first fault found in it. -/
  fault : PatternFault
deriving DecidableEq, Repr

/-- The wording of a fault. -/
def PatternError.message (e : PatternError) : String :=
  match e.fault with
  | .empty => "Empty pattern"
  | .starRun => s!"Pattern '{e.pattern}' contains a run of more than two '*'"
  | .unbalancedBrackets => s!"Pattern '{e.pattern}' has unbalanced brackets"
  | .compile reason => s!"Pattern '{e.pattern}' could not be compiled: {reason}"

/-- One unit of a pattern. -/
inductive PatternToken where
  /-- A character that matches only itself. -/
  | literal (c : Char)
  /-- Any text without delimiters. -/
  | star
  /-- Any text on one line. -/
  | deepStar
  /-- Nothing, or a text on one line that ends in a slash. -/
  | leadingPath
  /-- Nothing, or a slash and a text on one line. -/
  | trailingPath
deriving DecidableEq, Repr

/-- A pattern that was read without fault. -/
structure Pattern where
  /-- The text it was read from. -/
  source : String
  /-- Its tokens in order. -/
  tokens : List PatternToken
deriving DecidableEq, Repr

namespace Pattern

/-- Whether a text is meant as a pattern. -/
def isPattern (s : String) : Bool :=
  s.toList.contains '*'

/-- A star crosses neither dots nor slashes nor brackets. -/
def isSegmentChar (c : Char) : Bool :=
  c != '.' && c != '/' && c != '[' && c != ']'

/-- A double star crosses everything but a line break. -/
def isLineChar (c : Char) : Bool :=
  c != '\n'

/-- Checks runs of stars and brackets; `run` counts the stars just read, `isOpen` tells whether a
bracket is open. The fault of the earliest character is reported, a run of stars before a
bracket. -/
def checkFrom : (run : Nat) → (isOpen : Bool) → List Char → Except PatternFault Unit
  | _, false, [] => .ok ()
  | _, true, [] => .error .unbalancedBrackets
  | run, isOpen, c :: rest =>
    if c = '*' then
      if run ≥ 2 then .error .starRun else checkFrom (run + 1) isOpen rest
    else if c = '[' then
      if isOpen then .error .unbalancedBrackets else checkFrom 0 true rest
    else if c = ']' then
      if isOpen then checkFrom 0 false rest else .error .unbalancedBrackets
    else checkFrom 0 isOpen rest

/-- A pattern has a character that is not blank, no run of three stars, and brackets that open and
close in turn. -/
def check (cs : List Char) : Except PatternFault Unit :=
  if cs.all Text.isBlank then .error .empty else checkFrom 0 false cs

/-- The token of one character. The first four characters of the private use area stand for the
wildcards themselves. -/
def charToken (c : Char) : PatternToken :=
  if c = '\uE000' then .leadingPath
  else if c = '\uE001' then .trailingPath
  else if c = '\uE002' then .deepStar
  else if c = '\uE003' then .star
  else .literal c

/-- Reads tokens from left to right. A slash belongs to the double star before it; otherwise to
the double star behind it. -/
def tokenize : List Char → List PatternToken
  | '*' :: '*' :: '/' :: rest => .leadingPath :: tokenize rest
  | '/' :: '*' :: '*' :: '/' :: rest => .literal '/' :: .leadingPath :: tokenize rest
  | '/' :: '*' :: '*' :: rest => .trailingPath :: tokenize rest
  | '*' :: '*' :: rest => .deepStar :: tokenize rest
  | '*' :: rest => .star :: tokenize rest
  | c :: rest => charToken c :: tokenize rest
  | [] => []

/-- Reads a pattern. -/
def compile (s : String) : Except PatternError Pattern :=
  match check s.toList with
  | .ok () => .ok ⟨s, tokenize s.toList⟩
  | .error fault => .error ⟨s, fault⟩

/-- The answer at the front of a row. -/
def first (row : List Bool) : Bool :=
  row.headD false

/-- The row of a run of characters of a class: at each place, whether some further place can be
reached through the class at which `next` holds. -/
def runRow (ok : Char → Bool) : List Char → (next : List Bool) → List Bool
  | [], next => [first next]
  | c :: rest, next =>
    let tail := runRow ok rest next.tail
    (first next || (ok c && first tail)) :: tail

/-- The row of one character: it stands here and `next` holds behind it. -/
def literalRow (x : Char) : List Char → (next : List Bool) → List Bool
  | [], _ => [false]
  | c :: rest, next => (c == x && first next.tail) :: literalRow x rest next.tail

/-- The row of a text on one line that ends in a slash. -/
def pathRow : List Char → (next : List Bool) → List Bool
  | [], _ => [false]
  | c :: rest, next =>
    let tail := pathRow rest next.tail
    ((c == '/' && first next.tail) || (isLineChar c && first tail)) :: tail

/-- The row of a token in front of the tokens with the row `next`. -/
def tokenRow (token : PatternToken) (cs : List Char) (next : List Bool) : List Bool :=
  match token with
  | .literal x => literalRow x cs next
  | .star => runRow isSegmentChar cs next
  | .deepStar => runRow isLineChar cs next
  | .leadingPath => List.zipWith or next (pathRow cs next)
  | .trailingPath => List.zipWith or next (literalRow '/' cs (runRow isLineChar cs next))

/-- The row behind all tokens: only the end of the text is reached. -/
def endRow : List Char → List Bool
  | [] => [true]
  | _ :: rest => false :: endRow rest

/-- For each place in the text, whether the tokens match from there to the end. -/
def matchRow (tokens : List PatternToken) (cs : List Char) : List Bool :=
  tokens.foldr (fun token next => tokenRow token cs next) (endRow cs)

/-- Whether the pattern matches the whole text. -/
def matchesText (p : Pattern) (s : String) : Bool :=
  first (matchRow p.tokens s.toList)

/-- Whether the pattern matches the whole text and the text is an address. -/
def matchesAddress (p : Pattern) (s : String) : Bool :=
  p.matchesText s && (Address.parse? s).isSome

end Pattern

end GoAddress
