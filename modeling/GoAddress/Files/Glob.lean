import GoAddress.Text.Split

/-!
# Wildcards of ignore files

Patterns of ignore files match the bytes of a relative path. A star stays inside one name; two
stars cross names where slashes or the ends of the pattern enclose them; braces hold alternatives
and brackets hold classes of characters.
-/

namespace GoAddress

/-- One unit of a pattern. -/
inductive GlobToken where
  | byte (b : UInt8)
  /-- Any byte but a slash. -/
  | anyByte
  /-- Any bytes but slashes. -/
  | star
  /-- Any number of leading directories. -/
  | leading
  /-- Everything below a directory. -/
  | trailing
  /-- Any number of directories between two names. -/
  | between
  /-- One byte in the ranges, or outside them. -/
  | oneOf (negated : Bool) (ranges : List (UInt8 × UInt8))
  /-- One of several patterns. -/
  | choice (options : List (List GlobToken))

namespace Glob

/-- The code of a slash. -/
def slash : UInt8 := 47

/-- The bytes of a character. -/
def charBytes (c : Char) : List UInt8 :=
  (String.singleton c).toUTF8.toList

/-- A character that matches itself. -/
def literal (c : Char) : List GlobToken :=
  (charBytes c).map .byte

/-- The byte ranges of a range of characters: of several bytes, only the ones next to the middle
make a range. -/
def byteRanges (low high : Char) : List (UInt8 × UInt8) :=
  let single := fun (b : UInt8) => (b, b)
  if low = high then (charBytes low).map single
  else match (charBytes low).reverse, charBytes high with
    | last :: before, first :: after =>
      before.reverse.map single ++ [(last, first)] ++ after.map single
    | _, _ => []

/-! ### Reading patterns -/

/-- Why a class of characters cannot be read. -/
inductive ClassFault where
  | unclosed | emptyRange
deriving DecidableEq, Repr

/-- The ranges of a class up to its bracket. The ranges before come last first; `inRange` says that
the last one awaits its high end. A bracket or minus that comes first belongs to the class. -/
def readClass : (first : Bool) → (ranges : List (Char × Char)) → (inRange : Bool) →
    List Char → Except ClassFault (List (Char × Char) × List Char)
  | _, _, _, [] => .error .unclosed
  | first, ranges, inRange, c :: rest =>
    if c = ']' && !first then
      .ok ((if inRange then ('-', '-') :: ranges else ranges).reverse, rest)
    else if c = '-' && !first && !inRange then readClass false ranges true rest
    else match inRange, ranges with
      | true, (low, _) :: before =>
        if c < low then .error .emptyRange else readClass false ((low, c) :: before) false rest
      | _, _ => readClass false ((c, c) :: ranges) false rest

/-- A class behind its opening bracket. -/
def readBracket (cs : List Char) : Except ClassFault (GlobToken × List Char) :=
  let (negated, start) := match cs with
    | '!' :: rest => (true, rest)
    | '^' :: rest => (true, rest)
    | _ => (false, cs)
  (readClass true [] false start).map fun (ranges, rest) =>
    (.oneOf negated (ranges.flatMap fun (low, high) => byteRanges low high), rest)

/-- What two stars mean, given the tokens before them, last first, the character before them and
the text behind: the new tokens, and the text that is left. -/
def readDoubleStar (inGroup : Bool) (before : List GlobToken) (prev : Option Char)
    (rest : List Char) : List GlobToken × List Char :=
  let plain := (.star :: .star :: before, rest)
  let replaceLast := fun (token : GlobToken) => match before with
    | .leading :: _ | .trailing :: _ => before
    | _ :: older => token :: older
    | [] => [token]
  if before.isEmpty then
    match rest with
    | [] => ([.leading], [])
    | '/' :: rest => ([.leading], rest)
    | _ => plain
  else if prev != some '/' && (!inGroup || (prev != some ',' && prev != some '\x7b')) then plain
  else match rest with
    | [] => (replaceLast .trailing, [])
    | '/' :: rest => (replaceLast .between, rest)
    | c :: _ =>
      if inGroup && (c == ',' || c == '\x7d') then (replaceLast .trailing, rest) else plain

/-- Reads tokens to the end of the text, or inside braces to a comma or closing brace, which is
given back. The tokens before come last first; `literalBracket` says that a class that does not end
was met, so that brackets stand for themselves. None if the pattern is malformed. -/
def readTokens : (fuel : Nat) → (inGroup literalBracket : Bool) → (before : List GlobToken) →
    (prev : Option Char) → List Char → Option (List GlobToken × Option Char × List Char)
  | 0, _, _, _, _, _ => none
  | _ + 1, inGroup, _, before, _, [] =>
    if inGroup then none else some (before.reverse, none, [])
  | fuel + 1, inGroup, lit, before, prev, c :: rest =>
    let push := fun (tokens : List GlobToken) (rest : List Char) (prev : Char) =>
      readTokens fuel inGroup lit (tokens.reverse ++ before) (some prev) rest
    match c with
    | '?' => push [.anyByte] rest c
    | '*' =>
      match rest with
      | '*' :: rest =>
        let (tokens, left) := readDoubleStar inGroup before prev rest
        readTokens fuel inGroup lit tokens
          (some (if left.length < rest.length then '/' else '*')) left
      | _ => push [.star] rest c
    | '[' =>
      if lit then push (literal c) rest c
      else match readBracket rest with
        | .ok (token, rest) => push [token] rest ']'
        | .error .emptyRange => none
        | .error .unclosed =>
          readTokens fuel inGroup true ((literal c).reverse ++ before) (some c) rest
    | '\x7b' => do
      let (options, rest) ← readOptions fuel lit c rest
      readTokens fuel inGroup lit (.choice options :: before) (some '\x7d') rest
    | '\x7d' => if inGroup then some (before.reverse, some c, rest) else none
    | ',' => if inGroup then some (before.reverse, some c, rest) else push (literal c) rest c
    | '\\' =>
      match rest with
      | [] => none
      | d :: rest => push (literal d) rest d
    | _ => push (literal c) rest c
where
  /-- The alternatives behind a brace or comma. -/
  readOptions : (fuel : Nat) → (lit : Bool) → (prev : Char) → List Char →
      Option (List (List GlobToken) × List Char)
    | 0, _, _, _ => none
    | fuel + 1, lit, prev, cs => do
      let (option, stop, rest) ← readTokens fuel true lit [] (some prev) cs
      if stop == some ',' then
        let (options, rest) ← readOptions fuel lit ',' rest
        some (option :: options, rest)
      else some ([option], rest)

/-- The tokens of a pattern. -/
def parse? (pattern : List Char) : Option (List GlobToken) :=
  (readTokens (2 * pattern.length + 2) false false [] none pattern).map (·.1)

/-! ### Matching -/

/-- All ends of a text, the longest first. -/
def tails : List UInt8 → List (List UInt8)
  | [] => [[]]
  | b :: rest => (b :: rest) :: tails rest

/-- The ends of a text behind its slashes. -/
def behindSlashes : List UInt8 → List (List UInt8)
  | [] => []
  | b :: rest => if b = slash then rest :: behindSlashes rest else behindSlashes rest

/-- The ends of a text behind its beginnings without slash. -/
def withinName : List UInt8 → List (List UInt8)
  | [] => [[]]
  | b :: rest => if b = slash then [b :: rest] else (b :: rest) :: withinName rest

/-- Keeps one end of each length: ends of one text with equal lengths are equal. -/
def distinctEnds : List (List UInt8) → List (List UInt8)
  | [] => []
  | cs :: rest =>
    if rest.any (·.length == cs.length) then distinctEnds rest else cs :: distinctEnds rest

mutual

/-- Whether a token is nothing but empty alternatives. -/
def isVoid : GlobToken → Bool
  | .choice options => areVoid options
  | _ => false

/-- Whether patterns are made of nothing but empty alternatives. -/
def areVoid : List (List GlobToken) → Bool
  | [] => true
  | tokens :: options => allVoid tokens && areVoid options

/-- Whether all tokens are nothing but empty alternatives. -/
def allVoid : List GlobToken → Bool
  | [] => true
  | token :: tokens => isVoid token && allVoid tokens

end

mutual

/-- What may be left of a text behind a token. -/
def ends : GlobToken → List UInt8 → List (List UInt8)
  | .byte b, c :: rest => if b = c then [rest] else []
  | .anyByte, c :: rest => if c = slash then [] else [rest]
  | .star, cs => withinName cs
  | .leading, cs => cs :: behindSlashes cs
  | .trailing, c :: rest => if c = slash then tails rest else []
  | .between, c :: rest => if c = slash then rest :: behindSlashes rest else []
  | .oneOf negated ranges, c :: rest =>
    if (ranges.any fun (low, high) => low ≤ c && c ≤ high) != negated then [rest] else []
  | .choice options, cs =>
    if areVoid options then [cs] else distinctEnds (endsOfAny options cs)
  | _, [] => []

/-- What may be left behind one of several patterns; empty patterns do not count. -/
def endsOfAny : List (List GlobToken) → List UInt8 → List (List UInt8)
  | [], _ => []
  | tokens :: options, cs =>
    if allVoid tokens then endsOfAny options cs
    else endsOfAll tokens [cs] ++ endsOfAny options cs

/-- What may be left behind tokens in order, given what may be left before them. -/
def endsOfAll : List GlobToken → List (List UInt8) → List (List UInt8)
  | [], left => left
  | token :: tokens, left => endsOfAll tokens (distinctEnds (left.flatMap fun cs => ends token cs))

end

/-- Whether tokens match a whole text. Two stars alone match everything. -/
def isMatch (tokens : List GlobToken) (text : List UInt8) : Bool :=
  match tokens with
  | [.leading] => true
  | _ => (endsOfAll tokens [text]).any (·.isEmpty)

end Glob

end GoAddress
