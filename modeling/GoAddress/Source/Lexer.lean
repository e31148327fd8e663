import GoAddress.Grammar.TokenSet
import GoAddress.Source.Literal
import GoAddress.Source.Position

/-!
# Reading tokens

The text is cut into tokens where it is read: which tokens can come next decides how far the next
one reaches, and it is the longest of these. So `--x` is two operators in front of a name, and a
line break is a token only where it can end something. Comments can stand anywhere.
-/

namespace GoAddress.Source

open Grammar

/-- A token with its place. -/
structure Lexeme where
  /-- What it is. -/
  token : Token
  /-- Where it starts. -/
  start : Pos
  /-- What follows it. -/
  stop : Cursor

/-- The token of the next characters. -/
def Cursor.lexeme (c : Cursor) (token : Token) (length : Nat) : Lexeme :=
  { token, start := c.pos, stop := c.skip length }

/-- Whether the character separates tokens. -/
def isSeparator (c : Char) : Bool :=
  c = ' ' || c = '\t' || c = '\r' || c = '\n' || c = '\x0b' || c = '\x0c'

/-- The cursor behind characters that separate tokens, or before a line break that matters. -/
def skipSeparators (lineBreaks : Bool) (pos : Pos) : List Char → Cursor
  | [] => ⟨pos, []⟩
  | c :: rest =>
    if isSeparator c && !(lineBreaks && c = '\n') then
      skipSeparators lineBreaks (pos.advance c) rest
    else ⟨pos, c :: rest⟩

/-- The pieces of a quoted text, which stand side by side without separators. -/
def quotedPiece? (valid : TokenSet) (c : Cursor) : Option Lexeme :=
  let content := (c.rest.takeWhile isPlainContent).length
  if valid.contains .stringContent && 0 < content then some (c.lexeme .stringContent content)
  else match if valid.contains .stringEscape then stringEscapeLength? c.rest else none with
    | some length => some (c.lexeme .stringEscape length)
    | none =>
      if valid.contains .closingQuote && c.rest.head? = some '"' then
        some (c.lexeme .closingQuote 1)
      else none

/-- The word at the cursor: one with a meaning of its own if that can come next or if it is
reserved, else an identifier. -/
def word? (valid : TokenSet) (c : Cursor) : Option Lexeme :=
  let letters := c.rest.takeWhile Text.isWordContinue
  let meaning := words.find? fun w => w.spelling.toList == letters
  let identifier := if valid.contains .identifier then some Token.identifier else none
  let token := match meaning with
    | some w => if w.reserved || valid.contains w.token then some w.token else identifier
    | none => identifier
  token.map fun t => c.lexeme t letters.length

/-- The longer of two tokens; the first if they are equally long. -/
def longer (a b : Option (Token × Nat)) : Option (Token × Nat) :=
  match a, b with
  | none, b => b
  | a, none => a
  | some (t, m), some (u, n) => if m < n then some (u, n) else some (t, m)

/-- The token of a length, if it can come next. -/
def ifValid (valid : TokenSet) (t : Token) (length? : Option Nat) : Option (Token × Nat) :=
  if valid.contains t then length?.map fun n => (t, n) else none

/-- The operator or delimiter that is the longest of those that can come next. -/
def mark? (valid : TokenSet) (cs : List Char) : Option (Token × Nat) :=
  (marks.find? fun (chars, t) => valid.contains t && chars.isPrefixOf cs).map fun (chars, t) =>
    (t, chars.length)

/-- The longest token at the start of the text that is no word. -/
def other? (valid : TokenSet) (cs : List Char) : Option (Token × Nat) :=
  let nul := if cs.head? = some '\x00' then some 1 else none
  [(commentLength? cs).map fun n => (Token.comment, n), ifValid valid .nul nul, mark? valid cs,
    ifValid valid .integer (integerLength? cs), ifValid valid .decimal (decimalLength? cs),
    ifValid valid .imaginary (imaginaryLength? cs), ifValid valid .rune (runeLength? cs),
    ifValid valid .rawString (rawStringLength? cs)].foldl longer none

/-- The token at the end of the text. A value that more operators could follow is ended by an empty
terminator. -/
def end? (valid : TokenSet) (c : Cursor) : Option Lexeme :=
  if valid.contains .nul && valid.contains .percent && !valid.contains .increment then
    some (c.lexeme .nul 0)
  else if valid.contains .endOfText then some (c.lexeme .endOfText 0)
  else none

/-- The next token, if one of those that can come next stands there. -/
def lex? (valid : TokenSet) (c : Cursor) : Option Lexeme :=
  match quotedPiece? valid c with
  | some lexeme => some lexeme
  | none =>
    let c := skipSeparators (valid.contains .lineBreak) c.pos c.rest
    match c.rest with
    | [] => end? valid c
    | first :: _ =>
      if first = '\n' then some (c.lexeme .lineBreak 1)
      else if Text.isWordStart first then word? valid c
      else (other? valid c.rest).map fun (t, length) => c.lexeme t length

end GoAddress.Source
