/-!
# Places in a source file

A place counts the bytes and the line breaks before it. A cursor is a place together with the text
behind it.
-/

namespace GoAddress.Source

/-- A place in a file: the byte and the line, both from zero. -/
structure Pos where
  /-- Bytes before the place. -/
  byte : Nat := 0
  /-- Line breaks before the place. -/
  line : Nat := 0
deriving DecidableEq, Repr

/-- The place behind a character. -/
def Pos.advance (p : Pos) (c : Char) : Pos :=
  { byte := p.byte + c.utf8Size, line := if c = '\n' then p.line + 1 else p.line }

/-- A stretch of a file. -/
structure Region where
  /-- Where it starts. -/
  start : Pos
  /-- The place behind it. -/
  stop : Pos
deriving DecidableEq, Repr

/-- A place and the text behind it. -/
structure Cursor where
  /-- The place. -/
  pos : Pos := {}
  /-- The text from there on. -/
  rest : List Char
deriving DecidableEq, Repr

namespace Cursor

/-- The cursor at a place before a text and its first characters, moved behind these. -/
def skipFrom (pos : Pos) : (count : Nat) → List Char → Cursor
  | 0, rest => ⟨pos, rest⟩
  | _, [] => ⟨pos, []⟩
  | count + 1, c :: rest => skipFrom (pos.advance c) count rest

/-- The cursor behind the next characters. -/
def skip (c : Cursor) (count : Nat) : Cursor :=
  skipFrom c.pos count c.rest

/-- The cursor at the start of a file; a byte order mark is skipped. -/
def ofText (code : List Char) : Cursor :=
  match code with
  | c :: rest =>
    if c.toNat = 0xFEFF then ⟨Pos.advance {} c, rest⟩ else ⟨{}, c :: rest⟩
  | [] => ⟨{}, []⟩

end Cursor

end GoAddress.Source
