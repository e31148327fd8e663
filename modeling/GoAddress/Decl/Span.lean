/-!
# Spans and kinds

A span is a stretch of a source file, in bytes of its UTF-8 form and in lines from zero. A kind
says what a declaration declares.
-/

namespace GoAddress

/-- A stretch of a source file. -/
structure Span where
  /-- The position of the file in the program. -/
  file : Nat := 0
  /-- The first byte. -/
  startByte : Nat := 0
  /-- The byte behind the last one. -/
  endByte : Nat := 0
  /-- The line of the first byte. -/
  startLine : Nat := 0
  /-- The line of the end. -/
  endLine : Nat := 0
deriving DecidableEq, Repr, Inhabited

namespace Span

/-- Whether the line is one of the span's lines. -/
def containsLine (s : Span) (line : Nat) : Bool :=
  s.startLine ≤ line && line ≤ s.endLine

/-- The number of bytes; none when the ends are reversed. -/
def size (s : Span) : Nat :=
  s.endByte - s.startByte

/-- Whether the span covers no byte. -/
def isEmpty (s : Span) : Bool :=
  s.size == 0

end Span

/-- What a declaration declares. -/
inductive Kind where
  | func | method | type | interface | const | var
deriving DecidableEq, Repr

namespace Kind

/-- The written name of a kind. -/
def text : Kind → String
  | func => "func"
  | method => "method"
  | type => "type"
  | interface => "interface"
  | const => "const"
  | var => "var"

/-- Types and interfaces can own methods. -/
def isType : Kind → Bool
  | type | interface => true
  | _ => false

/-- Functions and methods can be called. -/
def isCallable : Kind → Bool
  | func | method => true
  | _ => false

/-- The kind with the name, in any case of ASCII letters; some kinds have a second name. -/
def ofText? (s : String) : Option Kind :=
  match String.ofList (s.toList.map Char.toLower) with
  | "func" | "function" => some func
  | "method" => some method
  | "type" | "struct" => some type
  | "interface" => some interface
  | "const" | "constant" => some const
  | "var" | "variable" => some var
  | _ => none

/-- The message for a text that names no kind. -/
def unknownMessage : String :=
  "Unknown symbol kind"

end Kind

end GoAddress
