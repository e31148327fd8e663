import GoAddress.Source.Parser
import GoAddress.Source.Surface

/-!
# Broken source files

A text that is no source file is read in part. A declaration at its end may lack the line break
behind it. Anything else that cannot be read is blanked out up to the next line that begins a
declaration, and the text is read again; blanks take the place of characters byte by byte, so that
the rest keeps its place.
-/

namespace GoAddress.Source

/-- The words that begin a declaration. -/
def declarationWords : List String :=
  ["package", "import", "func", "type", "const", "var"]

/-- Whether a word that begins a declaration stands here. -/
def startsDeclaration (cs : List Char) : Bool :=
  let letters := cs.takeWhile Text.isWordContinue
  declarationWords.any fun w => w.toList == letters

/-- The byte of the first line behind a byte that begins a declaration; the end if there is none.
The flag tells whether a line starts here. -/
def nextDeclaration (behind : Nat) (byte : Nat) (lineStart : Bool) : List Char → Nat
  | [] => byte
  | c :: rest =>
    if lineStart && behind < byte && startsDeclaration (c :: rest) then byte
    else nextDeclaration behind (byte + c.utf8Size) (c == '\n') rest

/-- The byte of the first character behind a byte that separates no tokens. -/
def nextCharacter (behind : Nat) (byte : Nat) : List Char → Nat
  | [] => byte
  | c :: rest =>
    if behind ≤ byte && !isSeparator c then byte
    else nextCharacter behind (byte + c.utf8Size) rest

/-- The text with blanks from one byte to another; line breaks stay. -/
def blankOut (start stop : Nat) (byte : Nat) : List Char → List Char
  | [] => []
  | c :: rest =>
    let more := blankOut start stop (byte + c.utf8Size) rest
    if start ≤ byte && byte < stop && c != '\n' then List.replicate c.utf8Size ' ' ++ more
    else c :: more

/-- The number of bytes of a text. -/
def byteLength (code : List Char) : Nat :=
  code.foldl (fun bytes c => bytes + c.utf8Size) 0

/-- The text without the piece at which a reading broke off, which reaches to the next line that
begins a declaration, or to the end of the text. -/
def withoutBroken (reading : Stack) (toEnd : Bool) (code : List Char) : List Char :=
  let broken := nextCharacter reading.complete 0 code
  let stop := if toEnd then byteLength code else nextDeclaration broken 0 true code
  blankOut broken stop 0 code

/-- The trees of what can be read of a text, after at most so many pieces are blanked out; the last
piece reaches to the end of the text. -/
def salvageFrom : (pieces : Nat) → List Char → List Tree
  | 0, code => (read code).finished.getD []
  | pieces + 1, code =>
    let reading := read code
    reading.finished.getD (salvageFrom pieces (withoutBroken reading (pieces == 0) code))

/-- Most pieces of a broken text that are blanked out. -/
def maxBrokenPieces : Nat := 100

/-- The trees of what can be read of a broken text. -/
def salvage (code : List Char) : List Tree :=
  salvageFrom maxBrokenPieces (code ++ ['\n'])

/-- The phrases of what can be read of a broken text. The line break behind its end and the blanks
in place of a longer character are no part of it, so that a phrase that starts or ends there is
dropped. -/
def salvagedPhrases (code : String) : List Phrase :=
  (topPhrases (salvage code.toList)).filter (·.isInside code)

/-- What the parser makes of a text, given the trees of the whole text if it could be read. -/
def Parsed.ofFinished (code : String) : Option (List Tree) → Parsed
  | some trees => ⟨topPhrases trees, false⟩
  | none => ⟨salvagedPhrases code, true⟩

/-- The parser that programs are read with: a text is read as a whole, or else what can be read of
it. -/
def goParser : Parser := fun code =>
  some (.ofFinished code (read code.toList).finished)

end GoAddress.Source
