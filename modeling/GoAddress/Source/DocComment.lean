import GoAddress.Decl.Basic
import GoAddress.Source.Phrase
import GoAddress.Text.Slice
import GoAddress.Text.Split

/-!
# Doc comments

The comments directly above a declaration document it. The run of comments is followed upwards
from line to line; a comment that starts on a line on which code ends belongs to that code.
-/

namespace GoAddress.Source

/-- The text of a region of a file. -/
def textOf (code : String) (r : Region) : String :=
  (Text.slice? code r.start.byte r.stop.byte).getD ""

/-- Whether a comment that starts on the line follows other code on that line, given the phrases
before it, nearest first. -/
def trailsCode (line : Nat) : (before : List Phrase) → Bool
  | [] => false
  | p :: _ => !p.isComment && p.region.stop.line == line

/-- The comments directly above the line, nearest first, among the phrases before it, nearest
first. -/
def commentRun (line : Nat) : (before : List Phrase) → List Phrase
  | [] => []
  | p :: before =>
    let start := p.region.start.line
    if p.isComment && p.region.stop.line + 1 = line && !trailsCode start before then
      p :: commentRun start before
    else []

/-- What a comment says, without its delimiters and the blanks around it. -/
def commentContent (comment : List Char) : List Char :=
  match Text.dropPrefix? ['/', '/'] comment with
  | some line => Text.trim Text.isBlank line
  | none => Text.trim Text.isBlank
      (Text.dropSuffixes ['*', '/'] (Text.dropPrefixes ['/', '*'] comment))

/-- The doc comment that a run of comments makes, nearest first. -/
def docOfRun (code : String) (file : Nat) (run : List Phrase) : Option Snippet :=
  match run.getLast?, run.head? with
  | some first, some last =>
    let lines := run.reverse.map fun p => commentContent (textOf code p.region).toList
    some {
      text := String.ofList (Text.trim Text.isBlank (Text.joinWith '\n' lines))
      span := {
        file
        startByte := first.region.start.byte
        endByte := last.region.stop.byte
        startLine := first.region.start.line
        endLine := last.region.stop.line } }
  | _, _ => none

/-- The doc comment of what starts on the line, given the phrases before it, nearest first. -/
def docComment (code : String) (file : Nat) (line : Nat) (before : List Phrase) : Option Snippet :=
  docOfRun code file (commentRun line before)

end GoAddress.Source
