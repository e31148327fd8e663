import GoAddress.Grammar.Vocabulary
import GoAddress.Source.Position
import GoAddress.Text.Slice

/-!
# Phrases of a source file

What a parser finds in a text: phrases with their kind, their role in the phrase around them, and the
phrases inside. The parser itself is left open.
-/

namespace GoAddress.Source

open Grammar

/-- A phrase. -/
inductive Phrase where
  | mk (kind : Symbol) (role : Option Role) (region : Region) (parts : List Phrase)

namespace Phrase

/-- What it is. -/
def kind : Phrase → Symbol
  | mk kind _ _ _ => kind

/-- The role it plays in the phrase around it. -/
def role : Phrase → Option Role
  | mk _ role _ _ => role

/-- Where it stands. -/
def region : Phrase → Region
  | mk _ _ region _ => region

/-- The phrases inside. -/
def parts : Phrase → List Phrase
  | mk _ _ _ parts => parts

/-- Whether the phrase is of the category. -/
def isA (p : Phrase) (c : Grammar.Category) : Bool :=
  p.kind = .category c

/-- Whether the phrase is a comment. -/
def isComment (p : Phrase) : Bool :=
  p.kind = .token .comment

/-- Whether the phrase is more than a word or mark that holds others together. -/
def isNamed (p : Phrase) : Bool :=
  match p.kind with
  | .token t => t.isNamed
  | .category _ => true
  | .repetition _ => false

/-- Whether the phrase is part of what a phrase around it says. -/
def isContent (p : Phrase) : Bool :=
  p.isNamed && !p.isComment

/-- Whether the phrase is a list of phrases of one kind. -/
def isList (p : Phrase) : Bool :=
  match p.kind with
  | .category c => c.isList
  | _ => false

/-- The first phrase inside that plays the role. -/
def part? (p : Phrase) (r : Role) : Option Phrase :=
  p.parts.find? (·.role = some r)

/-- The phrases inside that are of the category. -/
def partsOf (p : Phrase) (c : Grammar.Category) : List Phrase :=
  p.parts.filter (·.isA c)

/-- Whether the phrase is a name that is declared or mentioned. -/
def isName (p : Phrase) : Bool :=
  p.kind = .token .identifier || p.isA .fieldIdentifier || p.isA .typeIdentifier

/-- The names among the phrases inside with the role of a name. -/
def names (p : Phrase) : List Phrase :=
  p.parts.filter fun part => part.role = some .name && part.isName

mutual

/-- The names inside a phrase, itself included, in some order. -/
def mentions : Phrase → List Phrase → List Phrase
  | mk kind role region parts, found =>
    if (mk kind role region []).isName then mk kind role region [] :: found
    else mentionsIn parts found

/-- The names inside phrases. -/
def mentionsIn : List Phrase → List Phrase → List Phrase
  | [], found => found
  | p :: more, found => p.mentions (mentionsIn more found)

end

end Phrase

/-- Whether a region starts and ends between the characters of a text. -/
def Region.isInside (code : String) (r : Region) : Bool :=
  Text.isBoundary code r.start.byte && Text.isBoundary code r.stop.byte

mutual

/-- Whether a phrase and the phrases inside it start and end between the characters of a text. -/
def Phrase.isInside (code : String) : Phrase → Bool
  | .mk _ _ region parts => region.isInside code && Phrase.allInside code parts

/-- Whether phrases start and end between the characters of a text. -/
def Phrase.allInside (code : String) : List Phrase → Bool
  | [] => true
  | p :: more => p.isInside code && Phrase.allInside code more

end

/-- What a parser makes of a text. -/
structure Parsed where
  /-- The phrases at the top level. -/
  phrases : List Phrase
  /-- Whether some part of the text follows no rule. -/
  hasErrors : Bool

/-- A parser of source files. It may make nothing of a text. -/
abbrev Parser : Type :=
  String → Option Parsed

end GoAddress.Source
