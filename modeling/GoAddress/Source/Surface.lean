import GoAddress.Source.Phrase
import GoAddress.Source.Tree

/-!
# Phrases of a reading

What is left of a reading when transparent categories and repetitions are opened up. Line breaks leave
no phrase.
-/

namespace GoAddress.Source

open Grammar

/-- Whether a symbol only groups what stands in it. -/
def isTransparent : Symbol → Bool
  | .category c => c.isTransparent
  | .repetition _ => true
  | .token _ => false

mutual

/-- The phrases of a reading before others; the name and role are those of the place where it
stands. -/
def Tree.phrases (name : Option Symbol) (role : Option Role) :
    Tree → List Phrase → List Phrase
  | .leaf token start stop, behind =>
    if token = .lineBreak then behind
    else .mk (name.getD (.token token)) role ⟨start, stop.pos⟩ [] :: behind
  | .node production start stop _ parts, behind =>
    let p := productionAt production
    if name.isNone && isTransparent p.head then phrasesOf role p.steps parts behind
    else .mk (name.getD p.head) role ⟨start, stop.pos⟩ (phrasesOf none p.steps parts []) :: behind

/-- The phrases of the parts of a reading before others. A part without a role of its own has that
of a transparent phrase around it. -/
def phrasesOf (around : Option Role) : List Step → List Tree → List Phrase → List Phrase
  | _, [], behind => behind
  | steps, part :: more, behind =>
    if part.isComment then part.phrases none none (phrasesOf around steps more behind)
    else match steps with
      | step :: steps =>
        part.phrases step.name (step.role <|> around) (phrasesOf around steps more behind)
      | [] => part.phrases none around (phrasesOf around [] more behind)

end

/-- The phrases at the top level of a file. -/
def topPhrases (trees : List Tree) : List Phrase :=
  (phrasesOf none [] trees []).flatMap fun p => if p.isA .sourceFile then p.parts else [p]

end GoAddress.Source
