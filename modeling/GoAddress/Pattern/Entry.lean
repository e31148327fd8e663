import GoAddress.Order
import GoAddress.Pattern.Basic

/-!
# Matching entries

An entry is one addressable part of a program with what is shown next to its address. Matching
filters entries by pattern, sorts them by address and cuts the list at a limit, while the count
covers every match.
-/

namespace GoAddress

/-- One line of the list of all addresses. -/
structure Entry where
  /-- The full address. -/
  path : String
  /-- The kind of part. -/
  kind : String
  /-- What is shown next to the address. -/
  note : Option String := none
  /-- The import path of the package. -/
  package : String
  /-- The path of the package relative to the module; empty for its root. -/
  shortPackage : String
deriving DecidableEq, Repr

/-- The address with the package path relative to the module, where that is a shorter text. -/
def Entry.shortForm? (e : Entry) : Option String :=
  if e.shortPackage.isEmpty || e.shortPackage == e.package then none
  else (Text.dropPrefix? e.package.toList e.path.toList).map fun rest =>
    e.shortPackage ++ String.ofList rest

/-- Whether the pattern matches the entry's address or its short form. -/
def Pattern.matchesEntry (p : Pattern) (e : Entry) : Bool :=
  p.matchesAddress e.path || e.shortForm?.any p.matchesAddress

/-- The matches of a pattern up to a limit, and the number of all matches. -/
structure Matches where
  /-- The matches that are shown, by increasing address. -/
  shown : List Entry
  /-- The number of all matches. -/
  total : Nat
deriving Repr

/-- Whether some matches are not shown. -/
def Matches.isTruncated (m : Matches) : Bool :=
  m.shown.length < m.total

/-- The entries that the pattern matches, by increasing address and each address once. -/
def Pattern.allMatches (p : Pattern) (entries : List Entry) : List Entry :=
  dropRepeats (·.path) (sortOn (·.path) (entries.filter p.matchesEntry))

/-- The matches of a pattern among entries, cut at the limit if there is one. -/
def Pattern.matchEntries (p : Pattern) (entries : List Entry) (limit : Option Nat) : Matches :=
  let found := p.allMatches entries
  { shown := match limit with
      | none => found
      | some n => found.take n
    total := found.length }

end GoAddress
