import GoAddress.Decl.Span
import GoAddress.Text.Split

/-!
# Struct tags

A tag is a sequence of pairs `key:"value"`. Reading stops at the first text that is no pair, and
keeps the pairs before it.
-/

namespace GoAddress

/-- A struct tag without the quotes around it. -/
structure Tag where
  /-- The text between the quotes. -/
  raw : String
  /-- Where the tag stands, quotes included. -/
  span : Span := {}
deriving DecidableEq, Repr

namespace Tag

/-- A key holds no colon, quote, blank or control character. -/
def isKeyChar (c : Char) : Bool :=
  !(c == ':' || c == '"' || Text.isBlank c || Text.isControl c)

/-- Reads the body of a value up to its closing quote; `escaped` tells whether a backslash covers
the next character. -/
def readBody? : (escaped : Bool) → List Char → Option (List Char × List Char)
  | _, [] => none
  | false, c :: rest =>
    if c = '"' then some ([], rest)
    else (readBody? (c == '\\') rest).map fun (body, rest) => (c :: body, rest)
  | true, c :: rest => (readBody? false rest).map fun (body, rest) => (c :: body, rest)

/-- Replaces each backslash and quote by the quote. -/
def unescape : List Char → List Char
  | '\\' :: '"' :: rest => '"' :: unescape rest
  | c :: rest => c :: unescape rest
  | [] => []

/-- Reads one pair: its key, the body of its value as written, and the rest of the text. -/
def readPair? (cs : List Char) : Option ((List Char × List Char) × List Char) :=
  let key := cs.takeWhile isKeyChar
  if key.isEmpty then none
  else match cs.dropWhile isKeyChar with
    | ':' :: '"' :: after => (readBody? false after).map fun (body, rest) => ((key, body), rest)
    | _ => none

/-- The rest behind a body is shorter than what was read. -/
theorem readBody?_length {escaped : Bool} {cs body rest : List Char}
    (h : readBody? escaped cs = some (body, rest)) : rest.length < cs.length := by
  induction cs generalizing escaped body with
  | nil => cases escaped <;> simp [readBody?] at h
  | cons c cs ih =>
    cases escaped with
    | false =>
      rw [readBody?] at h
      split at h
      · simp_all
      · obtain ⟨⟨b, r⟩, hb, he⟩ := Option.map_eq_some_iff.mp h
        obtain ⟨-, rfl⟩ := Prod.mk.inj he
        exact Nat.lt_succ_of_lt (ih hb)
    | true =>
      rw [readBody?] at h
      obtain ⟨⟨b, r⟩, hb, he⟩ := Option.map_eq_some_iff.mp h
      obtain ⟨-, rfl⟩ := Prod.mk.inj he
      exact Nat.lt_succ_of_lt (ih hb)

/-- The rest behind a pair is shorter than what was read. -/
theorem readPair?_length {cs rest : List Char} {pair : List Char × List Char}
    (h : readPair? cs = some (pair, rest)) : rest.length < cs.length := by
  rw [readPair?] at h
  split at h
  · simp at h
  · split at h
    · next after hafter =>
      obtain ⟨⟨b, r⟩, hb, he⟩ := Option.map_eq_some_iff.mp h
      have hr := readBody?_length hb
      have hd : (cs.dropWhile isKeyChar).length ≤ cs.length :=
        (List.dropWhile_sublist _).length_le
      simp only [hafter, List.length_cons] at hd
      obtain ⟨-, rfl⟩ := Prod.mk.inj he
      omega
    · simp at h

/-- The pairs of a text, each with the body of its value as written. -/
def pairsFrom (cs : List Char) : List (List Char × List Char) :=
  match h : readPair? (Text.trimStart Text.isBlank cs) with
  | none => []
  | some (pair, rest) =>
    have := readPair?_length h
    pair :: pairsFrom rest
termination_by cs.length
decreasing_by
  have h2 : (Text.trimStart Text.isBlank cs).length ≤ cs.length :=
    (List.dropWhile_sublist _).length_le
  omega

/-- The pairs of keys and values. -/
def pairs (tag : Tag) : List (String × String) :=
  (pairsFrom tag.raw.toList).map fun (key, body) =>
    (String.ofList key, String.ofList (unescape body))

/-- The value of the first pair with the key. -/
def get? (tag : Tag) (key : String) : Option String :=
  (tag.pairs.find? (·.1 == key)).map (·.2)

/-- The keys in order. -/
def keys (tag : Tag) : List String :=
  tag.pairs.map (·.1)

end Tag

end GoAddress
