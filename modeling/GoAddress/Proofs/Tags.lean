import Mathlib.Data.List.Infix
import Mathlib.Data.List.TakeWhile
import GoAddress.Decl.Tag

/-!
# Readable tags

A readable pair is a key, a colon and a value in quotes, in which a backslash covers the next
character. Main statement: the pairs of a tag are read exactly up to the first text that is no
readable pair. Blanks may stand before every pair, and each value is the body as written with every
backslash and quote replaced by the quote.
-/

namespace GoAddress.Tag

/-- The body of a value: plain characters, and characters that a backslash covers. A quote stands in
it only behind a backslash, and it does not end with a backslash that covers nothing. -/
inductive Body : List Char → Prop
  | nil : Body []
  | plain {c : Char} {rest : List Char} : c ≠ '"' → c ≠ '\\' → Body rest → Body (c :: rest)
  | covered (c : Char) {rest : List Char} : Body rest → Body ('\\' :: c :: rest)

/-- A text that is a pair with a key and the body of a value. -/
structure ReadablePair (key body text : List Char) : Prop where
  /-- The key is not empty. -/
  key_ne_nil : key ≠ []
  /-- The key holds no colon, quote, blank or control character. -/
  key_chars : ∀ c ∈ key, c ≠ ':' ∧ c ≠ '"' ∧ Text.isBlank c = false ∧ Text.isControl c = false
  /-- The value ends at its closing quote. -/
  covers : Body body
  /-- The key, a colon and the body between quotes. -/
  text_eq : text = key ++ ':' :: '"' :: (body ++ ['"'])

/-- A value is a body with every backslash and quote replaced by the quote: it has the same pieces
between the replaced places, and none of these holds a place to replace. -/
def Unescapes (body value : List Char) : Prop :=
  ∃ first others, (∀ piece ∈ first :: others, ¬ ['\\', '"'] <:+: piece) ∧
    body = first ++ others.flatMap ('\\' :: '"' :: ·) ∧ value = first ++ others.flatMap ('"' :: ·)

/-- The pairs that a text begins with, up to where no readable pair follows. -/
inductive Reads : List Char → List (String × String) → Prop
  | stop {remainder : List Char} :
    (∀ blanks rest, remainder = blanks ++ rest → (∀ c ∈ blanks, Text.isBlank c = true) →
      ∀ key body text, ReadablePair key body text → ¬ text <+: rest) →
    Reads remainder []
  | pair {blanks key body text value rest : List Char} {pairs : List (String × String)} :
    (∀ c ∈ blanks, Text.isBlank c = true) → ReadablePair key body text → Unescapes body value →
    Reads rest pairs →
    Reads (blanks ++ text ++ rest) ((String.ofList key, String.ofList value) :: pairs)

/-- What is left of a body from a place on: behind a backslash one character is covered, whatever it
is, before the body goes on. -/
def BodyFrom : (escaped : Bool) → List Char → Prop
  | false, body => Body body
  | true, body => ∃ c rest, body = c :: rest ∧ Body rest

/-- What stands before the closing quote is the body of a value, or what is left of it. -/
theorem bodyFrom_of_readBody? {escaped : Bool} {cs body rest : List Char}
    (h : readBody? escaped cs = some (body, rest)) :
    cs = body ++ '"' :: rest ∧ BodyFrom escaped body := by
  induction cs generalizing escaped body with
  | nil => cases escaped <;> cases h
  | cons c cs ih =>
    cases escaped with
    | false =>
      rw [readBody?] at h
      split at h
      · next hquote =>
        cases h
        exact ⟨by rw [hquote, List.nil_append], Body.nil⟩
      · next hquote =>
        obtain ⟨⟨found, rest'⟩, hread, heq⟩ := Option.map_eq_some_iff.mp h
        cases heq
        obtain ⟨hcs, hbody⟩ := ih hread
        refine ⟨by rw [hcs, List.cons_append], ?_⟩
        by_cases hslash : c = '\\'
        · rw [beq_iff_eq.mpr hslash] at hbody
          obtain ⟨d, tail, hfound, htail⟩ := hbody
          rw [hslash, hfound]
          exact Body.covered d htail
        · rw [beq_eq_false_iff_ne.mpr hslash] at hbody
          exact Body.plain hquote hslash hbody
    | true =>
      obtain ⟨⟨found, rest'⟩, hread, heq⟩ := Option.map_eq_some_iff.mp h
      cases heq
      obtain ⟨hcs, hbody⟩ := ih hread
      exact ⟨by rw [hcs, List.cons_append], c, found, rfl, hbody⟩

/-- A body is read up to its closing quote. -/
theorem Body.readBody? {body : List Char} (h : Body body) (rest : List Char) :
    Tag.readBody? false (body ++ '"' :: rest) = some (body, rest) := by
  induction h with
  | nil => simp [Tag.readBody?]
  | @plain c body hquote hslash _ ih =>
    have hplain : (c == '\\') = false := beq_eq_false_iff_ne.mpr hslash
    rw [List.cons_append, Tag.readBody?, if_neg hquote, hplain, ih, Option.map_some]
  | covered c _ ih => simp [Tag.readBody?, ih]

/-- The characters of keys. -/
theorem isKeyChar_iff {c : Char} :
    isKeyChar c = true ↔
      c ≠ ':' ∧ c ≠ '"' ∧ Text.isBlank c = false ∧ Text.isControl c = false := by
  simp [isKeyChar, and_assoc]

/-- The key of a readable pair ends at the colon. -/
theorem ReadablePair.splits {key body text : List Char} (h : ReadablePair key body text)
    (rest : List Char) :
    (text ++ rest).takeWhile isKeyChar = key ∧
      (text ++ rest).dropWhile isKeyChar = ':' :: '"' :: (body ++ '"' :: rest) := by
  have hkey : ∀ c ∈ key, isKeyChar c = true := fun c hc => isKeyChar_iff.mpr (h.key_chars c hc)
  have hcolon : ¬isKeyChar ':' = true := by decide
  have htext : text ++ rest = key ++ ':' :: '"' :: (body ++ '"' :: rest) := by
    rw [h.text_eq]
    simp
  rw [htext, List.takeWhile_append_of_pos hkey, List.dropWhile_append_of_pos hkey,
    List.takeWhile_cons_of_neg hcolon, List.dropWhile_cons_of_neg hcolon, List.append_nil]
  exact ⟨rfl, rfl⟩

/-- One pair is read exactly if the text begins with a readable pair. -/
theorem readPair?_eq_some_iff {cs key body rest : List Char} :
    readPair? cs = some ((key, body), rest) ↔
      ∃ text, ReadablePair key body text ∧ cs = text ++ rest := by
  unfold readPair?
  dsimp only
  constructor
  · intro h
    split at h
    · cases h
    · next hkey =>
      split at h
      · next after hafter =>
        obtain ⟨⟨found, rest'⟩, hread, heq⟩ := Option.map_eq_some_iff.mp h
        cases heq
        obtain ⟨hcs, hbody⟩ := bodyFrom_of_readBody? hread
        refine ⟨_, ⟨?_, ?_, hbody, rfl⟩, ?_⟩
        · simpa using hkey
        · exact fun c hc => isKeyChar_iff.mp (List.mem_takeWhile_imp hc)
        · have hwhole := List.takeWhile_append_dropWhile (p := isKeyChar) (l := cs)
          rw [hafter, hcs] at hwhole
          simpa using hwhole.symm
      · cases h
  · rintro ⟨text, hpair, rfl⟩
    obtain ⟨hkey, hafter⟩ := hpair.splits rest
    have hne : key.isEmpty = false := by simpa using hpair.key_ne_nil
    have hbody := hpair.covers.readBody? rest
    simp only [hkey, hafter, hne, hbody, Bool.false_eq_true, if_false, Option.map_some]

/-- Blanks before a readable pair are skipped, and nothing else. -/
theorem ReadablePair.readPair?_trimStart {key body text blanks : List Char}
    (h : ReadablePair key body text) (hblanks : ∀ c ∈ blanks, Text.isBlank c = true)
    (rest : List Char) :
    readPair? (Text.trimStart Text.isBlank (blanks ++ (text ++ rest))) =
      some ((key, body), rest) := by
  have htrim : Text.trimStart Text.isBlank (blanks ++ (text ++ rest)) = text ++ rest := by
    obtain ⟨c, tail, rfl⟩ := List.exists_cons_of_ne_nil h.key_ne_nil
    have hc : ¬Text.isBlank c = true := by simp [(h.key_chars c List.mem_cons_self).2.2.1]
    rw [Text.trimStart, List.dropWhile_append_of_pos hblanks, h.text_eq]
    exact List.dropWhile_cons_of_neg hc
  rw [htrim]
  exact readPair?_eq_some_iff.mpr ⟨text, h, rfl⟩

/-- Without its blanks at the start, a text is what stands behind them. -/
theorem exists_eq_append_trimStart (cs : List Char) :
    ∃ blanks, (∀ c ∈ blanks, Text.isBlank c = true) ∧
      cs = blanks ++ Text.trimStart Text.isBlank cs :=
  ⟨cs.takeWhile Text.isBlank, fun _ hc => List.mem_takeWhile_imp hc,
    List.takeWhile_append_dropWhile.symm⟩

/-- No pair is read exactly if no readable pair follows, with or without blanks before it. -/
theorem readPair?_trimStart_eq_none_iff {cs : List Char} :
    readPair? (Text.trimStart Text.isBlank cs) = none ↔
      ∀ blanks rest, cs = blanks ++ rest → (∀ c ∈ blanks, Text.isBlank c = true) →
        ∀ key body text, ReadablePair key body text → ¬ text <+: rest := by
  constructor
  · rintro hnone blanks rest rfl hblanks key body text hpair ⟨behind, rfl⟩
    rw [hpair.readPair?_trimStart hblanks behind] at hnone
    cases hnone
  · intro hstop
    rw [Option.eq_none_iff_forall_ne_some]
    rintro ⟨⟨key, body⟩, behind⟩ hread
    obtain ⟨blanks, hblanks, hcs⟩ := exists_eq_append_trimStart cs
    obtain ⟨text, hpair, htext⟩ := readPair?_eq_some_iff.mp hread
    exact hstop blanks _ hcs hblanks key body text hpair ⟨behind, htext.symm⟩

/-- A piece without a place to replace stays as it is, in front of nothing or of a backslash. -/
theorem unescape_append {piece rest : List Char} (hpiece : ¬ ['\\', '"'] <:+: piece)
    (hrest : rest.head? ≠ some '"') : unescape (piece ++ rest) = piece ++ unescape rest := by
  induction piece with
  | nil => rfl
  | cons c piece ih =>
    rw [List.infix_cons_iff, not_or] at hpiece
    have hnot : ∀ tail, c = '\\' → piece ++ rest = '"' :: tail → False := by
      rintro tail rfl htail
      cases piece with
      | nil =>
        rw [List.nil_append] at htail
        exact hrest (by rw [htail, List.head?_cons])
      | cons d piece =>
        cases htail
        exact hpiece.1 ⟨piece, rfl⟩
    rw [List.cons_append, unescape.eq_2 c (piece ++ rest) hnot, ih hpiece.2, List.cons_append]

/-- Values are made from bodies by replacing every backslash and quote. -/
theorem unescape_eq_iff {body value : List Char} :
    unescape body = value ↔ Unescapes body value := by
  constructor
  · rintro rfl
    fun_induction unescape body with
    | case1 rest ih =>
      obtain ⟨first, others, hpieces, hbody, hvalue⟩ := ih
      have hnil : ¬ ['\\', '"'] <:+: [] := by simp
      refine ⟨[], first :: others, List.forall_mem_cons.mpr ⟨hnil, hpieces⟩, ?_, ?_⟩
      · simp [← hbody]
      · simp [hvalue]
    | case2 c rest hnot ih =>
      obtain ⟨first, others, hpieces, hbody, hvalue⟩ := ih
      obtain ⟨hfirst, hothers⟩ := List.forall_mem_cons.mp hpieces
      have hlonger : ¬ ['\\', '"'] <:+: c :: first := by
        rw [List.infix_cons_iff, not_or]
        refine ⟨?_, hfirst⟩
        rintro ⟨tail, htail⟩
        cases htail
        exact hnot (tail ++ others.flatMap ('\\' :: '"' :: ·)) rfl hbody
      refine ⟨c :: first, others, List.forall_mem_cons.mpr ⟨hlonger, hothers⟩, ?_, ?_⟩
      · rw [hbody, List.cons_append]
      · rw [hvalue, List.cons_append]
    | case3 => exact ⟨[], [], by simp, rfl, rfl⟩
  · rintro ⟨first, others, hpieces, rfl, rfl⟩
    induction others generalizing first with
    | nil =>
      have hpiece : unescape (first ++ []) = first ++ unescape [] :=
        unescape_append (hpieces first List.mem_cons_self) (by simp)
      simpa [unescape] using hpiece
    | cons piece others ih =>
      obtain ⟨hfirst, hothers⟩ := List.forall_mem_cons.mp hpieces
      have hrest := ih piece hothers
      rw [List.flatMap_cons, List.flatMap_cons, List.cons_append, List.cons_append,
        List.cons_append, unescape_append hfirst (by simp), unescape, hrest]

/-- Where no pair can be read there are none. -/
theorem pairsFrom_of_none {cs : List Char}
    (h : readPair? (Text.trimStart Text.isBlank cs) = none) : pairsFrom cs = [] := by
  rw [pairsFrom]
  split
  · rfl
  · next hread =>
    rw [h] at hread
    cases hread

/-- Where a pair can be read, it comes before those of the rest. -/
theorem pairsFrom_of_some {cs rest : List Char} {pair : List Char × List Char}
    (h : readPair? (Text.trimStart Text.isBlank cs) = some (pair, rest)) :
    pairsFrom cs = pair :: pairsFrom rest := by
  rw [pairsFrom]
  split
  · next hread =>
    rw [h] at hread
    cases hread
  · next hread =>
    rw [h] at hread
    cases hread
    rfl

/-- A pair as it is given out. -/
def shown (pair : List Char × List Char) : String × String :=
  (String.ofList pair.1, String.ofList (unescape pair.2))

/-- The pairs of a text are those that it begins with. -/
theorem reads_pairsFrom (cs : List Char) : Reads cs ((pairsFrom cs).map shown) := by
  fun_induction pairsFrom cs with
  | case1 cs hread => exact Reads.stop (readPair?_trimStart_eq_none_iff.mp hread)
  | case2 cs pair rest hread _ ih =>
    obtain ⟨key, body⟩ := pair
    obtain ⟨blanks, hblanks, hcs⟩ := exists_eq_append_trimStart cs
    obtain ⟨text, hpair, htext⟩ := readPair?_eq_some_iff.mp hread
    rw [htext, ← List.append_assoc] at hcs
    rw [List.map_cons, hcs]
    exact Reads.pair hblanks hpair (unescape_eq_iff.mp rfl) ih

/-- A text begins with no other pairs than those of the text. -/
theorem Reads.eq_pairsFrom {cs : List Char} {pairs : List (String × String)} (h : Reads cs pairs) :
    pairs = (pairsFrom cs).map shown := by
  induction h with
  | stop hstop => rw [pairsFrom_of_none (readPair?_trimStart_eq_none_iff.mpr hstop), List.map_nil]
  | @pair blanks key body text value rest pairs hblanks hpair hvalue _ ih =>
    have hread := hpair.readPair?_trimStart hblanks rest
    rw [List.append_assoc, pairsFrom_of_some hread, List.map_cons, shown,
      unescape_eq_iff.mpr hvalue, ih]

/-- Tags are read exactly up to the first text that is no readable pair: the pairs of a tag are the
list of the keys and values of readable pairs that its text begins with, each with blanks before it or
not, if no readable pair follows them, with or without blanks before it. -/
theorem pairs_eq_iff_reads (tag : Tag) (pairs : List (String × String)) :
    tag.pairs = pairs ↔ Reads tag.raw.toList pairs := by
  have hshown : tag.pairs = (pairsFrom tag.raw.toList).map shown := rfl
  constructor
  · rintro rfl
    rw [hshown]
    exact reads_pairsFrom tag.raw.toList
  · intro h
    rw [hshown, h.eq_pairsFrom]

/-- Of a tag with an escaped quote and a word that is no pair, the pairs before the word are read. -/
example : Tag.pairs { raw := "doc:\"say \\\"hi\\\"\"  json:\"\" broken yaml:\"b\"" } =
    [("doc", "say \"hi\""), ("json", "")] := by
  decide +kernel

end GoAddress.Tag
