import Mathlib.Data.List.Basic
import GoAddress.Proofs.Address.Grammar
import GoAddress.Proofs.Text.Trimming
import GoAddress.Resolve.Basic

/-!
# Reading addresses in a program

Written addresses of one package are told apart by their texts, and no blank stands in an address
that is read. An import path is plain in a program if its addresses are read so that resolving
arrives at the package: either as they are, or through the second reading that takes a dotted part
into the package.
-/

namespace GoAddress

/-- Ranges that lie apart share no character. -/
theorem Text.inRanges_of_apart {ranges others : List CodeRange}
    (h : ranges.all (fun r => others.all fun s => r.2 < s.1 || s.2 < r.1) = true) {c : Char}
    (hc : inRanges ranges c = true) : inRanges others c = false := by
  rw [Bool.eq_false_iff]
  intro hother
  obtain ⟨r, hr, hlow, hhigh⟩ := (inRanges_iff ranges c).mp hc
  obtain ⟨s, hs, hlow', hhigh'⟩ := (inRanges_iff others c).mp hother
  have hapart := List.all_eq_true.mp (List.all_eq_true.mp h r hr) s hs
  simp only [Bool.or_eq_true, decide_eq_true_eq] at hapart
  omega

/-- ASCII letters and digits are not blank. -/
theorem Text.isBlank_of_isAlphanum {c : Char} (h : c.isAlphanum = true) : isBlank c = false := by
  have hall : (List.range 128).all
      (fun n => !(Char.ofNat n).isAlphanum || !isBlank (Char.ofNat n)) = true := by decide +kernel
  have hlt : c.toNat < 128 := by
    change (decide (65 ≤ c.val ∧ c.val ≤ 90) || (decide (97 ≤ c.val) && decide (c.val ≤ 122)) ||
      (decide (48 ≤ c.val) && decide (c.val ≤ 57))) = true at h
    simp only [Bool.or_eq_true, Bool.and_eq_true, decide_eq_true_eq,
      UInt32.le_iff_toNat_le] at h
    change ((65 ≤ c.toNat ∧ c.toNat ≤ 90) ∨ 97 ≤ c.toNat ∧ c.toNat ≤ 122) ∨
      48 ≤ c.toNat ∧ c.toNat ≤ 57 at h
    omega
  have hc := List.all_eq_true.mp hall c.toNat (List.mem_range.mpr hlt)
  rw [Char.ofNat_toNat, h] at hc
  simpa using hc

/-- Letters and digits of any script are not blank. -/
theorem isBlank_of_isAlphanumeric {c : Char} (h : isAlphanumeric c = true) :
    Text.isBlank c = false := by
  have hletters : Text.alphabeticRanges.all
      (fun r => Text.blankRanges.all fun s => r.2 < s.1 || s.2 < r.1) = true := by decide +kernel
  have hnumbers : Text.numericRanges.all
      (fun r => Text.blankRanges.all fun s => r.2 < s.1 || s.2 < r.1) = true := by decide +kernel
  simp only [isAlphanumeric, Text.isAlphabetic, Text.isNumeric, Bool.or_eq_true] at h
  rcases h with (h | h) | h | h
  · exact Text.isBlank_of_isAlphanum (by simp [Char.isAlphanum, h])
  · exact Text.inRanges_of_apart hletters h
  · exact Text.isBlank_of_isAlphanum (by simp [Char.isAlphanum, h])
  · exact Text.inRanges_of_apart hnumbers h

/-- A text without blanks stays as it is when trimmed. -/
theorem Text.trimBlanks_of_not_blank {s : String} (h : ∀ c ∈ s.toList, isBlank c = false) :
    trimBlanks s = s := by
  rw [trimBlanks, (Trimmed.of_forall h).trim_eq, String.ofList_toList]

namespace Address

/-- The characters of import paths are not blank. -/
theorem isBlank_of_isPackageChar {c : Char} (h : isPackageChar c = true) :
    Text.isBlank c = false := by
  simp only [isPackageChar, Bool.or_eq_true, beq_iff_eq] at h
  rcases h with (((h | rfl) | rfl) | rfl) | rfl
  · exact isBlank_of_isAlphanumeric h
  all_goals decide

/-- The characters of identifiers are not blank. -/
theorem isBlank_of_isIdentifier {name : String} (h : isIdentifier name = true) :
    ∀ c ∈ name.toList, Text.isBlank c = false := fun c hc =>
  isBlank_of_isPackageChar
    (isPackageChar_of_isIdentContinue ((isIdentifierChars_iff.mp h).2 c hc))

/-- No blank stands in the text of a step. -/
theorem isBlank_of_mem_text {s : Segment} (h : s.Legible) {c : Char} (hc : c ∈ s.text.toList) :
    Text.isBlank c = false := by
  rw [Segment.toList_text, List.mem_append] at hc
  rcases hc with hc | hc
  · have hall : s.category.text.toList.all (!Text.isBlank ·) = true := by
      cases s.category <;> decide
    simpa using List.all_eq_true.mp hall c hc
  · cases hs : s.selector with
    | none =>
      rw [hs] at hc
      exact (List.not_mem_nil hc).elim
    | some selector =>
      rw [hs, Segment.bracketed, List.mem_cons, List.mem_append, List.mem_singleton] at hc
      rcases hc with rfl | hc | rfl
      · decide
      · cases selector with
        | name name => exact isBlank_of_isIdentifier (h _ hs) c hc
        | index i =>
          rw [Selector.toList_text_index] at hc
          have hdigit := Nat.isDigit_of_mem_toDigits (by decide) (by decide) hc
          exact Text.isBlank_of_isAlphanum (by simp [Char.isAlphanum, hdigit])
      · decide

/-- An address whose parts can be told apart in its text: names are identifiers, and nothing follows
a package but a symbol. -/
structure Legible (a : Address) : Prop where
  /-- The symbol is an identifier. -/
  symbol : ∀ name, a.symbol = some name → isIdentifier name = true
  /-- The method is an identifier. -/
  method : ∀ name, a.method = some name → isIdentifier name = true
  /-- Methods and steps follow symbols. -/
  alone : a.symbol = none → a.method = none ∧ a.subpath = []
  /-- The steps can be told apart. -/
  steps : ∀ s ∈ a.subpath, s.Legible

/-- The text of a package is its import path. -/
theorem Legible.render_of_package {a : Address} (h : a.Legible) (hsymbol : a.symbol = none) :
    a.render = a.package := by
  obtain ⟨hmethod, hsubpath⟩ := h.alone hsymbol
  rw [← String.toList_inj, toList_render, hsymbol, hmethod, hsubpath]
  simp [dotted]

/-- The symbol and the method of an address with the dots before them. -/
def names (a : Address) : List Char :=
  dotted (a.symbol.map String.toList) ++ dotted (a.method.map String.toList)

/-- No slash stands in the names of an address. -/
theorem Legible.slash_not_mem_names {a : Address} (h : a.Legible) : '/' ∉ a.names := by
  have hdotted : ∀ name : Option String, (∀ text, name = some text → isIdentifier text = true) →
      '/' ∉ dotted (name.map String.toList) := by
    intro name hname
    cases name with
    | none => exact List.not_mem_nil
    | some text =>
      rw [Option.map_some, dotted, List.mem_cons]
      rintro (heq | hmem)
      · cases heq
      · exact not_mem_of_isIdentifierChars (hname text rfl) (by decide) hmem
  rw [names, List.mem_append, not_or]
  exact ⟨hdotted a.symbol h.symbol, hdotted a.method h.method⟩

/-- The dots tell the symbol and the method apart. -/
theorem Legible.splitOn_names {a : Address} (h : a.Legible) :
    Text.splitOn '.' a.names =
      [] :: ((a.symbol.map String.toList).toList ++ (a.method.map String.toList).toList) := by
  have hfree : ∀ name : String, isIdentifier name = true → '.' ∉ name.toList :=
    fun name hname => not_mem_of_isIdentifierChars hname (by decide)
  rw [names]
  cases hsymbol : a.symbol with
  | none =>
    rw [(h.alone hsymbol).1]
    rfl
  | some symbol =>
    have hs := Text.splitOn_of_not_mem (hfree symbol (h.symbol symbol hsymbol))
    cases hmethod : a.method with
    | none =>
      simp only [Option.map_some, Option.map_none, dotted, List.append_nil]
      rw [← List.nil_append ('.' :: symbol.toList), Text.splitOn_append, hs]
      rfl
    | some method =>
      have hm := Text.splitOn_of_not_mem (hfree method (h.method method hmethod))
      simp only [Option.map_some, dotted]
      rw [← List.nil_append ('.' :: symbol.toList), List.append_assoc, List.cons_append,
        Text.splitOn_append, Text.splitOn_append, hs, hm]
      rfl

/-- Behind the package, a written address splits into its names and its steps. -/
theorem Legible.splitOn_behind {a : Address} (h : a.Legible) :
    Text.splitOn '/' (a.names ++ a.subpath.flatMap ('/' :: ·.text.toList)) =
      a.names :: a.subpath.map (·.text.toList) := by
  have hjoin := Text.joinWith_cons '/' a.names (a.subpath.map (·.text.toList))
  rw [List.flatMap_map] at hjoin
  rw [← hjoin]
  apply Text.splitOn_joinWith (List.cons_ne_nil _ _)
  intro part hpart
  rcases List.mem_cons.mp hpart with rfl | hpart
  · exact h.slash_not_mem_names
  · obtain ⟨s, hs, rfl⟩ := List.mem_map.mp hpart
    exact Segment.not_mem_text (h.steps s hs) (Or.inr rfl)

/-- Steps that can be told apart are equal if their texts are. -/
theorem steps_injective {xs ys : List Segment} (hxs : ∀ s ∈ xs, s.Legible)
    (hys : ∀ s ∈ ys, s.Legible) (h : xs.map (·.text.toList) = ys.map (·.text.toList)) :
    xs = ys := by
  induction xs generalizing ys with
  | nil => exact (List.map_eq_nil_iff.mp h.symm).symm
  | cons x xs ih =>
    cases ys with
    | nil => cases h
    | cons y ys =>
      obtain ⟨hx, hxs⟩ := List.forall_mem_cons.mp hxs
      obtain ⟨hy, hys⟩ := List.forall_mem_cons.mp hys
      obtain ⟨hhead, htail⟩ := List.cons.inj h
      rw [Segment.text_injective hx hy hhead, ih hxs hys htail]

/-- Legible addresses of one package are equal if their texts are. -/
theorem render_injective {a b : Address} (ha : a.Legible) (hb : b.Legible)
    (hpackage : a.package = b.package) (h : a.render = b.render) : a = b := by
  have htext := congrArg String.toList h
  rw [toList_render, toList_render, hpackage, List.append_assoc, List.append_assoc,
    List.append_assoc, List.append_assoc, List.append_cancel_left_eq, ← List.append_assoc,
    ← List.append_assoc] at htext
  have hsplit := congrArg (Text.splitOn '/') htext
  have hbehind := (ha.splitOn_behind.symm.trans hsplit).trans hb.splitOn_behind
  obtain ⟨hnames, hsteps⟩ := List.cons.inj hbehind
  have hdots := congrArg (Text.splitOn '.') hnames
  rw [ha.splitOn_names, hb.splitOn_names] at hdots
  have hlist := (List.cons.inj hdots).2
  have hsubpath := steps_injective ha.steps hb.steps hsteps
  have hboth : a.symbol = b.symbol ∧ a.method = b.method := by
    have haNone := fun h => (ha.alone h).1
    have hbNone := fun h => (hb.alone h).1
    cases hs : a.symbol <;> cases hs' : b.symbol <;> cases hm : a.method <;>
      cases hm' : b.method <;> simp_all [String.toList_inj]
  obtain ⟨package, symbol, method, subpath⟩ := a
  obtain ⟨package', symbol', method', subpath'⟩ := b
  obtain ⟨rfl, rfl⟩ := hboth
  cases hpackage
  cases hsubpath
  rfl

/-- Well-formed addresses are legible. -/
theorem WellFormed.legible {a : Address} (h : a.WellFormed) : a.Legible := by
  rcases h.shape with hshape | hshape
  · refine ⟨?_, ?_, fun _ => ⟨hshape.method, hshape.subpath⟩, ?_⟩
    · simp [hshape.symbol]
    · simp [hshape.method]
    · simp [hshape.subpath]
  · obtain ⟨name, hname, hident⟩ := hshape.symbol
    refine ⟨?_, hshape.method, ?_, fun s hs => (hshape.steps s hs).legible⟩
    · intro name' hname'
      rw [hname] at hname'
      exact Option.some.inj hname' ▸ hident
    · intro hnone
      rw [hname] at hnone
      cases hnone

/-- No blank stands in the text of a well-formed address. -/
theorem WellFormed.isBlank_of_mem_render {a : Address} (h : a.WellFormed) {c : Char}
    (hc : c ∈ a.render.toList) : Text.isBlank c = false := by
  have hdotted : ∀ name : Option String, (∀ text, name = some text → isIdentifier text = true) →
      c ∈ dotted (name.map String.toList) → Text.isBlank c = false := by
    intro name hname hmem
    cases name with
    | none => exact (List.not_mem_nil hmem).elim
    | some text =>
      rcases List.mem_cons.mp hmem with rfl | hmem
      · decide
      · exact isBlank_of_isIdentifier (hname text rfl) c hmem
  rw [toList_render, List.mem_append, List.mem_append, List.mem_append, List.mem_flatMap] at hc
  rcases hc with ((hc | hc) | hc) | ⟨s, hs, hc⟩
  · rw [← Text.joinWith_splitOn '/' a.package.toList] at hc
    rcases Text.mem_of_mem_joinWith hc with rfl | ⟨part, hpart, hc⟩
    · decide
    · exact isBlank_of_isPackageChar (h.package.chars part hpart c hc)
  · exact hdotted a.symbol h.legible.symbol hc
  · exact hdotted a.method h.legible.method hc
  · rcases List.mem_cons.mp hc with rfl | hc
    · decide
    · exact isBlank_of_mem_text (h.legible.steps s hs) hc

/-- The text of a well-formed address stays as it is when trimmed. -/
theorem WellFormed.trimBlanks_render {a : Address} (h : a.WellFormed) :
    Text.trimBlanks a.render = a.render :=
  Text.trimBlanks_of_not_blank fun _ hc => h.isBlank_of_mem_render hc

/-- The components of a path with a dotted part behind its last component. -/
theorem splitOn_versioned (base : List Char) {version : List Char}
    (hversion : isIdentifierChars version = true) :
    ∃ before part, Text.splitOn '/' base = before ++ [part] ∧
      Text.splitOn '/' (base ++ '.' :: version) = before ++ [part ++ '.' :: version] := by
  refine Text.splitOn_concat '/' base ?_
  rw [List.mem_cons, not_or]
  exact ⟨by decide, not_mem_of_isIdentifierChars hversion (by decide)⟩

/-- An import path stays one without the dotted part of its last component. -/
theorem ImportPath.of_versioned {base version : List Char}
    (hpath : ImportPath (base ++ '.' :: version)) (hversion : isIdentifierChars version = true)
    (hlast : ∀ part, (Text.splitOn '/' base).getLast? = some part → part ≠ []) :
    ImportPath base := by
  obtain ⟨before, part, hbase, hwhole⟩ := splitOn_versioned base hversion
  obtain ⟨hslash, hdot, hchars⟩ := importPath_iff.mp hpath
  rw [hwhole] at hslash hchars
  rw [Text.splitOn_append] at hdot
  rw [importPath_iff, hbase]
  refine ⟨?_, fun hnil => hdot (List.mem_append_left _ hnil), ?_⟩
  · intro hnil
    rcases List.mem_append.mp hnil with hnil | hnil
    · exact hslash (List.mem_append_left _ hnil)
    · exact hlast part (by rw [hbase, List.getLast?_concat]) (List.mem_singleton.mp hnil).symm
  · intro x hx c hc
    rcases List.mem_append.mp hx with hx | hx
    · exact hchars x (List.mem_append_left _ hx) c hc
    · rw [List.mem_singleton.mp hx] at hc
      exact hchars (part ++ '.' :: version) (by simp) c (List.mem_append_left _ hc)

/-- The last component of a path that stays a package has no dot. -/
theorem StaysPackage.dot_not_mem_last {parts : List (List Char)} (h : StaysPackage parts)
    {part : List Char} (hlast : parts.getLast? = some part) : '.' ∉ part := by
  obtain ⟨before, rfl⟩ := List.getLast?_eq_some_iff.mp hlast
  intro hdot
  exact (h before part [] rfl hdot fun x hx => (List.not_mem_nil hx).elim).1 rfl

/-- A legible address with a symbol is well formed behind an import path without a dot in its last
component. -/
theorem Legible.wellFormed {a : Address} (h : a.Legible) (hsteps : ∀ s ∈ a.subpath, s.Valid)
    (hsymbol : a.symbol ≠ none) (hpath : ImportPath a.package.toList)
    (hlast : ∀ part, (Text.splitOn '/' a.package.toList).getLast? = some part → '.' ∉ part) :
    a.WellFormed := by
  obtain ⟨name, hname⟩ := Option.ne_none_iff_exists'.mp hsymbol
  refine ⟨hpath, Or.inr ⟨⟨name, hname, h.symbol name hname⟩, h.method, ?_, hsteps⟩⟩
  intro part hpart
  have hdot := hlast part hpart
  exact ⟨fun h => hdot (List.mem_of_head? h), fun h => hdot (List.mem_of_getLast? h), fun _ => hdot⟩

/-- A legible address with a method is well formed behind an import path whose last component has one
dot, with an identifier behind it. -/
theorem Legible.wellFormed_of_versioned {a : Address} (h : a.Legible)
    (hsteps : ∀ s ∈ a.subpath, s.Valid) {name method : String} (hsymbol : a.symbol = some name)
    (hmethod : a.method = some method) (hpath : ImportPath a.package.toList)
    {base version : List Char} (htext : a.package.toList = base ++ '.' :: version)
    (hversion : isIdentifierChars version = true)
    (hlast : ∀ part, (Text.splitOn '/' base).getLast? = some part → part ≠ [] ∧ '.' ∉ part) :
    a.WellFormed := by
  refine ⟨hpath, Or.inr ⟨⟨name, hsymbol, h.symbol name hsymbol⟩, h.method, ?_, hsteps⟩⟩
  intro part hpart
  obtain ⟨before, tail, hsplit, hwhole⟩ := splitOn_versioned base hversion
  obtain ⟨hne, hdot⟩ := hlast tail (by rw [hsplit, List.getLast?_concat])
  rw [htext, hwhole, List.getLast?_concat] at hpart
  cases hpart
  refine ⟨?_, ?_, by simp [hmethod]⟩
  · rw [List.head?_append_of_ne_nil _ hne]
    exact fun h => hdot (List.mem_of_head? h)
  · have hend := @getLast?_symbolic tail version none hversion (by simp)
    rwa [dotted, List.append_nil] at hend

/-- An import path that symbols can be written behind: its last component has no dot, or one dot with
an identifier behind it. -/
structure CarriesSymbols (path : List Char) : Prop where
  /-- The path belongs to the grammar. -/
  importPath : ImportPath path
  /-- How the last component looks. -/
  last : (∀ part, (Text.splitOn '/' path).getLast? = some part → '.' ∉ part) ∨
    ∃ base version, path = base ++ '.' :: version ∧ isIdentifierChars version = true ∧
      ∀ part, (Text.splitOn '/' base).getLast? = some part → part ≠ [] ∧ '.' ∉ part

/-- Behind the last component with a dot there is none with the name of a category. -/
def PlainTail (parts : List (List Char)) : Prop :=
  ∀ before dotted after, parts = before ++ dotted :: after → '.' ∈ dotted →
    (∀ part ∈ after, '.' ∉ part) → ∀ part ∈ after, ∀ c : Category, part ≠ c.text.toList

/-- A path with a plain tail and no dot in its last component stays a package. -/
theorem PlainTail.staysPackage {parts : List (List Char)} (h : PlainTail parts)
    (hlast : ∀ part, parts.getLast? = some part → '.' ∉ part) : StaysPackage parts := by
  intro before dotted after hparts hdot hafter
  refine ⟨?_, h before dotted after hparts hdot hafter⟩
  rintro rfl
  exact hlast dotted (by rw [hparts, List.getLast?_concat]) hdot

/-- A path whose last component has a dot has nothing behind that. -/
theorem plainTail_of_dot {before : List (List Char)} {part : List Char} (hdot : '.' ∈ part) :
    PlainTail (before ++ [part]) := by
  intro before' dotted after hparts _ hafter
  cases after using List.reverseRecOn with
  | nil => exact fun x hx => (List.not_mem_nil hx).elim
  | append_singleton after last =>
    have hconcat : before ++ [part] = (before' ++ dotted :: after) ++ [last] := by
      rw [hparts, List.append_assoc, List.cons_append]
    have hlast : part = last := List.singleton_inj.mp (List.append_inj' hconcat rfl).2
    exact absurd (hlast ▸ hdot) (hafter last (by simp))

/-- A legible address behind a path that carries symbols is read, as it stands or with the dotted
part of the path as a symbol. -/
theorem Legible.exists_wellFormed {a : Address} (h : a.Legible) (hsteps : ∀ s ∈ a.subpath, s.Valid)
    (hpath : CarriesSymbols a.package.toList)
    (htail : a.symbol = none → PlainTail (Text.splitOn '/' a.package.toList)) :
    ∃ b : Address, b.WellFormed ∧ b.render = a.render ∧
      (b = a ∨ b.alternatives = [a] ∧
        ∃ version, a.package = b.package ++ "." ++ version ∧ isIdentifier version = true) := by
  rcases hpath.last with hlast | ⟨base, version, htext, hversion, hlast⟩
  · refine ⟨a, ?_, rfl, Or.inl rfl⟩
    cases hsymbol : a.symbol with
    | none =>
      obtain ⟨hmethod, hsubpath⟩ := h.alone hsymbol
      exact ⟨hpath.importPath,
        Or.inl ⟨hsymbol, hmethod, hsubpath, (htail hsymbol).staysPackage hlast⟩⟩
    | some name => exact h.wellFormed hsteps (by simp [hsymbol]) hpath.importPath hlast
  · have hbase : ImportPath base :=
      ImportPath.of_versioned (htext ▸ hpath.importPath) hversion fun part hpart =>
        (hlast part hpart).1
    have hident : isIdentifier (String.ofList version) = true := by
      rw [isIdentifier, String.toList_ofList, hversion]
    have hpackage : a.package = String.ofList base ++ "." ++ String.ofList version := by
      rw [← String.toList_inj, htext]
      simp
    -- Without a method the dotted part of the package reads as the symbol or its owner.
    have hsecond : ∀ b : Address, b.package = String.ofList base →
        b.symbol = some (String.ofList version) → b.Legible → (∀ s ∈ b.subpath, s.Valid) →
        b.WellFormed := by
      intro b hb hsymbol hlegible hvalid
      refine hlegible.wellFormed hvalid (by simp [hsymbol]) ?_ ?_
      · rw [hb, String.toList_ofList]
        exact hbase
      · rw [hb, String.toList_ofList]
        exact fun part hpart => (hlast part hpart).2
    obtain ⟨package, symbol, method, subpath⟩ := a
    dsimp only at hpackage htext hsteps
    cases symbol with
    | none =>
      obtain ⟨hmethod, hsubpath⟩ := h.alone rfl
      cases hmethod
      cases hsubpath
      refine ⟨{ package := String.ofList base, symbol := some (String.ofList version) },
        hsecond _ rfl rfl ?_ hsteps, ?_, Or.inr ⟨?_, String.ofList version, hpackage, hident⟩⟩
      · exact ⟨fun name hname => Option.some.inj hname ▸ hident, by simp, by simp, by simp⟩
      · rw [← String.toList_inj, toList_render, toList_render]
        simp [dotted, htext]
      · simp [alternatives, hpackage]
    | some name =>
      cases method with
      | none =>
        refine ⟨{ package := String.ofList base, symbol := some (String.ofList version),
                  method := some name, subpath },
          hsecond _ rfl rfl ?_ hsteps, ?_, Or.inr ⟨?_, String.ofList version, hpackage, hident⟩⟩
        · exact ⟨fun name hname => Option.some.inj hname ▸ hident,
            fun name' hname' => Option.some.inj hname' ▸ h.symbol name rfl, by simp, h.steps⟩
        · rw [← String.toList_inj, toList_render, toList_render]
          simp [dotted, htext]
        · simp [alternatives, hpackage]
      | some method =>
        exact ⟨_, h.wellFormed_of_versioned hsteps rfl rfl hpath.importPath htext hversion hlast,
          rfl, Or.inl rfl⟩

end Address

namespace Program

/-- An import path whose last component has one dot with an identifier behind it, where no loaded
package answers to the path without the two. -/
def Versioned (program : Program) (path : String) : Prop :=
  ∃ base version : String, path = base ++ "." ++ version ∧ isIdentifier version = true ∧
    (∀ part, (Text.splitOn '/' base.toList).getLast? = some part → part ≠ [] ∧ '.' ∉ part) ∧
    program.package? base = none

/-- An import path that is read as itself: as a package as a whole, or else with its last dotted
part as a symbol of a package that is not loaded. -/
structure PlainPath (program : Program) (path : String) : Prop where
  /-- The path belongs to the grammar. -/
  importPath : Address.ImportPath path.toList
  /-- How the path is read. -/
  reads : Address.StaysPackage (Text.splitOn '/' path.toList) ∨ program.Versioned path

/-- A path behind which addresses are read so that resolving arrives at whatever answers to the path:
it carries symbols, and nothing answers to it without a dotted part at its end. -/
structure ReadsBehind (program : Program) (path : String) : Prop where
  /-- Symbols can be written behind the path. -/
  carries : Address.CarriesSymbols path.toList
  /-- No package answers to the path without a dotted part. -/
  unanswered : ∀ base version : String, path = base ++ "." ++ version →
    isIdentifier version = true → program.package? base = none

/-- A path that is read as a package is plain. -/
theorem plainPath_of_parse {program : Program} {path : String}
    (h : Address.parse path = .ok { package := path }) : program.PlainPath path := by
  obtain ⟨hpath, hshape | hshape⟩ := (Address.parse_eq_ok_iff.mp h).1
  · exact ⟨hpath, Or.inl hshape.stays⟩
  · obtain ⟨name, hname, -⟩ := hshape.symbol
    cases hname

/-- The last dot of a text cuts it in one way. -/
theorem eq_of_versioned {base base' version version' : String}
    (hversion : isIdentifier version = true) (hversion' : isIdentifier version' = true)
    (h : base ++ "." ++ version = base' ++ "." ++ version') : base = base' := by
  have hlists : Text.splitOn '.' base.toList ++ [version.toList] =
      Text.splitOn '.' base'.toList ++ [version'.toList] := by
    have hfree : ∀ name : String, isIdentifier name = true → '.' ∉ name.toList :=
      fun name hname => not_mem_of_isIdentifierChars hname (by decide)
    have hsplit := congrArg (fun s : String => Text.splitOn '.' s.toList) h
    simpa [Text.splitOn_append, Text.splitOn_of_not_mem (hfree version hversion),
      Text.splitOn_of_not_mem (hfree version' hversion')] using hsplit
  have hbases := (List.append_inj' hlists rfl).1
  rw [← String.toList_inj, ← Text.joinWith_splitOn '.' base.toList, hbases, Text.joinWith_splitOn]

/-- Addresses are read behind plain paths, whose tail is plain as well. -/
theorem PlainPath.readsBehind {program : Program} {path : String} (h : program.PlainPath path) :
    program.ReadsBehind path ∧ Address.PlainTail (Text.splitOn '/' path.toList) := by
  rcases h.reads with hstays | ⟨base, version, rfl, hversion, hlast, hnone⟩
  · refine ⟨⟨⟨h.importPath, Or.inl fun part hpart => hstays.dot_not_mem_last hpart⟩, ?_⟩, ?_⟩
    · -- With a dotted part at its end the path would not stay a package.
      intro base version hpath hversion
      obtain ⟨before, part, -, hwhole⟩ := Address.splitOn_versioned base.toList hversion
      have hsplit : Text.splitOn '/' path.toList = before ++ [part ++ '.' :: version.toList] := by
        rw [← hwhole, hpath]
        simp
      have hdot := hstays.dot_not_mem_last (by rw [hsplit, List.getLast?_concat])
      exact absurd (by simp) hdot
    · intro before dotted after hparts hdot hafter
      exact (hstays before dotted after hparts hdot hafter).2
  · have htext : (base ++ "." ++ version).toList = base.toList ++ '.' :: version.toList := by simp
    refine ⟨⟨⟨h.importPath, Or.inr ⟨_, _, htext, hversion, hlast⟩⟩, ?_⟩, ?_⟩
    · intro base' version' hpath hversion'
      rw [← eq_of_versioned hversion hversion' hpath, hnone]
    · obtain ⟨before, part, -, hwhole⟩ := Address.splitOn_versioned base.toList hversion
      rw [htext, hwhole]
      exact Address.plainTail_of_dot (by simp)

end Program

namespace Workspace

variable {program : Program} {p : Package}

/-- An address whose package is loaded is read as it stands. -/
theorem reading?_of_package? {a : Address} (h : program.package? a.package = some p) :
    (ofProgram program).reading? a = some (p, a) := by
  have hpackage : (ofProgram program).program.package? a.package = some p := h
  simp [reading?, hpackage]

/-- An address whose package is not loaded is read with the package that takes in one more part. -/
theorem reading?_of_alternative {a b : Address} (hnone : program.package? b.package = none)
    (halternative : b.alternatives = [a]) (h : program.package? a.package = some p) :
    (ofProgram program).reading? b = some (p, a) := by
  have hpackage : (ofProgram program).program.package? a.package = some p := h
  have hnone' : (ofProgram program).program.package? b.package = none := hnone
  simp [reading?, halternative, hpackage, hnone']

/-- The addresses behind a path are read, as they stand or in another way, so that they lead to the
package that answers to the path, and to themselves in it. -/
theorem exists_reading {key : String} (hkey : program.ReadsBehind key)
    (hloaded : program.package? key = some p) {a : Address} (hpackage : a.package = key)
    (hlegible : a.Legible) (hsteps : ∀ s ∈ a.subpath, s.Valid)
    (htail : a.symbol = none → Address.PlainTail (Text.splitOn '/' key.toList)) :
    ∃ b, Address.parse a.render = .ok b ∧ (ofProgram program).reading? b = some (p, a) := by
  subst hpackage
  obtain ⟨b, hwell, hrender, hb⟩ := hlegible.exists_wellFormed hsteps hkey.carries htail
  refine ⟨b, Address.parse_eq_ok_iff.mpr ⟨hwell, hrender⟩, ?_⟩
  rcases hb with rfl | ⟨halternatives, version, hversion, hident⟩
  · exact reading?_of_package? hloaded
  · exact reading?_of_alternative (hkey.unanswered _ _ hversion hident) halternatives hloaded

/-- The text of an address of a loaded package is no lone name. -/
theorem not_lone_name {key : String} (hloaded : program.package? key = some p) {a : Address}
    (hpackage : a.package = key) (hlegible : a.Legible) :
    (isIdentifier a.render && (program.package? a.render).isNone) = false := by
  cases hsymbol : a.symbol with
  | none =>
    rw [hlegible.render_of_package hsymbol, hpackage, hloaded]
    simp
  | some name =>
    have hdot : '.' ∈ a.render.toList := by
      rw [Address.toList_render, hsymbol]
      simp [Address.dotted]
    have hnot : isIdentifier a.render = false := by
      rw [Bool.eq_false_iff]
      exact fun hident => not_mem_of_isIdentifierChars hident (by decide) hdot
    rw [hnot, Bool.false_and]

/-- A text resolves as the address that it comes to be read as does in the package of that. -/
theorem resolveText_of_reading {a b : Address} (hlegible : a.Legible)
    (hloaded : program.package? a.package = some p) (hparse : Address.parse a.render = .ok b)
    (hreading : (ofProgram program).reading? b = some (p, a)) :
    (ofProgram program).resolveText a.render = (ofProgram program).resolveIn p a := by
  obtain ⟨hwell, hrender⟩ := Address.parse_eq_ok_iff.mp hparse
  have htrim : Text.trimBlanks a.render = a.render := by
    rw [← hrender, hwell.trimBlanks_render]
  have hlone : ¬(isIdentifier a.render &&
      ((ofProgram program).program.package? a.render).isNone) = true := by
    have hfalse := not_lone_name hloaded rfl hlegible
    exact Bool.eq_false_iff.mp hfalse
  simp only [resolveText, htrim, if_neg hlone, hparse, resolve, hreading]

/-- The text of an address behind a path resolves as the address does in the package that answers to
the path. -/
theorem resolveText_behind {key : String} (hkey : program.ReadsBehind key)
    (hloaded : program.package? key = some p) {a : Address} (hpackage : a.package = key)
    (hlegible : a.Legible) (hsteps : ∀ s ∈ a.subpath, s.Valid)
    (htail : a.symbol = none → Address.PlainTail (Text.splitOn '/' key.toList)) :
    (ofProgram program).resolveText a.render = (ofProgram program).resolveIn p a := by
  obtain ⟨b, hparse, hreading⟩ := exists_reading hkey hloaded hpackage hlegible hsteps htail
  exact resolveText_of_reading hlegible (hpackage ▸ hloaded) hparse hreading

/-- The text of an address of a plain package resolves as the address does in the package, and the
canonical address is the one that the text is read as. -/
theorem resolveText_render (hplain : program.PlainPath p.path)
    (hloaded : program.package? p.path = some p) {a : Address} (hpackage : a.package = p.path)
    (hlegible : a.Legible) (hsteps : ∀ s ∈ a.subpath, s.Valid) :
    (ofProgram program).resolveText a.render = (ofProgram program).resolveIn p a ∧
      Address.parse a.render = .ok (readBack a) ∧ (readBack a).render = a.render := by
  obtain ⟨hkey, htail⟩ := hplain.readsBehind
  obtain ⟨b, hparse, -⟩ := exists_reading hkey hloaded hpackage hlegible hsteps fun _ => htail
  have hback : readBack a = b := by simp [readBack, Address.parse?, hparse, Except.toOption]
  refine ⟨resolveText_behind hkey hloaded hpackage hlegible hsteps fun _ => htail, hback ▸ hparse, ?_⟩
  rw [hback]
  exact (Address.parse_eq_ok_iff.mp hparse).2

end Workspace

end GoAddress
