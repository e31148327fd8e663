import Mathlib.Data.List.Basic
import Mathlib.Data.List.Pairwise
import Mathlib.Order.Nat
import GoAddress.Source.Extract

/-!
# Declarations in source order

What a parser finds stands in the order of the text, one phrase inside or behind another, and so do
the declarations that are taken from it. Main statement: if this holds of the phrases of a parser, the
declarations of a file are listed in the order in which they start in the text, whether or not the
file could be read as a whole.
-/

namespace GoAddress.Source

mutual

/-- The phrases inside a phrase follow one another between its start and its end, and so do
theirs. -/
def Phrase.InOrder : Phrase → Prop
  | .mk _ _ region parts => Phrase.Between region.start.byte parts region.stop.byte

/-- Phrases follow one another between two bytes. -/
def Phrase.Between : (first : Nat) → List Phrase → (last : Nat) → Prop
  | first, [], last => first ≤ last
  | first, p :: more, last =>
    first ≤ p.region.start.byte ∧ p.InOrder ∧ Phrase.Between p.region.stop.byte more last

end

namespace Phrase

/-- No phrases stand between bytes in order. -/
@[simp] theorem between_nil {first last : Nat} : Between first [] last ↔ first ≤ last := by
  rw [Between]

/-- A phrase and what follows it. -/
@[simp] theorem between_cons {first last : Nat} {p : Phrase} {phrases : List Phrase} :
    Between first (p :: phrases) last ↔
      first ≤ p.region.start.byte ∧ p.InOrder ∧ Between p.region.stop.byte phrases last := by
  rw [Between]

/-- The phrases inside a phrase stand between its start and its end. -/
theorem InOrder.parts {p : Phrase} (h : p.InOrder) :
    Between p.region.start.byte p.parts p.region.stop.byte := by
  cases p
  rwa [InOrder] at h

/-- What stands behind a byte stands behind those before it. -/
theorem Between.mono {first first' last : Nat} {phrases : List Phrase}
    (h : Between first phrases last) (hle : first' ≤ first) : Between first' phrases last := by
  cases phrases with
  | nil => exact between_nil.mpr (hle.trans (between_nil.mp h))
  | cons p phrases =>
    obtain ⟨hstart, hp⟩ := between_cons.mp h
    exact between_cons.mpr ⟨hle.trans hstart, hp⟩

/-- Phrases that stand behind others stand behind all of them. -/
theorem Between.append {first middle last : Nat} {phrases more : List Phrase}
    (h : Between first phrases middle) (hmore : Between middle more last) :
    Between first (phrases ++ more) last := by
  induction phrases generalizing first with
  | nil => exact hmore.mono (between_nil.mp h)
  | cons p phrases ih =>
    obtain ⟨hstart, hp, hphrases⟩ := between_cons.mp h
    exact between_cons.mpr ⟨hstart, hp, ih hphrases⟩

mutual

/-- A phrase ends behind its start. -/
theorem InOrder.start_le : ∀ {p : Phrase}, p.InOrder → p.region.start.byte ≤ p.region.stop.byte
  | .mk _ _ _ _, h => by
    rw [InOrder] at h
    exact Between.le h

/-- Phrases between two bytes end behind the first. -/
theorem Between.le : ∀ {first last : Nat} {phrases : List Phrase},
    Between first phrases last → first ≤ last
  | _, _, [], h => between_nil.mp h
  | _, _, p :: phrases, h => by
    obtain ⟨hstart, hp, hphrases⟩ := between_cons.mp h
    exact (hstart.trans hp.start_le).trans hphrases.le

end

/-- Phrases between two bytes are in order, and each stands between the bytes. -/
theorem Between.of_mem {first last : Nat} {phrases : List Phrase} (h : Between first phrases last)
    {p : Phrase} (hp : p ∈ phrases) :
    p.InOrder ∧ first ≤ p.region.start.byte ∧ p.region.stop.byte ≤ last := by
  induction phrases generalizing first with
  | nil => exact (List.not_mem_nil hp).elim
  | cons q phrases ih =>
    obtain ⟨hstart, hq, hphrases⟩ := between_cons.mp h
    rcases List.mem_cons.mp hp with rfl | hp
    · exact ⟨hq, hstart, hphrases.le⟩
    · obtain ⟨hin, hle, hstop⟩ := ih hphrases hp
      exact ⟨hin, (hstart.trans hq.start_le).trans hle, hstop⟩

/-- Of phrases between two bytes each ends before the next starts. -/
theorem Between.pairwise {first last : Nat} {phrases : List Phrase}
    (h : Between first phrases last) :
    phrases.Pairwise fun p q => p.region.stop.byte ≤ q.region.start.byte := by
  induction phrases generalizing first with
  | nil => exact List.Pairwise.nil
  | cons p phrases ih =>
    obtain ⟨-, -, hphrases⟩ := between_cons.mp h
    exact List.pairwise_cons.mpr ⟨fun q hq => (hphrases.of_mem hq).2.1, ih hphrases⟩

/-- Some of phrases that stand in order stand between the same bytes. -/
theorem Between.filter {first last : Nat} {phrases : List Phrase} (h : Between first phrases last)
    (keep : Phrase → Bool) : Between first (phrases.filter keep) last := by
  induction phrases generalizing first with
  | nil => exact h
  | cons p phrases ih =>
    obtain ⟨hstart, hp, hphrases⟩ := between_cons.mp h
    rw [List.filter_cons]
    split
    · exact between_cons.mpr ⟨hstart, hp, ih hphrases⟩
    · exact (ih hphrases).mono (hstart.trans hp.start_le)

/-- Phrases stay between two bytes if each is replaced by phrases that stand where it stood. -/
theorem Between.flatMap {first last : Nat} {phrases : List Phrase} {f : Phrase → List Phrase}
    (h : Between first phrases last)
    (hf : ∀ p : Phrase, p.InOrder → Between p.region.start.byte (f p) p.region.stop.byte) :
    Between first (phrases.flatMap f) last := by
  induction phrases generalizing first with
  | nil => exact h
  | cons p phrases ih =>
    obtain ⟨hstart, hp, hphrases⟩ := between_cons.mp h
    rw [List.flatMap_cons]
    exact ((hf p hp).mono hstart).append (ih hphrases)

end Phrase

/-- Where a placed phrase starts. -/
def Placed.start (p : Placed) : Nat :=
  p.phrase.region.start.byte

/-- Where a placed phrase ends. -/
def Placed.stop (p : Placed) : Nat :=
  p.phrase.region.stop.byte

/-- Placing phrases keeps them. -/
theorem map_phrase_placed (before phrases : List Phrase) :
    (placed before phrases).map (·.phrase) = phrases := by
  induction phrases generalizing before with
  | nil => rfl
  | cons p phrases ih => rw [placed, List.map_cons, ih]

/-- Things that start in order between two bytes. -/
structure StartInOrder {α : Type} (start : α → Nat) (first : Nat) (items : List α) (last : Nat) :
    Prop where
  /-- Each starts between the bytes. -/
  within : ∀ a ∈ items, first ≤ start a ∧ start a ≤ last
  /-- None starts before one in front of it. -/
  increasing : items.Pairwise fun a b => start a ≤ start b

namespace StartInOrder

variable {α β : Type} {start : α → Nat} {first last : Nat} {items : List α}

/-- An empty list is in order. -/
theorem nil : StartInOrder start first [] last :=
  ⟨fun _ ha => (List.not_mem_nil ha).elim, List.Pairwise.nil⟩

/-- What starts at one byte starts in order. -/
theorem of_same {byte : Nat} (hsame : ∀ a ∈ items, start a = byte) (hfirst : first ≤ byte)
    (hlast : byte ≤ last) : StartInOrder start first items last where
  within a ha := by
    rw [hsame a ha]
    exact ⟨hfirst, hlast⟩
  increasing := List.pairwise_of_forall_mem_list fun a ha b hb => by rw [hsame a ha, hsame b hb]

/-- What starts in order between two bytes does so between any that are further apart. -/
theorem mono {first' last' : Nat} (h : StartInOrder start first items last)
    (hfirst : first' ≤ first) (hlast : last ≤ last') : StartInOrder start first' items last' where
  within a ha := ⟨hfirst.trans (h.within a ha).1, (h.within a ha).2.trans hlast⟩
  increasing := h.increasing

/-- What things are made into starts in order if they do. -/
theorem map {f : α → β} {start' : β → Nat}
    (h : StartInOrder (fun a => start' (f a)) first items last) :
    StartInOrder start' first (items.map f) last where
  within b hb := by
    obtain ⟨a, ha, rfl⟩ := List.mem_map.mp hb
    exact h.within a ha
  increasing := List.pairwise_map.mpr h.increasing

/-- Lists that start in order follow one another in order if nothing starts before what stands in a
list in front of it. -/
theorem flatMap {make : α → List β} {start' : β → Nat}
    (hmake : ∀ a ∈ items, StartInOrder start' first (make a) last)
    (hpairs : items.Pairwise fun a a' => ∀ b ∈ make a, ∀ b' ∈ make a', start' b ≤ start' b') :
    StartInOrder start' first (items.flatMap make) last where
  within b hb := by
    obtain ⟨a, ha, hb⟩ := List.mem_flatMap.mp hb
    exact (hmake a ha).within b hb
  increasing := List.pairwise_flatMap.mpr ⟨fun a ha => (hmake a ha).increasing, hpairs⟩

/-- What is made of things in order starts in order if it starts where they do. -/
theorem flatMap_of_same {make : α → List β} {start' : β → Nat}
    (h : StartInOrder start first items last)
    (hmake : ∀ a ∈ items, ∀ b ∈ make a, start' b = start a) :
    StartInOrder start' first (items.flatMap make) last := by
  refine flatMap (fun a ha => ?_) (h.increasing.imp_of_mem ?_)
  · exact of_same (hmake a ha) (h.within a ha).1 (h.within a ha).2
  · intro a a' ha ha' hle b hb b' hb'
    rw [hmake a ha b hb, hmake a' ha' b' hb']
    exact hle

end StartInOrder

/-- Placed phrases are among the phrases. -/
theorem phrase_mem_of_mem_placed {before phrases : List Phrase} {p : Placed}
    (h : p ∈ placed before phrases) : p.phrase ∈ phrases := by
  rw [← map_phrase_placed before phrases]
  exact List.mem_map_of_mem h

/-- Placed phrases are related as the phrases are. -/
theorem pairwise_placed {before phrases : List Phrase} {r : Phrase → Phrase → Prop}
    (h : phrases.Pairwise r) : (placed before phrases).Pairwise fun p q => r p.phrase q.phrase := by
  rw [← map_phrase_placed before phrases] at h
  exact List.pairwise_map.mp h

/-- What is made of phrases starts in order if it starts inside the phrases. -/
theorem Phrase.Between.flatMap_placed {β : Type} {start : β → Nat} {first last : Nat}
    {phrases before : List Phrase} {make : Placed → List β} (h : Between first phrases last)
    (hmake : ∀ p : Placed, p.phrase.InOrder → StartInOrder start p.start (make p) p.stop) :
    StartInOrder start first ((placed before phrases).flatMap make) last := by
  have hin : ∀ p ∈ placed before phrases, p.phrase.InOrder ∧ first ≤ p.start ∧ p.stop ≤ last :=
    fun p hp => h.of_mem (phrase_mem_of_mem_placed hp)
  refine .flatMap (fun p hp => ?_) ((pairwise_placed h.pairwise).imp_of_mem ?_)
  · obtain ⟨hp, hfirst, hlast⟩ := hin p hp
    exact (hmake p hp).mono hfirst hlast
  · intro p q hp hq hle b hb c hc
    have hstop := ((hmake p (hin p hp).1).within b hb).2
    have hstart := ((hmake q (hin q hq).1).within c hc).1
    exact (hstop.trans hle).trans hstart

/-- Some of the phrases inside a phrase start in order. -/
theorem Phrase.InOrder.placedParts {p : Phrase} (h : p.InOrder) (cs : List Grammar.Category) :
    StartInOrder Placed.start p.region.start.byte (p.placedParts cs) p.region.stop.byte := by
  have hparts : StartInOrder Placed.start p.region.start.byte
      ((placed [] p.parts).flatMap fun part => [part]) p.region.stop.byte :=
    h.parts.flatMap_placed fun part hpart =>
      .of_same (fun _ ha => congrArg Placed.start (List.mem_singleton.mp ha)) le_rfl hpart.start_le
  rw [List.flatMap_singleton'] at hparts
  have hsub : List.Sublist (p.placedParts cs) (placed [] p.parts) := List.filter_sublist
  exact ⟨fun a ha => hparts.within a (hsub.subset ha), hparts.increasing.sublist hsub⟩

namespace Origin

/-- Either every entry stands for itself, or the declaration stands for every entry; it has a single
phrase inside then, besides comments. -/
theorem outer_cases (declaration : Placed) :
    (∀ entry, outer declaration entry = entry) ∨
      (∀ entry, outer declaration entry = declaration) ∧
        declaration.phrase.parts.Pairwise fun p q =>
          p.isContent = true → q.isContent = true → False := by
  by_cases hone : (declaration.phrase.parts.filter (·.isContent)).length = 1
  · refine Or.inr ⟨fun entry => if_pos hone, ?_⟩
    obtain ⟨p, hp⟩ := List.length_eq_one_iff.mp hone
    have hpairs : [p].Pairwise fun _ _ => False := List.pairwise_singleton _ _
    rwa [← hp, List.pairwise_filter] at hpairs
  · exact Or.inl fun entry => if_neg hone

/-- The places of the types of a declaration start in order. -/
theorem startInOrder_outer {declaration : Placed} (h : declaration.phrase.InOrder)
    (cs : List Grammar.Category) :
    StartInOrder (fun entry => (outer declaration entry).start) declaration.start
      (declaration.phrase.placedParts cs) declaration.stop := by
  rcases outer_cases declaration with hself | ⟨hwhole, -⟩
  · simp only [hself]
    exact h.placedParts cs
  · exact .of_same (fun entry _ => congrArg Placed.start (hwhole entry)) le_rfl h.start_le

/-- Only phrases that say something have entries. -/
theorem isContent_of_mem_entries {α : Type} {p : Phrase} {spec : Grammar.Category}
    {single several : List α} {a : α}
    (h : a ∈ if p.isA spec then single else if p.isList then several else []) :
    p.isContent = true := by
  have hkind : ∃ c, p.kind = .category c := by
    split at h
    · next hspec => exact ⟨spec, of_decide_eq_true hspec⟩
    · split at h
      · next hlist =>
        unfold Phrase.isList at hlist
        split at hlist
        · next c hc => exact ⟨c, hc⟩
        · cases hlist
      · exact (List.not_mem_nil h).elim
  obtain ⟨c, hc⟩ := hkind
  simp [Phrase.isContent, Phrase.isNamed, Phrase.isComment, hc]

/-- The places of the entries of a declaration of constants or variables start in order. -/
theorem startInOrder_valueEntries {declaration : Placed} (h : declaration.phrase.InOrder)
    (spec : Grammar.Category) :
    StartInOrder (fun entry : Phrase × Placed => entry.2.start) declaration.start
      (valueEntries spec declaration) declaration.stop := by
  rcases outer_cases declaration with hself | ⟨hwhole, hone⟩
  · refine h.parts.flatMap_placed fun part hpart => ?_
    split
    · rw [hself]
      exact .of_same (fun _ ha => by rw [List.mem_singleton.mp ha]) le_rfl hpart.start_le
    · split
      · exact .map (hpart.placedParts _)
      · exact .nil
  · -- Only one of the parts has entries.
    refine .flatMap (fun part hmem => ?_) ((pairwise_placed hone).imp ?_)
    · obtain ⟨hpart, hfirst, hlast⟩ := h.parts.of_mem (phrase_mem_of_mem_placed hmem)
      split
      · rw [hwhole]
        exact .of_same (fun _ ha => by rw [List.mem_singleton.mp ha]) le_rfl h.start_le
      · split
        · exact .map ((hpart.placedParts _).mono hfirst hlast)
        · exact .nil
    · intro p q hnot a ha b hb
      exact (hnot (isContent_of_mem_entries ha) (isContent_of_mem_entries hb)).elim

/-- Where the declarations of a phrase come from: it is a function or method, or it has types,
constants or variables inside. -/
theorem mem_decls_cases {o : Origin} {p : Placed} {d : Decl} (h : d ∈ o.decls p) :
    ([Grammar.Category.functionDeclaration, .methodDeclaration].any p.phrase.isA = true ∧
      d ∈ o.func? p) ∨
    (∃ entry ∈ p.phrase.placedParts [.typeSpec, .typeAlias], d ∈ o.typeDecl? p entry) ∨
    ∃ spec, ∃ entry ∈ valueEntries spec p, ∃ kind, (kind = .const ∨ kind = .var) ∧
      d ∈ o.valueDecls kind entry.2 entry.1 := by
  unfold decls at h
  split at h
  · next hfunc => exact Or.inl ⟨by simpa using hfunc, Option.mem_toList.mp h⟩
  · split at h
    · exact Or.inr (Or.inl (List.mem_filterMap.mp h))
    · split at h
      · obtain ⟨entry, hentry, hd⟩ := List.mem_flatMap.mp h
        exact Or.inr (Or.inr ⟨.constSpec, entry, hentry, .const, Or.inl rfl, hd⟩)
      · split at h
        · obtain ⟨entry, hentry, hd⟩ := List.mem_flatMap.mp h
          exact Or.inr (Or.inr ⟨.varSpec, entry, hentry, .var, Or.inr rfl, hd⟩)
        · cases h

/-- The types of a declaration have the spans of their places. -/
theorem span_of_typeDecl? {o : Origin} {declaration entry : Placed} {d : Decl}
    (h : o.typeDecl? declaration entry = some d) :
    d.span = o.span (outer declaration entry).phrase.region := by
  unfold typeDecl? at h
  split at h
  · cases h
    rfl
  · cases h

/-- The constants or variables of an entry have the span of its place. -/
theorem span_of_mem_valueDecls {o : Origin} {kind : Kind} {place : Placed} {p : Phrase} {d : Decl}
    (h : d ∈ o.valueDecls kind place p) : d.span = o.span place.phrase.region := by
  rw [valueDecls, ← List.map_uncurry_zip_eq_zipWith] at h
  obtain ⟨⟨name, value⟩, -, rfl⟩ := List.mem_map.mp h
  rfl

/-- The declarations of a phrase start in order inside it. -/
theorem startInOrder_decls (o : Origin) {p : Placed} (h : p.phrase.InOrder) :
    StartInOrder (fun d : Decl => d.span.startByte) p.start (o.decls p) p.stop := by
  have hvalues : ∀ spec kind, StartInOrder (fun d : Decl => d.span.startByte) p.start
      ((valueEntries spec p).flatMap fun entry => o.valueDecls kind entry.2 entry.1) p.stop :=
    fun spec kind => (startInOrder_valueEntries h spec).flatMap_of_same fun entry _ d hd => by
      rw [span_of_mem_valueDecls hd]
      rfl
  unfold decls
  split
  · refine .of_same (fun d hd => ?_) le_rfl h.start_le
    obtain ⟨name, -, rfl⟩ := Option.map_eq_some_iff.mp (Option.mem_toList.mp hd)
    rfl
  · split
    · rw [List.filterMap_eq_flatMap_toList]
      refine (startInOrder_outer h _).flatMap_of_same fun entry _ d hd => ?_
      rw [span_of_typeDecl? (Option.mem_toList.mp hd)]
      rfl
    · split
      · exact hvalues .constSpec .const
      · split
        · exact hvalues .varSpec .var
        · exact .nil

/-- The declarations of phrases in order are listed in the order in which they start. -/
theorem pairwise_decls_extracted (o : Origin) {phrases : List Phrase}
    (h : ∃ first last, Phrase.Between first phrases last) (hasErrors : Bool) :
    (o.extracted phrases hasErrors).decls.Pairwise fun d e =>
      d.span.startByte ≤ e.span.startByte := by
  obtain ⟨first, last, hphrases⟩ := h
  exact (hphrases.flatMap_placed fun _ hp => o.startInOrder_decls hp).increasing

end Origin

section Decidability

mutual

/-- Whether the phrases inside a phrase follow one another. -/
def Phrase.decidableInOrder : (p : Phrase) → Decidable p.InOrder
  | .mk _ _ region parts =>
    have := Phrase.decidableBetween region.start.byte parts region.stop.byte
    decidable_of_iff (Phrase.Between region.start.byte parts region.stop.byte)
      (by rw [Phrase.InOrder])

/-- Whether phrases follow one another between two bytes. -/
def Phrase.decidableBetween :
    (first : Nat) → (phrases : List Phrase) → (last : Nat) →
      Decidable (Phrase.Between first phrases last)
  | first, [], last => decidable_of_iff (first ≤ last) Phrase.between_nil.symm
  | first, p :: more, last =>
    have := p.decidableInOrder
    have := Phrase.decidableBetween p.region.stop.byte more last
    decidable_of_iff (first ≤ p.region.start.byte ∧ p.InOrder ∧
      Phrase.Between p.region.stop.byte more last) Phrase.between_cons.symm

end

instance (first : Nat) (phrases : List Phrase) (last : Nat) :
    Decidable (Phrase.Between first phrases last) :=
  Phrase.decidableBetween first phrases last

end Decidability

/-- A parser whose phrases follow one another in the order of the text, at the top level and inside
one another. -/
def Parser.Ordered (parse : Parser) : Prop :=
  ∀ code, ∀ parsed ∈ parse code, ∃ first last, Phrase.Between first parsed.phrases last

/-- The declarations of a file are those of the phrases at its top level. -/
theorem exists_placed_of_mem_extract {parse : Parser} {code : String} {file : Nat}
    {extracted : Extracted} (h : extracted ∈ parse.extract? code file) {d : Decl}
    (hd : d ∈ extracted.decls) :
    ∃ parsed ∈ parse code, ∃ p : Placed, p.phrase ∈ parsed.phrases ∧
      d ∈ Origin.decls ⟨code, file⟩ p := by
  obtain ⟨parsed, hparsed, rfl⟩ := Option.map_eq_some_iff.mp h
  obtain ⟨p, hp, hd⟩ := List.mem_flatMap.mp hd
  exact ⟨parsed, hparsed, p, phrase_mem_of_mem_placed hp, hd⟩

/-- The declarations of a file are listed in the order in which they start in it. -/
theorem pairwise_decls_extract {parse : Parser} (hparse : parse.Ordered) {code : String} {file : Nat}
    {extracted : Extracted} (h : extracted ∈ parse.extract? code file) :
    extracted.decls.Pairwise fun d e => d.span.startByte ≤ e.span.startByte := by
  obtain ⟨parsed, hparsed, rfl⟩ := Option.map_eq_some_iff.mp h
  exact Origin.pairwise_decls_extracted _ (hparse code parsed hparsed) _

/-- The parser that knows the texts of a table, and makes nothing of any other. -/
def Parser.ofTable (table : List (String × Parsed)) : Parser := fun code =>
  table.lookup code

/-- A parser that knows some texts finds what its table says. -/
theorem mem_of_mem_ofTable {table : List (String × Parsed)} {code : String} {parsed : Parsed}
    (h : parsed ∈ Parser.ofTable table code) : (code, parsed) ∈ table := by
  obtain ⟨before, after, hsplit, -⟩ := List.lookup_eq_some_iff.mp h
  rw [hsplit]
  exact List.mem_append_right before List.mem_cons_self

/-- A parser that knows some texts is ordered if what it finds in each of them is. -/
theorem Parser.ordered_ofTable {table : List (String × Parsed)}
    (h : ∀ entry ∈ table, Phrase.Between 0 entry.2.phrases entry.1.utf8ByteSize) :
    (Parser.ofTable table).Ordered :=
  fun _ _ hparsed => ⟨0, _, h _ (mem_of_mem_ofTable hparsed)⟩

end GoAddress.Source
