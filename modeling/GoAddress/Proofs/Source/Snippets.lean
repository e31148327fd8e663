import GoAddress.Proofs.Source.Declarations

/-!
# Snippets at their places

The texts in a declaration are cut out of the file at the places of phrases, and keep these places.
Main statement: if the phrases of a parser can be cut out of the text, every snippet of every
declaration of a file is what stands in the file at its span, whether or not the file could be read as
a whole. Doc comments are put together from several comments and are left aside.
-/

namespace GoAddress

/-- The types of parameters. -/
def paramSnippets (params : List Param) : List Snippet :=
  params.map (·.type)

/-- The snippets of a method that an interface asks for. -/
def InterfaceMethod.snippets (m : InterfaceMethod) : List Snippet :=
  paramSnippets m.params ++ paramSnippets m.results

/-- The constraints of type parameters. -/
def typeParamSnippets (params : List TypeParam) : List Snippet :=
  params.map (·.constraint)

/-- The snippets of a function or method. -/
def FuncShape.snippets (f : FuncShape) : List Snippet :=
  paramSnippets f.receiver.toList ++ typeParamSnippets f.typeParams ++ paramSnippets f.params ++
    paramSnippets f.results

/-- The snippets of the members of a type. -/
def TypeStructure.snippets : TypeStructure → List Snippet
  | .struct fields embeds => fields.map (·.type) ++ embeds.map (·.type)
  | .interface methods embeds => methods.flatMap (·.snippets) ++ embeds.map (·.type)
  | .other => []

/-- The snippets of a type. -/
def TypeShape.snippets (t : TypeShape) : List Snippet :=
  t.underlying :: (typeParamSnippets t.typeParams ++ t.members.snippets)

/-- The snippets of a constant or variable. -/
def ValueShape.snippets (v : ValueShape) : List Snippet :=
  v.type.toList ++ v.value.toList

/-- The snippets of a declaration other than doc comments. -/
def Decl.snippets (d : Decl) : List Snippet :=
  match d.shape with
  | .func f => f.snippets
  | .type t => t.snippets
  | .value v => v.snippets

namespace Source

/-- Phrases are inside a text if each of them is. -/
theorem Phrase.allInside_iff {code : String} {phrases : List Phrase} :
    Phrase.allInside code phrases = true ↔ ∀ p ∈ phrases, p.isInside code = true := by
  induction phrases with
  | nil => simp [Phrase.allInside]
  | cons p phrases ih => rw [Phrase.allInside, Bool.and_eq_true, ih, List.forall_mem_cons]

/-- A phrase is inside a text if its region and the phrases inside it are. -/
theorem Phrase.isInside_iff {code : String} {p : Phrase} :
    p.isInside code = true ↔
      p.region.isInside code = true ∧ ∀ part ∈ p.parts, part.isInside code = true := by
  obtain ⟨kind, role, region, parts⟩ := p
  rw [Phrase.isInside, Bool.and_eq_true, Phrase.allInside_iff]
  rfl

/-- What holds of a phrase and of every phrase inside it, however deep. -/
inductive Phrase.Every (holds : Phrase → Prop) : Phrase → Prop where
  | mk {p : Phrase} (here : holds p) (inside : ∀ q ∈ p.parts, Every holds q) : Every holds p

namespace Phrase.Every

variable {holds : Phrase → Prop} {p q : Phrase}

/-- It holds of the phrase itself. -/
theorem here (h : p.Every holds) : holds p := by
  cases h with
  | mk here _ => exact here

/-- It holds of every phrase in those inside. -/
theorem part (h : p.Every holds) (hq : q ∈ p.parts) : q.Every holds := by
  cases h with
  | mk _ inside => exact inside q hq

/-- It holds of every phrase in the one that plays a role. -/
theorem part? {role : Grammar.Role} (h : p.Every holds) (hq : p.part? role = some q) :
    q.Every holds :=
  h.part (List.mem_of_find?_eq_some hq)

/-- It holds of every phrase in the placed ones inside. -/
theorem placedPart {cs : List Grammar.Category} {entry : Placed} (h : p.Every holds)
    (hentry : entry ∈ p.placedParts cs) : entry.phrase.Every holds :=
  h.part (phrase_mem_of_mem_placed (List.mem_filter.mp hentry).1)

/-- It holds of every phrase in the entries of a declaration of constants or variables. -/
theorem entry {declaration : Placed} (h : declaration.phrase.Every holds) {spec : Grammar.Category}
    {entry : Phrase × Placed} (hentry : entry ∈ Origin.valueEntries spec declaration) :
    entry.1.Every holds := by
  obtain ⟨part, hpart, hentry⟩ := List.mem_flatMap.mp hentry
  have hin := h.part (phrase_mem_of_mem_placed hpart)
  split at hentry
  · rw [List.mem_singleton.mp hentry]
    exact hin
  · split at hentry
    · obtain ⟨spec, hspec, rfl⟩ := List.mem_map.mp hentry
      exact hin.placedPart hspec
    · cases hentry

end Phrase.Every

section Decidability

variable (holds : Phrase → Prop) [DecidablePred holds]

mutual

/-- Whether something holds of a phrase and of every phrase inside it. -/
def Phrase.decidableEvery : (p : Phrase) → Decidable (p.Every holds)
  | .mk kind role region parts =>
    have := Phrase.decidableEveryIn parts
    decidable_of_iff (holds (.mk kind role region parts) ∧ ∀ q ∈ parts, q.Every holds)
      ⟨fun h => .mk h.1 h.2, fun h => ⟨h.here, fun _ hq => h.part hq⟩⟩

/-- Whether something holds of every phrase in some phrases. -/
def Phrase.decidableEveryIn : (parts : List Phrase) → Decidable (∀ q ∈ parts, q.Every holds)
  | [] => isTrue fun _ hq => (List.not_mem_nil hq).elim
  | q :: more =>
    have := Phrase.decidableEvery q
    have := Phrase.decidableEveryIn more
    decidable_of_iff (q.Every holds ∧ ∀ r ∈ more, r.Every holds) List.forall_mem_cons.symm

end

instance (p : Phrase) : Decidable (p.Every holds) :=
  p.decidableEvery holds

end Decidability

/-- A phrase starts and ends between the characters of a text, in this order, and the phrases inside
do not start before it. -/
structure Phrase.StandsIn (code : String) (p : Phrase) : Prop where
  /-- The phrase starts and ends between characters. -/
  inside : p.region.isInside code = true
  /-- It does not end before its start. -/
  start_le : p.region.start.byte ≤ p.region.stop.byte
  /-- No phrase inside starts before it. -/
  le_start : ∀ q ∈ p.parts, p.region.start.byte ≤ q.region.start.byte

instance (code : String) : DecidablePred (Phrase.StandsIn code) := fun p =>
  decidable_of_iff (p.region.isInside code = true ∧ p.region.start.byte ≤ p.region.stop.byte ∧
      ∀ q ∈ p.parts, p.region.start.byte ≤ q.region.start.byte)
    ⟨fun h => ⟨h.1, h.2.1, h.2.2⟩, fun h => ⟨h.inside, h.start_le, h.le_start⟩⟩

/-- A phrase that can be cut out of a text, with all phrases inside it. -/
def Phrase.InText (code : String) (p : Phrase) : Prop :=
  p.Every (Phrase.StandsIn code)

instance (code : String) (p : Phrase) : Decidable (p.InText code) :=
  p.decidableEvery (Phrase.StandsIn code)

/-- Phrases that start and end between the characters of a text, in the order of the text, can be cut
out of it. -/
theorem Phrase.InOrder.inText {code : String} : ∀ {p : Phrase}, p.InOrder →
    p.isInside code = true → p.InText code
  | .mk kind role region parts, horder, hinside => by
    obtain ⟨hregion, hall⟩ := isInside_iff.mp hinside
    have hparts := horder.parts
    have hstands : (Phrase.mk kind role region parts).StandsIn code :=
      ⟨hregion, horder.start_le, fun p hp => (hparts.of_mem hp).2.1⟩
    refine .mk hstands fun p (hp : p ∈ parts) => ?_
    exact (hparts.of_mem hp).1.inText (hall p hp)
termination_by p => sizeOf p

/-- A parser whose phrases can be cut out of the text. -/
def Parser.InText (parse : Parser) : Prop :=
  ∀ code, ∀ parsed ∈ parse code, ∀ p ∈ parsed.phrases, p.InText code

/-- The phrases of a parser that knows some texts can be cut out of the text if those of each of them
can. -/
theorem Parser.inText_ofTable {table : List (String × Parsed)}
    (h : ∀ entry ∈ table, ∀ p ∈ entry.2.phrases, p.InText entry.1) : (Parser.ofTable table).InText :=
  fun _ _ hparsed => h _ (mem_of_mem_ofTable hparsed)

namespace Origin

variable {o : Origin}

/-- A snippet that is what stands in the file at its span. -/
def Holds (o : Origin) (s : Snippet) : Prop :=
  s.span.file = o.file ∧ Text.slice? o.code s.span.startByte s.span.endByte = some s.text

/-- The snippet of a region between characters stands at its span. -/
theorem holds_snippet {r : Region} (hinside : r.isInside o.code = true)
    (hle : r.start.byte ≤ r.stop.byte) : o.Holds (o.snippet r) := by
  obtain ⟨hstart, hstop⟩ := Bool.and_eq_true_iff.mp hinside
  obtain ⟨text, htext⟩ := Text.exists_slice? hstart hstop hle
  refine ⟨rfl, ?_⟩
  change Text.slice? o.code r.start.byte r.stop.byte = some (textOf o.code r)
  rw [textOf, htext, Option.getD_some]

/-- The snippet of a phrase stands at its span. -/
theorem holds_phrase {p : Phrase} (h : p.InText o.code) : o.Holds (o.snippet p.region) :=
  holds_snippet h.here.inside h.here.start_le

/-- The type of an embedded member stands at its span, from the start of the member on. -/
theorem holds_embedded {p type : Phrase} (h : p.InText o.code) (htype : type ∈ p.parts) :
    o.Holds (o.snippet ⟨p.region.start, type.region.stop⟩) := by
  have hstart := (Bool.and_eq_true_iff.mp h.here.inside).1
  have hstop := (Bool.and_eq_true_iff.mp (h.part htype).here.inside).2
  have hle := (h.here.le_start type htype).trans (h.part htype).here.start_le
  exact holds_snippet (Bool.and_eq_true_iff.mpr ⟨hstart, hstop⟩) hle

/-- The types of the parameters of an entry stand at their spans. -/
theorem holds_paramsOf {p : Phrase} (h : p.InText o.code) :
    ∀ s ∈ paramSnippets (o.paramsOf p), o.Holds s := by
  intro s hs
  obtain ⟨param, hparam, rfl⟩ := List.mem_map.mp hs
  unfold paramsOf at hparam
  split at hparam
  · cases hparam
  · next type htype =>
    dsimp only at hparam
    have hsnippet := holds_phrase (h.part? htype)
    split at hparam
    · rw [List.mem_singleton.mp hparam]
      exact hsnippet
    · obtain ⟨name, -, rfl⟩ := List.mem_map.mp hparam
      exact hsnippet

/-- The types of the parameters of a list stand at their spans. -/
theorem holds_params {list : Phrase} (h : list.InText o.code) :
    ∀ s ∈ paramSnippets (o.params list), o.Holds s := by
  intro s hs
  rw [paramSnippets, params, List.map_flatMap] at hs
  obtain ⟨p, hp, hs⟩ := List.mem_flatMap.mp hs
  exact holds_paramsOf (h.part (List.mem_filter.mp hp).1) s hs

/-- The types of the parameters in a role stand at their spans. -/
theorem holds_paramsIn {p : Phrase} (h : p.InText o.code) (role : Grammar.Role) :
    ∀ s ∈ paramSnippets (o.paramsIn p role), o.Holds s := by
  rw [paramsIn]
  cases hlist : p.part? role with
  | none => exact fun s hs => (List.not_mem_nil hs).elim
  | some list => exact holds_params (h.part? hlist)

/-- The types of results stand at their spans. -/
theorem holds_results {p : Phrase} (h : p.InText o.code) :
    ∀ s ∈ paramSnippets (o.results p), o.Holds s := by
  unfold results
  split
  · exact fun s hs => (List.not_mem_nil hs).elim
  · next result hresult =>
    split
    · exact holds_params (h.part? hresult)
    · intro s hs
      rw [List.mem_singleton.mp hs]
      exact holds_phrase (h.part? hresult)

/-- The constraints of type parameters stand at their spans. -/
theorem holds_typeParams {p : Phrase} (h : p.InText o.code) :
    ∀ s ∈ typeParamSnippets (o.typeParams p), o.Holds s := by
  intro s hs
  obtain ⟨param, hparam, rfl⟩ := List.mem_map.mp hs
  unfold typeParams at hparam
  split at hparam
  · cases hparam
  · next list hlist =>
    obtain ⟨entry, hentry, hparam⟩ := List.mem_flatMap.mp hparam
    unfold typeParamsOf at hparam
    split at hparam
    · cases hparam
    · next constraint hconstraint =>
      obtain ⟨name, -, rfl⟩ := List.mem_map.mp hparam
      exact holds_phrase (((h.part? hlist).part (List.mem_filter.mp hentry).1).part? hconstraint)

/-- The types of fields stand at their spans. -/
theorem holds_fieldsOf {p : Placed} (h : p.phrase.InText o.code) :
    ∀ f ∈ o.fieldsOf p, o.Holds f.type := by
  intro f hf
  unfold fieldsOf at hf
  split at hf
  · cases hf
  · next type htype =>
    obtain ⟨name, -, rfl⟩ := List.mem_map.mp hf
    exact holds_phrase (h.part? htype)

/-- The types of embedded members stand at their spans. -/
theorem holds_embedOf? {p : Placed} (h : p.phrase.InText o.code) :
    ∀ e ∈ o.embedOf? p, o.Holds e.type := by
  intro e he
  unfold embedOf? at he
  split at he
  · cases he
  · next type htype =>
    split at he
    · cases he
      exact holds_embedded h (List.mem_of_find?_eq_some htype)
    · cases he

/-- The snippets of the methods of interfaces stand at their spans. -/
theorem holds_interfaceMethod? {p : Placed} (h : p.phrase.InText o.code) :
    ∀ m ∈ o.interfaceMethod? p, ∀ s ∈ m.snippets, o.Holds s := by
  intro m hm s hs
  obtain ⟨name, -, rfl⟩ := Option.map_eq_some_iff.mp hm
  rcases List.mem_append.mp hs with hs | hs
  · exact holds_paramsIn h _ s hs
  · exact holds_results h s hs

/-- The snippets of the members of a type stand at their spans. -/
theorem holds_members {type : Phrase} (h : type.InText o.code) :
    ∀ s ∈ (o.members type).snippets, o.Holds s := by
  unfold members
  split
  · split
    · exact fun s hs => (List.not_mem_nil hs).elim
    · next list hlist =>
      have hinlist := h.part (List.mem_filter.mp (List.mem_of_head? hlist)).1
      intro s hs
      rcases List.mem_append.mp hs with hs | hs
      · obtain ⟨f, hf, rfl⟩ := List.mem_map.mp hs
        obtain ⟨entry, hentry, hf⟩ := List.mem_flatMap.mp hf
        exact holds_fieldsOf (hinlist.placedPart hentry) f hf
      · obtain ⟨e, he, rfl⟩ := List.mem_map.mp hs
        obtain ⟨entry, hentry, he⟩ := List.mem_filterMap.mp he
        exact holds_embedOf? (hinlist.placedPart hentry) e he
  · split
    · intro s hs
      rcases List.mem_append.mp hs with hs | hs
      · obtain ⟨m, hm, hs⟩ := List.mem_flatMap.mp hs
        obtain ⟨entry, hentry, hm⟩ := List.mem_filterMap.mp hm
        exact holds_interfaceMethod? (h.placedPart hentry) m hm s hs
      · obtain ⟨e, he, rfl⟩ := List.mem_map.mp hs
        obtain ⟨entry, hentry, rfl⟩ := List.mem_map.mp he
        exact holds_phrase (h.placedPart hentry)
    · exact fun s hs => (List.not_mem_nil hs).elim

/-- The snippets of a function stand at their spans. -/
theorem holds_func? {p : Placed} (h : p.phrase.InText o.code) :
    ∀ d ∈ o.func? p, ∀ s ∈ d.snippets, o.Holds s := by
  intro d hd s hs
  obtain ⟨name, -, rfl⟩ := Option.map_eq_some_iff.mp hd
  rcases List.mem_append.mp hs with hs | hs
  · rcases List.mem_append.mp hs with hs | hs
    · rcases List.mem_append.mp hs with hs | hs
      · -- The receiver is the first entry of its list.
        obtain ⟨receiver, hreceiver, rfl⟩ := List.mem_map.mp hs
        have hmem := List.mem_of_head? (Option.mem_toList.mp hreceiver)
        exact holds_paramsIn h .receiver _ (List.mem_map_of_mem hmem)
      · exact holds_typeParams h s hs
    · exact holds_paramsIn h _ s hs
  · exact holds_results h s hs

/-- The snippets of a type stand at their spans. -/
theorem holds_typeDecl? {declaration entry : Placed} (h : entry.phrase.InText o.code) :
    ∀ d ∈ o.typeDecl? declaration entry, ∀ s ∈ d.snippets, o.Holds s := by
  intro d hd s hs
  unfold typeDecl? at hd
  split at hd
  · next name type _ htype =>
    cases hd
    rcases List.mem_cons.mp hs with rfl | hs
    · exact holds_phrase (h.part? htype)
    · rcases List.mem_append.mp hs with hs | hs
      · exact holds_typeParams h s hs
      · exact holds_members (h.part? htype) s hs
  · cases hd

/-- The values of an entry stand at their spans. -/
theorem holds_specValues {p : Phrase} (h : p.InText o.code) :
    ∀ value ∈ o.specValues p, ∀ s ∈ value, o.Holds s := by
  intro value hvalue s hs
  unfold specValues at hvalue
  split at hvalue
  · obtain ⟨name, -, rfl⟩ := List.mem_map.mp hvalue
    cases hs
  · next list hlist =>
    dsimp only at hvalue
    split at hvalue
    · obtain ⟨v, hv, rfl⟩ := List.mem_map.mp hvalue
      cases hs
      exact holds_phrase ((h.part? hlist).part (List.mem_filter.mp hv).1)
    · obtain ⟨name, -, rfl⟩ := List.mem_map.mp hvalue
      cases hs
      exact holds_phrase (h.part? hlist)

/-- The snippets of constants and variables stand at their spans. -/
theorem holds_valueDecls {kind : Kind} {place : Placed} {p : Phrase} (h : p.InText o.code) :
    ∀ d ∈ o.valueDecls kind place p, ∀ s ∈ d.snippets, o.Holds s := by
  intro d hd s hs
  rw [valueDecls, ← List.map_uncurry_zip_eq_zipWith] at hd
  obtain ⟨⟨name, value⟩, hmem, rfl⟩ := List.mem_map.mp hd
  rcases List.mem_append.mp hs with hs | hs
  · obtain ⟨type, htype, rfl⟩ := Option.map_eq_some_iff.mp (Option.mem_toList.mp hs)
    exact holds_phrase (h.part? htype)
  · exact holds_specValues h value (List.of_mem_zip hmem).2 s (Option.mem_toList.mp hs)

/-- The snippets of the declarations of a phrase stand at their spans. -/
theorem holds_decls {p : Placed} (h : p.phrase.InText o.code) :
    ∀ d ∈ o.decls p, ∀ s ∈ d.snippets, o.Holds s := by
  intro d hd
  rcases mem_decls_cases hd with ⟨-, hfunc⟩ | ⟨entry, hentry, htype⟩ |
    ⟨spec, entry, hentry, kind, -, hvalue⟩
  · exact holds_func? h d hfunc
  · exact holds_typeDecl? (h.placedPart hentry) d htype
  · exact holds_valueDecls (h.entry hentry) d hvalue

end Origin

/-- Every snippet of every declaration of a file is what stands in the file at its span. -/
theorem holds_extract {parse : Parser} (hparse : parse.InText) {code : String} {file : Nat}
    {extracted : Extracted} (h : extracted ∈ parse.extract? code file) :
    ∀ d ∈ extracted.decls, ∀ s ∈ d.snippets, Origin.Holds ⟨code, file⟩ s := by
  intro d hd
  obtain ⟨parsed, hparsed, p, hp, hd⟩ := exists_placed_of_mem_extract h hd
  exact Origin.holds_decls (hparse code parsed hparsed _ hp) d hd

end Source

end GoAddress
