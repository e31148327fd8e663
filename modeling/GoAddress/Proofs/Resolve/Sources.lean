import GoAddress.Proofs.Program.Regularity
import GoAddress.Proofs.Resolve.Canonical

/-!
# Sources of nodes

The snippets of a declaration stay with it when files are put into packages, and steps lead from
a node only to snippets of the package. Main statement: if the phrases of a parser can be cut out of
the text, every snippet of a declaration of a loaded program is what stands at its span, in a file of
the package, and so a type, constraint or value that an address resolves to shows as its source what
is shown next to its address.
-/

namespace GoAddress

/-- The snippets of all declarations of a package. -/
def Package.snippets (p : Package) : List Snippet :=
  p.decls.flatMap (·.snippets)

/-- The snippets of a declaration are snippets of its package. -/
theorem Package.snippets_of_mem (p : Package) {d : Decl} (h : d ∈ p.decls) :
    d.snippets ⊆ p.snippets := fun _ hs => List.mem_flatMap.mpr ⟨d, h, hs⟩

namespace Node

/-- The snippets in a node. -/
def snippets : Node → List Snippet
  | .decl d => d.snippets
  | .interfaceMethod m => m.snippets
  | .field f => [f.type]
  | .embed e => [e.type]
  | .param q _ => [q.type]
  | .typeParam t => [t.constraint]
  | .typeExpr s | .constraint s | .value s => [s]
  | _ => []

/-- A node that is a snippet: a type, a constraint or a value. -/
def IsSnippet (node : Node) (s : Snippet) : Prop :=
  node = .typeExpr s ∨ node = .constraint s ∨ node = .value s

/-- A type, constraint or value has itself as a snippet. -/
theorem IsSnippet.mem_snippets {node : Node} {s : Snippet} (h : node.IsSnippet s) :
    s ∈ node.snippets := by
  rcases h with rfl | rfl | rfl <;> exact List.mem_singleton.mpr rfl

/-- What is shown next to a type, constraint or value is its text. -/
theorem IsSnippet.note {node : Node} {s : Snippet} (h : node.IsSnippet s) :
    node.note = some s.text := by
  rcases h with rfl | rfl | rfl <;> rfl

/-- A member on its own has no snippets but those of its node. -/
theorem snippets_of_members_single {p : Package} {node part : Node} {category : Category}
    (h : node.members p category = .single (some part)) : part.snippets ⊆ node.snippets := by
  unfold members declMembers at h
  split at h
  · split at h
    all_goals simp only [Members.single.injEq, Option.map_eq_some_iff, Option.some.injEq,
      reduceCtorEq] at h
    case h_10 hshape =>
      subst h
      simp [snippets, Decl.snippets, hshape, TypeShape.snippets]
    all_goals
      obtain ⟨x, hx, rfl⟩ := h
      simp_all [snippets, Decl.snippets, FuncShape.snippets, ValueShape.snippets, paramSnippets]
  all_goals simp only [Members.single.injEq, Option.map_eq_some_iff, reduceCtorEq] at h
  all_goals obtain ⟨x, -, rfl⟩ := h
  all_goals simp [snippets]

/-- Parameters have the snippets of the list that they are in. -/
theorem snippets_of_mem_paramParts {role : ParamRole} {params : List Param} {all : List Snippet}
    (h : paramSnippets params ⊆ all) : ∀ x ∈ paramParts role params, x.2.snippets ⊆ all := by
  intro x hx
  obtain ⟨q, hq, rfl⟩ := List.mem_map.mp hx
  exact List.cons_subset.mpr ⟨h (List.mem_map_of_mem hq), List.nil_subset _⟩

/-- Type parameters have the snippets of the list that they are in. -/
theorem snippets_of_mem_typeParamParts {params : List TypeParam} {all : List Snippet}
    (h : typeParamSnippets params ⊆ all) : ∀ x ∈ typeParamParts params, x.2.snippets ⊆ all := by
  intro x hx
  obtain ⟨t, ht, rfl⟩ := List.mem_map.mp hx
  exact List.cons_subset.mpr ⟨h (List.mem_map_of_mem ht), List.nil_subset _⟩

/-- The fields of a type have snippets of the type. -/
theorem type_mem_of_mem_fields {t : TypeShape} {f : Field} (h : f ∈ t.fields) :
    f.type ∈ t.snippets := by
  unfold TypeShape.fields at h
  split at h
  · next fields embeds hmembers =>
    refine List.mem_cons_of_mem _ (List.mem_append_right _ ?_)
    rw [hmembers]
    exact List.mem_append_left _ (List.mem_map_of_mem h)
  · cases h

/-- The embedded members of a type have snippets of the type. -/
theorem type_mem_of_mem_embeds {t : TypeShape} {e : Embed} (h : e ∈ t.embeds) :
    e.type ∈ t.snippets := by
  refine List.mem_cons_of_mem _ (List.mem_append_right _ ?_)
  unfold TypeShape.embeds at h
  split at h
  · next hmembers =>
    rw [hmembers]
    exact List.mem_append_right _ (List.mem_map_of_mem h)
  · next hmembers =>
    rw [hmembers]
    exact List.mem_append_right _ (List.mem_map_of_mem h)
  · cases h

/-- The methods that a declaration asks for have snippets of the declaration. -/
theorem snippets_of_mem_elements {d : Decl} {m : InterfaceMethod} (h : m ∈ d.elements) :
    m.snippets ⊆ d.snippets := by
  unfold Decl.elements Decl.type? at h
  split at h
  · next t hshape =>
    intro s hs
    rw [Decl.snippets, hshape]
    refine List.mem_cons_of_mem _ (List.mem_append_right _ ?_)
    rw [Option.map_some, Option.getD_some, TypeShape.interfaceMethods] at h
    split at h
    · next hmembers =>
      rw [hmembers]
      exact List.mem_append_left _ (List.mem_flatMap.mpr ⟨m, h, hs⟩)
    · cases h
  · cases h

/-- Members to select from, other than methods, have no snippets but those of their node. -/
theorem snippets_of_members_list {p : Package} {node : Node} {category : Category}
    {parts : List (Option String × Node)} (h : node.members p category = .list parts)
    (hmethods : category ≠ .methods) : ∀ x ∈ parts, x.2.snippets ⊆ node.snippets := by
  unfold members declMembers at h
  split at h
  · next d =>
    have hsnippets : (decl d).snippets = d.snippets := rfl
    rw [hsnippets, Decl.snippets]
    split at h <;> cases h
    case h_8 => exact absurd rfl hmethods
    case h_1 hshape =>
      rw [hshape]
      exact snippets_of_mem_paramParts fun s hs => by simp [FuncShape.snippets, hs]
    case h_2 hshape =>
      rw [hshape]
      exact snippets_of_mem_paramParts fun s hs => by simp [FuncShape.snippets, hs]
    case h_3 hshape =>
      rw [hshape]
      exact snippets_of_mem_typeParamParts fun s hs => by simp [FuncShape.snippets, hs]
    case h_6 hshape =>
      rw [hshape]
      intro x hx
      obtain ⟨f, hf, rfl⟩ := List.mem_map.mp hx
      exact List.cons_subset.mpr ⟨type_mem_of_mem_fields hf, List.nil_subset _⟩
    case h_7 hshape =>
      rw [hshape]
      intro x hx
      obtain ⟨e, he, rfl⟩ := List.mem_map.mp hx
      exact List.cons_subset.mpr ⟨type_mem_of_mem_embeds he, List.nil_subset _⟩
    case h_9 hshape =>
      rw [hshape]
      exact snippets_of_mem_typeParamParts fun s hs => by simp [TypeShape.snippets, hs]
  all_goals cases h
  · exact snippets_of_mem_paramParts fun s hs => List.mem_append_left _ hs
  · exact snippets_of_mem_paramParts fun s hs => List.mem_append_right _ hs

/-- Where a step without selector leads has no snippets but those of the node. -/
theorem snippets_of_whole? {p : Package} {node part : Node} {category : Category}
    (h : node.whole? p category = some part) : part.snippets ⊆ node.snippets := by
  unfold whole? at h
  split at h
  · obtain ⟨t, -, rfl⟩ := Option.map_eq_some_iff.mp h
    exact List.nil_subset _
  · split at h
    · next single hmembers =>
      subst h
      exact snippets_of_members_single hmembers
    · cases h

/-- Where a step with a selector leads has no snippets but those of the node, unless it leads to a
method. -/
theorem snippets_of_choices {p : Package} {node : Node} {category : Category}
    (hmethods : category ≠ .methods) :
    ∀ x ∈ node.choices p category, x.2.snippets ⊆ node.snippets := by
  intro x hx
  unfold choices at hx
  split at hx
  · cases htag : node.tag? with
    | none => simp [htag] at hx
    | some t =>
      rw [htag] at hx
      obtain ⟨pair, -, rfl⟩ := List.mem_map.mp hx
      exact List.nil_subset _
  · split at hx
    · cases hx
    · next parts hmembers => exact snippets_of_members_list hmembers hmethods x hx

/-- A step leads only to snippets of the package. -/
theorem snippets_of_mem_children {p : Package} {node part : Node} {s : Segment}
    (hnode : node.snippets ⊆ p.snippets) (hs : (s, part) ∈ node.children p) :
    part.snippets ⊆ p.snippets := by
  by_cases hmethods : s.category = .methods
  · obtain ⟨d, t, rfl, -, ⟨m, hm, rfl⟩ | ⟨m, hm, rfl⟩⟩ := exists_method_of_mem_children hs hmethods
    · exact List.Subset.trans (snippets_of_mem_elements hm) hnode
    · exact p.snippets_of_mem (Package.mem_methodsOf.mp hm).1
  · refine List.Subset.trans ?_ hnode
    rcases (mem_children.mp hs).2 with ⟨-, hwhole⟩ | ⟨i, name, hpart, -⟩
    · exact snippets_of_whole? hwhole
    · exact snippets_of_choices hmethods _ (List.mem_of_getElem? hpart)

/-- Steps lead only to snippets of the package. -/
theorem snippets_of_follow? {p : Package} {node last : Node} {steps : List Segment}
    (hnode : node.snippets ⊆ p.snippets) (h : node.follow? p steps = some last) :
    last.snippets ⊆ p.snippets := by
  induction steps generalizing node with
  | nil =>
    cases h
    exact hnode
  | cons s steps ih =>
    obtain ⟨next, hnext, hrest⟩ := Option.bind_eq_some_iff.mp h
    obtain ⟨t, -, ht⟩ := exists_mem_children_of_step? hnext
    exact ih (snippets_of_mem_children hnode ht) hrest

end Node

/-- The node of an address has no snippets but those of its package. -/
theorem Package.snippets_of_node? {p : Package} {a : Address} {node : Node}
    (h : p.node? a = some node) : node.snippets ⊆ p.snippets := by
  unfold node? at h
  split at h
  · cases h
    exact List.nil_subset _
  · obtain ⟨start, hstart, hfollow⟩ := Option.bind_eq_some_iff.mp h
    refine Node.snippets_of_follow? ?_ hfollow
    obtain ⟨d, rest, -, -, hd, -, ⟨-, rfl⟩ | ⟨method, -, -, hnode⟩⟩ := exists_of_start? hstart
    · exact p.snippets_of_mem hd
    · rcases Option.or_eq_some_iff.mp hnode with hdeclared | ⟨-, hasked⟩
      · obtain ⟨m, hm, rfl⟩ := Option.map_eq_some_iff.mp hdeclared
        exact p.snippets_of_mem (mem_methodsOf.mp (List.mem_of_find?_eq_some hm)).1
      · obtain ⟨m, hm, rfl⟩ := Option.map_eq_some_iff.mp hasked
        exact List.Subset.trans (Node.snippets_of_mem_elements (List.mem_of_find?_eq_some hm))
          (p.snippets_of_mem hd)

namespace Program

variable {parse : Source.Parser} {modulePath : String} {inputs : List SourceInput} {p : Package}

/-- In a loaded program the snippets of a declaration are what stands at their spans, in a file of
the package. -/
theorem text?_of_mem_snippets (hparse : parse.InText) (hbound : inputs.length ≤ 2 ^ 32)
    (hp : p ∈ (ofInputs parse modulePath inputs).packages) {d : Decl} (hd : d ∈ p.decls)
    {s : Snippet} (hs : s ∈ d.snippets) :
    (ofInputs parse modulePath inputs).text? s.span = some s.text ∧ s.span.file ∈ p.files := by
  obtain ⟨index, hid, f, hfile, extracted, hread, hd⟩ := exists_extracted_of_mem_decls hp hd
  have hlength : index < inputs.length := by
    have hlt := (List.getElem?_eq_some_iff.mp hfile).1
    rwa [files_ofInputs, List.length_map, length_loadedFiles] at hlt
  rw [fileId_of_lt (hlength.trans_le hbound)] at hid hread
  obtain ⟨hplace, htext⟩ := Source.holds_extract hparse hread d hd s hs
  have hspan : s.span.file = index := hplace
  refine ⟨?_, hspan ▸ hid⟩
  rw [text?, hspan, hfile, Option.bind_some]
  exact htext

end Program

namespace Workspace

variable {parse : Source.Parser} {modulePath : String} {inputs : List SourceInput} {r : Resolution}

/-- Whatever an address resolves to in a loaded program is the node of some address in one of its
packages. -/
theorem exists_node?_of_resolve {a : Address}
    (h : ((ofProgram (.ofInputs parse modulePath inputs)).resolve a).2 = .ok r) :
    r.package ∈ (Program.ofInputs parse modulePath inputs).packages ∧
      ∃ b, r.package.node? b = some r.node := by
  obtain ⟨p, b, -, hloaded, hresolve⟩ := exists_reading_of_resolve h
  rw [hresolve] at h
  have hp : p ∈ (Program.ofInputs parse modulePath inputs).packages :=
    Program.mem_of_package? hloaded
  obtain ⟨first, position, hplaced⟩ := SymbolIndex.exists_placed
    (Program.nodup_paths_ofPackages (Program.nodup_paths_ofInputs parse modulePath inputs)) hp
  obtain ⟨hnode, -, rfl⟩ :=
    (resolveIn_eq_ok_iff hplaced (Program.kindAgrees_of_mem_packages hp)).mp h
  exact ⟨hp, b, hnode⟩

/-- The source of a type, constraint or value is what stands at its span. -/
theorem source?_of_isSnippet {program : Program} {s : Snippet} (h : r.node.IsSnippet s) :
    r.source? program = program.text? s.span := by
  rcases h with heq | heq | heq <;> rw [Resolution.source?, heq] <;> rfl

/-- A type, constraint or value that an address resolves to in a loaded program has its text as its
source. -/
theorem source?_of_resolve (hparse : parse.InText) (hbound : inputs.length ≤ 2 ^ 32) {a : Address}
    (h : ((ofProgram (.ofInputs parse modulePath inputs)).resolve a).2 = .ok r) {s : Snippet}
    (hs : r.node.IsSnippet s) : r.source? (.ofInputs parse modulePath inputs) = some s.text := by
  obtain ⟨hp, b, hnode⟩ := exists_node?_of_resolve h
  obtain ⟨d, hd, hsnippet⟩ :=
    List.mem_flatMap.mp (Package.snippets_of_node? hnode hs.mem_snippets)
  rw [source?_of_isSnippet hs]
  exact (Program.text?_of_mem_snippets hparse hbound hp hd hsnippet).1

end Workspace

/-- Spans point at what they say if the phrases of the parser can be cut out of the text: from any
files, in whatever order, a program is loaded in which every snippet of every declaration is the text
at its span, in a file of the package of the declaration. So the source of a type, constraint or value
that resolves, from an address or from a text, is what is shown next to it. Files have numbers of 32
bits, so that there may not be more of them than that. -/
theorem Program.load_snippets_stand_at_spans {parse : Source.Parser} (hparse : parse.InText)
    (modulePath : String) {inputs : List SourceInput} (hne : inputs ≠ [])
    (hbound : inputs.length ≤ 2 ^ 32) :
    ∃ program, load parse modulePath inputs = .ok program ∧
      (∀ p ∈ program.packages, ∀ d ∈ p.decls, ∀ s ∈ d.snippets,
        program.text? s.span = some s.text ∧ s.span.file ∈ p.files) ∧
      ∀ r, ((∃ a, ((Workspace.ofProgram program).resolve a).2 = .ok r) ∨
          ∃ text, ((Workspace.ofProgram program).resolveText text).2 = .ok r) →
        ∀ s, (r.node = .typeExpr s ∨ r.node = .constraint s ∨ r.node = .value s) →
          r.source? program = r.node.note ∧ r.node.note = some s.text := by
  refine ⟨ofInputs parse modulePath inputs, load_eq_ok_iff.mpr ⟨hne, rfl⟩,
    fun p hp d hd s hs => text?_of_mem_snippets hparse hbound hp hd hs, fun r hr s hs => ?_⟩
  have hnote : r.node.note = some s.text := Node.IsSnippet.note hs
  refine ⟨?_, hnote⟩
  rw [hnote]
  rcases hr with ⟨a, ha⟩ | ⟨text, htext⟩
  · exact Workspace.source?_of_resolve hparse hbound ha hs
  · obtain ⟨a, -, heq⟩ := Workspace.exists_resolve_of_resolveText htext
    exact Workspace.source?_of_resolve hparse hbound (heq ▸ htext) hs

namespace Source

/-- A word or mark on a line. -/
def Phrase.word (line start stop : Nat) (token : Grammar.Token) : Phrase :=
  .onLine line start stop (.token token) none []

/-- The type `type Été struct \x7b *Menu \x7d` below a comment. -/
def Parsed.menu : Parsed :=
  ⟨[.clause "café", .word 2 15 37 .comment,
    .onLine 3 38 65 (.category .typeDeclaration) none
      [.word 3 38 42 .typeWord,
       .onLine 3 43 65 (.category .typeSpec) none
         [.onLine 3 43 48 (.category .typeIdentifier) (some .name) [],
          .onLine 3 49 65 (.category .structType) (some .type)
            [.word 3 49 55 .structWord,
             .onLine 3 56 65 (.category .fieldDeclarationList) none
               [.word 3 56 57 .leftBrace,
                .onLine 3 58 63 (.category .fieldDeclaration) none
                  [.word 3 58 59 .star,
                   .onLine 3 59 63 (.category .typeIdentifier) (some .type) []],
                .word 3 64 65 .rightBrace]]]]], false⟩

/-- The constants `const µ, Ω float64 = 1e-6, 2`. -/
def Parsed.bill : Parsed :=
  ⟨[.clause "café",
    .onLine 2 15 45 (.category .constDeclaration) none
      [.word 2 15 20 .constWord,
       .onLine 2 21 45 (.category .constSpec) none
         [.onLine 2 21 23 (.token .identifier) (some .name) [],
          .onLine 2 23 24 (.token .comma) (some .name) [],
          .onLine 2 25 27 (.token .identifier) (some .name) [],
          .onLine 2 28 35 (.category .typeIdentifier) (some .type) [],
          .word 2 36 37 .assign,
          .onLine 2 38 45 (.category .expressionList) (some .value)
            [.word 2 38 42 .decimal, .word 2 42 43 .comma, .word 2 44 45 .integer]]]], false⟩

end Source

/-- Two files of one package, out of order, with characters of more than one byte and an embedded
pointer. -/
def cafeInputs : List SourceInput :=
  [⟨"café/menu.go", "package café\n\n// Été is in season.\ntype Été struct \x7b *Menu \x7d\n"⟩,
   ⟨"café/bill.go", "package café\n\nconst µ, Ω float64 = 1e-6, 2\n"⟩]

/-- What a parser finds in the two files. -/
def cafeParser : Source.Parser :=
  .ofTable
    [("package café\n\n// Été is in season.\ntype Été struct \x7b *Menu \x7d\n", .menu),
     ("package café\n\nconst µ, Ω float64 = 1e-6, 2\n", .bill)]

/-- In the program of the two files the snippets stand at their spans. -/
theorem Program.load_snippets_stand_at_spans_of_two :
    ∃ program, load cafeParser "example.com/app" cafeInputs = .ok program ∧
      ∀ p ∈ program.packages, ∀ d ∈ p.decls, ∀ s ∈ d.snippets,
        program.text? s.span = some s.text ∧ s.span.file ∈ p.files := by
  have hparse : cafeParser.InText := Source.Parser.inText_ofTable (by decide +kernel)
  obtain ⟨program, hload, hsnippets, -⟩ :=
    @load_snippets_stand_at_spans cafeParser hparse "example.com/app" cafeInputs (by decide)
      (by decide)
  exact ⟨program, hload, hsnippets⟩

end GoAddress
