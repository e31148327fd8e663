import GoAddress.Proofs.Program.Loading
import GoAddress.Proofs.Resolve.Roots
import GoAddress.Proofs.Source.Snippets

/-!
# Loaded packages are regular

What is shown of addresses takes packages as extraction leaves them. Main statement: whatever the
parser, the packages of a loaded program have distinct import paths, those outside the module have no
short paths of their own, and all are regular if what the parser calls a name is an identifier.
-/

namespace GoAddress

namespace Source

/-- What declares the name inside it. -/
def namingCategories : List Grammar.Category :=
  [.functionDeclaration, .methodDeclaration, .typeSpec, .typeAlias, .methodElement, .methodSpec]

/-- Whether the phrase declares the name inside it. -/
def Phrase.isNaming (p : Phrase) : Bool :=
  namingCategories.any p.isA

/-- What is of one of some categories declares a name if all of these do. -/
theorem Phrase.isNaming_of_any {p : Phrase} {cs : List Grammar.Category}
    (hcs : cs ⊆ namingCategories) (h : cs.any p.isA = true) : p.isNaming = true := by
  obtain ⟨c, hc, hp⟩ := List.any_eq_true.mp h
  exact List.any_eq_true.mpr ⟨c, hcs hc, hp⟩

/-- A phrase whose names are identifiers of the text. -/
structure Phrase.NamesIdentifiers (code : String) (p : Phrase) : Prop where
  /-- A name is an identifier. -/
  identifier : p.isName = true → isIdentifier (textOf code p.region) = true
  /-- What is declared by a name is declared by one of these. -/
  name : p.isNaming = true → ∀ name ∈ p.part? .name, name.isName = true

instance (code : String) : DecidablePred (Phrase.NamesIdentifiers code) := fun p =>
  decidable_of_iff ((p.isName = true → isIdentifier (textOf code p.region) = true) ∧
      (p.isNaming = true → ∀ name ∈ p.part? .name, name.isName = true))
    ⟨fun h => ⟨h.1, h.2⟩, fun h => ⟨h.identifier, h.name⟩⟩

/-- A parser that finds no names in a text but identifiers, also where the text is broken. -/
def Parser.NamesIdentifiers (parse : Parser) (code : String) : Prop :=
  ∀ parsed ∈ parse code, ∀ p ∈ parsed.phrases, p.Every (Phrase.NamesIdentifiers code)

instance (parse : Parser) (code : String) : Decidable (parse.NamesIdentifiers code) :=
  inferInstanceAs (Decidable (∀ parsed ∈ parse code, ∀ p ∈ parsed.phrases,
    p.Every (Phrase.NamesIdentifiers code)))

namespace Origin

variable {o : Origin}

/-! ## Kinds -/

/-- The kind of a function or method agrees with its receiver. -/
theorem kindAgrees_func? {p : Placed} : ∀ d ∈ o.func? p, d.kindAgrees = true := by
  intro d hd
  obtain ⟨name, -, rfl⟩ := Option.map_eq_some_iff.mp hd
  simp [Decl.kindAgrees]

/-- The kind of a type agrees with its members. -/
theorem kindAgrees_typeDecl? {declaration entry : Placed} :
    ∀ d ∈ o.typeDecl? declaration entry, d.kindAgrees = true := by
  intro d hd
  unfold typeDecl? at hd
  split at hd
  · next name type _ _ =>
    cases hd
    cases hmembers : o.members type <;> simp [Decl.kindAgrees, TypeShape.isInterface]
  · cases hd

/-- The kind of a constant or variable agrees with its shape. -/
theorem kindAgrees_valueDecls {kind : Kind} (hkind : kind = .const ∨ kind = .var) {place : Placed}
    {p : Phrase} : ∀ d ∈ o.valueDecls kind place p, d.kindAgrees = true := by
  intro d hd
  rw [valueDecls, ← List.map_uncurry_zip_eq_zipWith] at hd
  obtain ⟨value, -, rfl⟩ := List.mem_map.mp hd
  rcases hkind with rfl | rfl <;> rfl

/-- The kinds of the declarations of a phrase agree with their shapes. -/
theorem kindAgrees_decls {p : Placed} : ∀ d ∈ o.decls p, d.kindAgrees = true := by
  intro d hd
  rcases mem_decls_cases hd with ⟨-, hfunc⟩ | ⟨entry, -, htype⟩ |
    ⟨spec, entry, -, kind, hkind, hvalue⟩
  · exact kindAgrees_func? d hfunc
  · exact kindAgrees_typeDecl? d htype
  · exact kindAgrees_valueDecls hkind d hvalue

/-! ## Names -/

/-- A declaration whose name is an identifier, with those of the methods that it asks for. -/
def Named (d : Decl) : Prop :=
  isIdentifier d.name = true ∧ ∀ m ∈ d.elements, isIdentifier m.name = true

/-- The name that a phrase declares is an identifier. -/
theorem isIdentifier_of_part? {p name : Phrase} (h : p.Every (Phrase.NamesIdentifiers o.code))
    (hnaming : p.isNaming = true) (hname : p.part? .name = some name) :
    isIdentifier (o.name name) = true :=
  (h.part? hname).here.identifier (h.here.name hnaming name hname)

/-- The names that are declared together are identifiers. -/
theorem isIdentifier_of_mem_names {p name : Phrase} (h : p.Every (Phrase.NamesIdentifiers o.code))
    (hname : name ∈ p.names) : isIdentifier (o.name name) = true := by
  obtain ⟨hpart, hisName⟩ := List.mem_filter.mp hname
  exact (h.part hpart).here.identifier (Bool.and_eq_true_iff.mp hisName).2

/-- The names of the methods of an interface are identifiers. -/
theorem isIdentifier_of_mem_interfaceMethods {type : Phrase}
    (h : type.Every (Phrase.NamesIdentifiers o.code)) {t : TypeShape}
    (ht : t.members = o.members type) : ∀ m ∈ t.interfaceMethods, isIdentifier m.name = true := by
  intro m hm
  rw [TypeShape.interfaceMethods, ht, members] at hm
  split at hm
  · next methods embeds hmembers =>
    split at hmembers
    · split at hmembers <;> cases hmembers
    · split at hmembers
      · cases hmembers
        obtain ⟨entry, hentry, hm⟩ := List.mem_filterMap.mp hm
        obtain ⟨name, hname, rfl⟩ := Option.map_eq_some_iff.mp hm
        have hnaming := Phrase.isNaming_of_any (by decide) (List.mem_filter.mp hentry).2
        exact isIdentifier_of_part? (h.placedPart hentry) hnaming hname
      · cases hmembers
  · cases hm

/-- Functions and methods are named by identifiers. -/
theorem named_func? {p : Placed} (h : p.phrase.Every (Phrase.NamesIdentifiers o.code))
    (hnaming : p.phrase.isNaming = true) : ∀ d ∈ o.func? p, Named d := by
  intro d hd
  obtain ⟨name, hname, rfl⟩ := Option.map_eq_some_iff.mp hd
  exact ⟨isIdentifier_of_part? h hnaming hname, fun m hm => (List.not_mem_nil hm).elim⟩

/-- Types are named by identifiers, and so are the methods that they ask for. -/
theorem named_typeDecl? {declaration entry : Placed}
    (h : entry.phrase.Every (Phrase.NamesIdentifiers o.code))
    (hnaming : entry.phrase.isNaming = true) :
    ∀ d ∈ o.typeDecl? declaration entry, Named d := by
  intro d hd
  unfold typeDecl? at hd
  split at hd
  · next name type hname htype =>
    cases hd
    exact ⟨isIdentifier_of_part? h hnaming hname,
      isIdentifier_of_mem_interfaceMethods (h.part? htype) rfl⟩
  · cases hd

/-- Constants and variables are named by identifiers. -/
theorem named_valueDecls {kind : Kind} {place : Placed} {p : Phrase}
    (h : p.Every (Phrase.NamesIdentifiers o.code)) : ∀ d ∈ o.valueDecls kind place p, Named d := by
  intro d hd
  rw [valueDecls, ← List.map_uncurry_zip_eq_zipWith] at hd
  obtain ⟨⟨name, value⟩, hmem, rfl⟩ := List.mem_map.mp hd
  exact ⟨isIdentifier_of_mem_names h (List.of_mem_zip hmem).1,
    fun m hm => (List.not_mem_nil hm).elim⟩

/-- The declarations of a phrase are named by identifiers. -/
theorem named_decls {p : Placed} (h : p.phrase.Every (Phrase.NamesIdentifiers o.code)) :
    ∀ d ∈ o.decls p, Named d := by
  intro d hd
  rcases mem_decls_cases hd with ⟨hcategory, hfunc⟩ | ⟨entry, hentry, htype⟩ |
    ⟨spec, entry, hentry, kind, -, hvalue⟩
  · have hnaming := Phrase.isNaming_of_any (by decide) hcategory
    exact named_func? h hnaming d hfunc
  · have hnaming := Phrase.isNaming_of_any (by decide) (List.mem_filter.mp hentry).2
    exact named_typeDecl? (h.placedPart hentry) hnaming d htype
  · exact named_valueDecls (h.entry hentry) d hvalue

end Origin

section Extract

variable {parse : Parser} {code : String} {file : Nat} {extracted : Extracted}

/-- The kinds of the declarations of a file agree with their shapes. -/
theorem kindAgrees_extract (h : extracted ∈ parse.extract? code file) :
    ∀ d ∈ extracted.decls, d.kindAgrees = true := by
  intro d hd
  obtain ⟨parsed, -, p, -, hd⟩ := exists_placed_of_mem_extract h hd
  exact Origin.kindAgrees_decls d hd

/-- The declarations of a file are named by identifiers. -/
theorem named_extract (hnames : parse.NamesIdentifiers code)
    (h : extracted ∈ parse.extract? code file) : ∀ d ∈ extracted.decls, Origin.Named d := by
  intro d hd
  obtain ⟨parsed, hparsed, p, hp, hd⟩ := exists_placed_of_mem_extract h hd
  exact Origin.named_decls (hnames parsed hparsed _ hp) d hd

end Extract

end Source

/-- A package outside the module has one path. -/
theorem project_or_shortPath_of_fileKey (modulePath relPath name : String) :
    (fileKey modulePath relPath name).project = true ∨
      (fileKey modulePath relPath name).shortPath = (fileKey modulePath relPath name).path := by
  have hdirectory : ∀ dir, (packageKey modulePath dir).project = true ∨
      (packageKey modulePath dir).shortPath = (packageKey modulePath dir).path := by
    intro dir
    unfold packageKey
    split
    · exact Or.inr rfl
    · split
      · exact Or.inl rfl
      · exact Or.inl rfl
  obtain ⟨suffix, -, hpath, hshort, hproject⟩ := fileKey_cases modulePath relPath name
  rw [hpath, hshort, hproject]
  exact (hdirectory _).imp_right (congrArg (· ++ suffix))

namespace Program

variable {parse : Source.Parser} {modulePath : String} {inputs : List SourceInput} {p : Package}

/-- The kinds of the declarations of a loaded program agree with their shapes. -/
theorem kindAgrees_of_mem_packages (hp : p ∈ (ofInputs parse modulePath inputs).packages) :
    ∀ d ∈ p.decls, d.kindAgrees = true := by
  intro d hd
  obtain ⟨index, -, f, -, extracted, hread, hd⟩ := exists_extracted_of_mem_decls hp hd
  exact Source.kindAgrees_extract hread d hd

/-- The packages of a loaded program are regular if the names in its files are identifiers. -/
theorem regular_of_mem_packages (hnames : ∀ input ∈ inputs, parse.NamesIdentifiers input.source)
    (hp : p ∈ (ofInputs parse modulePath inputs).packages) : p.Regular := by
  have hnamed : ∀ d ∈ p.decls, Source.Origin.Named d := by
    intro d hd
    obtain ⟨index, -, f, hf, extracted, hread, hd⟩ := exists_extracted_of_mem_decls hp hd
    have hinput : (⟨f.relPath, f.source⟩ : SourceInput) ∈ inputs := by
      refine (perm_sortOn (·.relPath) inputs).mem_iff.mp ?_
      rw [← map_files_ofInputs parse modulePath]
      exact List.mem_map_of_mem (List.mem_of_getElem? hf)
    exact Source.named_extract (hnames _ hinput) hread d hd
  exact ⟨kindAgrees_of_mem_packages hp, fun d hd => (hnamed d hd).1, fun d hd => (hnamed d hd).2⟩

/-- What statements about packages take for granted holds of every loaded program, whatever the
parser: the import paths are distinct, and packages outside the module have no short paths of their
own. If what the parser calls a name in its files is an identifier, the packages are regular. -/
theorem exists_packages_of_load {program : Program}
    (hload : load parse modulePath inputs = .ok program) :
    ∃ files packages, program = ofPackages modulePath files packages ∧
      (packages.map (·.path)).Nodup ∧
      (∀ p ∈ packages, p.project = true ∨ p.shortPath = p.path) ∧
      ((∀ input ∈ inputs, parse.NamesIdentifiers input.source) → ∀ p ∈ packages, p.Regular) := by
  obtain ⟨-, rfl⟩ := load_eq_ok_iff.mp hload
  refine ⟨_, _, ofInputs_eq parse modulePath inputs, nodup_paths_ofInputs parse modulePath inputs,
    fun p hp => ?_, fun hnames p hp => ?_⟩
  · obtain ⟨input, -, name, hkey⟩ := exists_fileKey_of_mem_groupFiles hp
    have hpaths := project_or_shortPath_of_fileKey modulePath input.relPath name
    rwa [hkey] at hpaths
  · rw [← packages_ofInputs] at hp
    exact regular_of_mem_packages hnames hp

example : ∀ input ∈ utilInputs, utilParser.NamesIdentifiers input.source := by decide +kernel

end Program

end GoAddress
