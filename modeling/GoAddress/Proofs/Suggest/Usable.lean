import GoAddress.Proofs.Resolve.Keys
import GoAddress.Proofs.Resolve.Reaching
import GoAddress.Proofs.Suggest.Ranking
import GoAddress.Suggest.Address

/-!
# Usable suggestions

A failed resolution is answered with addresses near the one sought: packages, symbols, methods of a
type, or parts of the node that was reached. Main statement: a suggestion resolves unless it gives
the position of a method in place of its name, or is the address of a method that belongs to no type.
Where methods have owners and distinct names, every suggestion resolves.
-/

namespace GoAddress

/-- A step whose text is a category with brackets is that category with a selector. -/
theorem Segment.exists_selector_of_text {s : Segment} {c : Category} {inner : List Char}
    (h : s.text.toList = c.text.toList ++ '[' :: (inner ++ [']'])) :
    ∃ selector, s = ⟨c, some selector⟩ ∧ selector.text.toList = inner := by
  let wanted : Segment := ⟨c, some (.name (String.ofList inner))⟩
  have htext : s.text.toList = wanted.text.toList := by
    rw [h, toList_text]
    simp [wanted, bracketed, Selector.text]
  have hname : s.category.text = c.text := by
    rw [← String.toList_inj, ← takeWhile_text, htext, takeWhile_text]
  have hbrackets : bracketed s.selector = '[' :: (inner ++ [']']) := by
    rw [← dropWhile_text, htext, dropWhile_text]
    simp [wanted, bracketed, Selector.text]
  have hcategory : s.category = c := by
    have hfound := Category.ofText?_text s.category
    rw [hname, Category.ofText?_text] at hfound
    exact (Option.some.inj hfound).symm
  obtain ⟨category, selector⟩ := s
  cases selector with
  | none => cases hbrackets
  | some selector =>
    refine ⟨selector, by rw [← hcategory], ?_⟩
    exact List.append_cancel_right (List.cons.inj hbrackets).2

namespace Package

variable {p : Package} {d : Decl} {rest : List Decl}

/-- A step to a method by name leads to a method that can be written behind the type as well. -/
theorem exists_start?_of_mem_children (hkinds : ∀ d ∈ p.decls, d.kindAgrees = true)
    (hdecls : p.topLevel d.name = d :: rest) {own : String} {part : Node}
    (h : ((⟨.methods, some (.name own)⟩ : Segment), part) ∈ (Node.decl d).children p) :
    ∃ start, p.start? d.name (some own) = some start := by
  obtain ⟨d', t, heq, ht, -⟩ := Node.exists_method_of_mem_children h rfl
  cases heq
  have hd : d ∈ p.topLevel d.name := hdecls ▸ List.mem_cons_self
  have htype := Decl.isType_of_type? (hkinds d (mem_topLevel.mp hd).1) ht
  have hstep := Node.step?_of_mem_children h
  rw [Node.step?_methods p ht] at hstep
  simp only [start?, hdecls, List.head?_cons, Option.bind_some, htype, if_true, methodNode?]
  cases hfound : (p.methodsOf d.name).find? (·.name == own) with
  | some m => exact ⟨.decl m, rfl⟩
  | none =>
    rw [hfound, Option.map_none, Option.or_none] at hstep
    exact ⟨part, hstep⟩

/-- Methods that can be told apart by their names, each of a type of the package. -/
structure PlainMethods (p : Package) : Prop where
  /-- Every receiver is a type of the package. -/
  owned : ∀ d ∈ p.decls, ∀ receiver ∈ d.receiverType?, p.owns receiver = true
  /-- No type has two methods of one name. -/
  distinct : ∀ d ∈ p.decls, (p.methodNames d.name).Nodup
  /-- No method is blank. -/
  named : ∀ d ∈ p.decls, "_" ∉ p.methodNames d.name

/-- Whether the methods can be told apart is seen by looking at the declarations. -/
instance (p : Package) : Decidable p.PlainMethods :=
  decidable_of_iff ((∀ d ∈ p.decls, ∀ receiver ∈ d.receiverType?, p.owns receiver = true) ∧
      (∀ d ∈ p.decls, (p.methodNames d.name).Nodup) ∧
      ∀ d ∈ p.decls, "_" ∉ p.methodNames d.name)
    ⟨fun h => ⟨h.1, h.2.1, h.2.2⟩, fun h => ⟨h.owned, h.distinct, h.named⟩⟩

/-- The names of the methods of a type, in the order of the steps to them. -/
def stepNames (p : Package) (d : Decl) : List String :=
  d.elements.map (·.name) ++ (p.methodsOf d.name).map (·.name)

/-- The methods of a type are parts with their names. -/
theorem names_choices_methods {t : TypeShape} (ht : d.type? = some t) :
    ((Node.decl d).choices p .methods).map Prod.fst = (p.stepNames d).map some := by
  rw [Node.choices_methods p ht]
  simp [stepNames, Function.comp_def]

/-- The methods of the first declaration of a name are among those of the name, in another order. -/
theorem exists_perm_stepNames (hdecls : p.topLevel d.name = d :: rest) :
    ∃ names, (p.stepNames d).Perm names ∧ names.Sublist (p.methodNames d.name) := by
  refine ⟨(p.methodsOf d.name).map (·.name) ++ d.elements.map (·.name), List.perm_append_comm, ?_⟩
  simp only [methodNames, methodTable, hdecls, List.flatMap_cons, List.map_append, List.map_map,
    Function.comp_def]
  exact (List.sublist_append_left _ _).append_left _

/-- Where the methods can be told apart by their names, every step to one is by name. -/
theorem PlainMethods.exists_name (h : p.PlainMethods) (hregular : p.Regular)
    (hdecls : p.topLevel d.name = d :: rest) {selector : Selector} {part : Node}
    (hs : ((⟨.methods, some selector⟩ : Segment), part) ∈ (Node.decl d).children p) :
    ∃ own, selector = .name own := by
  obtain ⟨d', t, heq, ht, -⟩ := Node.exists_method_of_mem_children hs rfl
  cases heq
  have hd : d ∈ p.decls := (mem_topLevel.mp (hdecls ▸ List.mem_cons_self)).1
  obtain ⟨names, hperm, hsublist⟩ := exists_perm_stepNames hdecls
  rcases (Node.mem_children.mp hs).2 with ⟨hnone, -⟩ | ⟨i, name, hpart, hstep⟩
  · cases hnone
  · have hget : (((Node.decl d).choices p .methods).map Prod.fst)[i]? = some name := by
      rw [List.getElem?_map, hpart, Option.map_some]
    dsimp only at hstep
    rw [names_choices_methods ht] at hget hstep
    obtain ⟨own, hown, rfl⟩ := Option.map_eq_some_iff.mp (List.getElem?_map.symm.trans hget)
    have hmem : own ∈ p.stepNames d := List.mem_of_getElem? hown
    have hblank : own ≠ "_" := by
      rintro rfl
      exact h.named d hd (hsublist.subset (hperm.mem_iff.mp hmem))
    have hident : isIdentifier own = true := by
      rcases List.mem_append.mp hmem with hmem | hmem
      · obtain ⟨m, hm, rfl⟩ := List.mem_map.mp hmem
        exact hregular.elements d hd m hm
      · obtain ⟨m, hm, rfl⟩ := List.mem_map.mp hmem
        exact hregular.names m (mem_methodsOf.mp hm).1
    have hcount : ((p.stepNames d).map some).count (some own) = 1 := by
      have hnodup : (p.stepNames d).Nodup := hperm.symm.nodup ((h.distinct d hd).sublist hsublist)
      exact List.count_eq_one_of_mem (hnodup.map (Option.some_injective _))
        (List.mem_map_of_mem hmem)
    have hname : Node.stepTo .methods ((p.stepNames d).map some) i =
        { category := .methods, selector := some (.name own) } := by
      simp [Node.stepTo, hget, hblank, hident, hcount]
    rw [hname] at hstep
    exact ⟨own, Option.some.inj (Segment.mk.inj hstep).2⟩

end Package

/-- Where a text of the grammar has a dot in its last component, a name stands behind the dot. -/
theorem Address.WellFormed.isIdentifierChars_of_render {a : Address} (h : a.WellFormed)
    {text last : List Char} (hrender : a.render.toList = text ++ '.' :: last) (hslash : '/' ∉ last)
    (hdot : '.' ∉ last) : isIdentifierChars last = true := by
  have hcomponent : ∃ part, (Text.splitOn '/' a.render.toList).getLast? = some part ∧
      '.' ∈ part := by
    have hnot : '/' ∉ '.' :: last := by simpa using hslash
    obtain ⟨before, part, -, hsplit⟩ := Text.splitOn_concat '/' text hnot
    exact ⟨part ++ '.' :: last, by rw [hrender, hsplit]; simp, by simp⟩
  have hname : (Text.splitOn '.' a.render.toList).getLast? = some last := by
    rw [hrender, Text.getLast?_splitOn_of_last text hdot]
  obtain ⟨part, hpart, hmem⟩ := hcomponent
  rw [toList_render] at hpart hname
  rcases h.shape with hshape | hshape
  · -- The path of a package has no dot in its last component.
    simp only [hshape.symbol, hshape.method, hshape.subpath, Option.map_none, dotted,
      List.append_nil, List.flatMap_nil] at hpart
    exact absurd hmem (hshape.stays.dot_not_mem_last hpart)
  · obtain ⟨name, hsymbol, hident⟩ := hshape.symbol
    rcases List.eq_nil_or_concat a.subpath with hsteps | ⟨steps, s, hsteps⟩
    · -- Without steps the last name is the method, or else the symbol.
      have hnodot : ∀ {name : String}, isIdentifier name = true → '.' ∉ name.toList :=
        fun hident => not_mem_of_isIdentifierChars hident (by decide)
      cases hmethod : a.method with
      | none =>
        simp only [hsymbol, hmethod, hsteps, Option.map_some, Option.map_none, dotted,
          List.append_nil, List.flatMap_nil, Text.getLast?_splitOn_of_last _ (hnodot hident)] at hname
        exact Option.some.inj hname ▸ hident
      | some method =>
        have hident' := hshape.method method hmethod
        simp only [hsymbol, hmethod, hsteps, Option.map_some, dotted, List.append_nil,
          List.flatMap_nil, Text.getLast?_splitOn_of_last _ (hnodot hident')] at hname
        exact Option.some.inj hname ▸ hident'
    · -- The text of a step has no dot.
      have hs : s.Legible := h.legible.steps s (by simp [hsteps])
      have hlast := Segment.not_mem_text hs (Or.inr rfl)
      rw [hsteps, List.concat_eq_append, List.flatMap_append, List.flatMap_singleton,
        ← List.append_assoc, Text.getLast?_splitOn_of_last _ hlast] at hpart
      exact absurd (Option.some.inj hpart ▸ hmem) (Segment.not_mem_text hs (Or.inl rfl))

/-- Positions are written with digits. -/
theorem Selector.isDigit_of_mem_index {i : Nat} {c : Char} (hc : c ∈ (index i).text.toList) :
    c.isDigit = true := by
  have hlegible : (index i).Legible := trivial
  exact List.all_eq_true.mp ((all_isDigit_text_iff hlegible).mpr ⟨i, rfl⟩) c hc

/-- A position behind a dot is never part of an address. -/
theorem Address.parse_position_ne_ok (text : String) (i : Nat) (a : Address) :
    parse (text ++ "." ++ toString i) ≠ .ok a := by
  intro hparse
  obtain ⟨hwell, hrender⟩ := parse_eq_ok_iff.mp hparse
  have hlegible : (Selector.index i).Legible := trivial
  have hchars : a.render.toList = text.toList ++ '.' :: (Selector.index i).text.toList := by
    rw [hrender]
    simp [Selector.text]
  have hident := hwell.isIdentifierChars_of_render hchars
    (Selector.not_mem_text hlegible (by decide)) (Selector.not_mem_text hlegible (by decide))
  obtain ⟨⟨c, hhead, hstart⟩, -⟩ := isIdentifierChars_iff.mp hident
  have hdigit := Selector.isDigit_of_mem_index (List.mem_of_mem_head? hhead)
  rw [isIdentStart_digit hdigit] at hstart
  cases hstart

namespace Workspace

variable {program : Program} {p : Package} {a : Address} {node : Node} {e : ResolveError}
  {text s : String}

/-- A position behind a dot never resolves where the text before the dot is an address. -/
theorem not_resolves_position (w : Workspace) (htext : Address.parse text = .ok a) (i : Nat) :
    ¬ ∃ r, (w.resolveText (text ++ "." ++ toString i)).2 = .ok r := by
  rintro ⟨r, hr⟩
  obtain ⟨hwell, hrender⟩ := Address.parse_eq_ok_iff.mp htext
  have htrim : Text.trimBlanks (text ++ "." ++ toString i) = text ++ "." ++ toString i := by
    apply Text.trimBlanks_of_not_blank
    intro c hc
    rw [String.toList_append, String.toList_append, List.mem_append, List.mem_append] at hc
    rcases hc with (hc | hc) | hc
    · exact hwell.isBlank_of_mem_render (hrender ▸ hc)
    · rw [List.mem_singleton.mp hc]
      decide
    · exact Text.isBlank_of_isAlphanum (by simp [Char.isAlphanum, Selector.isDigit_of_mem_index hc])
  have hname : ¬ isIdentifier (text ++ "." ++ toString i) = true := by
    intro hident
    have hdot : '.' ∉ (text ++ "." ++ toString i).toList :=
      not_mem_of_isIdentifierChars hident (by decide)
    simp at hdot
  have hlone : ¬ (isIdentifier (Text.trimBlanks (text ++ "." ++ toString i)) = true ∧
      w.program.package? (Text.trimBlanks (text ++ "." ++ toString i)) = none) := by
    rw [htrim]
    exact fun h => hname h.1
  obtain ⟨b, hparse, -⟩ := exists_parse_of_resolveText hlone hr
  rw [htrim] at hparse
  exact Address.parse_position_ne_ok text i b hparse

/-- The parts of what an address stands for are offered by its text and the steps to them. -/
theorem childAddresses_of_reaches (hp : program.Addressable p) (ha : p.Reaches a node) :
    Suggest.childAddresses (ofProgram program) a.render =
      (node.children p).map fun x => (a.child x.1).render := by
  obtain ⟨b, hparse, hresolve⟩ := resolve_of_reaches hp ha
  simp only [Suggest.childAddresses, hparse, hresolve, Address.render_child, render_readBack]

/-- Each of the offered parts resolves. -/
theorem resolves_of_mem_childAddresses (hp : program.Addressable p) (ha : p.Reaches a node)
    (hs : s ∈ Suggest.childAddresses (ofProgram program) a.render) :
    ∃ r, ((ofProgram program).resolveText s).2 = .ok r := by
  rw [childAddresses_of_reaches hp ha, List.mem_map] at hs
  obtain ⟨⟨step, part⟩, hstep, rfl⟩ := hs
  exact exists_resolveText_of_reaches hp (ha.child hp.bound hstep)

/-- Methods of what an address stands for are offered by the selectors of the steps to them. -/
theorem exists_selector_of_mem_methodsNear (hp : program.Addressable p) (ha : p.Reaches a node)
    {method : String} (hs : s ∈ Suggest.methodsNear (ofProgram program) a.render method) :
    ∃ selector part, ((⟨.methods, some selector⟩ : Segment), part) ∈ node.children p ∧
      s = a.render ++ "." ++ selector.text := by
  have hcandidate := (Suggest.of_mem_rank hs).1
  rw [childAddresses_of_reaches hp ha, List.mem_filterMap] at hcandidate
  obtain ⟨text, htext, hcut⟩ := hcandidate
  obtain ⟨⟨step, part⟩, hstep, rfl⟩ := List.mem_map.mp htext
  obtain ⟨rest, hdrop, hcut⟩ := Option.bind_eq_some_iff.mp hcut
  obtain ⟨name, hdrop', hwritten⟩ := Option.bind_eq_some_iff.mp hcut
  have hrest := List.isPrefixOf?_eq_some_iff_append_eq.mp hdrop
  have hname := List.isSuffixOf?_eq_some_iff_append_eq.mp hdrop'
  have hbrackets : step.text.toList = Category.methods.text.toList ++ '[' :: (name ++ [']']) := by
    rw [← hname, Address.render_child] at hrest
    simpa [Category.text] using hrest.symm
  obtain ⟨selector, rfl, hselector⟩ := Segment.exists_selector_of_text hbrackets
  refine ⟨selector, part, hstep, ?_⟩
  rw [← Option.some.inj hwritten, ← hselector, String.ofList_toList]

/-- Suggested packages answer to what is suggested. -/
theorem exists_package?_of_mem_packagesNear {modulePath sought : String} {files : List SourceFile}
    {packages : List Package} (hpaths : (packages.map (·.path)).Nodup)
    (hproject : ∀ p ∈ packages, p.project = true ∨ p.shortPath = p.path)
    (hs : s ∈ Suggest.packagesNear (ofProgram (.ofPackages modulePath files packages)) sought) :
    ∃ p, (Program.ofPackages modulePath files packages).package? s = some p := by
  unfold Suggest.packagesNear at hs
  dsimp only at hs
  have hcandidate : s ∈ ((Program.ofPackages modulePath files packages).packages.flatMap
      fun p => [p.path, p.shortPath]).filter (!·.isEmpty) := by
    split at hs
    · exact (Suggest.of_mem_rank hs).1
    · exact (Suggest.of_mem_rank hs).1
  obtain ⟨hmem, hne⟩ := List.mem_filter.mp hcandidate
  obtain ⟨p, hp, hkey⟩ := List.mem_flatMap.mp hmem
  have hp := Program.mem_packages_ofPackages.mp hp
  have hpath := @Program.package?_path modulePath files packages hpaths p hp
  rcases List.mem_pair.mp hkey with rfl | rfl
  · exact ⟨p, hpath⟩
  · rcases hproject p hp with hproject | hshort
    · exact Program.exists_package?_shortPath hp hproject (by simpa using hne)
    · exact ⟨p, hshort ▸ hpath⟩

/-- The candidates of an ambiguous name are addresses of symbols. -/
theorem exists_symbol_of_ambiguous {name : String} {candidates : List String}
    (h : ((ofProgram program).resolveText text).2 = .error (.ambiguous name candidates))
    (hs : s ∈ candidates) : ∃ y ∈ (ofProgram program).index.symbols, y.address = s := by
  rcases resolveText_error_cases h with
    ⟨error, heq⟩ | ⟨sought, heq⟩ | ⟨sought, heq⟩ | ⟨b, hb, hresolve⟩
  · cases heq
  · cases heq
  · cases heq
    obtain ⟨y, hy, haddress⟩ := List.mem_map.mp (mem_sortedSet.mp hs)
    rw [show (ofProgram program).index.lookup name = _ from
      SymbolIndex.lookup_eq_filter program name] at hy
    exact ⟨y, List.mem_of_mem_filter hy, haddress⟩
  · rcases resolve_error_cases hb hresolve with heq | ⟨p, a, -, -, -, hin⟩
    · cases heq
    · exact (resolveIn_ne_ambiguous _ _ _ _ _ hin).elim

/-- Suggested symbols are addresses of symbols. -/
theorem exists_symbol_of_mem_symbolsNear {package symbol : String}
    (hs : s ∈ Suggest.symbolsNear (ofProgram program) package symbol) :
    ∃ y ∈ (ofProgram program).index.symbols, y.address = s := by
  have hcandidate := (Suggest.of_mem_rank hs).1
  split at hcandidate
  · exact List.mem_map.mp hcandidate
  · obtain ⟨y, hy, haddress⟩ := List.mem_map.mp hcandidate
    rw [show (ofProgram program).index.inPackage package = _ from
      SymbolIndex.inPackage_eq_filter program package] at hy
    exact ⟨y, List.mem_of_mem_filter hy, haddress⟩

/-- The parts of a category are parts. -/
theorem mem_of_mem_partsOf {children : List String} {resolved category : String}
    (hs : s ∈ Suggest.partsOf children resolved category) : s ∈ children :=
  List.mem_of_mem_filter (List.mem_of_mem_take hs)

/-- Where a step fails, parts of the node that was reached are suggested. -/
theorem mem_childAddresses_of_mem_forError {w : Workspace} {resolved : String}
    (hpartial : e.partial? = some resolved) (hbelow : e.isBelowSymbol = true)
    (hmethod : ∀ resolved method, e ≠ .methodNotFound resolved method)
    (hs : s ∈ Suggest.forError w e) : s ∈ Suggest.childAddresses w resolved := by
  have hany : ∀ {category : String}, s ∈ Suggest.anyParts w resolved category →
      s ∈ Suggest.childAddresses w resolved := by
    intro category hs
    unfold Suggest.anyParts at hs
    dsimp only at hs
    split at hs
    · exact List.mem_of_mem_take hs
    · exact mem_of_mem_partsOf hs
  cases e with
  | parse | packageNotFound | symbolNotFound | ambiguous => cases hbelow
  | methodNotFound => exact absurd rfl (hmethod _ _)
  | childNotFound =>
    cases hpartial
    unfold Suggest.forError Suggest.partsNear at hs
    dsimp only at hs
    split at hs
    · exact mem_of_mem_partsOf hs
    · exact (Suggest.of_mem_rank hs).1
  | _ =>
    cases hpartial
    exact hany hs

/-- No method of a program is without an owner where all receivers are types. -/
theorem not_isOwnerless (hnodup : (program.packages.map (·.path)).Nodup)
    (hpackages : ∀ p ∈ program.packages, program.Addressable p)
    (hplain : ∀ p ∈ program.packages, p.PlainMethods) {y : Symbol}
    (hy : y ∈ (ofProgram program).index.symbols) : ¬ (ofProgram program).IsOwnerless y := by
  obtain ⟨p, hmem, first, position, hplaced, x, hx, rfl⟩ :=
    SymbolIndex.exists_placed_of_mem_symbols hnodup hy
  rw [isOwnerless_symbolAt_iff hplaced (hpackages p hmem).regular.kinds hx]
  rintro ⟨receiver, hreceiver, hnone⟩
  have howns := (hplain p hmem).owned x.1 (List.fst_mem_of_mem_zipIdx hx) receiver hreceiver
  rw [howns] at hnone
  cases hnone

/-- A text that is the address of a symbol resolves exactly if it is not that of a method without an
owner. -/
theorem resolves_address_iff (hnodup : (program.packages.map (·.path)).Nodup)
    (hpackages : ∀ p ∈ program.packages, program.Addressable p)
    (hs : ∃ y ∈ (ofProgram program).index.symbols, y.address = s) :
    ((∃ r, ((ofProgram program).resolveText s).2 = .ok r) ↔
      ¬ ∃ y ∈ (ofProgram program).index.symbols, y.address = s ∧
        (ofProgram program).IsOwnerless y) ∧
    ((∀ p ∈ program.packages, p.PlainMethods) →
      ∃ r, ((ofProgram program).resolveText s).2 = .ok r) := by
  obtain ⟨y, hy, rfl⟩ := hs
  have hiff := resolves_symbol_iff hnodup hpackages hy
  refine ⟨⟨?_, ?_⟩, fun hplain => hiff.mpr (not_isOwnerless hnodup hpackages hplain hy)⟩
  · rintro hresolves ⟨z, hz, haddress, hownerless⟩
    rw [← haddress] at hresolves
    exact (resolves_symbol_iff hnodup hpackages hz).mp hresolves hownerless
  · intro hnot
    exact hiff.mpr fun hownerless => hnot ⟨y, hy, rfl, hownerless⟩

/-- A suggested method of a type resolves exactly if it is not given by its position. -/
theorem resolves_method_iff (hp : program.Addressable p) {d : Decl} {rest : List Decl}
    (hdecls : p.topLevel d.name = d :: rest) {method : String}
    (hs : s ∈ Suggest.methodsNear (ofProgram program) (p.rootAddress d.name none).render method) :
    ((∃ r, ((ofProgram program).resolveText s).2 = .ok r) ↔
      ¬ ∃ i : Nat, s = (p.rootAddress d.name none).render ++ "." ++ toString i) ∧
    (p.PlainMethods → ∃ r, ((ofProgram program).resolveText s).2 = .ok r) := by
  have hstart : p.start? d.name none = some (.decl d) := by simp [Package.start?, hdecls]
  have htype := Package.Reaches.of_start? hp.regular hstart
  obtain ⟨b, hparse, -⟩ := resolve_of_reaches hp htype
  obtain ⟨selector, part, hstep, rfl⟩ := exists_selector_of_mem_methodsNear hp htype hs
  cases selector with
  | name own =>
    obtain ⟨start, hmethod⟩ :=
      Package.exists_start?_of_mem_children hp.regular.kinds hdecls hstep
    have hwritten : (p.rootAddress d.name (some own)).render =
        (p.rootAddress d.name none).render ++ "." ++ own := by
      simp [Package.rootAddress, Address.render, String.append_assoc]
    have hresolves := exists_resolveText_of_reaches hp (.of_start? hp.regular hmethod)
    rw [hwritten] at hresolves
    refine ⟨iff_of_true hresolves ?_, fun _ => hresolves⟩
    rintro ⟨i, hposition⟩
    have hfails := not_resolves_position (ofProgram program) hparse i
    rw [← hposition] at hfails
    exact hfails hresolves
  | index i =>
    refine ⟨iff_of_false (not_resolves_position _ hparse i) fun hnot => hnot ⟨i, rfl⟩, ?_⟩
    intro hplain
    obtain ⟨own, hown⟩ := hplain.exists_name hp.regular hdecls hstep
    cases hown

end Workspace

/-- How a suggestion can name nothing: it gives the position of a method in place of its name, or
it is the address of a method without an owner. -/
def Suggest.IsFlawed (w : Workspace) (s : String) : ResolveError → Prop
  | .methodNotFound resolved _ => ∃ i : Nat, s = resolved ++ "." ++ toString i
  | .symbolNotFound .. | .ambiguous .. =>
    ∃ y ∈ w.index.symbols, y.address = s ∧ w.IsOwnerless y
  | _ => False

namespace Workspace

/-- Suggestions are usable, but for two flaws. Let a text fail to resolve in a program whose
declarations can be addressed, and let a suggestion for the error be read as a package if the error
is about a package. Then the suggestion resolves exactly if it neither gives the position of a method
in place of its name nor is the address of a method without an owner. Both are out of the question
where every receiver is a type of its package and no type has two methods of one name or a blank
one: then every suggestion resolves. What is taken for granted of packages as such holds of every
loaded program by `Program.exists_packages_of_load`. -/
theorem suggestion_resolves_iff {program : Program} {modulePath : String} {files : List SourceFile}
    {packages : List Package} (hprogram : program = .ofPackages modulePath files packages)
    (hpaths : (packages.map (·.path)).Nodup) (hregular : ∀ p ∈ packages, p.Regular)
    (hreceivers : ∀ p ∈ packages, ∀ d ∈ p.decls, ∀ receiver ∈ d.receiverType?,
      isIdentifier receiver = true)
    (hreads : ∀ p ∈ packages, program.ReadsBehind p.path)
    (hbound : ∀ p ∈ packages, p.partCount ≤ Address.positionBound)
    (hproject : ∀ p ∈ packages, p.project = true ∨ p.shortPath = p.path) {text : String}
    {e : ResolveError} (h : ((ofProgram program).resolveText text).2 = .error e) {s : String}
    (hs : s ∈ Suggest.forError (ofProgram program) e)
    (hplain : ∀ package, e = .packageNotFound package → program.PlainPath s) :
    ((∃ r, ((ofProgram program).resolveText s).2 = .ok r) ↔
      ¬ Suggest.IsFlawed (ofProgram program) s e) ∧
    ((∀ p ∈ packages, p.PlainMethods) → ∃ r, ((ofProgram program).resolveText s).2 = .ok r) := by
  subst hprogram
  have hnodup := @Program.nodup_paths_ofPackages modulePath files packages hpaths
  have hmem : ∀ {p}, p ∈ (Program.ofPackages modulePath files packages).packages → p ∈ packages :=
    Program.mem_packages_ofPackages.mp
  have hpackages : ∀ p ∈ (Program.ofPackages modulePath files packages).packages,
      (Program.ofPackages modulePath files packages).Addressable p := fun p hp =>
    { placed := SymbolIndex.exists_placed hnodup hp
      loaded := Program.package?_path hpaths (hmem hp)
      regular := hregular p (hmem hp)
      receivers := hreceivers p (hmem hp)
      reads := hreads p (hmem hp)
      bound := hbound p (hmem hp) }
  have hall : (∀ p ∈ packages, p.PlainMethods) →
      ∀ p ∈ (Program.ofPackages modulePath files packages).packages, p.PlainMethods :=
    fun hmethods p hp => hmethods p (hmem hp)
  cases e with
  | parse => cases hs
  | packageNotFound package =>
    obtain ⟨p, hloaded⟩ := exists_package?_of_mem_packagesNear hpaths hproject hs
    have hresolves := resolves_of_plainPath (hplain package rfl) hloaded
    exact ⟨iff_of_true hresolves not_false, fun _ => hresolves⟩
  | symbolNotFound package symbol =>
    obtain ⟨hiff, hmethods⟩ :=
      resolves_address_iff hnodup hpackages (exists_symbol_of_mem_symbolsNear hs)
    exact ⟨hiff, hmethods ∘ hall⟩
  | ambiguous name candidates =>
    obtain ⟨hiff, hmethods⟩ :=
      resolves_address_iff hnodup hpackages (exists_symbol_of_ambiguous h hs)
    exact ⟨hiff, hmethods ∘ hall⟩
  | methodNotFound resolved method =>
    obtain ⟨p, hp, a, -, -, hin⟩ := exists_resolveIn_of_isBelowSymbol h rfl
    obtain ⟨d, rest, hdecls, rfl⟩ := exists_decl_of_methodNotFound (hpackages p hp) hin
    obtain ⟨hiff, hmethods⟩ := resolves_method_iff (hpackages p hp) hdecls hs
    exact ⟨hiff, fun hplain => hmethods (hall hplain p hp)⟩
  | _ =>
    obtain ⟨p, hp, a, hlegible, hvalid, hin⟩ := exists_resolveIn_of_isBelowSymbol h rfl
    obtain ⟨b, node, hb, hpartial⟩ :=
      exists_reaches_of_resolveIn (hpackages p hp) hlegible hvalid hin rfl
    have hchild := mem_childAddresses_of_mem_forError hpartial rfl (fun _ _ => nofun) hs
    have hresolves := resolves_of_mem_childAddresses (hpackages p hp) hb hchild
    exact ⟨iff_of_true hresolves not_false, fun _ => hresolves⟩

/-- A package whose only declaration is a method of a type that is declared nowhere. -/
def strayPackage : Package where
  path := "app"
  shortPath := ""
  name := "app"
  decls :=
    [{ name := "Close", kind := .method
       shape := .func { signature := "func (c Conn) Close()", receiverType := some "Conn" } }]

/-- A method that an interface asks for is suggested and resolves; one without an owner is suggested
and does not. -/
theorem suggestion_resolves_iff_of_interface :
    (((ofProgram (.ofPackages "example.org/shop.v2" [] [storePackage])).resolveText
          "store.Reader.Rea").2 =
        .error (.methodNotFound "example.org/shop.v2/store.Reader" "Rea") ∧
      "example.org/shop.v2/store.Reader.Read" ∈
        Suggest.forError (ofProgram (.ofPackages "example.org/shop.v2" [] [storePackage]))
          (.methodNotFound "example.org/shop.v2/store.Reader" "Rea") ∧
      ∃ r, ((ofProgram (.ofPackages "example.org/shop.v2" [] [storePackage])).resolveText
        "example.org/shop.v2/store.Reader.Read").2 = .ok r) ∧
    ((ofProgram (.ofPackages "app" [] [strayPackage])).resolveText "app.Clos").2 =
        .error (.symbolNotFound "app" "Clos") ∧
      "app.Conn.Close" ∈ Suggest.forError (ofProgram (.ofPackages "app" [] [strayPackage]))
        (.symbolNotFound "app" "Clos") ∧
      ¬ ∃ r, ((ofProgram (.ofPackages "app" [] [strayPackage])).resolveText
        "app.Conn.Close").2 = .ok r := by
  have hmiss : ((ofProgram (.ofPackages "example.org/shop.v2" [] [storePackage])).resolveText
      "store.Reader.Rea").2 =
        .error (.methodNotFound "example.org/shop.v2/store.Reader" "Rea") := by
    rw [Program.ofPackages_of_pairwise (by decide)]
    decide +kernel
  have hoffer : "example.org/shop.v2/store.Reader.Read" ∈
      Suggest.forError (ofProgram (.ofPackages "example.org/shop.v2" [] [storePackage]))
        (.methodNotFound "example.org/shop.v2/store.Reader" "Rea") := by
    rw [Program.ofPackages_of_pairwise (by decide)]
    exact Suggest.mem_rank_of_length_le (by decide +kernel) (by decide +kernel) (by decide +kernel)
  have hmiss' : ((ofProgram (.ofPackages "app" [] [strayPackage])).resolveText "app.Clos").2 =
      .error (.symbolNotFound "app" "Clos") := by
    rw [Program.ofPackages_of_pairwise (by decide)]
    decide +kernel
  have hoffer' : "app.Conn.Close" ∈ Suggest.forError
      (ofProgram (.ofPackages "app" [] [strayPackage])) (.symbolNotFound "app" "Clos") := by
    rw [Program.ofPackages_of_pairwise (by decide)]
    exact Suggest.mem_rank_of_length_le (by decide +kernel) (by decide +kernel) (by decide +kernel)
  have hreads : (Program.ofPackages "example.org/shop.v2" [] [storePackage]).ReadsBehind
      storePackage.path := (Program.plainPath_of_parse (by decide +kernel)).readsBehind.1
  have hreads' : (Program.ofPackages "app" [] [strayPackage]).ReadsBehind strayPackage.path :=
    (Program.plainPath_of_parse (by decide +kernel)).readsBehind.1
  have hflawed : Suggest.IsFlawed (ofProgram (.ofPackages "app" [] [strayPackage]))
      "app.Conn.Close" (.symbolNotFound "app" "Clos") := by
    rw [Program.ofPackages_of_pairwise (by decide)]
    exact ⟨_, List.mem_singleton_self _, by decide +kernel, "Conn", rfl, by decide +kernel⟩
  have hread := suggestion_resolves_iff rfl (by decide) (by decide +kernel) (by decide +kernel)
    (List.forall_mem_singleton.mpr hreads) (by decide +kernel) (by decide) hmiss hoffer nofun
  have hclose := suggestion_resolves_iff rfl (by decide) (by decide +kernel) (by decide +kernel)
    (List.forall_mem_singleton.mpr hreads') (by decide +kernel) (by decide) hmiss' hoffer' nofun
  exact ⟨⟨hmiss, hoffer, hread.2 (by decide +kernel)⟩, hmiss', hoffer',
    fun hresolves => hclose.1.mp hresolves hflawed⟩

/-- A package for two systems: two of its files declare the same method of a type. -/
def taskPackage : Package where
  path := "app"
  shortPath := ""
  name := "app"
  decls :=
    [{ name := "Task", kind := .type
       shape := .type { underlying := { text := "struct" }, members := .struct [] [] } },
     { name := "Do", kind := .method
       shape := .func { signature := "func (Task) Do()", receiverType := some "Task" } },
     { name := "Do", kind := .method
       shape := .func { signature := "func (Task) Do()", receiverType := some "Task" } }]

/-- A method that two files declare is suggested by its position, which is no address. -/
theorem suggested_position_fails :
    ((ofProgram (.ofPackages "app" [] [taskPackage])).resolveText "app.Task.D").2 =
        .error (.methodNotFound "app.Task" "D") ∧
      "app.Task.0" ∈ Suggest.forError (ofProgram (.ofPackages "app" [] [taskPackage]))
        (.methodNotFound "app.Task" "D") ∧
      (ofProgram (.ofPackages "app" [] [taskPackage])).resolveText "app.Task.0" =
        ([], .error (.parse ⟨"app.Task.0", .invalidIdentifier "0"⟩)) := by
  rw [Program.ofPackages_of_pairwise (by decide)]
  refine ⟨by decide +kernel, ?_, by decide +kernel⟩
  exact Suggest.mem_rank_of_length_le (by decide +kernel) (by decide +kernel) (by decide +kernel)

end Workspace

end GoAddress
