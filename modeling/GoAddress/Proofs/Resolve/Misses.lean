import Mathlib.Data.List.Infix
import GoAddress.Proofs.Resolve.Methods

/-!
# Where resolving stops

An address is resolved from left to right: its symbol, its method, then its steps one by one. An
error below the symbol carries the text of the beginning that was resolved. Main statement: that
beginning resolves, and every beginning of the address that goes further fails with the same error.
-/

namespace GoAddress

/-- Whether an error is about what lies below a symbol. -/
def ResolveError.isBelowSymbol : ResolveError → Bool
  | .methodNotFound .. | .invalidCategory .. | .missingSelector .. | .unexpectedSelector ..
  | .missingChild .. | .childNotFound .. => true
  | .parse _ | .packageNotFound _ | .symbolNotFound .. | .ambiguous .. => false

/-- The beginnings of an address from its symbol on: the symbol alone, and the symbol and the
method, if there is one, with some of the first steps. -/
structure Address.Beginning (b a : Address) : Prop where
  /-- It lies in the same package. -/
  package : b.package = a.package
  /-- It has the symbol of the address. -/
  symbol : a.symbol ≠ none ∧ b.symbol = a.symbol
  /-- It ends at the symbol, or has the method and some of the first steps. -/
  rest : (b.method = none ∧ b.subpath = []) ∨ (b.method = a.method ∧ b.subpath <+: a.subpath)

namespace Node

variable {p : Package} {node : Node} {s : Segment} {resolved : String} {e : ResolveError}

/-- A selector that a rule does not admit is reported with the text of the node. -/
theorem partial?_of_checkSelector {rule : SelectorRule}
    (h : checkSelector rule s resolved = .error e) : e.partial? = some resolved := by
  unfold checkSelector at h
  split at h
  · cases h
    rfl
  · cases h
    rfl
  · cases h

/-- A part that is not there is reported with the text of the node. -/
theorem partial?_of_choose {parts : Members} (h : choose parts s resolved = .error e) :
    e.partial? = some resolved := by
  unfold choose at h
  dsimp only at h
  split at h
  · cases h
  · cases h
    rfl
  · cases h
    rfl
  · split at h
    · cases h
    · cases h
      rfl

/-- A tag or pair that is not there is reported with the text of the node. -/
theorem partial?_of_chooseTag (h : chooseTag node s resolved = .error e) :
    e.partial? = some resolved := by
  unfold chooseTag at h
  split at h
  · cases h
    rfl
  · cases h
  · exact partial?_of_choose h

/-- A step that fails is reported with the text of the node that it starts from. -/
theorem partial?_of_child (h : node.child p s resolved = .error e) :
    e.partial? = some resolved := by
  unfold child at h
  split at h
  · cases h
    rfl
  · split at h
    · next hcheck =>
      cases h
      exact partial?_of_checkSelector hcheck
    · split at h
      · exact partial?_of_chooseTag h
      · exact partial?_of_choose h

end Node

namespace Workspace

variable {w : Workspace} {p : Package} {a : Address} {e : ResolveError}

/-- The text of steps behind a node. -/
def stepsText (steps : List Segment) : String :=
  String.join (steps.map ("/" ++ ·.text))

/-- A step in front of others adds its text in front of theirs. -/
theorem stepsText_cons (s : Segment) (steps : List Segment) :
    stepsText (s :: steps) = "/" ++ s.text ++ stepsText steps := by
  simp [stepsText]

/-- Following steps stops at the first one that fails: the steps before it lead somewhere, the error
carries their text, and any more steps fail with the same error. -/
theorem exists_followed_of_descend {node : Node} {resolved : String} {steps : List Segment}
    (h : descend p node resolved steps = .error e) :
    ∃ done, done <+: steps ∧ (∃ last, descend p node resolved done = .ok last) ∧
      e.partial? = some (resolved ++ stepsText done) ∧
      ∀ more, more <+: steps → ¬ more <+: done → descend p node resolved more = .error e := by
  induction steps generalizing node resolved with
  | nil => cases h
  | cons s steps ih =>
    rw [descend] at h
    split at h
    · next hchild =>
      cases h
      refine ⟨[], List.nil_prefix, ⟨node, rfl⟩, ?_, fun more hmore hfar => ?_⟩
      · rw [Node.partial?_of_child hchild]
        simp [stepsText]
      · cases more with
        | nil => exact absurd List.nil_prefix hfar
        | cons t more =>
          obtain ⟨rfl, -⟩ := List.cons_prefix_cons.mp hmore
          rw [descend, hchild]
    · next next hchild =>
      obtain ⟨done, hdone, ⟨last, hlast⟩, hpartial, hfails⟩ := ih h
      refine ⟨s :: done, List.cons_prefix_cons.mpr ⟨rfl, hdone⟩, ⟨last, ?_⟩, ?_,
        fun more hmore hfar => ?_⟩
      · rw [descend, hchild]
        exact hlast
      · rw [hpartial, stepsText_cons]
        simp only [String.append_assoc]
      · cases more with
        | nil => exact absurd List.nil_prefix hfar
        | cons t more =>
          obtain ⟨rfl, hrest⟩ := List.cons_prefix_cons.mp hmore
          rw [descend, hchild]
          refine hfails more hrest fun hnear => hfar ?_
          exact List.cons_prefix_cons.mpr ⟨rfl, hnear⟩

section Symbols

variable {s : Symbol} {d : Decl} {name : String}

/-- Without a method, resolving a symbol follows the steps from its declaration. -/
theorem resolveSymbol_of_none (h : a.method = none) :
    w.resolveSymbol p s d a name = descend p (.decl d) (p.path ++ "." ++ name) a.subpath := by
  simp only [resolveSymbol, h]

/-- A method that is not found is reported with the text of the symbol. -/
theorem resolveSymbol_of_not_found {method : String} (h : a.method = some method)
    (hnone : w.methodOf? s d method = none) :
    w.resolveSymbol p s d a name = .error (.methodNotFound (p.path ++ "." ++ name) method) := by
  simp only [resolveSymbol, h, hnone]

/-- With a method, resolving a symbol follows the steps from the method. -/
theorem resolveSymbol_of_found {method : String} (h : a.method = some method) {start : Node}
    (hstart : w.methodOf? s d method = some start) :
    w.resolveSymbol p s d a name =
      descend p start (p.path ++ "." ++ name ++ "." ++ method) a.subpath := by
  simp only [resolveSymbol, h, hstart]

/-- Where resolving below a symbol comes down to following steps from a node, it fails at the first
step that fails: the beginning with the steps before it leads somewhere, the error carries its text,
and the beginnings that go further fail with the same error. -/
theorem exists_beginning_of_descend {start : Node} {text : String} (hsymbol : a.symbol ≠ none)
    (hsteps : ∀ c : Address, c.method = a.method →
      w.resolveSymbol p s d c name = descend p start text c.subpath)
    (htext : ∀ steps, (({ a with subpath := steps } : Address).withPackage p.path).render =
      text ++ stepsText steps)
    (h : w.resolveSymbol p s d a name = .error e) :
    ∃ b : Address, b.Beginning a ∧ (∃ node, w.resolveSymbol p s d b name = .ok node) ∧
      e.partial? = some (b.withPackage p.path).render ∧
      ∀ c : Address, c.Beginning a → ¬ c.Beginning b → w.resolveSymbol p s d c name = .error e := by
  rw [hsteps a rfl] at h
  obtain ⟨done, hdone, ⟨last, hlast⟩, hpartial, hfails⟩ := exists_followed_of_descend h
  refine ⟨{ a with subpath := done }, ⟨rfl, ⟨hsymbol, rfl⟩, Or.inr ⟨rfl, hdone⟩⟩, ⟨last, ?_⟩,
    ?_, ?_⟩
  · exact (hsteps { a with subpath := done } rfl).trans hlast
  · rw [hpartial, htext done]
  · intro c hc hfar
    rcases hc.rest with hend | ⟨hsame, hbegins⟩
    · exact absurd ⟨hc.package, hc.symbol, Or.inl hend⟩ hfar
    · rw [hsteps c hsame]
      refine hfails c.subpath hbegins fun hnear => hfar ?_
      exact ⟨hc.package, hc.symbol, Or.inr ⟨hsame, hnear⟩⟩

/-- Below a symbol, resolving fails behind the symbol, or at the first step that fails: a beginning
of the address leads somewhere, the error carries its text, and the beginnings that go further fail
with the same error. -/
theorem exists_beginning_of_resolveSymbol (hsymbol : a.symbol = some name)
    (h : w.resolveSymbol p s d a name = .error e) :
    ∃ b : Address, b.Beginning a ∧ (∃ node, w.resolveSymbol p s d b name = .ok node) ∧
      e.partial? = some (b.withPackage p.path).render ∧
      ∀ c : Address, c.Beginning a → ¬ c.Beginning b → w.resolveSymbol p s d c name = .error e := by
  have hnamed : a.symbol ≠ none := by simp [hsymbol]
  cases hmethod : a.method with
  | none =>
    refine exists_beginning_of_descend hnamed
      (fun c hc => resolveSymbol_of_none (hc.trans hmethod)) (fun steps => ?_) h
    simp [Address.withPackage, Address.render, hsymbol, hmethod, stepsText, String.append_assoc]
  | some method =>
    cases hfound : w.methodOf? s d method with
    | some start =>
      refine exists_beginning_of_descend hnamed
        (fun c hc => resolveSymbol_of_found (hc.trans hmethod) hfound) (fun steps => ?_) h
      simp [Address.withPackage, Address.render, hsymbol, hmethod, stepsText, String.append_assoc]
    | none =>
      -- Only the symbol is there, so that whatever goes on with the method fails.
      rw [resolveSymbol_of_not_found hmethod hfound] at h
      cases h
      refine ⟨{ a with method := none, subpath := [] }, ⟨rfl, ⟨hnamed, rfl⟩, Or.inl ⟨rfl, rfl⟩⟩,
        ⟨.decl d, rfl⟩, ?_, ?_⟩
      · simp [ResolveError.partial?, Address.withPackage, Address.render, hsymbol,
          String.append_assoc]
      · intro c hc hfar
        rcases hc.rest with hend | ⟨hsame, -⟩
        · exact absurd ⟨hc.package, hc.symbol, Or.inl hend⟩ hfar
        · exact resolveSymbol_of_not_found (hsame.trans hmethod) hfound

end Symbols

/-- Resolving an address of a declared symbol is resolving what lies below the symbol. -/
theorem resolveIn_eq_map_resolveSymbol {name : String} (hsymbol : a.symbol = some name) {s : Symbol}
    {others : List Symbol} (hfind : w.index.find p.path name = s :: others) {d : Decl}
    (hdecl : s.decl? w.program = some d) :
    (w.resolveIn p a).2 = (w.resolveSymbol p s d a name).map fun node =>
      { path := readBack (a.withPackage p.path), node, package := p } := by
  simp only [resolveIn, hsymbol, hfind, hdecl]

/-- An error below the symbol comes from resolving what lies below a declared symbol. -/
theorem exists_symbol_of_resolveIn (h : (w.resolveIn p a).2 = .error e)
    (hbelow : e.isBelowSymbol = true) :
    ∃ name s others d, a.symbol = some name ∧ w.index.find p.path name = s :: others ∧
      s.decl? w.program = some d ∧ w.resolveSymbol p s d a name = .error e := by
  cases hsymbol : a.symbol with
  | none =>
    simp only [resolveIn, hsymbol] at h
    cases h
  | some name =>
    cases hfind : w.index.find p.path name with
    | nil =>
      simp only [resolveIn, hsymbol, hfind] at h
      cases h
      cases hbelow
    | cons s others =>
      cases hdecl : s.decl? w.program with
      | none =>
        simp only [resolveIn, hsymbol, hfind, hdecl] at h
        cases h
        cases hbelow
      | some d =>
        rw [resolveIn_eq_map_resolveSymbol hsymbol hfind hdecl] at h
        refine ⟨name, s, others, d, rfl, hfind, hdecl, ?_⟩
        cases hresolve : w.resolveSymbol p s d a name with
        | error e' =>
          rw [hresolve] at h
          cases h
          rfl
        | ok node =>
          rw [hresolve] at h
          cases h

/-- An error below the symbol carries the longest beginning that resolves: with the import path of
the package that the reading of the address lies in, its text is that of a beginning of the reading,
which resolves in the package; every beginning that goes further fails with the same error, and so
does the whole reading. -/
theorem error_carries_longest_beginning {w : Workspace} {a : Address} {e : ResolveError}
    (h : (w.resolve a).2 = .error e) (hbelow : e.isBelowSymbol = true) :
    ∃ p reading, w.reading? a = some (p, reading) ∧
      ∃ b : Address, b.Beginning reading ∧ b ≠ reading ∧
        e.partial? = some (b.withPackage p.path).render ∧
        (∃ r, (w.resolveIn p b).2 = .ok r) ∧
        ∀ c : Address, c.Beginning reading → ¬ c.Beginning b → (w.resolveIn p c).2 = .error e := by
  unfold resolve at h
  split at h
  · next p reading hreading =>
    obtain ⟨name, s, others, d, hsymbol, hfind, hdecl, hresolve⟩ :=
      exists_symbol_of_resolveIn h hbelow
    obtain ⟨b, hb, ⟨node, hnode⟩, hpartial, hfails⟩ :=
      exists_beginning_of_resolveSymbol hsymbol hresolve
    have hin : ∀ {c : Address}, c.Beginning reading → (w.resolveIn p c).2 =
        (w.resolveSymbol p s d c name).map fun node =>
          { path := readBack (c.withPackage p.path), node, package := p } := fun hc =>
      resolveIn_eq_map_resolveSymbol (hc.symbol.2.trans hsymbol) hfind hdecl
    refine ⟨p, reading, hreading, b, hb, ?_, hpartial, ⟨_, by rw [hin hb, hnode]; rfl⟩, ?_⟩
    · rintro rfl
      rw [hnode] at hresolve
      cases hresolve
    · intro c hc hfar
      rw [hin hc, hfails c hc hfar]
      rfl
  · cases h
    cases hbelow

/-- The documentation of the result of a method, behind the short path of its package. -/
def resultDocAddress : Address where
  package := "net"
  symbol := some "File"
  method := some "Close"
  subpath := [⟨.returns, some (.index 0)⟩, ⟨.doc, none⟩]

/-- Results have no documentation, so that resolving stops at the result. -/
theorem error_carries_longest_beginning_of_result :
    ((ofProgram (.ofPackages "app" [] [connPackage])).resolve resultDocAddress).2 =
        .error (.invalidCategory "app/net.File.Close/returns[0]" "return" "doc") ∧
      ∃ p reading,
        (ofProgram (.ofPackages "app" [] [connPackage])).reading? resultDocAddress =
          some (p, reading) ∧
        ∃ b : Address, b.Beginning reading ∧ b ≠ reading ∧
          some "app/net.File.Close/returns[0]" = some (b.withPackage p.path).render ∧
          (∃ r, ((ofProgram (.ofPackages "app" [] [connPackage])).resolveIn p b).2 = .ok r) ∧
          ∀ c : Address, c.Beginning reading → ¬ c.Beginning b →
            ((ofProgram (.ofPackages "app" [] [connPackage])).resolveIn p c).2 =
              .error (.invalidCategory "app/net.File.Close/returns[0]" "return" "doc") := by
  have hfails : ((ofProgram (.ofPackages "app" [] [connPackage])).resolve resultDocAddress).2 =
      .error (.invalidCategory "app/net.File.Close/returns[0]" "return" "doc") := by
    rw [Program.ofPackages_of_pairwise (by decide)]
    decide +kernel
  exact ⟨hfails, error_carries_longest_beginning hfails rfl⟩

end Workspace

end GoAddress
