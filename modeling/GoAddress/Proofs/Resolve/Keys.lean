import GoAddress.Proofs.Resolve.Canonical

/-!
# What a canonical address keeps

The text of an address begins with a key that a package answers to, its import path or its short
path. Main statement: the canonical address has the import path of the package in the place of the
key, and keeps what stands behind it; nothing stands there exactly if the package itself is meant.
-/

namespace GoAddress

namespace Node

variable {p q : Package} {node part : Node}

/-- No package is a member on its own. -/
theorem ne_package_of_members_single {category : Category}
    (h : node.members p category = .single (some part)) : part ≠ .package q := by
  unfold members declMembers at h
  split at h
  · split at h
    all_goals simp only [Members.single.injEq, Option.map_eq_some_iff, reduceCtorEq] at h
    all_goals obtain ⟨x, -, rfl⟩ := h
    all_goals simp
  all_goals simp only [Members.single.injEq, Option.map_eq_some_iff, reduceCtorEq] at h
  all_goals obtain ⟨x, -, rfl⟩ := h
  all_goals simp

/-- No package is among the members to select from. -/
theorem ne_package_of_members_list {category : Category} {parts : List (Option String × Node)}
    (h : node.members p category = .list parts) : ∀ x ∈ parts, x.2 ≠ .package q := by
  unfold members declMembers at h
  split at h
  · split at h
    all_goals cases h
    all_goals simp [paramParts, typeParamParts, methodParts, or_imp, forall_and]
  all_goals cases h
  all_goals simp [paramParts]

/-- No step leads to a package. -/
theorem ne_package_of_step? {s : Segment} (h : node.step? p s = some part) : part ≠ .package q := by
  obtain ⟨t, -, ht⟩ := exists_mem_children_of_step? h
  rcases (mem_children.mp ht).2 with ⟨-, hwhole⟩ | ⟨i, name, hpart, -⟩
  · unfold whole? at hwhole
    split at hwhole
    · obtain ⟨tag, -, rfl⟩ := Option.map_eq_some_iff.mp hwhole
      simp
    · split at hwhole
      · next single hmembers => exact ne_package_of_members_single (hwhole ▸ hmembers)
      · cases hwhole
  · have hmem := List.mem_of_getElem? hpart
    unfold choices at hmem
    split at hmem
    · cases htag : node.tag? with
      | none => simp [htag] at hmem
      | some tag =>
        rw [htag, Option.map_some, Option.getD_some, pairParts, List.mem_map] at hmem
        obtain ⟨pair, -, heq⟩ := hmem
        cases heq
        simp
    · split at hmem
      · exact (List.not_mem_nil hmem).elim
      · next parts hmembers => exact ne_package_of_members_list hmembers _ hmem

/-- Steps from a part of a package lead to parts of it. -/
theorem ne_package_of_follow? {steps : List Segment} (hnode : node ≠ .package q)
    (h : follow? p node steps = some part) : part ≠ .package q := by
  induction steps generalizing node with
  | nil =>
    cases h
    exact hnode
  | cons s steps ih =>
    obtain ⟨next, hnext, hrest⟩ := Option.bind_eq_some_iff.mp h
    exact ih (ne_package_of_step? hnext) hrest

end Node

namespace Address

/-- The text of an address behind its package. -/
def behind (a : Address) : String :=
  (a.symbol.map ("." ++ ·)).getD "" ++ (a.method.map ("." ++ ·)).getD "" ++
    String.join (a.subpath.map ("/" ++ ·.text))

/-- An address is written as its package and what stands behind it. -/
theorem render_eq_append_behind (a : Address) : a.render = a.package ++ a.behind := by
  simp only [render, behind, String.append_assoc]

/-- Nothing stands behind the package exactly if there is no symbol. -/
theorem Legible.behind_eq_empty_iff {a : Address} (h : a.Legible) :
    a.behind = "" ↔ a.symbol = none := by
  cases hsymbol : a.symbol with
  | none =>
    obtain ⟨hmethod, hsubpath⟩ := h.alone hsymbol
    simp [behind, hsymbol, hmethod, hsubpath]
  | some name => simp [behind, hsymbol]

end Address

namespace Workspace

variable {w : Workspace} {p : Package} {a : Address} {r : Resolution}

/-- The methods of a symbol are no packages. -/
theorem ne_package_of_methodOf? {s : Symbol} {d : Decl} {method : String} {node : Node}
    {q : Package} (h : w.methodOf? s d method = some node) : node ≠ .package q := by
  unfold methodOf? at h
  split at h
  · split at h
    · cases h
      simp
    · obtain ⟨m, -, rfl⟩ := Option.map_eq_some_iff.mp h
      simp
  · cases h

/-- Below a symbol there are no packages. -/
theorem ne_package_of_resolveSymbol {s : Symbol} {d : Decl} {name : String} {node : Node}
    {q : Package} (h : w.resolveSymbol p s d a name = .ok node) : node ≠ .package q := by
  unfold resolveSymbol at h
  dsimp only at h
  split at h
  · exact Node.ne_package_of_follow? (by simp) (Node.descend_eq_ok_iff.mp h)
  · split at h
    · cases h
    · next start hstart =>
      exact Node.ne_package_of_follow? (ne_package_of_methodOf? hstart)
        (Node.descend_eq_ok_iff.mp h)

/-- An address resolves to the package exactly if it has no symbol. -/
theorem node_eq_package_iff_of_resolveIn (h : (w.resolveIn p a).2 = .ok r) :
    r.node = .package p ↔ a.symbol = none := by
  unfold resolveIn at h
  split at h
  · next hsymbol =>
    cases h
    simp [hsymbol]
  · next name hsymbol =>
    split at h
    · cases h
    · dsimp only at h
      split at h
      · cases h
      · dsimp only [Except.map] at h
        split at h
        · cases h
        · next node hnode =>
          cases h
          simp [hsymbol, ne_package_of_resolveSymbol hnode]

/-- A text that is no lone name resolves as the address that it reads as. -/
theorem exists_parse_of_resolveText {text : String}
    (hname : ¬ (isIdentifier (Text.trimBlanks text) = true ∧
      w.program.package? (Text.trimBlanks text) = none))
    (h : (w.resolveText text).2 = .ok r) :
    ∃ b, Address.parse (Text.trimBlanks text) = .ok b ∧ (w.resolve b).2 = .ok r := by
  have hlone : ¬ (isIdentifier (Text.trimBlanks text) &&
      (w.program.package? (Text.trimBlanks text)).isNone) = true := by
    simpa using hname
  simp only [resolveText, if_neg hlone] at h
  split at h
  · next b hparse => exact ⟨b, hparse, h⟩
  · cases h

/-- Canonical addresses keep what stands behind the package: a text that is no lone name and
resolves is a key that the package of the answer answers to, and a rest; the canonical address is
the import path of the package with the same rest. The rest is empty exactly if the answer is the
package. -/
theorem address_keeps_text_behind_key {w : Workspace} {text : String} {r : Resolution}
    (hname : ¬ (isIdentifier (Text.trimBlanks text) = true ∧
      w.program.package? (Text.trimBlanks text) = none))
    (h : (w.resolveText text).2 = .ok r) :
    ∃ key rest, Text.trimBlanks text = key ++ rest ∧ w.program.package? key = some r.package ∧
      r.address = r.package.path ++ rest ∧ (rest = "" ↔ r.node = .package r.package) := by
  obtain ⟨b, hparse, hb⟩ := exists_parse_of_resolveText hname h
  obtain ⟨hwell, htext⟩ := Address.parse_eq_ok_iff.mp hparse
  obtain ⟨p, a, ha, hloaded, hresolve⟩ := exists_reading_of_resolve hb
  rw [hresolve] at hb
  obtain ⟨hpath, rfl⟩ := eq_of_resolveIn hb
  obtain ⟨hlegible, -, hrender⟩ := hwell.legible_of_mem_readings ha
  refine ⟨a.package, a.behind, ?_, hloaded, ?_, ?_⟩
  · rw [← htext, ← hrender, a.render_eq_append_behind]
  · rw [Resolution.address, hpath, render_readBack, Address.render_eq_append_behind]
    rfl
  · rw [hlegible.behind_eq_empty_iff, node_eq_package_iff_of_resolveIn hb]

/-- A type of a package with a dotted import path: the key takes in the version, which is read as a
symbol at first. -/
theorem address_keeps_text_behind_key_of_dotted_module :
    ∃ r, (shopWorkspace.resolveText " gopkg.in/yaml.v3.Node ").2 = .ok r ∧
      r.address = "gopkg.in/yaml.v3.Node" ∧
      ∃ key rest, Text.trimBlanks " gopkg.in/yaml.v3.Node " = key ++ rest ∧
        shopWorkspace.program.package? key = some r.package ∧
        r.address = r.package.path ++ rest ∧ (rest = "" ↔ r.node = .package r.package) := by
  have hpaths : ([yamlPackage, storePackage].map (·.path)).Nodup := by decide
  have hanswer : (shopWorkspace.resolveText " gopkg.in/yaml.v3.Node ").2.toOption.map (·.address) =
      some "gopkg.in/yaml.v3.Node" := by
    rw [shopWorkspace, ← Program.ofPackages_eq_of_perm hpaths (List.Perm.swap _ _ _),
      Program.ofPackages_of_pairwise (by decide)]
    decide +kernel
  have hname : ¬ (isIdentifier (Text.trimBlanks " gopkg.in/yaml.v3.Node ") = true ∧
      shopWorkspace.program.package? (Text.trimBlanks " gopkg.in/yaml.v3.Node ") = none) := by
    have hdotted : isIdentifier (Text.trimBlanks " gopkg.in/yaml.v3.Node ") = false := by
      decide +kernel
    simp [hdotted]
  cases hresolve : (shopWorkspace.resolveText " gopkg.in/yaml.v3.Node ").2 with
  | error e =>
    rw [hresolve] at hanswer
    cases hanswer
  | ok r =>
    rw [hresolve] at hanswer
    exact ⟨r, rfl, Option.some.inj hanswer, address_keeps_text_behind_key hname hresolve⟩

end Workspace

end GoAddress
