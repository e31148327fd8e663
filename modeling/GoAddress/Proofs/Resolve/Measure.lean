import Mathlib.Algebra.Order.BigOperators.Group.List
import Mathlib.Algebra.Order.Group.Nat
import Mathlib.Data.Nat.Cast.Basic
import GoAddress.Proofs.Resolve.Parts
import GoAddress.Proofs.Resolve.Roots

/-!
# Heights and sizes of nodes

Steps lead to smaller nodes: away from methods each step goes down in height, and no node has more
parts than its package.
-/

namespace GoAddress

namespace Node

/-- How many steps can follow a node without going through methods. -/
def height : Node → Nat
  | .decl _ | .interfaceMethod _ => 2
  | .field _ | .embed _ | .param .. | .typeParam _ => 1
  | _ => 0

/-- No node is higher than a declaration. -/
theorem height_le_two (node : Node) : node.height ≤ 2 := by
  cases node <;> simp [height]

/-- The number of pairs of a tag. -/
def pairCount (tag : Option Tag) : Nat :=
  (tag.map (·.pairs.length)).getD 0

/-- The number of parts of a node that steps can select, and the node itself. -/
def partCount : Node → Nat
  | .decl d =>
    match d.shape with
    | .func f => 1 + f.params.length + f.results.length + f.typeParams.length
    | .type t =>
      1 + (t.fields.map fun f => 1 + pairCount f.tag).sum +
        (t.embeds.map fun e => 1 + pairCount e.tag).sum +
        (t.interfaceMethods.map fun m => 1 + m.params.length + m.results.length).sum +
        t.typeParams.length
    | .value _ => 1
  | .interfaceMethod m => 1 + m.params.length + m.results.length
  | .field f => 1 + pairCount f.tag
  | .embed e => 1 + pairCount e.tag
  | _ => 1

/-- Every node counts itself. -/
theorem one_le_partCount (node : Node) : 1 ≤ node.partCount := by
  unfold partCount
  split
  · split <;> omega
  all_goals omega

/-- A member on its own is lower than its node and has no parts to select. -/
theorem height_of_members_single {p : Package} {node part : Node} {category : Category}
    (h : node.members p category = .single (some part)) :
    part.height < node.height ∧ part.partCount = 1 := by
  unfold members declMembers at h
  split at h
  · split at h
    all_goals simp only [Members.single.injEq, Option.map_eq_some_iff, reduceCtorEq] at h
    all_goals obtain ⟨x, -, rfl⟩ := h
    all_goals simp [height, partCount]
  all_goals simp only [Members.single.injEq, Option.map_eq_some_iff, reduceCtorEq] at h
  all_goals obtain ⟨x, -, rfl⟩ := h
  all_goals simp [height, partCount]

/-- Parts whose sizes add up to no more than that of a node are no more and none larger. -/
theorem length_le_of_sum_le {parts : List (Option String × Node)} {bound : Nat}
    (h : (parts.map (·.2.partCount)).sum ≤ bound) :
    parts.length ≤ bound ∧ ∀ x ∈ parts, x.2.partCount ≤ bound := by
  have hlength := List.length_le_sum_of_one_le (parts.map (·.2.partCount)) fun n hn => by
    obtain ⟨x, -, rfl⟩ := List.mem_map.mp hn
    exact one_le_partCount x.2
  rw [List.length_map] at hlength
  refine ⟨hlength.trans h, fun x hx => ?_⟩
  exact (List.le_sum_of_mem (List.mem_map.mpr ⟨x, hx, rfl⟩)).trans h

/-- Members to select from, other than methods, are lower than their node, and their sizes add up
to no more than that of the node. -/
theorem height_of_members_list {p : Package} {node : Node} {category : Category}
    {parts : List (Option String × Node)} (h : node.members p category = .list parts)
    (hmethods : category ≠ .methods) :
    (∀ x ∈ parts, x.2.height < node.height) ∧
      (parts.map (·.2.partCount)).sum ≤ node.partCount := by
  unfold members declMembers at h
  split at h
  · next d =>
    split at h
    case h_8 => exact absurd rfl hmethods
    all_goals cases h
    all_goals
      next hshape =>
        simp [paramParts, typeParamParts, height, partCount, hshape, Function.comp_def]
        try omega
  all_goals cases h
  all_goals
    simp [paramParts, height, partCount, Function.comp_def]
    try omega

/-- Where a step without selector leads is lower. -/
theorem height_of_whole? {p : Package} {node part : Node} {category : Category}
    (h : node.whole? p category = some part) :
    part.height < node.height ∧ part.partCount = 1 := by
  unfold whole? at h
  split at h
  · obtain ⟨t, ht, rfl⟩ := Option.map_eq_some_iff.mp h
    cases node <;> simp_all [tag?, height, partCount]
  · cases hmembers : node.members p category with
    | list parts => simp [hmembers] at h
    | single single =>
      simp only [hmembers] at h
      subst h
      exact height_of_members_single hmembers

/-- Nothing lies below the pairs of a tag. -/
theorem height_of_pairParts (t : Tag) :
    (∀ x ∈ pairParts t, x.2.height = 0) ∧
      ((pairParts t).map (·.2.partCount)).sum = t.pairs.length := by
  constructor
  · intro x hx
    obtain ⟨pair, -, rfl⟩ := List.mem_map.mp hx
    rfl
  · simp [pairParts, partCount, Function.comp_def]

/-- Only fields and embedded members have tags, and they count the pairs. -/
theorem pairs_le_of_tag? {node : Node} {t : Tag} (h : node.tag? = some t) :
    0 < node.height ∧ t.pairs.length ≤ node.partCount := by
  cases node with
  | field f =>
    have htag : f.tag = some t := h
    simp [height, partCount, pairCount, htag]
  | embed e =>
    have htag : e.tag = some t := h
    simp [height, partCount, pairCount, htag]
  | _ => cases h

/-- Where a step with a selector leads is lower, unless it leads to a method. -/
theorem height_of_choices (p : Package) (node : Node) {category : Category}
    (hmethods : category ≠ .methods) :
    (∀ x ∈ node.choices p category, x.2.height < node.height) ∧
      ((node.choices p category).map (·.2.partCount)).sum ≤ node.partCount := by
  unfold choices
  split
  · cases htag : node.tag? with
    | none => simp
    | some t =>
      obtain ⟨hpositive, hpairs⟩ := pairs_le_of_tag? htag
      obtain ⟨hheight, hsum⟩ := height_of_pairParts t
      rw [Option.map_some, Option.getD_some, hsum]
      exact ⟨fun x hx => by rwa [hheight x hx], hpairs⟩
  · cases hmembers : node.members p category with
    | list parts => exact height_of_members_list hmembers hmethods
    | single single => simp

/-- Away from methods, steps lead down. -/
theorem height_lt_of_mem_children {p : Package} {node part : Node} {s : Segment}
    (h : (s, part) ∈ node.children p) (hmethods : s.category ≠ .methods) :
    part.height < node.height := by
  rcases (mem_children.mp h).2 with ⟨-, hwhole⟩ | ⟨i, name, hpart, -⟩
  · exact (height_of_whole? hwhole).1
  · exact (height_of_choices p node hmethods).1 _ (List.mem_of_getElem? hpart)

/-- The methods of a declared type to select from: those that it asks for, then those declared on
it. -/
theorem choices_methods (p : Package) {d : Decl} {t : TypeShape} (h : d.type? = some t) :
    (Node.decl d).choices p .methods =
      d.elements.map (fun m => (some m.name, .interfaceMethod m)) ++
        (p.methodsOf d.name).map fun m => (some m.name, .decl m) := by
  have hshape : d.shape = .type t := by
    unfold Decl.type? at h
    split at h
    · next t' ht =>
      cases h
      exact ht
    · cases h
  simp [choices, members, declMembers, methodParts, hshape, Decl.elements, h]

/-- Only declared types have methods to select from. -/
theorem exists_type?_of_choices_methods {p : Package} {node : Node}
    (h : node.choices p .methods ≠ []) : ∃ d t, node = .decl d ∧ d.type? = some t := by
  cases node with
  | decl d =>
    cases hshape : d.shape with
    | type t => exact ⟨d, t, rfl, by simp [Decl.type?, hshape]⟩
    | func f => simp [choices, members, declMembers, hshape] at h
    | value v => simp [choices, members, declMembers, hshape] at h
  | _ => simp [choices, members] at h

/-- No step without selector leads to methods. -/
theorem whole?_methods (p : Package) (node : Node) : node.whole? p .methods = none := by
  cases node with
  | decl d => cases hshape : d.shape <;> simp [whole?, members, declMembers, hshape]
  | _ => simp [whole?, members]

/-- Steps to methods lead from declared types to the methods that these ask for and to those declared
on them. -/
theorem exists_method_of_mem_children {p : Package} {node part : Node} {s : Segment}
    (h : (s, part) ∈ node.children p) (hmethods : s.category = .methods) :
    ∃ d t, node = .decl d ∧ d.type? = some t ∧
      ((∃ m ∈ d.elements, part = .interfaceMethod m) ∨
        ∃ m ∈ p.methodsOf d.name, part = .decl m) := by
  rcases (mem_children.mp h).2 with ⟨-, hwhole⟩ | ⟨i, name, hpart, -⟩
  · rw [hmethods, whole?_methods] at hwhole
    cases hwhole
  · rw [hmethods] at hpart
    have hmem := List.mem_of_getElem? hpart
    obtain ⟨d, t, rfl, ht⟩ := exists_type?_of_choices_methods (List.ne_nil_of_mem hmem)
    refine ⟨d, t, rfl, ht, ?_⟩
    rw [choices_methods p ht, List.mem_append, List.mem_map, List.mem_map] at hmem
    rcases hmem with ⟨m, hm, heq⟩ | ⟨m, hm, heq⟩ <;> cases heq
    · exact Or.inl ⟨m, hm, rfl⟩
    · exact Or.inr ⟨m, hm, rfl⟩

end Node

/-- The number of parts of all declarations of a package that steps can select, and the
declarations themselves. -/
def Package.partCount (p : Package) : Nat :=
  (p.decls.map fun d => (Node.decl d).partCount).sum

namespace Node

/-- A node that steps can reach in a package: no larger than the package, and one of its
declarations if it is a declaration. -/
structure Within (p : Package) (node : Node) : Prop where
  /-- The node is no larger than the package. -/
  count : node.partCount ≤ p.partCount
  /-- Declarations are those of the package. -/
  decl : ∀ d, node = .decl d → d ∈ p.decls

/-- The declarations of a package lie within it. -/
theorem Within.of_mem {p : Package} {d : Decl} (h : d ∈ p.decls) : Within p (.decl d) where
  count := List.le_sum_of_mem (List.mem_map.mpr ⟨d, h, rfl⟩)
  decl d' heq := by
    cases heq
    exact h

/-- The elements of a declaration are among its parts. -/
theorem sum_elements_lt_partCount (d : Decl) :
    (d.elements.map fun m => (Node.interfaceMethod m).partCount).sum < (Node.decl d).partCount := by
  unfold Decl.elements Decl.type?
  cases hshape : d.shape with
  | type t =>
    simp only [partCount, hshape, Option.map_some, Option.getD_some]
    omega
  | func f => simp [partCount, hshape]
  | value v => simp [partCount, hshape]

/-- The methods that a declaration of a package asks for lie within the package. -/
theorem Within.of_mem_elements {p : Package} {d : Decl} (h : d ∈ p.decls) {m : InterfaceMethod}
    (hm : m ∈ d.elements) : Within p (.interfaceMethod m) where
  count := by
    have hle : (Node.interfaceMethod m).partCount ≤
        (d.elements.map fun m => (Node.interfaceMethod m).partCount).sum :=
      List.le_sum_of_mem (List.mem_map.mpr ⟨m, hm, rfl⟩)
    have hlt := sum_elements_lt_partCount d
    have hcount := (Within.of_mem h).count
    omega
  decl d' heq := by cases heq

/-- Steps do not lead out of a package. -/
theorem Within.child {p : Package} {node part : Node} {s : Segment} (h : Within p node)
    (hs : (s, part) ∈ node.children p) : Within p part := by
  by_cases hmethods : s.category = .methods
  · obtain ⟨d, t, rfl, -, ⟨m, hm, rfl⟩ | ⟨m, hm, rfl⟩⟩ := exists_method_of_mem_children hs hmethods
    · exact Within.of_mem_elements (h.decl d rfl) hm
    · exact Within.of_mem (Package.mem_methodsOf.mp hm).1
  · have hcount : part.partCount ≤ node.partCount := by
      rcases (mem_children.mp hs).2 with ⟨-, hwhole⟩ | ⟨i, name, hpart, -⟩
      · rw [(height_of_whole? hwhole).2]
        exact one_le_partCount node
      · exact (length_le_of_sum_le (height_of_choices p node hmethods).2).2 _
          (List.mem_of_getElem? hpart)
    refine ⟨hcount.trans h.count, fun d heq => ?_⟩
    -- Declarations stand at the top, so that only methods lead to them.
    have hlt := height_lt_of_mem_children hs hmethods
    subst heq
    cases node <;> simp [height] at hlt

/-- One member of a list and all the others. -/
theorem length_add_le_sum {α : Type} {size : α → Nat} (hsize : ∀ x, 1 ≤ size x) {xs : List α}
    {x : α} (hx : x ∈ xs) : xs.length + size x ≤ (xs.map size).sum + 1 := by
  induction xs with
  | nil => exact (List.not_mem_nil hx).elim
  | cons y xs ih =>
    have hlength := List.length_le_sum_of_one_le (xs.map size) fun n hn => by
      obtain ⟨z, -, rfl⟩ := List.mem_map.mp hn
      exact hsize z
    rw [List.length_map] at hlength
    rw [List.length_cons, List.map_cons, List.sum_cons]
    rcases List.mem_cons.mp hx with rfl | hmem
    · omega
    · have hy := hsize y
      have hrest := ih hmem
      omega

/-- There are no more parts to select from than the package has. -/
theorem Within.length_choices {p : Package} {node : Node} (h : Within p node)
    (category : Category) : (node.choices p category).length ≤ p.partCount := by
  by_cases hmethods : category = .methods
  · subst hmethods
    by_cases hnil : node.choices p .methods = []
    · simp [hnil]
    · obtain ⟨d, t, rfl, ht⟩ := exists_type?_of_choices_methods hnil
      have helements := List.length_le_sum_of_one_le
        (d.elements.map fun m => (Node.interfaceMethod m).partCount) fun n hn => by
          obtain ⟨m, -, rfl⟩ := List.mem_map.mp hn
          exact one_le_partCount _
      rw [List.length_map] at helements
      have hlt := sum_elements_lt_partCount d
      have hmethods : (p.methodsOf d.name).length ≤ p.decls.length := List.length_filter_le ..
      have hsum : p.decls.length + (Node.decl d).partCount ≤ p.partCount + 1 :=
        length_add_le_sum (fun d => one_le_partCount (.decl d)) (h.decl d rfl)
      rw [choices_methods p ht, List.length_append, List.length_map, List.length_map]
      omega
  · exact (length_le_of_sum_le (height_of_choices p node hmethods).2).1.trans h.count

end Node

end GoAddress
