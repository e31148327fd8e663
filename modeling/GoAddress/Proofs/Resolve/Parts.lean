import Mathlib.Data.List.Basic
import Mathlib.Data.List.Nodup
import GoAddress.Proofs.Address.Segment
import GoAddress.Resolve.Basic

/-!
# Parts of nodes

A category of a node has at most one part that is reached without a selector, and a row of parts to
select from. `step?` follows a step in these terms; it is what `child` does when errors are left
aside. The steps that are listed are distinct, and each one is followed to the part that it is
listed with.
-/

namespace GoAddress.Node

/-- The part of a category that a step without selector leads to. -/
def whole? (p : Package) (node : Node) (category : Category) : Option Node :=
  if category = .tag then node.tag?.map (.tag · none)
  else match node.members p category with
    | .single part => part
    | .list _ => none

/-- The parts of a category that a selector picks from. -/
def choices (p : Package) (node : Node) (category : Category) : List (Option String × Node) :=
  if category = .tag then (node.tag?.map pairParts).getD []
  else match node.members p category with
    | .single _ => []
    | .list parts => parts

/-- Where a step from a node of a package leads. -/
def step? (p : Package) (node : Node) (s : Segment) : Option Node :=
  if s.category ∈ node.categories.map Prod.fst then
    match s.selector with
    | none => node.whole? p s.category
    | some selector => pick? (node.choices p s.category) selector
  else none

/-- Where steps from a node of a package lead. -/
def follow? (p : Package) : Node → List Segment → Option Node
  | node, [] => some node
  | node, s :: rest => (node.step? p s).bind (follow? p · rest)

/-- Whether the members of a category are what its rule makes of them: a row to select from, at
most one, or a tag. -/
def suits (category : Category) : SelectorRule → Members → Bool
  | .required, .list _ => category != .tag
  | .forbidden, .single _ => category != .tag
  | .optional, _ => category == .tag
  | _, _ => false

/-- The members of every category are what its rule makes of them. -/
theorem categories_suit (p : Package) (node : Node) :
    node.categories.all (fun entry => suits entry.1 entry.2 (node.members p entry.1)) = true := by
  cases node with
  | decl d =>
    obtain ⟨name, kind, span, doc, shape, references⟩ := d
    cases shape with
    | func f => cases kind <;> rfl
    | type t =>
      obtain ⟨typeParams, underlying, isAlias, members⟩ := t
      cases members <;> rfl
    | value v => rfl
  | _ => rfl

/-- No category of a node stands twice. -/
theorem nodup_categories (node : Node) : (node.categories.map Prod.fst).Nodup := by
  cases node with
  | decl d =>
    obtain ⟨name, kind, span, doc, shape, references⟩ := d
    cases shape with
    | func f => cases kind <;> exact of_decide_eq_true rfl
    | type t =>
      obtain ⟨typeParams, underlying, isAlias, members⟩ := t
      cases members <;> exact of_decide_eq_true rfl
    | value v => exact of_decide_eq_true rfl
  | _ => exact of_decide_eq_true rfl

/-- A selector picks a part exactly if the choice from the row gives it. -/
theorem choose_list_eq_ok_iff {parts : List (Option String × Node)} {s : Segment}
    {selector : Selector} (hs : s.selector = some selector) {resolved : String} {part : Node} :
    choose (.list parts) s resolved = .ok part ↔ pick? parts selector = some part := by
  simp only [choose, hs]
  cases pick? parts selector with
  | none => exact ⟨fun h => (nomatch h), fun h => (nomatch h)⟩
  | some found =>
    simp only [Except.ok.injEq, Option.some.injEq]

/-- Choosing from at most one part takes no heed of the selector. -/
theorem choose_single_eq_ok_iff {part : Option Node} {s : Segment} {resolved : String}
    {found : Node} : choose (.single part) s resolved = .ok found ↔ part = some found := by
  cases part with
  | none => exact ⟨fun h => (nomatch h), fun h => (nomatch h)⟩
  | some part => simp only [choose, Except.ok.injEq, Option.some.injEq]

/-- A step succeeds exactly if it leads somewhere; the address of the node does not matter. -/
theorem child_eq_ok_iff {p : Package} {node : Node} {s : Segment} {resolved : String}
    {part : Node} : node.child p s resolved = .ok part ↔ node.step? p s = some part := by
  unfold child step?
  cases hfind : node.categories.find? (·.1 == s.category) with
  | none =>
    have hnot : s.category ∉ node.categories.map Prod.fst := by
      intro hmem
      obtain ⟨entry, hentry, heq⟩ := List.mem_map.mp hmem
      exact List.find?_eq_none.mp hfind entry hentry (beq_iff_eq.mpr heq)
    rw [if_neg hnot]
    exact ⟨fun h => (nomatch h), fun h => (nomatch h)⟩
  | some entry =>
    obtain ⟨category, rule⟩ := entry
    have hmem := List.mem_of_find?_eq_some hfind
    have hcategory : category = s.category := by simpa using List.find?_some hfind
    subst hcategory
    have hsuits := List.all_eq_true.mp (categories_suit p node) _ hmem
    rw [if_pos (List.mem_map.mpr ⟨_, hmem, rfl⟩)]
    cases hselector : s.selector with
    | none =>
      cases rule with
      | required =>
        cases hmembers : node.members p s.category <;>
          simp_all [suits, checkSelector, whole?]
      | forbidden =>
        cases hmembers : node.members p s.category with
        | list parts => simp [suits, hmembers] at hsuits
        | single single =>
          have htag : s.category ≠ .tag := by simpa [suits, hmembers] using hsuits
          simp only [checkSelector, hselector, if_neg htag, whole?, hmembers,
            choose_single_eq_ok_iff]
      | optional =>
        have htag : s.category = .tag := by simpa [suits] using hsuits
        simp only [checkSelector, hselector, if_pos htag, whole?, chooseTag]
        cases node.tag? <;> simp
    | some selector =>
      cases rule with
      | required =>
        cases hmembers : node.members p s.category with
        | single single => simp [suits, hmembers] at hsuits
        | list parts =>
          have htag : s.category ≠ .tag := by simpa [suits, hmembers] using hsuits
          simp only [checkSelector, hselector, if_neg htag, choices, hmembers,
            choose_list_eq_ok_iff hselector]
      | forbidden =>
        cases hmembers : node.members p s.category <;>
          cases selector <;> simp_all [suits, checkSelector, choices, pick?]
      | optional =>
        have htag : s.category = .tag := by simpa [suits] using hsuits
        simp only [checkSelector, hselector, if_pos htag, choices, chooseTag]
        cases node.tag? with
        | none => cases selector <;> simp [pick?]
        | some t => exact choose_list_eq_ok_iff hselector

/-- Following steps with errors and without them comes to the same node. -/
theorem descend_eq_ok_iff {p : Package} {node : Node} {resolved : String} {steps : List Segment}
    {last : Node} :
    Workspace.descend p node resolved steps = .ok last ↔ follow? p node steps = some last := by
  induction steps generalizing node resolved with
  | nil => simp only [Workspace.descend, follow?, Except.ok.injEq, Option.some.injEq]
  | cons s steps ih =>
    rw [Workspace.descend, follow?]
    cases hchild : node.child p s resolved with
    | error e =>
      have hstep : node.step? p s = none := by
        rw [Option.eq_none_iff_forall_ne_some]
        intro part hpart
        rw [child_eq_ok_iff.mpr hpart] at hchild
        cases hchild
      rw [hstep]
      exact ⟨fun h => (nomatch h), fun h => (nomatch h)⟩
    | ok next =>
      rw [child_eq_ok_iff.mp hchild, Option.bind_some]
      exact ih

/-- What stands once in a list stands at one position. -/
theorem eq_of_count_eq_one {names : List (Option String)} {name : Option String}
    (hcount : names.count name = 1) {i j : Nat} (hi : names[i]? = some name)
    (hj : names[j]? = some name) : i = j := by
  induction names generalizing i j with
  | nil => simp at hi
  | cons other names ih =>
    by_cases hother : other = name
    · have hnot : name ∉ names := by
        rw [List.count_cons, hother, beq_self_eq_true, if_pos rfl] at hcount
        exact List.count_eq_zero.mp (by omega)
      have hzero : ∀ {k : Nat}, (other :: names)[k]? = some name → k = 0 := by
        intro k hk
        cases k with
        | zero => rfl
        | succ k =>
          rw [List.getElem?_cons_succ] at hk
          exact absurd (List.mem_of_getElem? hk) hnot
      rw [hzero hi, hzero hj]
    · rw [List.count_cons_of_ne hother] at hcount
      cases i with
      | zero => exact absurd (Option.some.inj hi) hother
      | succ i =>
        cases j with
        | zero => exact absurd (Option.some.inj hj) hother
        | succ j => rw [ih hcount hi hj]

/-- The step to a part is by a name that no other part has, or by position. -/
theorem stepTo_cases (category : Category) (names : List (Option String)) (i : Nat) :
    (∃ own, names[i]? = some (some own) ∧ isIdentifier own = true ∧
      names.count (some own) = 1 ∧
      stepTo category names i = { category, selector := some (.name own) }) ∨
    stepTo category names i = { category, selector := some (.index i) } := by
  unfold stepTo
  cases hown : (names[i]?).join with
  | none => exact Or.inr rfl
  | some own =>
    by_cases htest : (own != "_" && isIdentifier own && names.count (some own) == 1) = true
    · have hfacts := htest
      simp only [Bool.and_eq_true, beq_iff_eq] at hfacts
      refine Or.inl ⟨own, Option.join_eq_some_iff.mp hown, hfacts.1.2, hfacts.2, ?_⟩
      exact if_pos htest
    · exact Or.inr (if_neg htest)

/-- The step to a part has its category. -/
theorem category_stepTo (category : Category) (names : List (Option String)) (i : Nat) :
    (stepTo category names i).category = category := by
  rcases stepTo_cases category names i with ⟨own, -, -, -, h⟩ | h <;> rw [h]

/-- The step to a part always has a selector, and the selector picks the part. -/
theorem pick?_stepTo (category : Category) {parts : List (Option String × Node)} {i : Nat}
    {name : Option String} {part : Node} (h : parts[i]? = some (name, part)) :
    ∃ selector, (stepTo category (parts.map Prod.fst) i).selector = some selector ∧
      pick? parts selector = some part := by
  rcases stepTo_cases category (parts.map Prod.fst) i with ⟨own, hown, -, hcount, hstep⟩ | hstep
  · refine ⟨.name own, by rw [hstep], ?_⟩
    -- Whatever is found by the name stands at the position of the part.
    rw [List.getElem?_map, h, Option.map_some, Option.some.injEq] at hown
    dsimp only at hown
    subst hown
    have hmem : (some own, part) ∈ parts := List.mem_of_getElem? h
    have hsome : (parts.find? (·.1 == some own)).isSome = true :=
      List.find?_isSome.mpr ⟨_, hmem, beq_self_eq_true (some own)⟩
    obtain ⟨found, hfound⟩ := Option.isSome_iff_exists.mp hsome
    obtain ⟨j, hj⟩ := List.mem_iff_getElem?.mp (List.mem_of_find?_eq_some hfound)
    have hname : found.1 = some own := by simpa using List.find?_some hfound
    have heq : j = i := eq_of_count_eq_one hcount
      (by rw [List.getElem?_map, hj, Option.map_some, hname])
      (by rw [List.getElem?_map, h, Option.map_some])
    rw [heq, h] at hj
    simp only [pick?, hfound, Option.map_some, ← Option.some.inj hj]
  · refine ⟨.index i, by rw [hstep], ?_⟩
    simp only [pick?, h, Option.map_some]

/-- Different positions have different steps. -/
theorem stepTo_injective {category : Category} {names : List (Option String)} {i j : Nat}
    (h : stepTo category names i = stepTo category names j) : i = j := by
  rcases stepTo_cases category names i with ⟨own, hi, -, hcount, hown⟩ | hown <;>
    rcases stepTo_cases category names j with ⟨other, hj, -, -, hother⟩ | hother <;>
    rw [hown, hother, Segment.mk.injEq, Option.some.injEq] at h
  · have heq : own = other := Selector.name.inj h.2
    subst heq
    exact eq_of_count_eq_one hcount hi hj
  · cases h.2
  · cases h.2
  · exact Selector.index.inj h.2

/-- The listed steps of a category are the one without selector and those to the parts of the
row. -/
theorem childrenIn_eq (p : Package) (node : Node) (category : Category) :
    node.childrenIn p category =
      ((node.whole? p category).map (({ category : Segment }, ·))).toList ++
        stepsTo category (node.choices p category) := by
  unfold childrenIn whole? choices
  split
  · cases node.tag? <;> rfl
  · cases node.members p category with
    | list parts => rfl
    | single part => cases part <;> rfl

/-- The steps to the parts of a row. -/
theorem mem_stepsTo {category : Category} {parts : List (Option String × Node)} {s : Segment}
    {part : Node} :
    (s, part) ∈ stepsTo category parts ↔
      ∃ i name, parts[i]? = some (name, part) ∧ s = stepTo category (parts.map Prod.fst) i := by
  unfold stepsTo
  rw [List.mem_map]
  constructor
  · rintro ⟨⟨⟨name, found⟩, i⟩, hmem, heq⟩
    cases heq
    exact ⟨i, name, List.mem_zipIdx_iff_getElem?.mp hmem, rfl⟩
  · rintro ⟨i, name, hpart, rfl⟩
    exact ⟨((name, part), i), List.mem_zipIdx_iff_getElem?.mpr hpart, rfl⟩

/-- The listed steps of a node. -/
theorem mem_children {p : Package} {node : Node} {s : Segment} {part : Node} :
    (s, part) ∈ node.children p ↔ s.category ∈ node.categories.map Prod.fst ∧
      ((s.selector = none ∧ node.whole? p s.category = some part) ∨
        ∃ i name, (node.choices p s.category)[i]? = some (name, part) ∧
          s = stepTo s.category ((node.choices p s.category).map Prod.fst) i) := by
  unfold children
  rw [List.mem_flatMap]
  constructor
  · rintro ⟨⟨category, rule⟩, hmem, hs⟩
    have hcategory : category ∈ node.categories.map Prod.fst := List.mem_map.mpr ⟨_, hmem, rfl⟩
    dsimp only at hs
    rw [childrenIn_eq, List.mem_append, Option.mem_toList, Option.map_eq_some_iff] at hs
    rcases hs with ⟨found, hfound, heq⟩ | hs
    · cases heq
      exact ⟨hcategory, Or.inl ⟨rfl, hfound⟩⟩
    · obtain ⟨i, name, hpart, rfl⟩ := mem_stepsTo.mp hs
      rw [category_stepTo]
      exact ⟨hcategory, Or.inr ⟨i, name, hpart, rfl⟩⟩
  · rintro ⟨hcategory, hs⟩
    obtain ⟨⟨category, rule⟩, hmem, rfl⟩ := List.mem_map.mp hcategory
    refine ⟨_, hmem, ?_⟩
    dsimp only
    rw [childrenIn_eq, List.mem_append, Option.mem_toList, Option.map_eq_some_iff]
    rcases hs with ⟨hnone, hwhole⟩ | hs
    · obtain ⟨category, selector⟩ := s
      subst hnone
      exact Or.inl ⟨part, hwhole, rfl⟩
    · exact Or.inr (mem_stepsTo.mpr hs)

/-- A listed step leads to the part that it is listed with. -/
theorem step?_of_mem_children {p : Package} {node : Node} {s : Segment} {part : Node}
    (h : (s, part) ∈ node.children p) : node.step? p s = some part := by
  obtain ⟨hcategory, hs⟩ := mem_children.mp h
  rw [step?, if_pos hcategory]
  rcases hs with ⟨hnone, hwhole⟩ | ⟨i, name, hpart, hs⟩
  · rw [hnone]
    exact hwhole
  · obtain ⟨selector, hselector, hpick⟩ := pick?_stepTo s.category hpart
    rw [hs, hselector, category_stepTo]
    exact hpick

/-- Where any step leads, a listed step of the same category leads. -/
theorem exists_mem_children_of_step? {p : Package} {node : Node} {s : Segment} {part : Node}
    (h : node.step? p s = some part) :
    ∃ t, t.category = s.category ∧ (t, part) ∈ node.children p := by
  rw [step?] at h
  split at h
  · next hcategory =>
    cases hselector : s.selector with
    | none =>
      rw [hselector] at h
      exact ⟨{ category := s.category }, rfl, mem_children.mpr ⟨hcategory, Or.inl ⟨rfl, h⟩⟩⟩
    | some selector =>
      rw [hselector] at h
      have hpart : ∃ (i : Nat) (name : Option String),
          (node.choices p s.category)[i]? = some (name, part) := by
        cases selector with
        | name wanted =>
          obtain ⟨⟨name, found⟩, hfound, rfl⟩ := Option.map_eq_some_iff.mp h
          obtain ⟨i, hi⟩ := List.mem_iff_getElem?.mp (List.mem_of_find?_eq_some hfound)
          exact ⟨i, name, hi⟩
        | index i =>
          obtain ⟨⟨name, found⟩, hfound, rfl⟩ := Option.map_eq_some_iff.mp h
          exact ⟨i, name, hfound⟩
      obtain ⟨i, name, hpart⟩ := hpart
      refine ⟨_, category_stepTo s.category ((node.choices p s.category).map Prod.fst) i, ?_⟩
      rw [mem_children, category_stepTo]
      exact ⟨hcategory, Or.inr ⟨i, name, hpart, rfl⟩⟩
  · cases h

/-- The texts of listed steps can be told apart. -/
theorem legible_of_mem_children {p : Package} {node : Node} {s : Segment} {part : Node}
    (h : (s, part) ∈ node.children p) : s.Legible := by
  intro selector hselector
  rcases (mem_children.mp h).2 with ⟨hnone, -⟩ | ⟨i, name, -, hs⟩
  · rw [hnone] at hselector
    cases hselector
  · rcases stepTo_cases s.category ((node.choices p s.category).map Prod.fst) i with
      ⟨own, -, hown, -, hstep⟩ | hstep <;> rw [hs, hstep] at hselector <;> cases hselector
    · exact hown
    · trivial

/-- Listed steps belong to the grammar where positions are below the bound. -/
theorem valid_of_mem_children {p : Package} {node : Node} {s : Segment} {part : Node}
    (h : (s, part) ∈ node.children p)
    (hbound : (node.choices p s.category).length ≤ Address.positionBound) : s.Valid := by
  intro selector hselector
  rcases (mem_children.mp h).2 with ⟨hnone, -⟩ | ⟨i, name, hpart, hs⟩
  · rw [hnone] at hselector
    cases hselector
  · have hlt : i < (node.choices p s.category).length := (List.getElem?_eq_some_iff.mp hpart).1
    rcases stepTo_cases s.category ((node.choices p s.category).map Prod.fst) i with
      ⟨own, -, hown, -, hstep⟩ | hstep <;> rw [hs, hstep] at hselector <;> cases hselector
    · exact hown
    · exact Nat.lt_of_lt_of_le hlt hbound

/-- The listed steps of a category have that category. -/
theorem category_of_mem_childrenIn {p : Package} {node : Node} {category : Category} {s : Segment}
    {part : Node} (h : (s, part) ∈ node.childrenIn p category) : s.category = category := by
  rw [childrenIn_eq, List.mem_append, Option.mem_toList, Option.map_eq_some_iff] at h
  rcases h with ⟨found, -, heq⟩ | h
  · cases heq
    rfl
  · obtain ⟨i, name, -, rfl⟩ := mem_stepsTo.mp h
    exact category_stepTo category _ i

/-- No step of a category is listed twice. -/
theorem nodup_childrenIn (p : Package) (node : Node) (category : Category) :
    ((node.childrenIn p category).map Prod.fst).Nodup := by
  have hsteps : ∀ parts : List (Option String × Node),
      (stepsTo category parts).map Prod.fst =
        (parts.zipIdx.map Prod.snd).map (stepTo category (parts.map Prod.fst)) := by
    intro parts
    simp only [stepsTo, List.map_map, Function.comp_def]
  rw [childrenIn_eq, List.map_append, List.nodup_append, hsteps]
  refine ⟨?_, ?_, ?_⟩
  · cases node.whole? p category with
    | none => exact List.nodup_nil
    | some part => exact List.nodup_singleton _
  · rw [List.zipIdx_map_snd]
    exact (List.nodup_range' ..).map fun i j => stepTo_injective
  · intro s hs t ht heq
    rw [List.mem_map] at hs ht
    obtain ⟨⟨whole, part⟩, hwhole, rfl⟩ := hs
    obtain ⟨i, -, rfl⟩ := ht
    rw [Option.mem_toList, Option.map_eq_some_iff] at hwhole
    obtain ⟨found, -, hfound⟩ := hwhole
    cases hfound
    rcases stepTo_cases category ((node.choices p category).map Prod.fst) i with
      ⟨own, -, -, -, hstep⟩ | hstep <;> rw [hstep] at heq <;> cases heq

/-- No step is listed twice. -/
theorem nodup_children (p : Package) (node : Node) : ((node.children p).map Prod.fst).Nodup := by
  rw [children, List.map_flatMap, List.nodup_flatMap]
  refine ⟨fun entry _ => nodup_childrenIn p node entry.1, ?_⟩
  have hcategories := List.pairwise_map.mp (nodup_categories node)
  refine hcategories.imp ?_
  intro x y hne s hx hy
  obtain ⟨⟨s, part⟩, hs, rfl⟩ := List.mem_map.mp hx
  obtain ⟨⟨t, other⟩, ht, heq⟩ := List.mem_map.mp hy
  dsimp only at heq
  subst heq
  exact hne ((category_of_mem_childrenIn hs).symm.trans (category_of_mem_childrenIn ht))

/-- The texts of listed steps are distinct. -/
theorem nodup_text_children (p : Package) (node : Node) :
    ((node.children p).map (·.1.text)).Nodup := by
  have hsteps : (node.children p).map (·.1.text) =
      ((node.children p).map Prod.fst).map Segment.text := by
    rw [List.map_map]
    rfl
  rw [hsteps]
  refine (nodup_children p node).map_on ?_
  intro s hs t ht heq
  obtain ⟨x, hx, rfl⟩ := List.mem_map.mp hs
  obtain ⟨y, hy, rfl⟩ := List.mem_map.mp ht
  exact Segment.text_injective (legible_of_mem_children hx) (legible_of_mem_children hy)
    (congrArg String.toList heq)

/-- Listing steps and following them is one table: every listed step leads to the part that it is
listed with, no two listed steps have the same text, and wherever any step leads, a listed step of
the same category leads. -/
theorem child_follows_exactly_children (p : Package) (node : Node) :
    (∀ s part, (s, part) ∈ node.children p →
      ∀ resolved, node.child p s resolved = .ok part) ∧
    ((node.children p).map (·.1.text)).Nodup ∧
    ∀ s resolved part, node.child p s resolved = .ok part →
      ∃ t, t.category = s.category ∧ (t, part) ∈ node.children p := by
  refine ⟨?_, nodup_text_children p node, ?_⟩
  · intro s part hs resolved
    exact child_eq_ok_iff.mpr (step?_of_mem_children hs)
  · intro s resolved part hchild
    exact exists_mem_children_of_step? (child_eq_ok_iff.mp hchild)

/-- A package with a function that has two blank parameters, one without a name, and one whose name
is no identifier. -/
def visitPackage : Package where
  path := "app"
  shortPath := ""
  name := "app"
  decls :=
    [{ name := "Visit", kind := .func
       shape := .func
        { signature := "func Visit(_ int, _ string, bool, 2nd error)"
          params := [{ name := some "_", type := { text := "int" } },
            { name := some "_", type := { text := "string" } },
            { name := none, type := { text := "bool" } },
            { name := some "2nd", type := { text := "error" } }] } }]

/-- The second blank parameter is listed by its position, which leads to it. The one whose name is no
identifier can be asked for by that name, and is listed as well. -/
theorem child_follows_exactly_children_of_blank_params :
    ∃ d ∈ visitPackage.decls,
      (Node.decl d).child visitPackage ⟨.params, some (.index 1)⟩ "app.Visit" =
        .ok (.param { name := some "_", type := { text := "string" } } .param) ∧
      ∃ t, t.category = .params ∧
        (t, Node.param { name := some "2nd", type := { text := "error" } } .param) ∈
          (Node.decl d).children visitPackage := by
  refine ⟨_, List.mem_cons_self, ?_⟩
  obtain ⟨hlisted, -, hall⟩ := child_follows_exactly_children visitPackage (.decl _)
  exact ⟨hlisted _ _ (by decide +kernel) _,
    hall ⟨.params, some (.name "2nd")⟩ "app.Visit" _ (by decide +kernel)⟩

end GoAddress.Node
