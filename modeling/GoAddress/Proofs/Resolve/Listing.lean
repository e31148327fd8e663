import GoAddress.Proofs.Address.Reading
import GoAddress.Proofs.Resolve.Measure
import GoAddress.Resolve.Enumerate

/-!
# What a walk lists

A walk lists addresses that chains of listed steps lead to, never one text twice. Conversely it
loses nothing that can be entered: texts of legible addresses are skipped only if the very same
address was listed before.
-/

namespace GoAddress

namespace Address

/-- An address followed by further steps. -/
def extend (a : Address) (steps : List Segment) : Address :=
  { a with subpath := a.subpath ++ steps }

/-- No further step. -/
theorem extend_nil (a : Address) : a.extend [] = a := by
  rw [extend, List.append_nil]

/-- The steps follow one by one. -/
theorem extend_cons (a : Address) (s : Segment) (steps : List Segment) :
    a.extend (s :: steps) = (a.child s).extend steps := by
  simp [extend, child]

/-- Equal extensions of an address have equal steps. -/
theorem extend_right_injective {a : Address} {xs ys : List Segment} (h : a.extend xs = a.extend ys) :
    xs = ys :=
  List.append_cancel_left (congrArg subpath h)

/-- Legible steps behind a symbol leave an address legible. -/
theorem Legible.extend {a : Address} (h : a.Legible) (hsymbol : a.symbol ≠ none)
    {steps : List Segment} (hsteps : ∀ s ∈ steps, s.Legible) : (a.extend steps).Legible where
  symbol := h.symbol
  method := h.method
  alone hnone := absurd hnone hsymbol
  steps s hs := by
    rcases List.mem_append.mp hs with hs | hs
    · exact h.steps s hs
    · exact hsteps s hs

/-- One legible step behind a symbol leaves an address legible. -/
theorem Legible.child {a : Address} (h : a.Legible) (hsymbol : a.symbol ≠ none) {s : Segment}
    (hs : s.Legible) : (a.child s).Legible :=
  h.extend hsymbol (List.forall_mem_singleton.mpr hs)

end Address

namespace Workspace

/-- Chains of listed steps, all of admitted categories, from one listed node to another. -/
inductive Chain (p : Package) (admitted : Category → Prop) : Listed → Listed → Prop
  | refl (x : Listed) : Chain p admitted x x
  | step {a : Address} {node part : Node} {s : Segment} {x : Listed}
      (hs : (s, part) ∈ node.children p) (hcategory : admitted s.category)
      (hx : Chain p admitted (a.child s, part) x) : Chain p admitted (a, node) x

/-- One more step at the end of a chain. -/
theorem Chain.snoc {p : Package} {admitted : Category → Prop} {x : Listed} {a : Address}
    {node part : Node} {s : Segment} (h : Chain p admitted x (a, node))
    (hs : (s, part) ∈ node.children p) (hcategory : admitted s.category) :
    Chain p admitted x (a.child s, part) := by
  generalize hy : (a, node) = y at h
  induction h with
  | refl z =>
    subst hy
    exact Chain.step hs hcategory (Chain.refl _)
  | step hs' hcategory' _ ih => exact Chain.step hs' hcategory' (ih hy)

/-- A chain extends the address by legible steps, and following them leads to its last node. -/
theorem Chain.follow? {p : Package} {admitted : Category → Prop} {x y : Listed}
    (h : Chain p admitted x y) :
    ∃ steps, y.1 = x.1.extend steps ∧ Node.follow? p x.2 steps = some y.2 ∧
      ∀ s ∈ steps, s.Legible := by
  induction h with
  | refl x => exact ⟨[], x.1.extend_nil.symm, rfl, fun s hs => (List.not_mem_nil hs).elim⟩
  | @step a node part s x hs _ _ ih =>
    obtain ⟨steps, haddress, hfollow, hlegible⟩ := ih
    refine ⟨s :: steps, by rw [haddress, Address.extend_cons], ?_, ?_⟩
    · rw [Node.follow?, Node.step?_of_mem_children hs, Option.bind_some, hfollow]
    · exact List.forall_mem_cons.mpr ⟨Node.legible_of_mem_children hs, hlegible⟩

/-- The steps of a chain belong to the grammar where the package has no more parts than
positions. -/
theorem Chain.valid {p : Package} {admitted : Category → Prop} {x y : Listed}
    (h : Chain p admitted x y) (hwithin : Node.Within p x.2)
    (hbound : p.partCount ≤ Address.positionBound) (hx : ∀ s ∈ x.1.subpath, s.Valid) :
    ∀ s ∈ y.1.subpath, s.Valid := by
  induction h with
  | refl x => exact hx
  | step hs _ _ ih =>
    refine ih (hwithin.child hs) ?_
    intro t ht
    rcases List.mem_append.mp ht with ht | ht
    · exact hx t ht
    · rw [List.mem_singleton.mp ht]
      exact Node.valid_of_mem_children hs ((hwithin.length_choices _).trans hbound)

/-- What steps list is the node of one of them, or listed by visiting it. -/
theorem exists_of_mem_walkSteps {visit : List String → Address → Node → List Listed}
    {seen : List String} {a : Address} {steps : List (Segment × Node)} {x : Listed}
    (h : x ∈ walkSteps visit seen a steps) :
    ∃ s part seen', (s, part) ∈ steps ∧
      (x = (a.child s, part) ∨ x ∈ visit seen' (a.child s) part) := by
  induction steps generalizing seen with
  | nil => exact (List.not_mem_nil h).elim
  | cons step steps ih =>
    obtain ⟨s, part⟩ := step
    rw [walkSteps] at h
    rcases List.mem_append.mp h with h | h
    · refine ⟨s, part, seen, List.mem_cons_self, ?_⟩
      split at h
      · split at h
        · exact (List.not_mem_nil h).elim
        · exact Or.inl (List.mem_singleton.mp h)
      · exact Or.inr h
    · obtain ⟨t, other, seen', hmem, hx⟩ := ih h
      exact ⟨t, other, seen', List.mem_cons_of_mem _ hmem, hx⟩

/-- Whatever a walk lists is reached by a chain of listed steps. -/
theorem chain_of_mem_walk {p : Package} {depth : Nat} {seen : List String} {a : Address}
    {node : Node} {x : Listed} (h : x ∈ walk p depth seen a node) :
    Chain p (fun _ => True) (a, node) x := by
  induction depth generalizing seen a node with
  | zero => exact (List.not_mem_nil h).elim
  | succ depth ih =>
    rw [walk] at h
    split at h
    · exact (List.not_mem_nil h).elim
    · rcases List.mem_cons.mp h with rfl | h
      · exact Chain.refl _
      · obtain ⟨s, part, seen', hs, hx⟩ := exists_of_mem_walkSteps h
        refine Chain.step hs trivial ?_
        rcases hx with rfl | hx
        · exact Chain.refl _
        · exact ih hx

/-- Listed addresses with distinct texts, none of them seen before. -/
structure Distinct (seen : List String) (listed : List Listed) : Prop where
  /-- The texts are distinct. -/
  nodup : (listed.map (·.1.render)).Nodup
  /-- The texts are new. -/
  unseen : ∀ x ∈ listed, x.1.render ∉ seen

/-- Nothing is listed. -/
theorem Distinct.nil (seen : List String) : Distinct seen [] :=
  ⟨List.nodup_nil, fun _ hx => (List.not_mem_nil hx).elim⟩

/-- One address is listed, and what follows it is new as well. -/
theorem Distinct.cons {seen : List String} {x : Listed} {listed : List Listed}
    (hx : x.1.render ∉ seen) (h : Distinct (x.1.render :: seen) listed) :
    Distinct seen (x :: listed) := by
  constructor
  · rw [List.map_cons, List.nodup_cons]
    refine ⟨fun hmem => ?_, h.nodup⟩
    obtain ⟨y, hy, heq⟩ := List.mem_map.mp hmem
    exact h.unseen y hy (heq ▸ List.mem_cons_self)
  · intro y hy
    rcases List.mem_cons.mp hy with rfl | hy
    · exact hx
    · exact fun hmem => h.unseen y hy (List.mem_cons_of_mem _ hmem)

/-- What was listed counts as seen for what follows. -/
theorem Distinct.append {seen : List String} {found listed : List Listed} (hfound : Distinct seen found)
    (h : Distinct ((found.map (·.1.render)).reverse ++ seen) listed) :
    Distinct seen (found ++ listed) := by
  have hmem : ∀ x ∈ found, x.1.render ∈ (found.map (·.1.render)).reverse ++ seen := fun x hx =>
    List.mem_append_left _ (List.mem_reverse.mpr (List.mem_map.mpr ⟨x, hx, rfl⟩))
  constructor
  · rw [List.map_append, List.nodup_append]
    refine ⟨hfound.nodup, h.nodup, ?_⟩
    intro text htext text' htext' heq
    obtain ⟨x, hx, rfl⟩ := List.mem_map.mp htext
    obtain ⟨y, hy, rfl⟩ := List.mem_map.mp htext'
    exact h.unseen y hy (heq ▸ hmem x hx)
  · intro x hx
    rcases List.mem_append.mp hx with hx | hx
    · exact hfound.unseen x hx
    · exact fun hseen => h.unseen x hx (List.mem_append_right _ hseen)

/-- Steps list no text twice if visiting does not. -/
theorem distinct_walkSteps {visit : List String → Address → Node → List Listed}
    (hvisit : ∀ seen a node, Distinct seen (visit seen a node)) (seen : List String) (a : Address)
    (steps : List (Segment × Node)) : Distinct seen (walkSteps visit seen a steps) := by
  induction steps generalizing seen with
  | nil => exact Distinct.nil seen
  | cons step steps ih =>
    obtain ⟨s, part⟩ := step
    rw [walkSteps]
    refine Distinct.append ?_ (ih _)
    split
    · split
      · exact Distinct.nil seen
      · next hnew =>
        have hunseen : (a.child s).render ∉ seen := by simpa using hnew
        exact Distinct.cons hunseen (Distinct.nil _)
    · exact hvisit seen (a.child s) part

/-- A walk lists no text twice. -/
theorem distinct_walk (p : Package) (depth : Nat) (seen : List String) (a : Address) (node : Node) :
    Distinct seen (walk p depth seen a node) := by
  induction depth generalizing seen a node with
  | zero => exact Distinct.nil seen
  | succ depth ih =>
    rw [walk]
    split
    · exact Distinct.nil seen
    · next hnew =>
      have hunseen : a.render ∉ seen := by simpa using hnew
      exact Distinct.cons hunseen (distinct_walkSteps ih _ a _)

/-- Walks from roots list no text twice. -/
theorem distinct_walkRoots (p : Package) (seen : List String) (roots : List Listed) :
    Distinct seen (walkRoots p seen roots) := by
  induction roots generalizing seen with
  | nil => exact Distinct.nil seen
  | cons root roots ih => exact (distinct_walk p walkDepth seen root.1 root.2).append (ih _)

/-- Whatever walks from roots list lies below the first root of its text. -/
theorem exists_root_of_mem_walkRoots {p : Package} {seen : List String} {roots : List Listed}
    {x : Listed} (h : x ∈ walkRoots p seen roots) :
    ∃ root, roots.find? (·.1.render == root.1.render) = some root ∧ root.1.render ∉ seen ∧
      Chain p (fun _ => True) root x := by
  induction roots generalizing seen with
  | nil => exact (List.not_mem_nil h).elim
  | cons root roots ih =>
    obtain ⟨a, node⟩ := root
    have hwalk : walk p walkDepth seen a node = if seen.contains a.render then []
        else (a, node) :: walkSteps (walk p 2) (a.render :: seen) a (node.children p) := rfl
    rw [walkRoots] at h
    rcases List.mem_append.mp h with hx | hx
    · refine ⟨(a, node), List.find?_cons_of_pos (beq_self_eq_true _), ?_, chain_of_mem_walk hx⟩
      intro hseen
      rw [hwalk, if_pos (by simpa using hseen)] at hx
      exact List.not_mem_nil hx
    · obtain ⟨root, hfind, hunseen, hchain⟩ := ih hx
      refine ⟨root, ?_, fun hseen => hunseen (List.mem_append_right _ hseen), hchain⟩
      -- The text of the first root was seen, now or before.
      have hne : a.render ≠ root.1.render := by
        intro heq
        apply hunseen
        rw [← heq, hwalk]
        split
        · next hseen => simpa using hseen
        · simp
      rw [List.find?_cons_of_neg (by simpa using hne)]
      exact hfind

/-- No text of an address or of anything below it was seen. -/
def Fresh (seen : List String) (a : Address) : Prop :=
  ∀ steps : List Segment, (∀ s ∈ steps, s.Legible) → (a.extend steps).render ∉ seen

/-- The address of a fresh place itself was not seen. -/
theorem Fresh.unseen {seen : List String} {a : Address} (h : Fresh seen a) : a.render ∉ seen := by
  have hself := h [] fun s hs => (List.not_mem_nil hs).elim
  rwa [Address.extend_nil] at hself

/-- A place stays fresh when addresses elsewhere are listed. -/
theorem Fresh.append {seen : List String} {a : Address} (h : Fresh seen a) {found : List Listed}
    (hfound : ∀ x ∈ found, ∀ steps : List Segment, (∀ s ∈ steps, s.Legible) →
      (a.extend steps).render ≠ x.1.render) :
    Fresh ((found.map (·.1.render)).reverse ++ seen) a := by
  intro steps hsteps hmem
  rcases List.mem_append.mp hmem with hmem | hmem
  · obtain ⟨x, hx, heq⟩ := List.mem_map.mp (List.mem_reverse.mp hmem)
    exact hfound x hx steps hsteps heq.symm
  · exact h steps hsteps hmem

/-- Below a fresh place every step leads to a fresh one. -/
theorem Fresh.child {seen : List String} {a : Address} (h : Fresh seen a) (ha : a.Legible)
    (hsymbol : a.symbol ≠ none) {s : Segment} (hs : s.Legible) :
    Fresh (a.render :: seen) (a.child s) := by
  intro steps hsteps hmem
  rw [← Address.extend_cons] at hmem
  have hmore : ∀ t ∈ s :: steps, t.Legible := List.forall_mem_cons.mpr ⟨hs, hsteps⟩
  rcases List.mem_cons.mp hmem with heq | hmem
  · have hself := Address.render_injective (ha.extend hsymbol hmore) ha rfl heq
    cases Address.extend_right_injective (hself.trans a.extend_nil.symm)
  · exact h (s :: steps) hmore hmem

/-- What visiting one step lists leaves the places below the others fresh. -/
theorem render_ne_of_ne {a : Address} (ha : a.Legible) (hsymbol : a.symbol ≠ none) {s t : Segment}
    (hs : s.Legible) (ht : t.Legible) (hne : s ≠ t) {steps more : List Segment}
    (hsteps : ∀ s ∈ steps, s.Legible) (hmore : ∀ s ∈ more, s.Legible) :
    ((a.child s).extend steps).render ≠ ((a.child t).extend more).render := by
  intro heq
  rw [← Address.extend_cons, ← Address.extend_cons] at heq
  have hextend := Address.render_injective
    (ha.extend hsymbol (List.forall_mem_cons.mpr ⟨hs, hsteps⟩))
    (ha.extend hsymbol (List.forall_mem_cons.mpr ⟨ht, hmore⟩)) rfl heq
  exact hne (List.cons.inj (Address.extend_right_injective hextend)).1

/-- Nothing is lost at one of several distinct steps: what visiting it in a fresh place lists is
listed. -/
theorem mem_walkSteps {visit : List String → Address → Node → List Listed} {a : Address}
    (ha : a.Legible) (hsymbol : a.symbol ≠ none) {steps : List (Segment × Node)}
    (hlegible : ∀ y ∈ steps, y.1.Legible) (hnodup : (steps.map Prod.fst).Nodup) {s : Segment}
    {part : Node} (hs : (s, part) ∈ steps) (hcategory : s.category ≠ .methods) {x : Listed}
    (hx : ∀ seen, Fresh seen (a.child s) → x ∈ visit seen (a.child s) part)
    (hvisit : ∀ seen t other, ∀ y ∈ visit seen (a.child t) other,
      ∃ more, y.1 = (a.child t).extend more ∧ ∀ s ∈ more, s.Legible)
    {seen : List String} (hfresh : Fresh seen (a.child s)) : x ∈ walkSteps visit seen a steps := by
  induction steps generalizing seen with
  | nil => exact (List.not_mem_nil hs).elim
  | cons step steps ih =>
    obtain ⟨t, other⟩ := step
    rw [List.map_cons, List.nodup_cons] at hnodup
    obtain ⟨ht, hrest⟩ := List.forall_mem_cons.mp hlegible
    rw [walkSteps, List.mem_append]
    rcases List.mem_cons.mp hs with heq | hmem
    · cases heq
      rw [if_neg hcategory]
      exact Or.inl (hx seen hfresh)
    · right
      have hne : s ≠ t := by
        rintro rfl
        exact hnodup.1 (List.mem_map.mpr ⟨_, hmem, rfl⟩)
      refine ih hrest hnodup.2 hmem (hfresh.append ?_)
      intro y hy more hmore
      have hbelow : ∃ rest, y.1 = (a.child t).extend rest ∧ ∀ s ∈ rest, s.Legible := by
        split at hy
        · split at hy
          · exact (List.not_mem_nil hy).elim
          · rw [List.mem_singleton.mp hy]
            exact ⟨[], (a.child t).extend_nil.symm, fun s hs => (List.not_mem_nil hs).elim⟩
        · exact hvisit seen t other y hy
      obtain ⟨rest, hy, hrestLegible⟩ := hbelow
      rw [hy]
      exact render_ne_of_ne ha hsymbol (hrest _ hmem) ht hne hmore hrestLegible

/-- A walk in a fresh place that goes deep enough lists all that can be entered. -/
theorem mem_walk_of_chain {p : Package} {depth : Nat} {a : Address} {node : Node} {x : Listed}
    (hchain : Chain p (· ≠ .methods) (a, node) x) (hdepth : node.height < depth) (ha : a.Legible)
    (hsymbol : a.symbol ≠ none) {seen : List String} (hfresh : Fresh seen a) :
    x ∈ walk p depth seen a node := by
  induction depth generalizing a node seen with
  | zero => exact absurd hdepth (Nat.not_lt_zero _)
  | succ depth ih =>
    have hnew : ¬seen.contains a.render = true := by simpa using hfresh.unseen
    rw [walk, if_neg hnew, List.mem_cons]
    cases hchain with
    | refl => exact Or.inl rfl
    | @step _ _ part s _ hs hcategory hx =>
      right
      have hlegible : ∀ y ∈ node.children p, y.1.Legible := fun y hy =>
        Node.legible_of_mem_children hy
      have hlower := Node.height_lt_of_mem_children hs hcategory
      have hslegible := hlegible _ hs
      refine mem_walkSteps ha hsymbol hlegible (Node.nodup_children p node) hs hcategory ?_ ?_
        (hfresh.child ha hsymbol hslegible)
      · exact fun seen' hfresh' => ih hx (by omega) (ha.child hsymbol hslegible) hsymbol hfresh'
      · intro seen' t other y hy
        obtain ⟨more, haddress, -, hmore⟩ := (chain_of_mem_walk hy).follow?
        exact ⟨more, haddress, hmore⟩

/-- The address of a symbol or method of a package. -/
structure IsRoot (p : Package) (a : Address) : Prop where
  /-- The address lies in the package. -/
  package : a.package = p.path
  /-- There is a symbol. -/
  symbol : a.symbol ≠ none
  /-- No step follows. -/
  subpath : a.subpath = []
  /-- The names are identifiers. -/
  legible : a.Legible

/-- What lies below different roots of a package has different texts. -/
theorem IsRoot.render_ne {p : Package} {a b : Address} (ha : IsRoot p a) (hb : IsRoot p b)
    (hne : a ≠ b) {steps more : List Segment} (hsteps : ∀ s ∈ steps, s.Legible)
    (hmore : ∀ s ∈ more, s.Legible) : (a.extend steps).render ≠ (b.extend more).render := by
  intro heq
  have hpackage : a.package = b.package := ha.package.trans hb.package.symm
  have hextend := Address.render_injective (ha.legible.extend ha.symbol hsteps)
    (hb.legible.extend hb.symbol hmore) hpackage heq
  have hsubpath : a.subpath = b.subpath := ha.subpath.trans hb.subpath.symm
  obtain ⟨package, symbol, method, subpath⟩ := a
  obtain ⟨package', symbol', method', subpath'⟩ := b
  simp only [Address.extend, Address.mk.injEq] at hextend
  obtain ⟨rfl, rfl, rfl, -⟩ := hextend
  cases hsubpath
  exact hne rfl

/-- Walks from roots list all that can be entered below the first root of an address. -/
theorem mem_walkRoots_of_chain {p : Package} {roots : List Listed}
    (hroots : ∀ y ∈ roots, IsRoot p y.1) {a : Address} {node : Node}
    (hfind : roots.find? (·.1 == a) = some (a, node)) {x : Listed}
    (hchain : Chain p (· ≠ .methods) (a, node) x) {seen : List String} (hfresh : Fresh seen a) :
    x ∈ walkRoots p seen roots := by
  have ha : IsRoot p a := hroots _ (List.mem_of_find?_eq_some hfind)
  induction roots generalizing seen with
  | nil => cases hfind
  | cons root roots ih =>
    obtain ⟨b, other⟩ := root
    rw [walkRoots, List.mem_append]
    by_cases hb : b = a
    · rw [List.find?_cons_of_pos (by simp [hb])] at hfind
      cases hfind
      have hdepth : node.height < walkDepth := Nat.lt_succ_of_le (Node.height_le_two node)
      exact Or.inl (mem_walk_of_chain hchain hdepth ha.legible ha.symbol hfresh)
    · right
      rw [List.find?_cons_of_neg (by simpa using hb)] at hfind
      refine ih (fun y hy => hroots y (List.mem_cons_of_mem _ hy)) hfind (hfresh.append ?_)
      intro y hy steps hsteps
      obtain ⟨more, haddress, -, hmore⟩ := (chain_of_mem_walk hy).follow?
      rw [haddress]
      exact ha.render_ne (hroots _ List.mem_cons_self) (Ne.symm hb) hsteps hmore

end Workspace

end GoAddress
