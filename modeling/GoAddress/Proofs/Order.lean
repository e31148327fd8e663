import Mathlib.Data.List.Pairwise
import Mathlib.Data.String.Basic
import GoAddress.Order

/-!
# Laws of sorted lists

Sorting by a key keeps the elements and puts the keys in order. Of a list in order, keeping the
first of neighbours with equal keys leaves every key once. So a sorted set has just the elements of
the list that it is made of, in strict order.
-/

namespace GoAddress

section Sorting

variable {α : Type} (key : α → String)

/-- Sorting puts the keys in order. -/
theorem pairwise_sortOn (xs : List α) : (sortOn key xs).Pairwise fun a b => key a ≤ key b := by
  have htrans : ∀ a b c : α, decide (key a ≤ key b) = true → decide (key b ≤ key c) = true →
      decide (key a ≤ key c) = true := by
    intro a b c hab hbc
    exact decide_eq_true (String.le_trans (of_decide_eq_true hab) (of_decide_eq_true hbc))
  have htotal : ∀ a b : α, (decide (key a ≤ key b) || decide (key b ≤ key a)) = true := by
    intro a b
    simpa using String.le_total (key a) (key b)
  exact (List.pairwise_mergeSort htrans htotal xs).imp of_decide_eq_true

/-- Sorting keeps the elements. -/
theorem perm_sortOn (xs : List α) : (sortOn key xs).Perm xs :=
  List.mergeSort_perm xs _

/-- A list in order stays as it is. -/
theorem sortOn_of_pairwise {xs : List α} (h : xs.Pairwise fun a b => key a ≤ key b) :
    sortOn key xs = xs :=
  List.mergeSort_of_pairwise (h.imp decide_eq_true)

/-- Distinct keys are in strict order once they are sorted. -/
theorem pairwise_lt_sortOn {xs : List α} (hnodup : (xs.map key).Nodup) :
    (sortOn key xs).Pairwise fun a b => key a < key b := by
  have hsorted : ((sortOn key xs).map key).Nodup :=
    ((perm_sortOn key xs).map key).nodup_iff.mpr hnodup
  have hboth := (pairwise_sortOn key xs).and (List.pairwise_map.mp hsorted)
  exact hboth.imp fun h => lt_of_le_of_ne h.1 h.2

/-- Where keys are distinct, sorting forgets the order that there was before. -/
theorem sortOn_eq_of_perm {xs ys : List α} (hnodup : (xs.map key).Nodup) (h : ys.Perm xs) :
    sortOn key ys = sortOn key xs := by
  have hys : (ys.map key).Nodup := (h.map key).nodup_iff.mpr hnodup
  have hperm : (sortOn key ys).Perm (sortOn key xs) :=
    (perm_sortOn key ys).trans (h.trans (perm_sortOn key xs).symm)
  exact hperm.eq_of_pairwise (fun a b _ _ hab hba => absurd hba (lt_asymm hab))
    (pairwise_lt_sortOn key hys) (pairwise_lt_sortOn key hnodup)

/-- What remains stood there before, in the same order. -/
theorem dropRepeats_sublist {β : Type} [BEq β] (key : α → β) (xs : List α) :
    (dropRepeats key xs).Sublist xs := by
  fun_induction dropRepeats key xs with
  | case1 => exact List.Sublist.refl []
  | case2 x => exact List.Sublist.refl [x]
  | case3 x y rest h ih => exact ih.trans ((List.sublist_cons_self y rest).cons_cons x)
  | case4 x y rest h ih => exact ih.cons_cons x

/-- Every key remains. -/
theorem exists_mem_dropRepeats {β : Type} [BEq β] [LawfulBEq β] (key : α → β) {xs : List α} {x : α}
    (h : x ∈ xs) : ∃ y ∈ dropRepeats key xs, key y = key x := by
  fun_induction dropRepeats key xs generalizing x with
  | case1 => exact (List.not_mem_nil h).elim
  | case2 y => exact ⟨x, h, rfl⟩
  | case3 y z rest heq ih =>
    rcases List.mem_cons.mp h with rfl | hmem
    · exact ih List.mem_cons_self
    · rcases List.mem_cons.mp hmem with rfl | hmem
      · -- The element that is dropped has the key of the one before it.
        rw [← beq_iff_eq.mp heq]
        exact ih List.mem_cons_self
      · exact ih (List.mem_cons_of_mem y hmem)
  | case4 y z rest hne ih =>
    rcases List.mem_cons.mp h with rfl | hmem
    · exact ⟨x, List.mem_cons_self, rfl⟩
    · obtain ⟨w, hw, hkey⟩ := ih hmem
      exact ⟨w, List.mem_cons_of_mem y hw, hkey⟩

/-- Elements in the order of their places are in strict order once repeats are dropped, if keys and
places tell the same elements apart. -/
theorem pairwise_dropRepeats_of_place {β γ : Type} [BEq β] [LawfulBEq β] [PartialOrder γ]
    (key : α → β) (place : α → γ) {xs : List α}
    (hsame : ∀ x ∈ xs, ∀ y ∈ xs, place x = place y → key x = key y)
    (h : xs.Pairwise fun a b => place a ≤ place b) :
    (dropRepeats key xs).Pairwise fun a b => place a < place b := by
  fun_induction dropRepeats key xs with
  | case1 => exact List.Pairwise.nil
  | case2 x => exact List.pairwise_singleton _ x
  | case3 x y rest heq ih =>
    have hsub : (x :: rest).Sublist (x :: y :: rest) := (List.sublist_cons_self y rest).cons_cons x
    exact ih (fun a ha b hb => hsame a (hsub.mem ha) b (hsub.mem hb)) (h.sublist hsub)
  | case4 x y rest hne ih =>
    obtain ⟨hx, hrest⟩ := List.pairwise_cons.mp h
    obtain ⟨hy, -⟩ := List.pairwise_cons.mp hrest
    have hxy : place x < place y := by
      refine lt_of_le_of_ne (hx y List.mem_cons_self) fun heq => hne ?_
      exact beq_iff_eq.mpr (hsame x (by simp) y (by simp) heq)
    have htail := ih (fun a ha b hb =>
      hsame a (List.mem_cons_of_mem x ha) b (List.mem_cons_of_mem x hb)) hrest
    refine List.pairwise_cons.mpr ⟨fun z hz => ?_, htail⟩
    rcases List.mem_cons.mp ((dropRepeats_sublist key (y :: rest)).mem hz) with rfl | hz
    · exact hxy
    · exact lt_of_lt_of_le hxy (hy z hz)

/-- Keys in order are in strict order once repeats are dropped. -/
theorem pairwise_dropRepeats {xs : List α} (h : xs.Pairwise fun a b => key a ≤ key b) :
    (dropRepeats key xs).Pairwise fun a b => key a < key b :=
  pairwise_dropRepeats_of_place key key (fun _ _ _ _ heq => heq) h

end Sorting

/-- A sorted set has the elements of the list that it is made of. -/
theorem mem_sortedSet {xs : List String} {x : String} : x ∈ sortedSet xs ↔ x ∈ xs := by
  rw [sortedSet, ← (perm_sortOn id xs).mem_iff]
  constructor
  · intro h
    exact (dropRepeats_sublist id (sortOn id xs)).mem h
  · intro h
    obtain ⟨y, hy, rfl⟩ := exists_mem_dropRepeats id h
    exact hy

/-- A sorted set is in strict order. -/
theorem pairwise_sortedSet (xs : List String) : (sortedSet xs).Pairwise (· < ·) :=
  pairwise_dropRepeats id (pairwise_sortOn id xs)

/-- Lists in strict order with the same elements are equal. -/
theorem eq_of_pairwise_lt {xs ys : List String} (hxs : xs.Pairwise (· < ·))
    (hys : ys.Pairwise (· < ·)) (h : ∀ x, x ∈ xs ↔ x ∈ ys) : xs = ys := by
  have hperm : xs.Perm ys :=
    (List.perm_ext_iff_of_nodup (hxs.imp ne_of_lt) (hys.imp ne_of_lt)).mpr h
  exact hperm.eq_of_pairwise (fun a b _ _ hab hba => absurd hba (lt_asymm hab)) hxs hys

/-- A list in strict order is its own sorted set. -/
theorem sortedSet_of_pairwise {xs : List String} (h : xs.Pairwise (· < ·)) : sortedSet xs = xs :=
  eq_of_pairwise_lt (pairwise_sortedSet xs) h fun _ => mem_sortedSet

end GoAddress
