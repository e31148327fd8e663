import Mathlib.Data.List.Perm.Subperm
import Mathlib.Data.Prod.Lex
import GoAddress.Proofs.Order
import GoAddress.Proofs.Text.Splitting
import GoAddress.Suggest.Rank

/-!
# Rankings

Candidates are sorted by their distance from the target and by their texts, and neighbours with the
same text are made one. Main statement: the answer is the beginning of the one list that has just the
candidates near the target, in strict order. Equal candidates are equally far away, so that no text
comes twice, and neither the order nor the number of times in which candidates are given matters.
-/

namespace GoAddress.Suggest

/-- How many edits lie between the target and the part of a candidate that is compared, ignoring
case. -/
def farness (target part : String) : Nat :=
  editDistance (Text.lowercase target) (Text.lowercase part)

/-- Whether a part is near the target: within a third of the target's length, but at least two edits,
or with the target in it, ignoring case. -/
def IsNear (target part : String) : Prop :=
  farness target part ≤ max 2 (target.length / 3) ∨
    (Text.lowercase target ≠ "" ∧
      (Text.lowercase target).toList <:+: (Text.lowercase part).toList)

/-- Whether a part is near is found out by computing. -/
instance (target part : String) : Decidable (IsNear target part) :=
  inferInstanceAs (Decidable (_ ∨ _))

/-- Where a candidate stands: nearer ones come first, equally near ones in the order of their
texts. -/
def place (target : String) (key : String → String) (candidate : String) : Nat ×ₗ String :=
  toLex (farness target (key candidate), candidate)

/-- A list of just the candidates near the target, in strict order. -/
structure IsRanking (target : String) (key : String → String) (candidates ranking : List String) :
    Prop where
  /-- Just the candidates near the target are listed. -/
  mem_iff : ∀ c, c ∈ ranking ↔ c ∈ candidates ∧ IsNear target (key c)
  /-- They stand in strict order. -/
  ordered : ranking.Pairwise fun a b => place target key a < place target key b

variable {target : String} {key : String → String} {candidates : List String}

/-- A ranking has no repetition. -/
theorem IsRanking.nodup {ranking : List String} (h : IsRanking target key candidates ranking) :
    ranking.Nodup := by
  refine h.ordered.imp ?_
  rintro a b hlt rfl
  exact lt_irrefl _ hlt

/-- Candidates have one ranking, whichever order they are given in and however often. -/
theorem IsRanking.eq {others ranking ranking' : List String} (hsame : ∀ c, c ∈ others ↔ c ∈ candidates)
    (h : IsRanking target key candidates ranking) (h' : IsRanking target key others ranking') :
    ranking' = ranking := by
  have hmem : ∀ c, c ∈ ranking' ↔ c ∈ ranking := by
    intro c
    rw [h.mem_iff, h'.mem_iff, hsame]
  have hperm : ranking'.Perm ranking := (List.perm_ext_iff_of_nodup h'.nodup h.nodup).mpr hmem
  exact hperm.eq_of_pairwise (fun a b _ _ hab hba => absurd hba (lt_asymm hab)) h'.ordered h.ordered

/-- The distance of a part is given if the part is near. -/
theorem distance?_eq_some_iff {part : String} {n : Nat} :
    distance? target part = some n ↔ n = farness target part ∧ IsNear target part := by
  have hcond : (decide (editDistance (Text.lowercase target) (Text.lowercase part) ≤
        threshold target) ||
      (!(Text.lowercase target).isEmpty &&
        Text.hasPart (Text.lowercase target).toList (Text.lowercase part).toList)) = true ↔
      IsNear target part := by
    simp [IsNear, farness, threshold, Text.hasPart_iff]
  unfold distance?
  dsimp only
  by_cases hnear : IsNear target part
  · rw [if_pos (hcond.mpr hnear), Option.some.injEq]
    exact ⟨fun h => ⟨h.symm, hnear⟩, fun h => h.1.symm⟩
  · rw [if_neg fun h => hnear (hcond.mp h)]
    exact ⟨fun h => (nomatch h), fun h => absurd h.2 hnear⟩

/-- Sorting is by distance and then by text. -/
theorem precedes_iff {a b : Nat × String} : precedes a b = true ↔ toLex a ≤ toLex b := by
  rw [Prod.Lex.toLex_le_toLex]
  simp [precedes]

/-- The candidates near the target, each with its distance. -/
def withDistances (target : String) (candidates : List String) (key : String → String) :
    List (Nat × String) :=
  candidates.filterMap fun candidate =>
    (distance? target (key candidate)).map fun distance => (distance, candidate)

/-- The candidates near the target come with their own distances. -/
theorem mem_withDistances {x : Nat × String} :
    x ∈ withDistances target candidates key ↔
      x.2 ∈ candidates ∧ IsNear target (key x.2) ∧ toLex x = place target key x.2 := by
  obtain ⟨n, candidate⟩ := x
  have hplace : toLex (n, candidate) = place target key candidate ↔
      n = farness target (key candidate) := by
    simp [place]
  unfold withDistances
  rw [List.mem_filterMap]
  constructor
  · rintro ⟨c, hc, heq⟩
    obtain ⟨m, hm, hpair⟩ := Option.map_eq_some_iff.mp heq
    cases hpair
    obtain ⟨hfar, hnear⟩ := distance?_eq_some_iff.mp hm
    exact ⟨hc, hnear, hplace.mpr hfar⟩
  · rintro ⟨hc, hnear, hfar⟩
    have hdistance := distance?_eq_some_iff.mpr ⟨hplace.mp hfar, hnear⟩
    exact ⟨candidate, hc, by rw [hdistance, Option.map_some]⟩

/-- The candidates near the target in order, each once. -/
def nearest (target : String) (candidates : List String) (key : String → String) : List String :=
  (dropRepeats (·.2) ((withDistances target candidates key).mergeSort precedes)).map (·.2)

/-- The answer is a beginning of the candidates near the target. -/
theorem rank_eq_take_nearest (target : String) (candidates : List String)
    (key : String → String) (limit : Nat) :
    rank target candidates key limit = (nearest target candidates key).take limit := by
  rw [nearest, ← List.map_take]
  rfl

/-- Sorting puts the places of candidates in order. -/
theorem pairwise_mergeSort_precedes (xs : List (Nat × String)) :
    (xs.mergeSort precedes).Pairwise fun a b => toLex a ≤ toLex b := by
  have htrans : ∀ a b c, precedes a b = true → precedes b c = true → precedes a c = true := by
    intro a b c hab hbc
    exact precedes_iff.mpr ((precedes_iff.mp hab).trans (precedes_iff.mp hbc))
  have htotal : ∀ a b, (precedes a b || precedes b a) = true := by
    intro a b
    rw [Bool.or_eq_true, precedes_iff, precedes_iff]
    exact le_total (toLex a) (toLex b)
  exact (List.pairwise_mergeSort htrans htotal xs).imp precedes_iff.mp

/-- The candidates near the target in order are their ranking. -/
theorem isRanking_nearest (target : String) (candidates : List String) (key : String → String) :
    IsRanking target key candidates (nearest target candidates key) := by
  have hsorted : ∀ x, x ∈ (withDistances target candidates key).mergeSort precedes ↔
      x ∈ withDistances target candidates key := fun x => List.mem_mergeSort
  have hkept : ∀ x ∈ dropRepeats (·.2) ((withDistances target candidates key).mergeSort precedes),
      x ∈ withDistances target candidates key := by
    intro x hx
    exact (hsorted x).mp ((dropRepeats_sublist _ _).mem hx)
  constructor
  · intro c
    rw [nearest, List.mem_map]
    constructor
    · rintro ⟨x, hx, rfl⟩
      obtain ⟨hc, hnear, -⟩ := mem_withDistances.mp (hkept x hx)
      exact ⟨hc, hnear⟩
    · rintro ⟨hc, hnear⟩
      have hmem : (farness target (key c), c) ∈ withDistances target candidates key :=
        mem_withDistances.mpr ⟨hc, hnear, rfl⟩
      exact exists_mem_dropRepeats (fun x : Nat × String => x.2) ((hsorted _).mpr hmem)
  · have hpairs := pairwise_dropRepeats_of_place (fun x : Nat × String => x.2) toLex
      (fun x _ y _ heq => congrArg Prod.snd (toLex.injective heq))
      (pairwise_mergeSort_precedes (withDistances target candidates key))
    rw [nearest, List.pairwise_map]
    refine hpairs.imp_of_mem ?_
    intro x y hx hy hlt
    rwa [(mem_withDistances.mp (hkept x hx)).2.2, (mem_withDistances.mp (hkept y hy)).2.2] at hlt

/-- Only candidates near the target are ranked. -/
theorem of_mem_rank {limit : Nat} {c : String} (h : c ∈ rank target candidates key limit) :
    c ∈ candidates ∧ IsNear target (key c) := by
  rw [rank_eq_take_nearest] at h
  exact ((isRanking_nearest target candidates key).mem_iff c).mp (List.mem_of_mem_take h)

/-- Where there are no more candidates than the limit, all that are near the target are ranked. -/
theorem mem_rank_of_length_le {limit : Nat} (hlength : candidates.length ≤ limit) {c : String}
    (hc : c ∈ candidates) (hnear : IsNear target (key c)) :
    c ∈ rank target candidates key limit := by
  have hranking := isRanking_nearest target candidates key
  have hsubset : nearest target candidates key ⊆ candidates :=
    fun c hc => ((hranking.mem_iff c).mp hc).1
  have hfew := (List.subperm_of_subset hranking.nodup hsubset).length_le
  rw [rank_eq_take_nearest, List.take_of_length_le (by omega)]
  exact (hranking.mem_iff c).mpr ⟨hc, hnear⟩

/-- The answer is the beginning, up to the limit, of the one list that has just the candidates near
the target in strict order of distance and text. So it has no repetition, and any other list with the
same candidates, in whatever order and however often, has the same answer. -/
theorem rank_is_beginning_of_ranking (target : String) (candidates : List String)
    (key : String → String) (limit : Nat) :
    (∃ ranking, IsRanking target key candidates ranking ∧
      (∀ other, IsRanking target key candidates other → other = ranking) ∧
      rank target candidates key limit = ranking.take limit) ∧
    (rank target candidates key limit).Nodup ∧
    ∀ others, (∀ c, c ∈ others ↔ c ∈ candidates) →
      rank target others key limit = rank target candidates key limit := by
  have hranking := isRanking_nearest target candidates key
  have hrank := rank_eq_take_nearest target candidates key limit
  refine ⟨⟨_, hranking, fun other hother => hranking.eq (fun _ => Iff.rfl) hother, hrank⟩, ?_, ?_⟩
  · rw [hrank]
    exact hranking.nodup.sublist (List.take_sublist _ _)
  · intro others hsame
    rw [hrank, rank_eq_take_nearest, hranking.eq hsame (isRanking_nearest target others key)]

/-- Names, one of them twice, for a target in which a letter is missing. -/
def configNames : List String :=
  ["Config", "Conf", "Loader", "Config", "Configure"]

/-- The names within two edits of the target are ranked by their texts, each once, also when they are
given in another order. -/
theorem rank_is_beginning_of_ranking_of_names :
    rank "Confg" configNames id 3 = ["Conf", "Config"] ∧
      rank "Confg" ["Loader", "Conf", "Configure", "Config"] id 3 = ["Conf", "Config"] := by
  have hexpected : IsRanking "Confg" id configNames ["Conf", "Config"] := by
    refine ⟨fun c => ⟨fun hc => ?_, fun ⟨hc, hnear⟩ => ?_⟩, by decide +kernel⟩
    · have hall : ∀ c ∈ ["Conf", "Config"], c ∈ configNames ∧ IsNear "Confg" (id c) := by
        decide +kernel
      exact hall c hc
    · have hall : ∀ c ∈ configNames, IsNear "Confg" (id c) → c ∈ ["Conf", "Config"] := by
        decide +kernel
      exact hall c hc hnear
  obtain ⟨⟨ranking, -, honly, hrank⟩, -, hsame⟩ :=
    rank_is_beginning_of_ranking "Confg" configNames id 3
  rw [← honly _ hexpected] at hrank
  have hmembers : ∀ c, c ∈ ["Loader", "Conf", "Configure", "Config"] ↔ c ∈ configNames := by
    intro c
    simp only [configNames, List.mem_cons, List.not_mem_nil]
    tauto
  exact ⟨hrank, (hsame _ hmembers).trans hrank⟩

end GoAddress.Suggest
