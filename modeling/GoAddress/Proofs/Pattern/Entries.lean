import Mathlib.Data.Finset.Card
import GoAddress.Pattern.Entry
import GoAddress.Proofs.Order

/-!
# Lists of matches

The entries that a pattern matches are sorted by address, the repeats of an address are dropped,
and the limit cuts what is left. Main statement: the list is in strict order and the total is the
number of distinct addresses that match, so that neither depends on the limit; a limit shows a
beginning of the whole list; and where no address is repeated, the order of the entries makes no
difference.
-/

namespace GoAddress

/-- Sorted and without repeats, a list has one element for each of its keys. -/
theorem length_dropRepeats_sortOn {α : Type} (key : α → String) (xs : List α) :
    (dropRepeats key (sortOn key xs)).length = (xs.map key).toFinset.card := by
  have horder := pairwise_dropRepeats key (pairwise_sortOn key xs)
  have hnodup : ((dropRepeats key (sortOn key xs)).map key).Nodup :=
    List.pairwise_map.mpr (horder.imp ne_of_lt)
  have hkeys : ((dropRepeats key (sortOn key xs)).map key).toFinset = (xs.map key).toFinset := by
    ext k
    simp only [List.mem_toFinset, List.mem_map]
    constructor
    · rintro ⟨x, hx, hk⟩
      have hsorted : x ∈ sortOn key xs := (dropRepeats_sublist key (sortOn key xs)).mem hx
      exact ⟨x, (perm_sortOn key xs).mem_iff.mp hsorted, hk⟩
    · rintro ⟨x, hx, rfl⟩
      have hsorted : x ∈ sortOn key xs := (perm_sortOn key xs).mem_iff.mpr hx
      exact exists_mem_dropRepeats key hsorted
  rw [← hkeys, List.toFinset_card_of_nodup hnodup, List.length_map]

namespace Pattern

section Listing

variable (p : Pattern) (entries : List Entry)

/-- Matches are listed by strictly increasing address. -/
theorem pairwise_allMatches : (p.allMatches entries).Pairwise fun d e => d.path < e.path :=
  pairwise_dropRepeats _ (pairwise_sortOn _ _)

/-- Whatever is listed is an entry that the pattern matches. -/
theorem mem_of_mem_allMatches {e : Entry} (h : e ∈ p.allMatches entries) :
    e ∈ entries ∧ p.matchesEntry e = true := by
  have hsorted := (dropRepeats_sublist Entry.path _).mem h
  exact List.mem_filter.mp ((perm_sortOn Entry.path _).mem_iff.mp hsorted)

/-- There are as many matches as distinct addresses among the entries that the pattern matches. -/
theorem length_allMatches :
    (p.allMatches entries).length =
      ((entries.filter p.matchesEntry).map (·.path)).toFinset.card :=
  length_dropRepeats_sortOn _ _

/-- Where addresses are distinct, matches do not depend on the order of the entries. -/
theorem allMatches_eq_of_perm {entries others : List Entry}
    (hnodup : (entries.map (·.path)).Nodup) (h : others.Perm entries) :
    p.allMatches others = p.allMatches entries := by
  have hfound : ((entries.filter p.matchesEntry).map (·.path)).Nodup :=
    hnodup.sublist (List.filter_sublist.map _)
  rw [allMatches, allMatches, sortOn_eq_of_perm _ hfound (h.filter _)]

/-- The total counts all matches, whatever the limit. -/
theorem total_matchEntries (limit : Option Nat) :
    (p.matchEntries entries limit).total = (p.allMatches entries).length := rfl

/-- Without a limit all matches are shown. -/
theorem shown_matchEntries_none :
    (p.matchEntries entries none).shown = p.allMatches entries := rfl

/-- A limit shows as many of the first matches as it allows. -/
theorem shown_matchEntries_some (k : Nat) :
    (p.matchEntries entries (some k)).shown = (p.allMatches entries).take k := rfl

/-- What is shown is a beginning of the list of all matches. -/
theorem shown_prefix_allMatches (limit : Option Nat) :
    (p.matchEntries entries limit).shown <+: p.allMatches entries := by
  cases limit with
  | none => exact List.prefix_refl _
  | some k => exact List.take_prefix k _

/-- Some matches are not shown just if there is a limit below their number. -/
theorem isTruncated_matchEntries_iff (limit : Option Nat) :
    (p.matchEntries entries limit).isTruncated = true ↔
      ∃ k, limit = some k ∧ k < (p.allMatches entries).length := by
  rw [Matches.isTruncated, decide_eq_true_iff, total_matchEntries]
  cases limit with
  | none => simp [shown_matchEntries_none]
  | some k =>
    simp only [shown_matchEntries_some, List.length_take, Option.some.injEq, exists_eq_left']
    omega

end Listing

/-- Matching is determined by what matches. Entries are shown by strictly increasing address; the
total is the number of distinct addresses that match, whatever the limit; a limit shows that many of
the first entries that are shown without one, and hides some just if it is below the total; and
where no address is repeated, the order of the entries makes no difference. -/
theorem matchEntries_shows_first_of_all (p : Pattern) (entries : List Entry)
    (limit : Option Nat) :
    let found := p.matchEntries entries limit
    let whole := p.matchEntries entries none
    found.shown.Pairwise (fun d e => d.path < e.path) ∧
    (∀ e ∈ found.shown, e ∈ entries ∧ p.matchesEntry e = true) ∧
    found.total = ((entries.filter p.matchesEntry).map (·.path)).toFinset.card ∧
    (∀ other, (p.matchEntries entries other).total = found.total) ∧
    whole.shown.length = whole.total ∧
    (∀ k, limit = some k → found.shown = whole.shown.take (min k found.total)) ∧
    (found.isTruncated = true ↔ ∃ k, limit = some k ∧ k < found.total) ∧
    ((entries.map (·.path)).Nodup → ∀ others, others.Perm entries →
      p.matchEntries others limit = found) := by
  intro found whole
  have hshown : found.shown <+: p.allMatches entries := shown_prefix_allMatches p entries limit
  refine ⟨?_, ?_, length_allMatches p entries, fun _ => rfl, rfl, ?_, ?_, ?_⟩
  · exact (pairwise_allMatches p entries).sublist hshown.sublist
  · intro e he
    exact mem_of_mem_allMatches p entries (hshown.mem he)
  · rintro k rfl
    have htake : (p.allMatches entries).take k =
        (p.allMatches entries).take (min k (p.allMatches entries).length) := by
      rw [← List.take_take, List.take_length]
    exact htake
  · exact isTruncated_matchEntries_iff p entries limit
  · intro hnodup others hperm
    have hall : p.allMatches others = p.allMatches entries := allMatches_eq_of_perm p hnodup hperm
    simp only [matchEntries, hall, found]

/-- An entry of the package `app/store` with a given address. -/
def storeEntry (path : String) : Entry :=
  { path, kind := "func", package := "app/store", shortPackage := "store" }

/-- Of two functions, listed in either order and matched by their short forms, a limit shows the
first and counts both; an address of another form does not match. -/
theorem matchEntries_shows_first_of_two_functions :
    ∃ p, compile "store.*" = .ok p ∧
      ∀ others, others.Perm (["app/store.Open", "app/store.Close", "app/store.Open/body"].map
        storeEntry) →
        (p.matchEntries others (some 1)).total = 2 ∧
        (p.matchEntries others (some 1)).isTruncated = true := by
  obtain ⟨p, hp⟩ : ∃ p, compile "store.*" = .ok p := ⟨_, rfl⟩
  refine ⟨p, hp, fun others hperm => ?_⟩
  obtain ⟨-, -, htotal, -, -, -, hhides, horder⟩ := matchEntries_shows_first_of_all p
    (["app/store.Open", "app/store.Close", "app/store.Open/body"].map storeEntry) (some 1)
  have hcount : (p.matchEntries (["app/store.Open", "app/store.Close",
      "app/store.Open/body"].map storeEntry) (some 1)).total = 2 := by
    rw [htotal]
    cases hp
    decide +kernel
  rw [horder (by decide) others hperm]
  exact ⟨hcount, hhides.mpr ⟨1, rfl, by rw [hcount]; decide⟩⟩

end Pattern

end GoAddress
