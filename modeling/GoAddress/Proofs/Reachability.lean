import Mathlib.Logic.Function.Iterate
import Mathlib.Logic.Relation
import GoAddress.Proofs.Order
import GoAddress.Proofs.Program.Index
import GoAddress.Reachability

/-!
# Dead code is what no root reaches

The search for live symbols works off a queue, in turns; what holds at the start and is kept by
every turn holds when the queue is empty. It makes no difference whether what was visited is put in
the queue again. So the search finds just what chains of steps lead to from the roots. Main
statement: the report lists, in order, the examined symbols that no chain reaches, and remarks on
those in broken packages.
-/

namespace GoAddress.Reachability

/-! ## The search -/

/-- All that can be reached from a queue by following `next`, together with what was visited. -/
def spread (size : Nat) (next : Nat → List Nat) (visited queue : List Nat) : List Nat :=
  match queue with
  | [] => visited
  | id :: rest =>
    if h : id < size ∧ id ∉ visited then
      have := unvisited_cons_lt h.1 h.2
      spread size next (id :: visited) (rest ++ next id)
    else spread size next visited rest
termination_by (unvisited size visited, queue.length)

/-- The first queue is the second one without some of what was visited. -/
inductive Thinned (visited : List Nat) : (short long : List Nat) → Prop where
  /-- There is nothing to leave out. -/
  | nil : Thinned visited [] []
  /-- A number is in both queues. -/
  | keep (id : Nat) {short long : List Nat} (h : Thinned visited short long) :
      Thinned visited (id :: short) (id :: long)
  /-- A number that was visited is left out. -/
  | drop {id : Nat} (hid : id ∈ visited) {short long : List Nat} (h : Thinned visited short long) :
      Thinned visited short (id :: long)

namespace Thinned

variable {visited short long : List Nat}

/-- Nothing need be left out. -/
theorem refl (visited queue : List Nat) : Thinned visited queue queue := by
  induction queue with
  | nil => exact nil
  | cons id queue ih => exact ih.keep id

/-- What was visited stays visited. -/
theorem visit (h : Thinned visited short long) (id : Nat) : Thinned (id :: visited) short long := by
  induction h with
  | nil => exact nil
  | keep other _ ih => exact ih.keep other
  | drop hother _ ih => exact ih.drop (List.mem_cons_of_mem id hother)

/-- Queues are thinned part by part. -/
theorem append {short' long' : List Nat} (h : Thinned visited short long)
    (h' : Thinned visited short' long') : Thinned visited (short ++ short') (long ++ long') := by
  induction h with
  | nil => exact h'
  | keep id _ ih => exact ih.keep id
  | drop hid _ ih => exact ih.drop hid

/-- All that was visited may be left out. -/
theorem filter (visited queue : List Nat) :
    Thinned visited (queue.filter fun id => !visited.contains id) queue := by
  induction queue with
  | nil => exact nil
  | cons id queue ih =>
    by_cases hid : id ∈ visited
    · have hseen : (!visited.contains id) = false := by simp [hid]
      rw [List.filter_cons, hseen, if_neg Bool.false_ne_true]
      exact ih.drop hid
    · have hnew : (!visited.contains id) = true := by simp [hid]
      rw [List.filter_cons, hnew, if_pos rfl]
      exact ih.keep id

end Thinned

/-- What is left out of a queue because it was visited changes nothing: it would be passed over. -/
theorem search_eq_spread_of_thinned {size : Nat} {methods mentions : Nat → List Nat}
    {visited short long : List Nat} (h : Thinned visited short long) :
    search size methods mentions visited short =
      spread size (fun id => methods id ++ mentions id) visited long := by
  fun_induction spread size (fun id => methods id ++ mentions id) visited long
    generalizing short with
  | case1 visited =>
    cases h
    rw [search]
  | case2 visited id rest hnew hless ih =>
    cases h with
    | keep _ h =>
      have hmore : Thinned (id :: visited)
          ((mentions id).filter fun other => !(id :: visited).contains other) (mentions id) :=
        .filter _ _
      rw [search, dif_pos hnew]
      exact ih ((h.visit id).append ((Thinned.refl _ (methods id)).append hmore))
    | drop hid _ => exact absurd hid hnew.2
  | case3 visited id rest hold ih =>
    cases h with
    | keep _ h =>
      rw [search, dif_neg hold]
      exact ih h
    | drop _ h => exact ih h

/-- The search finds what it would find if visited numbers were put in the queue again. -/
theorem search_eq_spread (size : Nat) (methods mentions : Nat → List Nat) (visited queue : List Nat) :
    search size methods mentions visited queue =
      spread size (fun id => methods id ++ mentions id) visited queue :=
  search_eq_spread_of_thinned (.refl visited queue)

/-- The search for live symbols between two turns. -/
structure Worklist where
  /-- What was looked at. -/
  visited : List Nat
  /-- What is still to be looked at. -/
  queue : List Nat

/-- One turn of the search: the first of the queue is visited, unless it was before, and what it
leads to is put at the end. -/
def Worklist.turn (size : Nat) (next : Nat → List Nat) (w : Worklist) : Worklist :=
  match w.queue with
  | [] => w
  | id :: rest =>
    if id < size ∧ id ∉ w.visited then ⟨id :: w.visited, rest ++ next id⟩ else ⟨w.visited, rest⟩

section Search

variable {size : Nat} {next : Nat → List Nat}

/-- The search ends: after some number of turns the queue is empty. -/
theorem exists_turns (size : Nat) (next : Nat → List Nat) (visited queue : List Nat) :
    ∃ turns, (Worklist.turn size next)^[turns] ⟨visited, queue⟩ =
      ⟨spread size next visited queue, []⟩ := by
  fun_induction spread size next visited queue with
  | case1 visited => exact ⟨0, rfl⟩
  | case2 visited id rest h hless ih =>
    obtain ⟨turns, hturns⟩ := ih
    refine ⟨turns + 1, ?_⟩
    rw [Function.iterate_succ_apply, Worklist.turn]
    simp only [if_pos h, hturns]
  | case3 visited id rest h ih =>
    obtain ⟨turns, hturns⟩ := ih
    refine ⟨turns + 1, ?_⟩
    rw [Function.iterate_succ_apply, Worklist.turn]
    simp only [if_neg h, hturns]

/-- What every turn keeps holds at the end of the search. -/
theorem spread_induction {I : Worklist → Prop} (hturn : ∀ w, I w → I (w.turn size next))
    {visited queue : List Nat} (h : I ⟨visited, queue⟩) :
    I ⟨spread size next visited queue, []⟩ := by
  obtain ⟨turns, hturns⟩ := exists_turns size next visited queue
  rw [← hturns]
  exact Function.Iterate.rec I h hturn turns

/-- The search between two turns: nothing is on the lists that the start does not lead to, and
whatever the start or a visited number leads to is on one of them. -/
structure Searching (size : Nat) (next : Nat → List Nat) (start : List Nat) (w : Worklist) :
    Prop where
  /-- All that is listed is reached. -/
  reached : ∀ id, id ∈ w.visited ∨ id ∈ w.queue →
    ∃ root ∈ start, Relation.ReflTransGen (fun i j => j ∈ next i) root id
  /-- The start is listed. -/
  started : ∀ root ∈ start, root < size → root ∈ w.visited ∨ root ∈ w.queue
  /-- What a visited number leads to is listed. -/
  followed : ∀ i ∈ w.visited, ∀ j ∈ next i, j < size → j ∈ w.visited ∨ j ∈ w.queue

/-- A turn goes on with the search. -/
theorem Searching.turn {start : List Nat} {w : Worklist} (h : Searching size next start w) :
    Searching size next start (w.turn size next) := by
  obtain ⟨visited, queue⟩ := w
  cases queue with
  | nil => exact h
  | cons id rest =>
    by_cases hnew : id < size ∧ id ∉ visited
    · have hturn : Worklist.turn size next ⟨visited, id :: rest⟩ =
          ⟨id :: visited, rest ++ next id⟩ := if_pos hnew
      rw [hturn]
      have hlisted : ∀ j, j ∈ visited ∨ j ∈ id :: rest →
          j ∈ id :: visited ∨ j ∈ rest ++ next id := by
        grind
      refine ⟨?_, fun root hroot hsize => hlisted root (h.started root hroot hsize), ?_⟩
      · intro j hj
        by_cases hold : j ∈ visited ∨ j ∈ id :: rest
        · exact h.reached j hold
        · -- A number that was on neither list comes from the one that is visited now.
          have hnext : j ∈ next id := by grind
          obtain ⟨root, hroot, hchain⟩ := h.reached id (Or.inr List.mem_cons_self)
          exact ⟨root, hroot, hchain.tail hnext⟩
      · intro i hi j hj hsize
        rcases List.mem_cons.mp hi with rfl | hi
        · exact Or.inr (List.mem_append_right rest hj)
        · exact hlisted j (h.followed i hi j hj hsize)
    · have hturn : Worklist.turn size next ⟨visited, id :: rest⟩ = ⟨visited, rest⟩ := if_neg hnew
      rw [hturn]
      -- What is left out of the queue was visited, or is no symbol.
      have hlisted : ∀ j, j < size → j ∈ visited ∨ j ∈ id :: rest → j ∈ visited ∨ j ∈ rest := by
        grind
      exact ⟨fun j hj => h.reached j (hj.imp_right (List.mem_cons_of_mem id)),
        fun root hroot hsize => hlisted root hsize (h.started root hroot hsize),
        fun i hi j hj hsize => hlisted j hsize (h.followed i hi j hj hsize)⟩

/-- The search finds just what a chain of steps leads to from the start. -/
theorem mem_spread_iff {start : List Nat} (hstart : ∀ root ∈ start, root < size)
    (hnext : ∀ i, ∀ j ∈ next i, j < size) {id : Nat} :
    id ∈ spread size next [] start ↔
      ∃ root ∈ start, Relation.ReflTransGen (fun i j => j ∈ next i) root id := by
  have hfirst : Searching size next start ⟨[], start⟩ := by
    refine ⟨fun j hj => ?_, fun root hroot _ => Or.inr hroot, fun i hi => ?_⟩
    · exact ⟨j, hj.resolve_left List.not_mem_nil, Relation.ReflTransGen.refl⟩
    · exact (List.not_mem_nil hi).elim
  have hlast : Searching size next start ⟨spread size next [] start, []⟩ :=
    spread_induction (fun w h => h.turn) hfirst
  constructor
  · intro hid
    exact hlast.reached id (Or.inl hid)
  · rintro ⟨root, hroot, hchain⟩
    -- The queue is empty at the end, so what is listed is visited.
    induction hchain with
    | refl => exact (hlast.started root hroot (hstart root hroot)).resolve_right List.not_mem_nil
    | tail _ hstep ih =>
      exact (hlast.followed _ ih _ hstep (hnext _ _ hstep)).resolve_right List.not_mem_nil

end Search

/-! ## Chains of uses -/

open SymbolIndex

/-- The symbols that a live symbol keeps alive. -/
def keeps (program : Program) (index : SymbolIndex) (id : Nat) : List Nat :=
  keptMethods index id ++ mentioned program index id

/-- The live symbols are found by following all that symbols keep. -/
theorem live_eq_spread (program : Program) (index : SymbolIndex) (exportedAreRoots : Bool) :
    live program index exportedAreRoots =
      spread index.symbols.length (keeps program index) []
        ((index.symbols.filter (isRoot program exportedAreRoots)).map (·.id)) :=
  search_eq_spread _ _ _ _ _

/-- A symbol keeps another one. -/
inductive Keeps (program : Program) (s m : Symbol) : Prop where
  /-- A type keeps its exported methods. -/
  | method (htype : s.kind.isType) (hmethod : m ∈ (build program).methodsOf s)
      (hexported : m.isExported)
  /-- A declaration keeps every symbol whose name it mentions. -/
  | mention {d : Decl} (hdecl : s.decl? program = some d) (hmem : m ∈ (build program).symbols)
      (hname : m.name ∈ d.references)

/-- A chain of uses leads to a symbol from an entry point. -/
def Reached (program : Program) (exportedAreRoots : Bool) (s : Symbol) : Prop :=
  ∃ root ∈ (build program).symbols, isRoot program exportedAreRoots root ∧
    Relation.ReflTransGen (Keeps program) root s

section Chains

variable {program : Program} {s : Symbol}

/-- Whatever is kept is in the index. -/
theorem Keeps.mem_symbols {m : Symbol} (h : Keeps program s m) : m ∈ (build program).symbols := by
  cases h with
  | method _ hmethod _ =>
    obtain ⟨j, -, hj⟩ := List.mem_filterMap.mp hmethod
    exact List.mem_of_getElem? hj
  | mention _ hmem _ => exact hmem

/-- The methods that a symbol keeps are the exported ones, if it is a type. -/
theorem mem_keptMethods_iff (hs : s ∈ (build program).symbols) {j : Nat} :
    j ∈ keptMethods (build program) s.id ↔
      s.kind.isType = true ∧ ∃ m ∈ (build program).methodsOf s, m.isExported = true ∧ m.id = j := by
  rw [keptMethods, get?_id hs]
  cases htype : s.kind.isType with
  | false => simp [htype]
  | true => simp [htype, and_assoc]

/-- The symbols that a symbol mentions are those with a name that its declaration mentions. -/
theorem mem_mentioned_iff (hs : s ∈ (build program).symbols) {j : Nat} :
    j ∈ mentioned program (build program) s.id ↔
      ∃ d, s.decl? program = some d ∧
        ∃ m ∈ (build program).symbols, m.name ∈ d.references ∧ m.id = j := by
  rw [mentioned, get?_id hs, Option.bind_some]
  cases hdecl : s.decl? program with
  | none => simp
  | some d => simp [lookup_eq_filter, and_assoc, and_left_comm]

/-- The numbers that a symbol keeps are those of the symbols that it keeps. -/
theorem mem_keeps_iff (hs : s ∈ (build program).symbols) {j : Nat} :
    j ∈ keeps program (build program) s.id ↔ ∃ m, Keeps program s m ∧ m.id = j := by
  rw [keeps, List.mem_append, mem_keptMethods_iff hs, mem_mentioned_iff hs]
  constructor
  · rintro (⟨htype, m, hmethod, hexported, hid⟩ | ⟨d, hdecl, m, hmem, hname, hid⟩)
    · exact ⟨m, .method htype hmethod hexported, hid⟩
    · exact ⟨m, .mention hdecl hmem hname, hid⟩
  · rintro ⟨m, hkeeps, hid⟩
    cases hkeeps with
    | method htype hmethod hexported => exact Or.inl ⟨htype, m, hmethod, hexported, hid⟩
    | @mention d hdecl hmem hname => exact Or.inr ⟨d, hdecl, m, hmem, hname, hid⟩

/-- Nothing but symbols is kept. -/
theorem lt_of_mem_keeps {i j : Nat} (h : j ∈ keeps program (build program) i) :
    j < (build program).symbols.length := by
  cases hget : (build program).get? i with
  | none => simp [keeps, keptMethods, mentioned, hget] at h
  | some s =>
    have hid : s.id = i := (id_of_getElem?_symbolsFrom hget).trans (Nat.zero_add i)
    obtain ⟨m, hkeeps, rfl⟩ := (mem_keeps_iff (List.mem_of_getElem? hget)).mp (hid ▸ h)
    exact id_lt_length hkeeps.mem_symbols

/-- Chains of numbers are chains of symbols. -/
theorem chain_iff {root : Symbol} (hroot : root ∈ (build program).symbols) {j : Nat} :
    Relation.ReflTransGen (fun i j => j ∈ keeps program (build program) i) root.id j ↔
      ∃ s ∈ (build program).symbols, Relation.ReflTransGen (Keeps program) root s ∧ s.id = j := by
  constructor
  · intro hchain
    induction hchain with
    | refl => exact ⟨root, hroot, .refl, rfl⟩
    | tail _ hstep ih =>
      obtain ⟨s, hs, hchain, rfl⟩ := ih
      obtain ⟨m, hkeeps, hid⟩ := (mem_keeps_iff hs).mp hstep
      exact ⟨m, hkeeps.mem_symbols, hchain.tail hkeeps, hid⟩
  · rintro ⟨s, -, hchain, rfl⟩
    induction hchain with
    | refl => exact .refl
    | @tail s m hchain hkeeps ih =>
      have hs : s ∈ (build program).symbols := by
        cases hchain with
        | refl => exact hroot
        | tail _ hlast => exact hlast.mem_symbols
      exact ih.tail ((mem_keeps_iff hs).mpr ⟨m, hkeeps, rfl⟩)

/-- The live symbols are those that a chain of uses leads to. -/
theorem mem_live_iff {exportedAreRoots : Bool} (hs : s ∈ (build program).symbols) :
    s.id ∈ live program (build program) exportedAreRoots ↔
      Reached program exportedAreRoots s := by
  have hstart : ∀ i ∈ ((build program).symbols.filter
      (isRoot program exportedAreRoots)).map (·.id), i < (build program).symbols.length := by
    intro i hi
    obtain ⟨root, hroot, rfl⟩ := List.mem_map.mp hi
    exact id_lt_length (List.mem_filter.mp hroot).1
  rw [live_eq_spread, mem_spread_iff hstart fun i j => lt_of_mem_keeps]
  constructor
  · rintro ⟨i, hi, hchain⟩
    obtain ⟨root, hroot, rfl⟩ := List.mem_map.mp hi
    obtain ⟨hmem, hentry⟩ := List.mem_filter.mp hroot
    obtain ⟨t, ht, hchain, hid⟩ := (chain_iff hmem).mp hchain
    rw [eq_of_id_eq ht hs hid] at hchain
    exact ⟨root, hmem, hentry, hchain⟩
  · rintro ⟨root, hmem, hentry, hchain⟩
    exact ⟨root.id, List.mem_map_of_mem (List.mem_filter.mpr ⟨hmem, hentry⟩),
      (chain_iff hmem).mpr ⟨s, hs, hchain, rfl⟩⟩

end Chains

/-! ## The report -/

/-- The symbol's package could not be read completely. -/
def Broken (program : Program) (s : Symbol) : Prop :=
  ∃ p ∈ program.packages, p.path = s.package ∧ p.hasErrors

/-- The report is about the symbol: it is in scope, and neither blank nor `init`. -/
structure Examined (program : Program) (scope : Scope) (s : Symbol) : Prop where
  /-- The symbol is in the index. -/
  mem : s ∈ (build program).symbols
  /-- Its package is in scope. -/
  inScope : scope.contains s.package
  /-- It is not blank. -/
  ne_blank : s.name ≠ "_"
  /-- It is no `init`. -/
  ne_init : s.name ≠ "init"

section Report

variable {program : Program} {exportedAreRoots : Bool} {scope : Scope} {s : Symbol}

/-- The symbols that a report is about, as a list. -/
theorem mem_examined_iff :
    s ∈ examined (build program) scope ↔ Examined program scope s := by
  rw [examined, List.mem_filter]
  simp only [Bool.and_eq_true, bne_iff_ne]
  constructor
  · rintro ⟨hmem, ⟨hscope, hblank⟩, hinit⟩
    exact ⟨hmem, hscope, hblank, hinit⟩
  · rintro ⟨hmem, hscope, hblank, hinit⟩
    exact ⟨hmem, ⟨hscope, hblank⟩, hinit⟩

/-- The three verdicts. A broken package goes first, so that nothing else is said about it. -/
theorem verdicts_cases (hs : s ∈ (build program).symbols) :
    (Broken program s ∧ verdicts program (build program) exportedAreRoots s =
      .unknown "package has syntax errors") ∨
    (¬Broken program s ∧ Reached program exportedAreRoots s ∧
      verdicts program (build program) exportedAreRoots s = .reachable) ∨
    (¬Broken program s ∧ ¬Reached program exportedAreRoots s ∧
      verdicts program (build program) exportedAreRoots s = .unreachable) := by
  have hbroken : (program.packages.any fun p => p.hasErrors && p.path == s.package) ↔
      Broken program s := by
    simp [Broken, and_comm]
  have hlive := @mem_live_iff program s exportedAreRoots hs
  rw [← List.contains_iff_mem] at hlive
  rw [← hbroken, ← hlive, verdicts, verdict]
  by_cases h : (program.packages.any fun p => p.hasErrors && p.path == s.package) = true
  · exact Or.inl ⟨h, if_pos h⟩
  · rw [if_neg h]
    by_cases hl : (live program (build program) exportedAreRoots).contains s.id = true
    · exact Or.inr (Or.inl ⟨h, hl, if_pos hl⟩)
    · exact Or.inr (Or.inr ⟨h, hl, if_neg hl⟩)

/-- The remarks are on the examined symbols of broken packages, in order, one on each. -/
theorem remarks_eq_map (program : Program) (exportedAreRoots : Bool) (scope : Scope) :
    (deadCode (build program) (verdicts program (build program) exportedAreRoots) scope).1 =
      ((examined (build program) scope).filter fun s =>
        verdicts program (build program) exportedAreRoots s ==
          .unknown "package has syntax errors").map fun s =>
        .unanalyzable s.address "package has syntax errors" := by
  rw [deadCode, ← List.filterMap_eq_map, List.filterMap_filter]
  refine List.filterMap_congr fun s hs => ?_
  rcases @verdicts_cases program exportedAreRoots s (mem_examined_iff.mp hs).mem with
    ⟨-, hverdict⟩ | ⟨-, -, hverdict⟩ | ⟨-, -, hverdict⟩ <;> simp [hverdict]

/-- An examined symbol has no verdict just where its package is broken. -/
theorem verdicts_eq_unknown_iff (hs : s ∈ (build program).symbols) :
    verdicts program (build program) exportedAreRoots s = .unknown "package has syntax errors" ↔
      Broken program s := by
  rcases @verdicts_cases program exportedAreRoots s hs with
    ⟨hbroken, hverdict⟩ | ⟨hbroken, -, hverdict⟩ | ⟨hbroken, -, hverdict⟩ <;>
    simp [hverdict, hbroken]

/-- A symbol is found dead just where its package is whole and no chain of uses leads to it. -/
theorem verdicts_eq_unreachable_iff (hs : s ∈ (build program).symbols) :
    verdicts program (build program) exportedAreRoots s = .unreachable ↔
      ¬Broken program s ∧ ¬Reached program exportedAreRoots s := by
  rcases @verdicts_cases program exportedAreRoots s hs with
    ⟨hbroken, hverdict⟩ | ⟨hbroken, hreached, hverdict⟩ | ⟨hbroken, hreached, hverdict⟩
  · simp [hverdict, hbroken]
  · simp [hverdict, hreached]
  · simp [hverdict, hbroken, hreached]

/-- No symbol is examined twice. -/
theorem nodup_examined (program : Program) (scope : Scope) :
    (examined (build program) scope).Nodup :=
  (nodup_symbols program).filter _

end Report

/-- Dead code is what no chain of uses leads to from an entry point. The search ends; the report
lists by increasing address, each once, the examined symbols of whole packages that are not
reached; and of the other examined symbols, each is reached or has a broken package. The symbols of
broken packages get one remark each. -/
theorem deadCode_lists_unreached_symbols (program : Program) (exportedAreRoots : Bool)
    (scope : Scope) :
    let index := build program
    let report := deadCode index (verdicts program index exportedAreRoots) scope
    (∃ turns, (Worklist.turn index.symbols.length (keeps program index))^[turns]
      ⟨[], (index.symbols.filter (isRoot program exportedAreRoots)).map (·.id)⟩ =
        ⟨live program index exportedAreRoots, []⟩) ∧
    report.2.Pairwise (fun s t => s.address ≤ t.address) ∧
    report.2.Nodup ∧
    (∀ s, s ∈ report.2 ↔
      Examined program scope s ∧ ¬Broken program s ∧ ¬Reached program exportedAreRoots s) ∧
    (∀ s, Examined program scope s → s ∉ report.2 →
      Reached program exportedAreRoots s ∨ Broken program s) ∧
    ∃ unclear : List Symbol, unclear.Nodup ∧
      (∀ s, s ∈ unclear ↔ Examined program scope s ∧ Broken program s) ∧
      report.1 = unclear.map fun s => .unanalyzable s.address "package has syntax errors" := by
  intro index report
  have hdead : ∀ s, s ∈ report.2 ↔
      Examined program scope s ∧ ¬Broken program s ∧ ¬Reached program exportedAreRoots s := by
    intro s
    refine (perm_sortOn _ _).mem_iff.trans ?_
    rw [List.mem_filter, mem_examined_iff, beq_iff_eq]
    exact and_congr_right fun hs => verdicts_eq_unreachable_iff hs.mem
  refine ⟨?_, pairwise_sortOn _ _, ?_, hdead, ?_, ?_⟩
  · rw [live_eq_spread]
    exact exists_turns _ _ _ _
  · exact (perm_sortOn _ _).nodup_iff.mpr ((nodup_examined program scope).filter _)
  · intro s hs hlisted
    rw [hdead] at hlisted
    by_contra hneither
    rw [not_or] at hneither
    exact hlisted ⟨hs, hneither.2, hneither.1⟩
  · refine ⟨_, (nodup_examined program scope).filter _, fun s => ?_,
      remarks_eq_map program exportedAreRoots scope⟩
    rw [List.mem_filter, mem_examined_iff, beq_iff_eq]
    exact and_congr_right fun hs => verdicts_eq_unknown_iff hs.mem

end GoAddress.Reachability
