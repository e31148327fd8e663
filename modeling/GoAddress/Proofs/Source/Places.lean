import GoAddress.Proofs.Source.Readings
import GoAddress.Text.Slice

/-!
# Places between characters

Every place that comes up while a text is read lies between two of its characters: reading starts
there and moves on by whole characters, and trees start and end where something was read. Main
statement: the trees that a text is read as start and end between characters of the text, with all
their parts.
-/

namespace GoAddress.Source

variable {code : List Char}

/-- A place between the characters of a text, at its start or at its end. -/
def Pos.In (code : List Char) (p : Pos) : Prop :=
  ∃ before, before <+: code ∧ (String.ofList before).utf8ByteSize = p.byte

/-- A cursor between the characters of a text; what it has left to read follows there. -/
def Cursor.In (code : List Char) (c : Cursor) : Prop :=
  ∃ before, before ++ c.rest <+: code ∧ (String.ofList before).utf8ByteSize = c.pos.byte

/-- A place between characters can be cut at. -/
theorem Pos.In.isBoundary {code : String} {p : Pos} (h : p.In code.toList) :
    Text.isBoundary code p.byte = true := by
  obtain ⟨before, ⟨after, hcode⟩, hbyte⟩ := h
  refine Text.isBoundary_iff.mpr ⟨String.ofList before, String.ofList after, ?_, hbyte⟩
  rw [← String.ofList_append, hcode, String.ofList_toList]

namespace Cursor

/-- The place of a cursor between characters. -/
theorem In.pos {c : Cursor} (h : c.In code) : c.pos.In code := by
  obtain ⟨before, hcode, hbyte⟩ := h
  exact ⟨before, (List.prefix_append _ _).trans hcode, hbyte⟩

/-- A cursor moves on by a whole character. -/
theorem In.advance {pos : Pos} {c : Char} {rest : List Char} (h : In code ⟨pos, c :: rest⟩) :
    In code ⟨pos.advance c, rest⟩ := by
  obtain ⟨before, hcode, hbyte⟩ := h
  refine ⟨before ++ [c], by simpa using hcode, ?_⟩
  rw [String.ofList_append, String.utf8ByteSize_append, hbyte, Pos.advance]
  simp

/-- Moving behind characters leads between characters. -/
theorem In.skipFrom {pos : Pos} {rest : List Char} (h : In code ⟨pos, rest⟩) (count : Nat) :
    In code (skipFrom pos count rest) := by
  fun_induction Cursor.skipFrom pos count rest with
  | case1 => exact h
  | case2 => exact h
  | case3 pos count c rest ih => exact ih h.advance

/-- The cursor at the start of a text. -/
theorem in_ofText (code : List Char) : (ofText code).In code := by
  have hstart : In code ⟨{}, code⟩ := ⟨[], by simp, rfl⟩
  unfold ofText
  split
  · split
    · exact hstart.advance
    · exact hstart
  · exact hstart

end Cursor

/-- Skipping separators leads between characters. -/
theorem Cursor.In.skipSeparators (lineBreaks : Bool) {pos : Pos} {rest : List Char}
    (h : Cursor.In code ⟨pos, rest⟩) : Cursor.In code (skipSeparators lineBreaks pos rest) := by
  fun_induction Source.skipSeparators lineBreaks pos rest with
  | case1 => exact h
  | case2 pos c rest _ ih => exact ih h.advance
  | case3 => exact h

/-- The next token starts and ends between characters. -/
theorem in_of_lex? {valid : Grammar.TokenSet} {c : Cursor} (hc : c.In code) {lexeme : Lexeme}
    (h : lex? valid c = some lexeme) : lexeme.start.In code ∧ lexeme.stop.In code := by
  have hlexeme : ∀ {c : Cursor} (token length), c.In code →
      (c.lexeme token length).start.In code ∧ (c.lexeme token length).stop.In code :=
    fun _ length hc => ⟨hc.pos, hc.skipFrom length⟩
  obtain ⟨token, length, rfl | rfl⟩ := exists_lexeme_of_lex? h
  · exact hlexeme token length hc
  · exact hlexeme token length (hc.skipSeparators _)

/-- A tree that starts and ends between the characters of a text, as do its parts. -/
inductive Tree.Inside (code : List Char) : Tree → Prop
  | leaf {token : Grammar.Token} {start : Pos} {stop : Cursor} (hstart : start.In code)
      (hstop : stop.In code) : Inside code (.leaf token start stop)
  | node {production : Nat} {start : Pos} {stop : Cursor} {weight : Int} {parts : List Tree}
      (hstart : start.In code) (hstop : stop.In code) (hparts : ∀ part ∈ parts, Inside code part) :
      Inside code (.node production start stop weight parts)

namespace Tree

/-- A tree inside a text starts between characters. -/
theorem Inside.start_in {tree : Tree} (h : tree.Inside code) : tree.start.In code := by
  cases h with
  | leaf hstart _ => exact hstart
  | node hstart _ _ => exact hstart

/-- A tree inside a text ends between characters. -/
theorem Inside.stop_in {tree : Tree} (h : tree.Inside code) : tree.stop.In code := by
  cases h with
  | leaf _ hstop => exact hstop
  | node _ hstop _ => exact hstop

/-- The use of a production for trees inside a text is inside the text. -/
theorem inside_ofParts {production : Nat} {before : Cursor} {parts : List Tree}
    (hbefore : before.In code) (hparts : ∀ part ∈ parts, part.Inside code) :
    (ofParts production before parts).Inside code := by
  refine .node ?_ ?_ hparts
  · cases hhead : parts.head? with
    | none => exact hbefore.pos
    | some part => exact (hparts part (List.mem_of_head? hhead)).start_in
  · cases hlast : parts.getLast? with
    | none => exact hbefore
    | some part => exact (hparts part (List.mem_of_getLast? hlast)).stop_in

end Tree

/-- A frame between the characters of a text whose ways down lead over trees inside the text. -/
structure Frame.Inside (code : List Char) (f : Frame) : Prop where
  /-- The frame stands between characters. -/
  cursor : f.cursor.In code
  /-- The trees on the ways down are inside the text. -/
  links : ∀ l ∈ f.links, l.tree.Inside code

namespace Stack

variable {α β : Type} {s t : Stack}

/-- A stack all of whose frames and trees are inside a text. -/
structure Inside (code : List Char) (s : Stack) : Prop where
  /-- The frames are inside the text. -/
  frames : ∀ n, (s.frame n).Inside code
  /-- The trees of the whole text are inside it. -/
  finished : ∀ trees ∈ s.finished, ∀ tree ∈ trees, tree.Inside code

/-- A stack with the frames and trees of another is inside the text if that is. -/
theorem Inside.of_frames (h : s.Inside code) (hframes : t.frames = s.frames)
    (hfinished : t.finished = s.finished) : t.Inside code where
  frames n := by
    rw [frame, hframes]
    exact h.frames n
  finished := by
    rw [hfinished]
    exact h.finished

/-- A frame inside the text is put in. -/
theorem Inside.withFrame (h : s.Inside code) (n : Nat) {f : Frame} (hf : f.Inside code) :
    (s.withFrame n f).Inside code where
  frames m := by
    rw [frame_withFrame]
    split
    · exact hf
    · exact h.frames m
  finished := h.finished

/-- An action that does not leave the text. -/
def Stays (code : List Char) (x : StateM Stack α) : Prop :=
  ∀ s : Stack, s.Inside code → Leads x s fun _ t => t.Inside code

/-- An answer without an action does not leave the text. -/
theorem stays_pure (a : α) : Stays code (pure a) := fun _ hs => hs

/-- One action after another. -/
theorem Stays.bind {x : StateM Stack α} {f : α → StateM Stack β} (hx : Stays code x)
    (hf : ∀ a, Stays code (f a)) : Stays code (x >>= f) := fun s hs => by
  rw [leads_bind]
  exact (hx s hs).mono fun a t ht => hf a t ht

/-- What is looked up on the stack is inside the text. -/
theorem stays_get_bind {f : Stack → StateM Stack α}
    (hf : ∀ s : Stack, s.Inside code → Stays code (f s)) : Stays code (get >>= f) := fun s hs => by
  rw [leads_bind, leads_get]
  exact hf s hs s hs

/-- Changing the stack. -/
theorem stays_modify {change : Stack → Stack}
    (hchange : ∀ s : Stack, s.Inside code → (change s).Inside code) :
    Stays code (modify change) := fun s hs => hchange s hs

/-- A loop does not leave the text if no turn does. -/
theorem stays_forIn {xs : List α} {f : α → β → StateM Stack (ForInStep β)}
    (hturn : ∀ x ∈ xs, ∀ b, Stays code (f x b)) (b : β) : Stays code (forIn xs b f) := by
  induction xs generalizing b with
  | nil => exact stays_pure b
  | cons x xs ih =>
    rw [List.forIn_cons]
    refine (hturn x List.mem_cons_self b).bind fun r => ?_
    cases r with
    | done b => exact stays_pure b
    | yield b => exact ih (fun y hy => hturn y (List.mem_cons_of_mem x hy)) b

/-- What actions on the members of a list do not leave. -/
theorem stays_filterMapM {f : α → StateM Stack (Option β)} (hf : ∀ a, Stays code (f a))
    (xs : List α) : Stays code (xs.filterMapM f) := by
  induction xs with
  | nil => exact stays_pure []
  | cons x xs ih =>
    rw [List.filterMapM_cons]
    refine (hf x).bind fun found => ?_
    cases found with
    | none => exact ih
    | some b => exact ih.bind fun bs => stays_pure (b :: bs)

/-- Using the automaton does not leave the text. -/
theorem stays_withAutomaton (use : StateM Grammar.Automaton α) :
    Stays code (withAutomaton use) := fun s hs =>
  (alike_withAutomaton s use).mono fun _ _ ht => hs.of_frames ht.frames ht.finished

/-- A frame is put over another one with a tree inside the text between them. -/
theorem stays_push (below state : Nat) {tree : Tree} (htree : tree.Inside code) :
    Stays code (push below state tree) := fun s hs => by
  refine hs.withFrame _ ⟨htree.stop_in, fun l hl => ?_⟩
  rw [List.mem_singleton.mp hl]
  exact htree

/-- Changing a frame within the text. -/
theorem stays_modifyFrame (n : Nat) {change : Frame → Frame}
    (hchange : ∀ f : Frame, f.Inside code → (change f).Inside code) :
    Stays code (modifyFrame n change) := fun _ hs => hs.withFrame n (hchange _ (hs.frames n))

/-- Changing readings does not leave the text. -/
theorem stays_modifyVersions (versions : Stack → List Version) :
    Stays code (modify fun s => { s with versions := versions s }) :=
  stays_modify fun _ hs => hs.of_frames rfl rfl

/-- Joining frames does not leave the text. -/
theorem stays_join? (m n : Nat) : Stays code (join? m n) := fun s hs =>
  (alike_join? s m n).mono fun _ _ ht => hs.of_frames ht.1.frames ht.1.finished

/-- Looking for a way down to join with does not leave the text. -/
theorem stays_joinable? (tree : Tree) (below position : Nat) (links : List Link) :
    Stays code (joinable? tree below position links) := fun s hs =>
  (alike_joinable? s tree below position links).mono fun _ _ ht =>
    hs.of_frames ht.1.frames ht.1.finished

/-- Adding a way down over a tree inside the text. -/
theorem stays_addLink (fuel n : Nat) {l : Link} (hl : l.tree.Inside code) :
    Stays code (addLink fuel n l) := by
  induction fuel generalizing n l with
  | zero => exact stays_pure ()
  | succ fuel ih =>
    obtain ⟨tree, below⟩ := l
    rw [addLink]
    split
    · exact stays_pure ()
    refine stays_get_bind fun s hs => ?_
    dsimp only
    refine (stays_joinable? tree below 0 _).bind fun found => ?_
    obtain _ | ⟨position, link, _ | state⟩ := found
    · dsimp only
      split
      · refine stays_modifyFrame n fun f hf => ⟨hf.cursor, fun l hmem => ?_⟩
        rcases List.mem_append.mp hmem with hmem | hmem
        · exact hf.links l hmem
        · rw [List.mem_singleton.mp hmem]
          exact hl
      · exact stays_pure ()
    · dsimp only
      split
      · refine stays_modifyFrame n fun f hf => ⟨hf.cursor, fun l hmem => ?_⟩
        rcases List.mem_or_eq_of_mem_set hmem with hmem | rfl
        · exact hf.links l hmem
        · exact hl
      · exact stays_pure ()
    · refine Stays.bind (stays_modifyFrame _ fun f hf => ?_) fun _ => ?_
      · exact ⟨hf.cursor, hf.links⟩
      refine (stays_forIn (fun l hmem _ => ?_) _).bind fun _ => ?_
      · exact (ih link.below ((hs.frames below).links l hmem)).bind fun _ => stays_pure _
      · exact stays_modifyFrame n fun f hf => ⟨hf.cursor, hf.links⟩

/-- Joining one reading into another does not leave the text. -/
theorem stays_merge (a b : Version) : Stays code (merge a b) := by
  rw [merge]
  split
  · refine (stays_join? a.top b.top).bind fun state? => ?_
    cases state? with
    | none => exact stays_pure false
    | some state =>
      refine Stays.bind (stays_modifyFrame _ fun f hf => ?_) fun _ => ?_
      · exact ⟨hf.cursor, hf.links⟩
      refine stays_get_bind fun s hs => ?_
      refine (stays_forIn (fun l hmem _ => ?_) _).bind fun _ => stays_pure true
      exact (stays_addLink _ _ ((hs.frames b.top).links l hmem)).bind fun _ => stays_pure _
  · exact stays_pure false

/-- Joining a reading into one of others does not leave the text. -/
theorem stays_mergeInto (version : Version) (others : List Version) :
    Stays code (mergeInto version others) := by
  induction others with
  | nil => exact stays_pure false
  | cons other others ih =>
    rw [mergeInto]
    refine (stays_merge other version).bind fun merged => ?_
    split
    · exact stays_pure true
    · exact ih

/-- The trees on a path down the stack are inside the text. -/
theorem Inside.trees_of_mem_pathsDown (h : s.Inside code) {length fuel n : Nat} {p : Path}
    (hp : p ∈ s.pathsDown length fuel [{ frame := n }]) : ∀ tree ∈ p.trees, tree.Inside code := by
  refine @forall_pathsDown s (fun p => ∀ tree ∈ p.trees, tree.Inside code) ?_ length fuel
    [{ frame := n }] (fun q hq => ?_) p hp
  · intro q hq l hl
    exact List.forall_mem_cons.mpr ⟨(h.frames q.frame).links l hl, hq⟩
  · rw [List.mem_singleton.mp hq]
    simp

/-- The trees of a whole path are inside the text. -/
theorem Inside.trees_of_mem_wholePaths (h : s.Inside code) {fuel n : Nat} {above trees : List Tree}
    (habove : ∀ tree ∈ above, tree.Inside code) (hmem : trees ∈ s.wholePaths fuel n above) :
    ∀ tree ∈ trees, tree.Inside code := by
  induction fuel generalizing n above with
  | zero => simp [wholePaths] at hmem
  | succ fuel ih =>
    rw [wholePaths] at hmem
    split at hmem
    · rw [List.mem_singleton.mp hmem]
      exact habove
    · obtain ⟨l, hl, hmem⟩ := List.mem_flatMap.mp hmem
      exact ih (List.forall_mem_cons.mpr ⟨(h.frames n).links l hl, habove⟩) hmem

/-- The use of a production for trees inside the text, and the comments behind it. -/
theorem inside_usePath {production : Nat} {before : Cursor} {trees : List Tree}
    (hbefore : before.In code) (htrees : ∀ tree ∈ trees, tree.Inside code) :
    (usePath production before trees).1.Inside code ∧
      ∀ comment ∈ (usePath production before trees).2, comment.Inside code := by
  rw [← splitComments_append trees, List.forall_mem_append] at htrees
  exact ⟨Tree.inside_ofParts hbefore htrees.1, htrees.2⟩

/-- Following the use of a production down to one frame does not leave the text. -/
theorem stays_reduceTo (v production base : Nat) {paths : List Path}
    (hpaths : ∀ p ∈ paths, ∀ tree ∈ p.trees, tree.Inside code) :
    Stays code (reduceTo v production base paths) := by
  rw [reduceTo]
  refine stays_get_bind fun s hs => ?_
  dsimp only
  split
  · exact stays_pure ()
  split
  · exact stays_pure ()
  · next first others hfirst =>
    have hbest := Tree.best_mem first others
    rw [← hfirst] at hbest
    obtain ⟨p, hp, hpath⟩ := List.mem_map.mp hbest
    have hused := @inside_usePath code production _ _ (hs.frames base).cursor (hpaths p hp)
    rw [hpath] at hused
    obtain ⟨htree, hcomments⟩ := hused
    refine (stays_withAutomaton _).bind fun state => ?_
    refine (stays_push base state htree).bind fun top => ?_
    refine (stays_forIn (fun comment hmem top => ?_) _).bind fun top => ?_
    · exact (stays_push top state (hcomments comment hmem)).bind fun _ => stays_pure _
    · refine (stays_mergeInto _ _).bind fun merged => ?_
      split
      · exact stays_pure ()
      · exact stays_modifyVersions _

/-- Using a production does not leave the text. -/
theorem stays_reduce (v production : Nat) : Stays code (reduce v production) := by
  rw [reduce]
  refine stays_get_bind fun s hs => ?_
  dsimp only
  refine (stays_forIn ?_ _).bind fun _ => ?_
  · rintro ⟨base, paths⟩ hgroup _
    refine (stays_reduceTo v production base fun p hp => ?_).bind fun _ => stays_pure _
    exact hs.trees_of_mem_pathsDown (mem_groupByFrame hgroup hp).1
  · exact stays_get_bind fun t _ => stays_pure _

/-- Setting the status of a reading does not leave the text. -/
theorem stays_setStatus (v : Nat) (status : Status) : Stays code (setStatus v status) :=
  stays_modifyVersions _

/-- Taking the whole text as read does not leave it. -/
theorem stays_accept (v : Nat) : Stays code (accept v) := by
  rw [accept]
  refine stays_get_bind fun s hs => ?_
  refine (stays_forIn (fun trees hmem _ => ?_) _).bind fun _ => stays_setStatus v _
  have htrees := hs.trees_of_mem_wholePaths (by simp) hmem
  refine Stays.bind (stays_modify fun t ht => ?_) fun _ => stays_pure _
  refine ⟨ht.frames, fun kept hkept => ?_⟩
  dsimp only at hkept
  split at hkept
  · cases hkept
    exact htrees
  · next found hfound =>
    split at hkept
    · cases hkept
      exact htrees
    · cases hkept
      exact ht.finished _ hfound

/-- A tree inside the text is put on top of a reading. -/
theorem stays_shift (v state : Nat) {tree : Tree} (htree : tree.Inside code) :
    Stays code (shift v state tree) := by
  rw [shift]
  refine stays_get_bind fun s _ => ?_
  exact (stays_push _ state htree).bind fun top => stays_modifyVersions _

/-- Doing with a token inside the text what a reading says does not leave the text. -/
theorem stays_consume (fuel v : Nat) {lexeme : Lexeme} (hstart : lexeme.start.In code)
    (hstop : lexeme.stop.In code) : Stays code (consume fuel v lexeme) := by
  induction fuel with
  | zero => exact stays_setStatus v _
  | succ fuel ih =>
    rw [consume]
    refine stays_get_bind fun s _ => ?_
    dsimp only
    split
    · exact stays_accept v
    refine (stays_filterMapM (stays_reduce v) _).bind fun created => ?_
    split
    · exact (stays_withAutomaton _).bind fun state => stays_shift v state (.leaf hstart hstop)
    · split
      · exact (stays_modifyVersions _).bind fun _ => ih
      · exact stays_setStatus v _

/-- Reading the next token does not leave the text. -/
theorem stays_advance (v : Nat) : Stays code (advance v) := by
  rw [advance]
  refine stays_get_bind fun s hs => ?_
  dsimp only
  split
  · exact stays_setStatus v _
  · next lexeme hlexeme =>
    obtain ⟨hstart, hstop⟩ := in_of_lex? (hs.frames _).cursor hlexeme
    split
    · exact stays_shift v _ (.leaf hstart hstop)
    · exact stays_consume _ v hstart hstop

/-- A reading that goes on does not leave the text. -/
theorem stays_runVersion (v fuel last : Nat) : Stays code (runVersion v fuel last) := by
  induction fuel with
  | zero => exact stays_pure last
  | succ fuel ih =>
    rw [runVersion]
    refine stays_get_bind fun s _ => ?_
    split
    · refine (stays_advance v).bind fun _ => stays_get_bind fun t _ => ?_
      dsimp only
      split
      · exact stays_pure last
      · split
        · exact stays_pure _
        · exact ih
    · exact stays_pure last

/-- Readings that take their turn do not leave the text. -/
theorem stays_runVersions (length fuel v last : Nat) :
    Stays code (runVersions length fuel v last) := by
  induction fuel generalizing v last with
  | zero => exact stays_pure last
  | succ fuel ih =>
    rw [runVersions]
    refine stays_get_bind fun s _ => ?_
    split
    · exact (stays_runVersion v length last).bind fun last => ih (v + 1) last
    · exact stays_pure last

/-- Adding a reading to others does not leave the text. -/
theorem stays_keep (version : Version) (others : List Version) :
    Stays code (keep version others) := by
  induction others generalizing version with
  | nil => exact stays_pure _
  | cons other others ih =>
    rw [keep]
    refine stays_get_bind fun s _ => ?_
    dsimp only
    split
    · exact stays_pure _
    · split
      · exact ih version
      · refine (stays_merge other version).bind fun merged => ?_
        split
        · exact stays_pure _
        · split
          · exact (ih other).bind fun _ => stays_pure _
          · exact (ih version).bind fun _ => stays_pure _

/-- Putting the readings in order does not leave the text. -/
theorem stays_condense : Stays code condense := by
  rw [condense]
  refine stays_get_bind fun s _ => ?_
  refine (stays_forIn (fun version _ kept => ?_) _).bind fun _ => stays_modifyVersions _
  exact (stays_keep version kept).bind fun _ => stays_pure _

/-- Reading on does not leave the text. -/
theorem stays_run (length fuel last : Nat) : Stays code (run length fuel last) := by
  induction fuel generalizing last with
  | zero => exact stays_pure ()
  | succ fuel ih =>
    rw [run]
    refine stays_get_bind fun s _ => ?_
    split
    · exact stays_pure ()
    · refine (stays_runVersions length 1000 0 last).bind fun last => ?_
      refine stays_condense.bind fun _ => ?_
      have hnote : Stays code noteComplete := stays_modify fun _ hs => hs.of_frames rfl rfl
      exact hnote.bind fun _ => ih last

/-- An empty stack is inside every text. -/
theorem inside_empty (code : List Char) : ({} : Stack).Inside code where
  frames n := ⟨⟨[], List.nil_prefix, rfl⟩, by simp [frame]⟩
  finished := by simp

end Stack

/-- The trees that a text is read as are inside the text. -/
theorem inside_of_read {trees : List Tree} (h : (read code).finished = some trees) :
    ∀ tree ∈ trees, tree.Inside code := by
  have hread : (read code).Inside code := by
    rw [read]
    refine Stack.Leads.madeBy (fun t => t.Inside code) ?_
    have hempty := Stack.inside_empty code
    refine Stack.Stays.bind (Stack.stays_withAutomaton _) (fun state => ?_) {} hempty
    refine (Stack.stays_modify fun s hs => ?_).bind fun _ => Stack.stays_run _ _ _
    have hbottom : Frame.Inside code { state, cursor := Cursor.ofText code } :=
      ⟨Cursor.in_ofText code, by simp⟩
    exact (hs.withFrame 0 hbottom).of_frames rfl rfl
  exact hread.finished trees h

end GoAddress.Source
