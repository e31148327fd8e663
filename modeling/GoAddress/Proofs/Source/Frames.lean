import GoAddress.Proofs.Source.Trees

/-!
# Frames in order

While a text is read, every way down from a frame leads over a tree that ends at the frame and starts
behind the frame below. This module says what an action on the stack leads to, and that putting
frames on the stack, adding ways down and joining readings keep all ways down in order.
-/

namespace GoAddress.Source

namespace Stack

variable {α β : Type} {s t u : Stack}

/-- What an action on a stack answers and leaves behind. -/
def Leads (x : StateM Stack α) (s : Stack) (post : α → Stack → Prop) : Prop :=
  post (x s).1 (x s).2

/-- One action after another. -/
theorem leads_bind {x : StateM Stack α} {f : α → StateM Stack β} {post : β → Stack → Prop} :
    Leads (x >>= f) s post ↔ Leads x s fun a t => Leads (f a) t post := Iff.rfl

/-- An answer without an action. -/
theorem leads_pure {a : α} {post : α → Stack → Prop} : Leads (pure a) s post ↔ post a s := Iff.rfl

/-- Looking at the stack. -/
theorem leads_get {post : Stack → Stack → Prop} : Leads get s post ↔ post s s := Iff.rfl

/-- Changing the stack. -/
theorem leads_modify {change : Stack → Stack} {post : Unit → Stack → Prop} :
    Leads (modify change) s post ↔ post () (change s) := Iff.rfl

/-- An action leads to whatever follows from what it leads to. -/
theorem Leads.mono {x : StateM Stack α} {post post' : α → Stack → Prop} (h : Leads x s post)
    (hpost : ∀ a t, post a t → post' a t) : Leads x s post' := hpost _ _ h

/-- What an action leads to out of nothing holds of the stack that it makes. -/
theorem Leads.madeBy {x : StateM Stack Unit} (post : Stack → Prop)
    (h : Leads x {} fun _ t => post t) : post (madeBy x) := h

/-- A loop keeps what every turn keeps. -/
theorem Leads.forIn {xs : List α} {f : α → β → StateM Stack (ForInStep β)} {b : β}
    (kept : β → Stack → Prop) (hkept : kept b s)
    (hturn : ∀ x ∈ xs, ∀ b t, kept b t →
      Leads (f x b) t fun r u => ∃ b', r = .yield b' ∧ kept b' u) :
    Leads (forIn xs b f) s kept := by
  induction xs generalizing b s with
  | nil => exact hkept
  | cons x xs ih =>
    rw [List.forIn_cons, leads_bind]
    refine (hturn x List.mem_cons_self b s hkept).mono ?_
    rintro r t ⟨b', rfl, hb⟩
    exact ih hb fun y hy => hturn y (List.mem_cons_of_mem x hy)

/-- The byte at which a frame stands. -/
def byteAt (s : Stack) (n : Nat) : Nat :=
  (s.frame n).cursor.pos.byte

/-- A way down that fits a frame at a byte: its tree ends there and starts behind the frame below. -/
structure Fits (s : Stack) (l : Link) (byte : Nat) : Prop where
  /-- The frame below exists. -/
  below : l.below < s.frames.size
  /-- The tree starts behind the frame below. -/
  start : s.byteAt l.below ≤ l.tree.start.byte
  /-- The tree is in order. -/
  tree : l.tree.InOrder
  /-- The tree ends at the frame. -/
  stop : l.tree.stop.pos.byte = byte

/-- A stack all of whose ways down fit. -/
structure Sound (s : Stack) : Prop where
  /-- The frames are numbered in a row. -/
  numbered : ∀ n, n ∈ s.frames ↔ n < s.frames.size
  /-- The ways down from a frame fit it. -/
  links : ∀ n, ∀ l ∈ (s.frame n).links, s.Fits l (s.byteAt n)

/-- The second stack is sound and keeps the frames of the first where they are. -/
structure Extends (s t : Stack) : Prop where
  /-- The stack is sound. -/
  sound : t.Sound
  /-- No frame is lost. -/
  size_le : s.frames.size ≤ t.frames.size
  /-- Frames stay where they are. -/
  byteAt : ∀ n < s.frames.size, t.byteAt n = s.byteAt n
  /-- What was read as a whole is kept. -/
  finished : t.finished = s.finished

/-- The second stack has the readings of the first, with their frames and perhaps more. -/
structure Grows (s t : Stack) : Prop extends Extends s t where
  /-- The readings are the same. -/
  versions : t.versions = s.versions

/-- A stack extends itself. -/
theorem Grows.refl (h : s.Sound) : s.Grows s :=
  { sound := h, size_le := le_rfl, byteAt := fun _ _ => rfl, finished := rfl, versions := rfl }

/-- Extensions can be extended. -/
theorem Extends.trans (h : s.Extends t) (h' : t.Extends u) : s.Extends u where
  sound := h'.sound
  size_le := h.size_le.trans h'.size_le
  byteAt n hn := (h'.byteAt n (hn.trans_le h.size_le)).trans (h.byteAt n hn)
  finished := h'.finished.trans h.finished

/-- Growth can go on. -/
theorem Grows.trans (h : s.Grows t) (h' : t.Grows u) : s.Grows u :=
  { h.toExtends.trans h'.toExtends with versions := h'.versions.trans h.versions }

/-- A way down that fits goes on to fit. -/
theorem Fits.mono {l : Link} {byte : Nat} (h : s.Fits l byte) (hextends : s.Extends t) :
    t.Fits l byte where
  below := h.below.trans_le hextends.size_le
  start := by
    rw [hextends.byteAt l.below h.below]
    exact h.start
  tree := h.tree
  stop := h.stop

/-- Stacks with the same frames have them at the same places. -/
theorem byteAt_of_frames (hframes : t.frames = s.frames) (n : Nat) : t.byteAt n = s.byteAt n := by
  rw [byteAt, byteAt, frame, frame, hframes]

/-- A stack with the frames of a sound one is sound. -/
theorem Sound.of_frames (h : s.Sound) (hframes : t.frames = s.frames) : t.Sound := by
  refine ⟨by rw [hframes]; exact h.numbered, fun n l hl => ?_⟩
  rw [frame, hframes] at hl
  obtain ⟨hbelow, hstart, htree, hstop⟩ := h.links n l hl
  have hbyte := byteAt_of_frames hframes
  exact ⟨by rwa [hframes], by rwa [hbyte], htree, by rwa [hbyte]⟩

/-- A stack with the frames of an extension is one. -/
theorem Extends.of_frames (h : s.Extends t) (hframes : u.frames = t.frames)
    (hfinished : u.finished = t.finished) : s.Extends u where
  sound := h.sound.of_frames hframes
  size_le := by rw [hframes]; exact h.size_le
  byteAt n hn := (byteAt_of_frames hframes n).trans (h.byteAt n hn)
  finished := hfinished.trans h.finished

/-- The stacks differ in the automaton at most. -/
structure Alike (s t : Stack) : Prop where
  /-- The frames are the same. -/
  frames : t.frames = s.frames
  /-- The readings are the same. -/
  versions : t.versions = s.versions
  /-- What was read as a whole is the same. -/
  finished : t.finished = s.finished

/-- Frames of stacks that are alike stand at the same place. -/
theorem Alike.byteAt (h : s.Alike t) (n : Nat) : t.byteAt n = s.byteAt n :=
  byteAt_of_frames h.frames n

/-- A stack that is like a sound one is as good. -/
theorem Alike.grows (h : s.Alike t) (hs : s.Sound) : s.Grows t :=
  { (Grows.refl hs).toExtends.of_frames h.frames h.finished with versions := h.versions }

/-- The stack with a frame put at a number. -/
def withFrame (s : Stack) (n : Nat) (f : Frame) : Stack :=
  { s with frames := s.frames.insert n f }

/-- The frames after one is put in. -/
theorem frame_withFrame (s : Stack) (n m : Nat) (f : Frame) :
    (s.withFrame n f).frame m = if n = m then f else s.frame m := by
  simp only [withFrame, frame, Std.TreeMap.getElem?_insert, compare_eq_iff_eq]
  split <;> rfl

/-- A frame that fits is put in at the end, or in place of one at the same byte. -/
theorem grows_withFrame (h : s.Sound) {n : Nat} {f : Frame} (hn : n ≤ s.frames.size)
    (hbyte : n < s.frames.size → f.cursor.pos.byte = s.byteAt n)
    (hlinks : ∀ l ∈ f.links, s.Fits l f.cursor.pos.byte) :
    s.Grows (s.withFrame n f) ∧ n < (s.withFrame n f).frames.size ∧
      (s.withFrame n f).byteAt n = f.cursor.pos.byte := by
  have hsize : (s.withFrame n f).frames.size = max s.frames.size (n + 1) := by
    have hmem : n ∈ s.frames ↔ n < s.frames.size := h.numbered n
    simp only [withFrame, Std.TreeMap.size_insert, Std.TreeMap.contains_iff_mem, hmem]
    split <;> omega
  have hsame : ∀ m < s.frames.size, (s.withFrame n f).byteAt m = s.byteAt m := by
    intro m hm
    rw [Stack.byteAt, frame_withFrame]
    split
    · next heq => exact heq ▸ hbyte (heq ▸ hm)
    · rfl
  have hfits : ∀ {l : Link} {byte : Nat}, s.Fits l byte → (s.withFrame n f).Fits l byte := by
    rintro l byte ⟨hbelow, hstart, htree, hstop⟩
    exact ⟨by omega, by rwa [hsame l.below hbelow], htree, hstop⟩
  have hput : (s.withFrame n f).byteAt n = f.cursor.pos.byte := by
    rw [Stack.byteAt, frame_withFrame, if_pos rfl]
  refine ⟨{ sound := ⟨?_, ?_⟩, size_le := by omega, byteAt := hsame, finished := rfl,
            versions := rfl }, by omega, hput⟩
  · intro m
    rw [hsize, withFrame, Std.TreeMap.mem_insert, compare_eq_iff_eq, h.numbered]
    omega
  · intro m l hl
    rw [Stack.byteAt, frame_withFrame] at *
    split
    · next heq =>
      rw [if_pos heq] at hl
      exact hfits (hlinks l hl)
    · next hne =>
      rw [if_neg hne] at hl
      exact hfits (h.links m l hl)

/-- Changing the ways down of a frame so that they fit keeps a stack sound. -/
theorem grows_modifyFrame (h : s.Sound) {n : Nat} (hn : n < s.frames.size) {change : Frame → Frame}
    (hcursor : (change (s.frame n)).cursor = (s.frame n).cursor)
    (hlinks : ∀ l ∈ (change (s.frame n)).links, s.Fits l (s.byteAt n)) :
    Leads (modifyFrame n change) s fun _ t => s.Grows t := by
  have hbyte : (change (s.frame n)).cursor.pos.byte = s.byteAt n := by rw [hcursor, Stack.byteAt]
  exact (grows_withFrame h hn.le (fun _ => hbyte) (by rwa [hbyte])).1

/-- A frame is put over another one with a tree between them. -/
theorem grows_push (h : s.Sound) {below state : Nat} {tree : Tree} (hbelow : below < s.frames.size)
    (hstart : s.byteAt below ≤ tree.start.byte) (htree : tree.InOrder) :
    Leads (push below state tree) s fun n t =>
      s.Grows t ∧ n < t.frames.size ∧ t.byteAt n = tree.stop.pos.byte := by
  refine grows_withFrame h le_rfl (fun hlt => absurd hlt (lt_irrefl _)) ?_
  intro l hl
  rw [List.mem_singleton.mp hl]
  exact ⟨hbelow, hstart, htree, rfl⟩

/-- Using the automaton leaves the frames and the readings as they are. -/
theorem alike_withAutomaton (s : Stack) (use : StateM Grammar.Automaton α) :
    Leads (withAutomaton use) s fun _ t => s.Alike t :=
  ⟨rfl, rfl, rfl⟩

/-- Frames are joined only at the same place. -/
theorem alike_join? (s : Stack) (m n : Nat) :
    Leads (join? m n) s fun state? t => s.Alike t ∧ (state? ≠ none → s.byteAt m = s.byteAt n) := by
  rw [join?, leads_bind, leads_get]
  split
  · next heq => exact (alike_withAutomaton s _).mono fun state? t ht => ⟨ht, fun _ => heq⟩
  · exact ⟨⟨rfl, rfl, rfl⟩, fun hne => absurd rfl hne⟩

/-- A way down that can be joined with another is one of those looked at, and leads to the same
place. -/
theorem alike_joinable? (s : Stack) (tree : Tree) (below position : Nat) (links : List Link) :
    Leads (joinable? tree below position links) s fun found t => s.Alike t ∧
      ∀ x ∈ found, x.2.1 ∈ links ∧ s.byteAt x.2.1.below = s.byteAt below := by
  induction links generalizing s position with
  | nil =>
    refine ⟨⟨rfl, rfl, rfl⟩, fun x hx => ?_⟩
    cases hx
  | cons link links ih =>
    -- What is found among the other ways is found among all.
    have hmore : ∀ t, s.Alike t → Leads (joinable? tree below (position + 1) links) t
        fun found u => s.Alike u ∧ ∀ x ∈ found, x.2.1 ∈ link :: links ∧
          s.byteAt x.2.1.below = s.byteAt below := by
      intro t ht
      refine (ih t (position + 1)).mono ?_
      rintro found u ⟨hu, hfound⟩
      refine ⟨⟨hu.frames.trans ht.frames, hu.versions.trans ht.versions,
        hu.finished.trans ht.finished⟩, fun x hx => ?_⟩
      obtain ⟨hmem, hbyte⟩ := hfound x hx
      rw [ht.byteAt, ht.byteAt] at hbyte
      exact ⟨List.mem_cons_of_mem link hmem, hbyte⟩
    rw [joinable?, leads_bind, leads_get]
    split
    · next hlike =>
      rw [Bool.and_eq_true, beq_iff_eq] at hlike
      have hfirst : ∀ state? : Option Nat, ∀ x ∈ some (position, link, state?),
          x.2.1 ∈ link :: links ∧ s.byteAt x.2.1.below = s.byteAt below := by
        rintro state? x ⟨⟩
        exact ⟨List.mem_cons_self, hlike.2⟩
      split
      · exact ⟨⟨rfl, rfl, rfl⟩, hfirst none⟩
      · rw [leads_bind]
        refine (alike_join? s link.below below).mono ?_
        rintro state? t ⟨ht, -⟩
        cases state? with
        | none => exact hmore t ht
        | some state => exact ⟨ht, hfirst (some state)⟩
    · exact hmore s ⟨rfl, rfl, rfl⟩

/-- Changing a frame without moving it and without touching its ways down keeps a stack sound. -/
theorem grows_modifyFrame_of_links (h : s.Sound) {n : Nat} (hn : n < s.frames.size)
    {change : Frame → Frame} (hcursor : ∀ f, (change f).cursor = f.cursor)
    (hlinks : ∀ f, (change f).links = f.links) :
    Leads (modifyFrame n change) s fun _ t => s.Grows t := by
  refine grows_modifyFrame h hn (hcursor _) fun l hl => ?_
  rw [hlinks] at hl
  exact h.links n l hl

/-- Adding a way down that fits keeps a stack sound. -/
theorem grows_addLink (h : s.Sound) (fuel : Nat) {n : Nat} {l : Link} (hn : n < s.frames.size)
    (hl : s.Fits l (s.byteAt n)) : Leads (addLink fuel n l) s fun _ t => s.Grows t := by
  induction fuel generalizing s n l with
  | zero => exact Grows.refl h
  | succ fuel ih =>
    obtain ⟨tree, below⟩ := l
    rw [addLink]
    split
    · exact Grows.refl h
    · rw [leads_bind, leads_get, leads_bind]
      refine (alike_joinable? s tree below 0 (s.frame n).links).mono ?_
      rintro found t ⟨halike, hfound⟩
      have ht := halike.grows h
      have hnt : n < t.frames.size := hn.trans_le ht.size_le
      have hlinks := ht.sound.links n
      have hnew := hl.mono ht.toExtends
      rw [← halike.byteAt] at hnew
      match found with
      | some (position, link, none) =>
        dsimp only
        split
        · refine (grows_modifyFrame ht.sound hnt rfl fun l hl => ?_).mono fun _ u hu => ht.trans hu
          rcases List.mem_or_eq_of_mem_set hl with hmem | rfl
          · exact hlinks l hmem
          · exact hnew
        · exact ht
      | some (position, link, some state) =>
        -- The frames below stand at the same place, so that the ways of one fit the other.
        obtain ⟨hmem, hbyte⟩ := hfound _ rfl
        have hbelow := (h.links n link hmem).below
        rw [leads_bind]
        refine Leads.mono (grows_modifyFrame_of_links ht.sound (hbelow.trans_le ht.size_le)
          (fun _ => rfl) fun _ => rfl) ?_
        intro _ t₁ ht₁
        rw [leads_bind]
        refine (Leads.forIn (fun _ u => s.Grows u) (ht.trans ht₁) ?_).mono ?_
        · intro l hl _ u hu
          have hfits := (h.links below l hl).mono hu.toExtends
          rw [← hbyte, ← hu.byteAt _ hbelow] at hfits
          rw [leads_bind]
          refine (ih hu.sound (hbelow.trans_le hu.size_le) hfits).mono ?_
          exact fun _ w hw => ⟨_, rfl, hu.trans hw⟩
        · intro _ u hu
          exact Leads.mono (grows_modifyFrame_of_links hu.sound (hn.trans_le hu.size_le)
            (fun _ => rfl) fun _ => rfl) fun _ w hw => hu.trans hw
      | none =>
        dsimp only
        split
        · refine (grows_modifyFrame ht.sound hnt rfl fun l hl => ?_).mono fun _ u hu => ht.trans hu
          rcases List.mem_append.mp hl with hmem | hmem
          · exact hlinks l hmem
          · rw [List.mem_singleton.mp hmem]
            exact hnew
        · exact ht

/-- Joining one reading into another keeps a stack sound. -/
theorem grows_merge (h : s.Sound) {a b : Version} (ha : a.top < s.frames.size)
    (hb : b.top < s.frames.size) : Leads (merge a b) s fun _ t => s.Grows t := by
  rw [merge]
  split
  · rw [leads_bind]
    refine (alike_join? s a.top b.top).mono ?_
    rintro state? t ⟨halike, hbyte⟩
    have ht := halike.grows h
    cases state? with
    | none => exact ht
    | some state =>
      have hsame := hbyte (Option.some_ne_none state)
      dsimp only
      rw [leads_bind]
      refine Leads.mono (grows_modifyFrame_of_links ht.sound (ha.trans_le ht.size_le)
        (fun _ => rfl) fun _ => rfl) ?_
      intro _ u hu
      have hsu := ht.trans hu
      rw [leads_bind, leads_get, leads_bind]
      refine Leads.mono (Leads.forIn (fun _ w => u.Grows w) (Grows.refl hu.sound) ?_) fun _ w hw =>
        hsu.trans hw
      intro l hl _ w hw
      have hau := ha.trans_le hsu.size_le
      have hfits := (hu.sound.links b.top l hl).mono hw.toExtends
      have hplace : u.byteAt b.top = w.byteAt a.top := by
        rw [hw.byteAt _ hau, hsu.byteAt _ ha, hsu.byteAt _ hb, hsame]
      rw [hplace] at hfits
      rw [leads_bind]
      refine (grows_addLink hw.sound _ (hau.trans_le hw.size_le) hfits).mono ?_
      exact fun _ v hv => ⟨_, rfl, hw.trans hv⟩
  · exact Grows.refl h

/-- Joining a reading into one of others keeps a stack sound. -/
theorem grows_mergeInto (h : s.Sound) {version : Version} (hversion : version.top < s.frames.size)
    {others : List Version} (hothers : ∀ other ∈ others, other.top < s.frames.size) :
    Leads (mergeInto version others) s fun _ t => s.Grows t := by
  induction others generalizing s with
  | nil => exact Grows.refl h
  | cons other others ih =>
    obtain ⟨hother, hothers⟩ := List.forall_mem_cons.mp hothers
    rw [mergeInto, leads_bind]
    refine (grows_merge h hother hversion).mono ?_
    intro merged t ht
    split
    · exact ht
    · refine Leads.mono (ih ht.sound (hversion.trans_le ht.size_le) fun o ho =>
        (hothers o ho).trans_le ht.size_le) fun _ u hu => ht.trans hu

end Stack

end GoAddress.Source
