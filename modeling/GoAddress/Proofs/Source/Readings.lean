import GoAddress.Proofs.Source.Frames

/-!
# Readings in order

The trees on a path down the stack follow one another, and so the use of a production for them is a
tree in order. Every turn of a reading keeps the stack like that. Main statement: the trees that a
text is read as stand in the order of the text, with all their parts.
-/

namespace GoAddress.Source

namespace Stack

variable {s t u : Stack}

/-- A path that leads down to a frame over trees that follow one another up to a byte. -/
structure Descends (s : Stack) (byte : Nat) (p : Path) : Prop where
  /-- The frame exists. -/
  frame : p.frame < s.frames.size
  /-- The trees follow one another behind the frame. -/
  trees : Tree.Consecutive (s.byteAt p.frame) p.trees byte

/-- A path can be followed down. -/
theorem Descends.step (h : s.Sound) {byte : Nat} {p : Path} (hp : s.Descends byte p) {l : Link}
    (hl : l ∈ (s.frame p.frame).links) : s.Descends byte (p.step l) := by
  obtain ⟨hbelow, hstart, htree, hstop⟩ := h.links p.frame l hl
  refine ⟨hbelow, Tree.consecutive_cons.mpr ⟨hstart, htree, ?_⟩⟩
  rw [hstop]
  exact hp.trees

/-- What is kept along every way down holds of all paths one step further down. -/
theorem forall_stepDown {kept : Path → Prop}
    (hstep : ∀ p, kept p → ∀ l ∈ (s.frame p.frame).links, kept (p.step l)) {length live : Nat}
    {paths next added done : List Path} (hpaths : ∀ p ∈ paths, kept p) (hnext : ∀ p ∈ next, kept p)
    (hadded : ∀ p ∈ added, kept p) (hdone : ∀ p ∈ done, kept p) :
    (∀ p ∈ (s.stepDown length live paths next added done).1, kept p) ∧
      ∀ p ∈ (s.stepDown length live paths next added done).2, kept p := by
  induction paths generalizing live next added done with
  | nil =>
    rw [stepDown]
    refine ⟨fun p hp => ?_, fun p hp => hdone p (List.mem_reverse.mp hp)⟩
    rcases List.mem_append.mp hp with hp | hp
    · exact hnext p (List.mem_reverse.mp hp)
    · exact hadded p (List.mem_reverse.mp hp)
  | cons p paths ih =>
    obtain ⟨hp, hpaths⟩ := List.forall_mem_cons.mp hpaths
    rw [stepDown]
    split
    · exact ih hpaths hnext hadded (List.forall_mem_cons.mpr ⟨hp, hdone⟩)
    · split
      · exact ih hpaths hnext hadded hdone
      · next first others hlinks =>
        have hways : ∀ l ∈ first :: others, kept (p.step l) := fun l hl =>
          hstep p hp l (hlinks ▸ hl)
        refine ih hpaths (List.forall_mem_cons.mpr ⟨hways first List.mem_cons_self, hnext⟩) ?_ hdone
        intro q hq
        rcases List.mem_append.mp hq with hq | hq
        · obtain ⟨l, hl, rfl⟩ := List.mem_map.mp (List.mem_reverse.mp hq)
          exact hways l (List.mem_cons_of_mem _ (List.mem_of_mem_take hl))
        · exact hadded q hq

/-- What is kept along every way down holds of all paths of a length. -/
theorem forall_pathsDown {kept : Path → Prop}
    (hstep : ∀ p, kept p → ∀ l ∈ (s.frame p.frame).links, kept (p.step l)) {length fuel : Nat}
    {paths : List Path} (hpaths : ∀ p ∈ paths, kept p) :
    ∀ p ∈ s.pathsDown length fuel paths, kept p := by
  induction fuel generalizing paths with
  | zero => simp [pathsDown]
  | succ fuel ih =>
    cases paths with
    | nil => simp [pathsDown]
    | cons p paths =>
      rw [pathsDown]
      obtain ⟨hnext, hdone⟩ := @forall_stepDown s kept hstep length (p :: paths).length (p :: paths)
        [] [] [] hpaths (by simp) (by simp) (by simp)
      intro q hq
      rcases List.mem_append.mp hq with hq | hq
      · exact hdone q hq
      · exact ih hnext q hq
      · simp

/-- Adding a path to groups adds it to that of its frame. -/
theorem mem_groupByFrame_insert {groups : List (Nat × List Path)} {p q : Path}
    {x : Nat × List Path} (hx : x ∈ groupByFrame.insert groups p) (hq : q ∈ x.2) :
    q = p ∧ q.frame = x.1 ∨ ∃ y ∈ groups, y.1 = x.1 ∧ q ∈ y.2 := by
  fun_induction groupByFrame.insert groups p with
  | case1 p =>
    rw [List.mem_singleton.mp hx] at hq ⊢
    rw [List.mem_singleton.mp hq]
    exact Or.inl ⟨rfl, rfl⟩
  | case2 group more p =>
    rcases List.mem_cons.mp hx with rfl | hmem
    · rcases List.mem_append.mp hq with hq | hq
      · exact Or.inr ⟨_, List.mem_cons_self, rfl, hq⟩
      · rw [List.mem_singleton.mp hq]
        exact Or.inl ⟨rfl, rfl⟩
    · exact Or.inr ⟨x, List.mem_cons_of_mem _ hmem, rfl, hq⟩
  | case3 n group more p hne ih =>
    rcases List.mem_cons.mp hx with rfl | hmem
    · exact Or.inr ⟨_, List.mem_cons_self, rfl, hq⟩
    · rcases ih hmem with hself | ⟨y, hy, hframe, hin⟩
      · exact Or.inl hself
      · exact Or.inr ⟨y, List.mem_cons_of_mem _ hy, hframe, hin⟩

/-- A group of paths has paths to its frame. -/
theorem mem_groupByFrame {paths : List Path} {x : Nat × List Path} (hx : x ∈ groupByFrame paths)
    {p : Path} (hp : p ∈ x.2) : p ∈ paths ∧ p.frame = x.1 := by
  have hfold : ∀ groups, x ∈ paths.foldl groupByFrame.insert groups →
      (p ∈ paths ∧ p.frame = x.1) ∨ ∃ y ∈ groups, y.1 = x.1 ∧ p ∈ y.2 := by
    clear hx
    induction paths with
    | nil => exact fun groups hx => Or.inr ⟨x, hx, rfl, hp⟩
    | cons q paths ih =>
      intro groups hx
      rcases ih _ hx with ⟨hmem, hframe⟩ | ⟨y, hy, hframe, hin⟩
      · exact Or.inl ⟨List.mem_cons_of_mem q hmem, hframe⟩
      · rcases mem_groupByFrame_insert hy hin with ⟨rfl, hself⟩ | ⟨z, hz, hsame, hin⟩
        · exact Or.inl ⟨List.mem_cons_self, hself.trans hframe⟩
        · exact Or.inr ⟨z, hz, hsame.trans hframe, hin⟩
  rcases hfold [] hx with hmem | ⟨y, hy, -⟩
  · exact hmem
  · exact (List.not_mem_nil hy).elim

/-- The trees of a whole path follow one another. -/
theorem consecutive_of_mem_wholePaths (h : s.Sound) {fuel n last : Nat} {above trees : List Tree}
    (habove : Tree.Consecutive (s.byteAt n) above last) (hmem : trees ∈ s.wholePaths fuel n above) :
    ∃ first, Tree.Consecutive first trees last := by
  induction fuel generalizing n above with
  | zero => simp [wholePaths] at hmem
  | succ fuel ih =>
    rw [wholePaths] at hmem
    split at hmem
    · rw [List.mem_singleton.mp hmem]
      exact ⟨_, habove⟩
    · obtain ⟨l, hl, hmem⟩ := List.mem_flatMap.mp hmem
      obtain ⟨-, hstart, htree, hstop⟩ := h.links n l hl
      exact ih (Tree.consecutive_cons.mpr ⟨hstart, htree, hstop ▸ habove⟩) hmem

/-- Splitting off the comments at the end loses nothing. -/
theorem splitComments_append (trees : List Tree) :
    (splitComments trees).1 ++ (splitComments trees).2 = trees := by
  have hcut : trees = (trees.reverse.dropWhile Tree.isComment).reverse ++
      (trees.reverse.takeWhile Tree.isComment).reverse := by
    rw [← List.reverse_append, List.takeWhile_append_dropWhile, List.reverse_reverse]
  dsimp only [splitComments]
  generalize trees.reverse.takeWhile Tree.isComment = comments at hcut ⊢
  generalize trees.reverse.dropWhile Tree.isComment = rest at hcut
  subst hcut
  simp

/-- The use of a production for trees that follow one another is followed by the comments behind
it. -/
theorem consecutive_usePath {production : Nat} {before : Cursor} {trees : List Tree} {last : Nat}
    (h : Tree.Consecutive before.pos.byte trees last) :
    before.pos.byte ≤ (usePath production before trees).1.start.byte ∧
      (usePath production before trees).1.InOrder ∧
      Tree.Consecutive (usePath production before trees).1.stop.pos.byte
        (usePath production before trees).2 last := by
  rw [← splitComments_append trees] at h
  obtain ⟨middle, hparts, hcomments⟩ := Tree.consecutive_append.mp h
  obtain ⟨hstart, htree, hstop⟩ := @Tree.Consecutive.ofParts production _ _ _ hparts
  refine ⟨hstart, htree, ?_⟩
  rw [← hstop] at hcomments
  exact hcomments

/-- The second stack has the readings of the first and perhaps others, which stand at the byte. -/
structure Adds (byte : Nat) (s t : Stack) : Prop extends Extends s t where
  /-- The other readings stand behind those of the first. -/
  versions : ∃ more, t.versions = s.versions ++ more ∧
    ∀ v ∈ more, v.top < t.frames.size ∧ t.byteAt v.top = byte

/-- A stack that grows has no other readings. -/
theorem Grows.adds (h : s.Grows t) (byte : Nat) : Adds byte s t :=
  { h.toExtends with versions := ⟨[], by rw [h.versions, List.append_nil], by simp⟩ }

/-- Readings can be added again. -/
theorem Adds.trans {byte : Nat} (h : Adds byte s t) (h' : Adds byte t u) : Adds byte s u := by
  obtain ⟨more, hversions, hmore⟩ := h.versions
  obtain ⟨more', hversions', hmore'⟩ := h'.versions
  refine { h.toExtends.trans h'.toExtends with versions := ⟨more ++ more', ?_, ?_⟩ }
  · rw [hversions', hversions, List.append_assoc]
  · intro v hv
    rcases List.mem_append.mp hv with hv | hv
    · obtain ⟨htop, hbyte⟩ := hmore v hv
      exact ⟨htop.trans_le h'.size_le, (h'.byteAt _ htop).trans hbyte⟩
    · exact hmore' v hv

/-- Trees that follow one another behind a frame are put on it one by one. -/
theorem grows_pushAll (h : s.Sound) {state top last : Nat} {trees : List Tree}
    (htop : top < s.frames.size) (htrees : Tree.Consecutive (s.byteAt top) trees last) :
    Leads (forIn trees top fun tree top => do
      let top ← push top state tree
      pure (ForInStep.yield top)) s fun n t =>
        s.Grows t ∧ n < t.frames.size ∧ t.byteAt n = last := by
  induction trees generalizing s top with
  | nil => exact ⟨Grows.refl h, htop, Tree.consecutive_nil.mp htrees⟩
  | cons tree trees ih =>
    obtain ⟨hstart, htree, htrees⟩ := Tree.consecutive_cons.mp htrees
    rw [List.forIn_cons, leads_bind, leads_bind]
    refine (grows_push h htop hstart htree).mono ?_
    rintro n t ⟨ht, hn, hbyte⟩
    rw [leads_pure]
    refine Leads.mono (ih ht.sound hn (hbyte ▸ htrees)) ?_
    rintro m u ⟨hu, hm⟩
    exact ⟨ht.trans hu, hm⟩

/-- Following the use of a production down to one frame adds at most one reading. -/
theorem adds_reduceTo (h : s.Sound) (htops : ∀ v ∈ s.versions, v.top < s.frames.size)
    {v production base byte : Nat} {paths : List Path}
    (hpaths : ∀ p ∈ paths, s.Descends byte p ∧ p.frame = base) :
    Leads (reduceTo v production base paths) s fun _ t => Adds byte s t := by
  rw [reduceTo, leads_bind, leads_get]
  dsimp only
  split
  · exact (Grows.refl h).adds byte
  · split
    · exact (Grows.refl h).adds byte
    · next first others hfirst =>
      have hbest := Tree.best_mem first others
      rw [← hfirst] at hbest
      obtain ⟨p, hp, hpath⟩ := List.mem_map.mp hbest
      obtain ⟨⟨hframe, htrees⟩, rfl⟩ := hpaths p hp
      obtain ⟨hstart, htree, hcomments⟩ := @consecutive_usePath production _ _ _ htrees
      rw [hpath] at hstart htree hcomments
      generalize Tree.best first others = best at hstart htree hcomments
      obtain ⟨tree, comments⟩ := best
      dsimp only at *
      rw [leads_bind]
      refine (alike_withAutomaton s _).mono ?_
      intro state t halike
      have ht := halike.grows h
      rw [leads_bind]
      refine (grows_push ht.sound (hframe.trans_le ht.size_le) (by rwa [halike.byteAt]) htree).mono ?_
      rintro top u ⟨hu, htop, hbyte⟩
      rw [leads_bind]
      refine Leads.mono (grows_pushAll hu.sound htop (hbyte ▸ hcomments)) ?_
      rintro top w ⟨hw, htop, hbyte⟩
      have hsw := ht.trans (hu.trans hw)
      rw [leads_bind]
      refine Leads.mono (grows_mergeInto hw.sound htop fun other hother =>
        (htops other (List.mem_of_mem_eraseIdx hother)).trans_le hsw.size_le) ?_
      intro merged x hx
      split
      · exact (hsw.trans hx).adds byte
      · have hadded : s.Extends { x with versions := x.versions ++ [{ top }] } :=
          (hsw.trans hx).toExtends.of_frames rfl rfl
        rw [leads_modify]
        refine { hadded with versions := ⟨[{ top }], by rw [(hsw.trans hx).versions], ?_⟩ }
        intro version hversion
        rw [List.mem_singleton.mp hversion]
        exact ⟨htop.trans_le hx.size_le, (hx.byteAt _ htop).trans hbyte⟩

/-- The top of every reading exists, and the trees of the best reading of the whole text follow one
another. -/
structure Valid (s : Stack) : Prop where
  /-- The ways down fit. -/
  sound : s.Sound
  /-- There is a frame. -/
  nonempty : 0 < s.frames.size
  /-- The tops of the readings exist. -/
  tops : ∀ v ∈ s.versions, v.top < s.frames.size
  /-- The trees of the whole text follow one another. -/
  finished : ∀ trees ∈ s.finished, ∃ first last, Tree.Consecutive first trees last

/-- The top of a reading exists, whatever its number. -/
theorem Valid.top_lt (h : s.Valid) (v : Nat) : (s.version v).top < s.frames.size := by
  rw [version]
  cases hv : s.versions[v]? with
  | none => exact h.nonempty
  | some version => exact h.tops version (List.mem_of_getElem? hv)

/-- An extension is valid if the tops of its readings exist. -/
theorem Extends.valid (h : s.Extends t) (hs : s.Valid)
    (htops : ∀ v ∈ t.versions, v.top < t.frames.size) : t.Valid where
  sound := h.sound
  nonempty := hs.nonempty.trans_le h.size_le
  tops := htops
  finished := by
    rw [h.finished]
    exact hs.finished

/-- A stack that grows stays valid. -/
theorem Grows.valid (h : s.Grows t) (hs : s.Valid) : t.Valid := by
  refine h.toExtends.valid hs fun v hv => ?_
  rw [h.versions] at hv
  exact (hs.tops v hv).trans_le h.size_le

/-- A stack with readings added stays valid. -/
theorem Adds.valid {byte : Nat} (h : Adds byte s t) (hs : s.Valid) : t.Valid := by
  obtain ⟨more, hversions, hmore⟩ := h.versions
  refine h.toExtends.valid hs fun v hv => ?_
  rw [hversions, List.mem_append] at hv
  rcases hv with hv | hv
  · exact (hs.tops v hv).trans_le h.size_le
  · exact (hmore v hv).1

/-- The readings that were there keep their numbers. -/
theorem Adds.version {byte : Nat} (h : Adds byte s t) {v : Nat} (hv : v < s.versions.length) :
    t.version v = s.version v := by
  obtain ⟨more, hversions, -⟩ := h.versions
  rw [Stack.version, Stack.version, hversions, List.getElem?_append_left hv]

/-- The readings that were not there stand at the byte. -/
theorem Adds.byteAt_of_le {byte : Nat} (h : Adds byte s t) {n : Nat} (hn : s.versions.length ≤ n)
    (hlt : n < t.versions.length) : t.byteAt (t.version n).top = byte := by
  obtain ⟨more, hversions, hmore⟩ := h.versions
  obtain ⟨version, hget⟩ : ∃ version, t.versions[n]? = some version :=
    ⟨_, List.getElem?_eq_getElem hlt⟩
  have hmem : version ∈ more := by
    rw [hversions, List.getElem?_append_right hn] at hget
    exact List.mem_of_getElem? hget
  rw [Stack.version, hget]
  exact (hmore version hmem).2

/-- Using a production adds readings at the place of the one it is used for. -/
theorem adds_reduce (h : s.Valid) (v production : Nat) :
    Leads (reduce v production) s fun n? t => Adds (s.byteAt (s.version v).top) s t ∧
      ∀ n ∈ n?, n = s.versions.length ∧ n < t.versions.length := by
  rw [reduce, leads_bind, leads_get]
  dsimp only
  rw [leads_bind]
  have hpaths := @forall_pathsDown s (s.Descends (s.byteAt (s.version v).top))
    (fun _ hp _ hl => hp.step h.sound hl) (Grammar.productionAt production).steps.length
    (s.frames.size + 1) [{ frame := (s.version v).top }]
    (by
      intro p hp
      rw [List.mem_singleton.mp hp]
      exact ⟨h.top_lt v, Tree.consecutive_nil.mpr rfl⟩)
  refine Leads.mono (Leads.forIn (fun _ t => Adds (s.byteAt (s.version v).top) s t)
    ((Grows.refl h.sound).adds _) ?_) ?_
  · rintro ⟨base, paths⟩ hgroup _ t ht
    dsimp only
    rw [leads_bind]
    refine Leads.mono (adds_reduceTo ht.sound (ht.valid h).tops ?_) fun _ u hu => ⟨_, rfl, ht.trans hu⟩
    intro p hp
    obtain ⟨hmem, hframe⟩ := mem_groupByFrame hgroup hp
    obtain ⟨hbelow, htrees⟩ := hpaths p hmem
    exact ⟨⟨hbelow.trans_le ht.size_le, by rwa [ht.byteAt _ hbelow]⟩, hframe⟩
  · intro _ t ht
    rw [leads_bind, leads_get, leads_pure]
    refine ⟨ht, fun n hn => ?_⟩
    split at hn
    · next hlt =>
      cases hn
      exact ⟨rfl, hlt⟩
    · cases hn

/-- No reading is lost. -/
theorem Adds.length_le {byte : Nat} (h : Adds byte s t) :
    s.versions.length ≤ t.versions.length := by
  obtain ⟨more, hversions, -⟩ := h.versions
  rw [hversions, List.length_append]
  exact Nat.le_add_right _ _

/-- Using several productions adds readings at the place of the one they are used for. -/
theorem adds_reductions (h : s.Valid) {v : Nat} (hv : v < s.versions.length)
    (productions : List Nat) :
    Leads (productions.filterMapM (reduce v)) s fun created t =>
      Adds (s.byteAt (s.version v).top) s t ∧
        ∀ n ∈ created, s.versions.length ≤ n ∧ n < t.versions.length := by
  induction productions generalizing s with
  | nil =>
    refine ⟨(Grows.refl h.sound).adds _, fun n hn => ?_⟩
    cases hn
  | cons production productions ih =>
    rw [List.filterMapM_cons, leads_bind]
    refine (adds_reduce h v production).mono ?_
    rintro n? t ⟨ht, hn⟩
    have hplace : t.byteAt (t.version v).top = s.byteAt (s.version v).top := by
      rw [ht.version hv, ht.byteAt _ (h.top_lt v)]
    have hmore := ih (ht.valid h) (hv.trans_le ht.length_le)
    rw [hplace] at hmore
    cases n? with
    | none =>
      refine hmore.mono ?_
      rintro created u ⟨hu, hcreated⟩
      exact ⟨ht.trans hu, fun n hn => ⟨ht.length_le.trans (hcreated n hn).1, (hcreated n hn).2⟩⟩
    | some n =>
      dsimp only
      rw [leads_bind]
      refine hmore.mono ?_
      rintro created u ⟨hu, hcreated⟩
      obtain ⟨hfirst, hlt⟩ := hn n rfl
      rw [leads_pure]
      refine ⟨ht.trans hu, List.forall_mem_cons.mpr ⟨⟨hfirst.ge, hlt.trans_le hu.length_le⟩, ?_⟩⟩
      exact fun n hn => ⟨ht.length_le.trans (hcreated n hn).1, (hcreated n hn).2⟩

/-- Readings can be exchanged for others whose tops exist. -/
theorem Valid.withVersions (h : s.Valid) {versions : List Version}
    (hversions : ∀ v ∈ versions, v.top < s.frames.size) : ({ s with versions } : Stack).Valid :=
  ⟨h.sound.of_frames rfl, h.nonempty, hversions, h.finished⟩

/-- Changing how a reading goes on keeps a stack valid. -/
theorem valid_setStatus (h : s.Valid) (v : Nat) (status : Status) :
    Leads (setStatus v status) s fun _ t => t.Valid := by
  rw [setStatus, leads_modify]
  refine h.withVersions fun version hversion => ?_
  obtain ⟨i, hi⟩ := List.mem_iff_getElem?.mp hversion
  rw [List.getElem?_modify] at hi
  obtain ⟨before, hbefore, rfl⟩ := Option.map_eq_some_iff.mp hi
  have htop := h.tops before (List.mem_of_getElem? hbefore)
  split
  · exact htop
  · exact htop

/-- A tree behind the top of a reading is put on it. -/
theorem valid_shift (h : s.Valid) {v state : Nat} {tree : Tree}
    (hstart : s.byteAt (s.version v).top ≤ tree.start.byte) (htree : tree.InOrder) :
    Leads (shift v state tree) s fun _ t => t.Valid := by
  rw [shift, leads_bind, leads_get, leads_bind]
  refine (grows_push h.sound (h.top_lt v) hstart htree).mono ?_
  rintro top t ⟨ht, htop, -⟩
  rw [setVersion, leads_modify]
  refine (ht.valid h).withVersions fun version hversion => ?_
  rcases List.mem_or_eq_of_mem_set hversion with hmem | rfl
  · exact (ht.valid h).tops version hmem
  · exact htop

/-- Taking the whole text as read keeps a stack valid. -/
theorem valid_accept (h : s.Valid) (v : Nat) : Leads (accept v) s fun _ t => t.Valid := by
  rw [accept, leads_bind, leads_get, leads_bind]
  refine Leads.mono (Leads.forIn (fun _ t => t.Valid) h ?_) fun _ t ht => valid_setStatus ht v _
  intro trees htrees _ t ht
  obtain ⟨first, hfollow⟩ := consecutive_of_mem_wholePaths h.sound (Tree.consecutive_nil.mpr rfl) htrees
  rw [leads_bind, leads_modify, leads_pure]
  refine ⟨_, rfl, ht.sound.of_frames rfl, ht.nonempty, ht.tops, ?_⟩
  intro kept hkept
  dsimp only at hkept
  split at hkept
  · cases hkept
    exact ⟨first, _, hfollow⟩
  · next found hfound =>
    split at hkept
    · cases hkept
      exact ⟨first, _, hfollow⟩
    · cases hkept
      exact ht.finished _ hfound

/-- A reading takes the place of one before it. -/
theorem version_set_eraseIdx {v n : Nat} (hvn : v < n) (hv : v < s.versions.length) :
    ({ s with versions := (s.versions.set v (s.version n)).eraseIdx n } : Stack).version v =
      s.version n := by
  have hget : ((s.versions.set v (s.version n)).eraseIdx n)[v]? = some (s.version n) := by
    rw [List.getElem?_eraseIdx_of_lt hvn, List.getElem?_set_self hv]
  generalize s.version n = next at hget ⊢
  rw [version, hget, Option.getD_some]

/-- Doing with a token what a reading before it says keeps a stack valid. -/
theorem valid_consume (h : s.Valid) (fuel : Nat) {v : Nat} (hv : v < s.versions.length)
    {lexeme : Lexeme} (hlexeme : lexeme.Behind (s.byteAt (s.version v).top)) :
    Leads (consume fuel v lexeme) s fun _ t => t.Valid := by
  induction fuel generalizing s with
  | zero => exact valid_setStatus h v _
  | succ fuel ih =>
    rw [consume, leads_bind, leads_get]
    dsimp only
    split
    · exact valid_accept h v
    · rw [leads_bind]
      refine (adds_reductions h hv _).mono ?_
      rintro created t ⟨ht, hcreated⟩
      have htv := ht.valid h
      have hplace : t.byteAt (t.version v).top = s.byteAt (s.version v).top := by
        rw [ht.version hv, ht.byteAt _ (h.top_lt v)]
      split
      · rw [leads_bind]
        refine (alike_withAutomaton t _).mono ?_
        intro state u halike
        have hu := halike.grows htv.sound
        have hversion : u.version v = t.version v := by
          rw [Stack.version, Stack.version, halike.versions]
        refine valid_shift (hu.valid htv) ?_ ?_
        · rw [hversion, halike.byteAt, hplace]
          exact hlexeme.1
        · rw [Tree.InOrder]
          exact hlexeme.2
      · split
        · next n hn =>
          obtain ⟨hle, hlt⟩ := hcreated n (List.mem_of_getLast? hn)
          rw [leads_bind, leads_modify]
          have hvn : v < n := hv.trans_le hle
          have hlength : v < ((t.versions.set v (t.version n)).eraseIdx n).length := by
            rw [List.length_eraseIdx_of_lt (by simpa using hlt), List.length_set]
            omega
          refine ih (htv.withVersions fun version hversion => ?_) hlength ?_
          · rcases List.mem_or_eq_of_mem_set (List.mem_of_mem_eraseIdx hversion) with hmem | rfl
            · exact htv.tops version hmem
            · exact htv.top_lt n
          · rw [← ht.byteAt_of_le hle hlt] at hlexeme
            rw [version_set_eraseIdx hvn (hv.trans_le ht.length_le)]
            exact hlexeme
        · exact valid_setStatus htv v _

/-- Reading the next token of a reading keeps a stack valid. -/
theorem valid_advance (h : s.Valid) {v : Nat} (hv : v < s.versions.length) :
    Leads (advance v) s fun _ t => t.Valid := by
  rw [advance, leads_bind, leads_get]
  dsimp only
  split
  · exact valid_setStatus h v _
  · next lexeme hlexeme =>
    have hbehind := behind_of_lex? hlexeme
    split
    · refine valid_shift h hbehind.1 ?_
      rw [Tree.InOrder]
      exact hbehind.2
    · exact valid_consume h _ hv hbehind

/-- A reading that goes on has its number. -/
theorem lt_length_of_active {v : Nat} (h : (s.version v).status = .active) :
    v < s.versions.length := by
  by_contra hge
  rw [version, List.getElem?_eq_none (not_lt.mp hge)] at h
  cases h

/-- A reading that goes on keeps a stack valid. -/
theorem valid_runVersion (h : s.Valid) (v fuel last : Nat) :
    Leads (runVersion v fuel last) s fun _ t => t.Valid := by
  induction fuel generalizing s with
  | zero => exact h
  | succ fuel ih =>
    rw [runVersion, leads_bind, leads_get]
    split
    · next hactive =>
      rw [leads_bind]
      refine (valid_advance h (lt_length_of_active hactive)).mono ?_
      intro _ t ht
      rw [leads_bind, leads_get]
      dsimp only
      split
      · exact ht
      · split
        · exact ht
        · exact ih ht
    · exact h

/-- Readings that take their turn keep a stack valid. -/
theorem valid_runVersions (h : s.Valid) (length fuel v last : Nat) :
    Leads (runVersions length fuel v last) s fun _ t => t.Valid := by
  induction fuel generalizing s v last with
  | zero => exact h
  | succ fuel ih =>
    rw [runVersions, leads_bind, leads_get]
    split
    · rw [leads_bind]
      exact (valid_runVersion h v length last).mono fun last t ht => ih ht (v + 1) last
    · exact h

/-- Adding a reading to others keeps only readings that were there. -/
theorem grows_keep (h : s.Sound) {version : Version} (hversion : version.top < s.frames.size)
    {others : List Version} (hothers : ∀ other ∈ others, other.top < s.frames.size) :
    Leads (keep version others) s fun kept t => s.Grows t ∧ ∀ v ∈ kept, v ∈ version :: others := by
  induction others generalizing s version with
  | nil => exact ⟨Grows.refl h, fun v hv => hv⟩
  | cons other others ih =>
    obtain ⟨hother, hothers⟩ := List.forall_mem_cons.mp hothers
    rw [keep, leads_bind, leads_get]
    dsimp only
    split
    · exact ⟨Grows.refl h, fun v hv => List.mem_cons_of_mem _ hv⟩
    · split
      · refine Leads.mono (ih h hversion hothers) ?_
        rintro kept t ⟨ht, hkept⟩
        refine ⟨ht, fun v hv => ?_⟩
        rcases List.mem_cons.mp (hkept v hv) with rfl | hmem
        · exact List.mem_cons_self
        · exact List.mem_cons_of_mem _ (List.mem_cons_of_mem _ hmem)
      · rw [leads_bind]
        refine (grows_merge h hother hversion).mono ?_
        intro merged t ht
        have hothers' : ∀ other ∈ others, other.top < t.frames.size := fun o ho =>
          (hothers o ho).trans_le ht.size_le
        split
        · exact ⟨ht, fun v hv => List.mem_cons_of_mem _ hv⟩
        · split
          · rw [leads_bind]
            refine Leads.mono (ih ht.sound (hother.trans_le ht.size_le) hothers') ?_
            rintro kept u ⟨hu, hkept⟩
            refine ⟨ht.trans hu, List.forall_mem_cons.mpr ⟨List.mem_cons_self, fun v hv => ?_⟩⟩
            exact List.mem_cons_of_mem _ (hkept v hv)
          · rw [leads_bind]
            refine Leads.mono (ih ht.sound (hversion.trans_le ht.size_le) hothers') ?_
            rintro kept u ⟨hu, hkept⟩
            refine ⟨ht.trans hu, List.forall_mem_cons.mpr ⟨by simp, fun v hv => ?_⟩⟩
            rcases List.mem_cons.mp (hkept v hv) with rfl | hmem
            · exact List.mem_cons_self
            · exact List.mem_cons_of_mem _ (List.mem_cons_of_mem _ hmem)

/-- Putting the readings in order keeps a stack valid. -/
theorem valid_condense (h : s.Valid) : Leads condense s fun _ t => t.Valid := by
  rw [condense, leads_bind, leads_get]
  dsimp only
  rw [leads_bind]
  refine Leads.mono (Leads.forIn (fun kept t => s.Grows t ∧ ∀ v ∈ kept, v ∈ s.versions)
    ⟨Grows.refl h.sound, by simp⟩ ?_) ?_
  · rintro version hversion kept t ⟨ht, hkept⟩
    have hmem := (List.mem_filter.mp hversion).1
    have htop : ∀ v ∈ s.versions, v.top < t.frames.size := fun v hv =>
      (h.tops v hv).trans_le ht.size_le
    rw [leads_bind]
    refine Leads.mono (grows_keep ht.sound (htop version hmem) fun v hv => htop v (hkept v hv)) ?_
    rintro kept' u ⟨hu, hkept'⟩
    refine ⟨_, rfl, ht.trans hu, fun v hv => ?_⟩
    rcases List.mem_cons.mp (hkept' v hv) with rfl | hv
    · exact hmem
    · exact hkept v hv
  · rintro kept t ⟨ht, hkept⟩
    rw [leads_modify]
    refine (ht.valid h).withVersions fun v hv => ?_
    have hmem := hkept v (List.mem_of_mem_take (List.mem_filter.mp hv).1)
    exact (h.tops v hmem).trans_le ht.size_le

/-- Noting how far the text is complete keeps a stack valid. -/
theorem valid_noteComplete (h : s.Valid) : Leads noteComplete s fun _ t => t.Valid :=
  ⟨h.sound.of_frames rfl, h.nonempty, h.tops, h.finished⟩

/-- Reading on keeps a stack valid. -/
theorem valid_run (h : s.Valid) (length fuel last : Nat) :
    Leads (run length fuel last) s fun _ t => t.Valid := by
  induction fuel generalizing s last with
  | zero => exact h
  | succ fuel ih =>
    rw [run, leads_bind, leads_get]
    split
    · exact h
    · rw [leads_bind]
      refine (valid_runVersions h length 1000 0 last).mono ?_
      intro last t ht
      rw [leads_bind]
      refine (valid_condense ht).mono ?_
      intro _ u hu
      rw [leads_bind]
      exact (valid_noteComplete hu).mono fun _ w hw => ih hw last

/-- The stack at the start of a text is valid. -/
theorem valid_start {s : Stack} (halike : ({} : Stack).Alike s) (state : Nat) (cursor : Cursor) :
    ({ s with frames := s.frames.insert 0 { state, cursor }
              versions := [{ top := 0 }] } : Stack).Valid := by
  have hempty : ({} : Stack).Sound := by
    refine ⟨fun n => ?_, fun n l hl => ?_⟩
    · simp
    · simp [frame] at hl
  obtain ⟨hbottom, hlt, -⟩ := @grows_withFrame s (halike.grows hempty).sound 0
    { state, cursor } (Nat.zero_le _) (by
      intro hlt
      rw [halike.frames] at hlt
      cases hlt) (by simp)
  refine ⟨hbottom.sound.of_frames rfl, hlt, ?_, ?_⟩
  · intro v hv
    rw [List.mem_singleton.mp hv]
    exact hlt
  · intro trees htrees
    rw [halike.finished] at htrees
    cases htrees

end Stack

/-- Reading a text leads to a valid stack. -/
theorem valid_read (code : List Char) : (read code).Valid := by
  rw [read]
  refine Stack.Leads.madeBy (fun t => t.Valid) ?_
  rw [Stack.leads_bind]
  refine (Stack.alike_withAutomaton _ _).mono ?_
  intro state s halike
  rw [Stack.leads_bind, Stack.leads_modify]
  exact Stack.valid_run (Stack.valid_start halike state _) _ _ _

/-- The trees that a text is read as follow one another, with all their parts. -/
theorem consecutive_of_read {code : List Char} {trees : List Tree}
    (h : (read code).finished = some trees) : ∃ first last, Tree.Consecutive first trees last :=
  (valid_read code).finished trees h

end GoAddress.Source
