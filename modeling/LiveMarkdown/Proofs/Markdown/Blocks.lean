import LiveMarkdown.Proofs.Markdown.Marks

/-!
# The marks of blocks

Reading lines moves blocks from one place to another and adds leaves, whose tokens are
sound.  So all blocks of a text have sound tokens, all headings begin with number signs or have
an underline, and all events that describe the text have the marks of their kind.
-/

namespace LiveMarkdown.Markdown

variable {s : Source}

/-! ### Events -/

/-- A node that begins with an event has the marks of its kind. -/
def HasMarks (s : Source) : Event → Prop
  | .start kind span | .leaf kind span => s.IsMarked span kind
  | _ => True

theorem hasMarks_nodeEvents {kind : NodeKind} {span : Span} {inner : List Event}
    (h : s.IsMarked span kind) (hi : ∀ e ∈ inner, HasMarks s e) :
  ∀ e ∈ nodeEvents kind span inner, HasMarks s e
  := by
  unfold nodeEvents
  rw [List.forall_mem_cons, List.forall_mem_append]
  refine ⟨h, hi, ?_⟩
  intro e he
  rw [List.mem_singleton.mp he]
  trivial

mutual

/-- The events of a part that has its marks have theirs. -/
theorem Inline.hasMarks_events {x : Inline} (h : x.IsSound s) :
  ∀ e ∈ x.events, HasMarks s e
  := by
  match x with
  | .run r => simp [Inline.events]
  | .part kind span inner =>
    obtain ⟨marked, sound⟩ := h
    rw [Inline.events.eq_def]
    split
    next => simp
    next code =>
      cases code
      intro e he
      rw [List.mem_singleton.mp he]
      apply marked
    next other =>
      cases other
      apply hasMarks_nodeEvents marked (Inline.hasMarks_eventsOfList sound)

/-- The events of some parts that have their marks have theirs. -/
theorem Inline.hasMarks_eventsOfList {xs : List Inline} (h : Inline.AreSound s xs) :
  ∀ e ∈ Inline.eventsOfList xs, HasMarks s e
  := by
  match xs with
  | [] => simp [Inline.eventsOfList]
  | x :: xs =>
    rw [Inline.eventsOfList, List.forall_mem_append]
    exact ⟨Inline.hasMarks_events h.1, Inline.hasMarks_eventsOfList h.2⟩

end

/-- The tokens of a leaf are sound. -/
def InlineText.IsSound (s : Source) (text : InlineText) : Prop :=
  ∀ t ∈ text.tokens, t.IsSound s

theorem InlineText.hasMarks_events {text : InlineText} (h : text.IsSound s) (ds : Definitions) :
  ∀ e ∈ text.events s ds, HasMarks s e
  := by
  apply Inline.hasMarks_eventsOfList
  apply Leafing.parts_areSound
  apply h

/-! ### Blocks -/

/-- The cells of a row are sound. -/
def TableRow.IsSound (s : Source) (row : TableRow) : Prop :=
  ∀ cell ∈ row.cells, cell.IsSound s

mutual

/-- All leaves of a block have sound tokens, and all headings their marks. -/
def Block.IsSound (s : Source) : Block → Prop
  | .quote _ blocks | .list _ _ _ blocks | .item _ blocks => Block.AreSound s blocks
  | .paragraph text => text.IsSound s
  | .heading level text => s.IsMarked text.span (.heading level) ∧ text.IsSound s
  | .table _ rows => ∀ row ∈ rows, row.IsSound s
  | .verbatim _ => True

/-- All leaves of some blocks have sound tokens, and all headings their marks. -/
def Block.AreSound (s : Source) : List Block → Prop
  | [] => True
  | b :: bs => b.IsSound s ∧ Block.AreSound s bs

end

theorem Block.areSound_iff {bs : List Block} :
  Block.AreSound s bs ↔ ∀ b ∈ bs, b.IsSound s
  := by
  induction bs with
  | nil => simp [Block.AreSound]
  | cons b bs ih => rw [Block.AreSound, List.forall_mem_cons, ih]

mutual

/-- The events of a block whose tokens are sound have their marks. -/
theorem Block.hasMarks_events {b : Block} (h : b.IsSound s) (ds : Definitions) (tight : Bool) :
  ∀ e ∈ b.events s ds tight, HasMarks s e
  := by
  match b with
  | .quote span blocks =>
    apply hasMarks_nodeEvents
    · trivial
    · apply Block.hasMarks_eventsOfList h
  | .list span ordered tight items =>
    apply hasMarks_nodeEvents
    · cases ordered <;> trivial
    · apply Block.hasMarks_eventsOfList h
  | .item span blocks =>
    apply hasMarks_nodeEvents
    · trivial
    · apply Block.hasMarks_eventsOfList h
  | .paragraph text =>
    rw [Block.events]
    split
    · apply InlineText.hasMarks_events h
    · apply hasMarks_nodeEvents
      · trivial
      · apply InlineText.hasMarks_events h
  | .heading level text =>
    apply hasMarks_nodeEvents h.1
    apply InlineText.hasMarks_events h.2
  | .table span rows =>
    rw [Block.events]
    apply hasMarks_nodeEvents
    · trivial
    · simp only [List.forall_mem_flatMap]
      intro row hrow
      apply hasMarks_nodeEvents
      · trivial
      · simp only [List.forall_mem_flatMap]
        intro cell hcell
        apply hasMarks_nodeEvents
        · trivial
        · apply InlineText.hasMarks_events (h row hrow cell hcell)
  | .verbatim span =>
    apply hasMarks_nodeEvents
    · trivial
    · simp

/-- The events of some blocks whose tokens are sound have their marks. -/
theorem Block.hasMarks_eventsOfList {bs : List Block} (h : Block.AreSound s bs)
    (ds : Definitions) (tight : Bool) :
  ∀ e ∈ Block.eventsOfList s ds tight bs, HasMarks s e
  := by
  match bs with
  | [] => simp [Block.eventsOfList]
  | b :: bs =>
    rw [Block.eventsOfList, List.forall_mem_append]
    exact ⟨b.hasMarks_events h.1 ds tight, Block.hasMarks_eventsOfList h.2 ds tight⟩

end

/-! ### Reading lines -/

namespace BlockState

/-- All blocks read so far have sound tokens. -/
structure IsSound (s : Source) (st : BlockState) : Prop where
  /-- The blocks in open containers and lists. -/
  frames : ∀ f ∈ st.frames, Block.AreSound s f.blocks
  /-- The blocks outside of them. -/
  blocks : Block.AreSound s st.blocks

variable {st : BlockState}

/-- The blocks in the innermost frame, and those in the frames around it. -/
theorem IsSound.of_frames (h : st.IsSound s) {f : Frame} {fs : List Frame}
    (hf : st.frames = f :: fs) :
  Block.AreSound s f.blocks ∧ ∀ g ∈ fs, Block.AreSound s g.blocks
  := List.forall_mem_cons.mp (hf ▸ h.frames)

theorem IsSound.add (h : st.IsSound s) {b : Block} (hb : b.IsSound s) :
  (st.add b).IsSound s
  := by
  unfold BlockState.add
  split
  next => exact ⟨h.frames, hb, h.blocks⟩
  next f fs hf =>
    obtain ⟨inner, rest⟩ := h.of_frames hf
    refine ⟨?_, h.blocks⟩
    rw [List.forall_mem_cons]
    exact ⟨⟨hb, inner⟩, rest⟩

theorem IsSound.openFrame (h : st.IsSound s) (kind : FrameKind) (start : Nat) :
  (st.openFrame kind start).IsSound s
  := by
  refine ⟨?_, h.blocks⟩
  unfold BlockState.openFrame
  rw [List.forall_mem_cons]
  exact ⟨trivial, h.frames⟩

/-- The block that an open frame becomes has the blocks in it. -/
theorem IsSound.closeFrame (h : st.IsSound s) (stop : Nat) :
  (st.closeFrame stop).IsSound s
  := by
  unfold BlockState.closeFrame
  split
  next => apply h
  next f fs hf =>
    obtain ⟨reversed, outer⟩ := h.of_frames hf
    have rest : IsSound s { st with frames := fs } := ⟨outer, h.blocks⟩
    have inner : Block.AreSound s f.blocks.reverse := by
      simpa only [Block.areSound_iff, List.mem_reverse] using reversed
    extract_lets span blocks
    split
    · apply rest.add
      apply inner
    · apply rest.add
      apply inner
    · extract_lets st'
      have rest' : st'.IsSound s := by
        unfold st'
        split <;> exact ⟨rest.frames, rest.blocks⟩
      apply rest'.add
      apply inner

theorem IsSound.closeFrames (h : st.IsSound s) (stop n : Nat) :
  (st.closeFrames stop n).IsSound s
  := by
  induction n generalizing st with
  | zero => apply h
  | succ n ih => apply ih (h.closeFrame stop)

theorem IsSound.closeContainers (h : st.IsSound s) (n stop : Nat) :
  (st.closeContainers n stop).IsSound s
  := by
  apply h.closeFrames

@[simp] theorem loosen_blocks (f : Frame) :
  (loosen f).blocks = f.blocks
  := by
  unfold loosen
  split <;> rfl

theorem IsSound.finishEmptyItem (h : st.IsSound s) :
  st.finishEmptyItem.IsSound s
  := by
  unfold BlockState.finishEmptyItem
  extract_lets st'
  have h' : st'.IsSound s := by
    unfold st'
    split
    · split
      · apply h.closeFrame
      · apply h
    · apply h
  exact ⟨h'.frames, h'.blocks⟩

theorem IsSound.finishList (h : st.IsSound s) (stop : Nat) :
  (st.finishList stop).IsSound s
  := by
  unfold BlockState.finishList
  extract_lets st' st'' frames
  have h' : st'.IsSound s := h.finishEmptyItem
  have h'' : st''.IsSound s := by
    unfold st''
    split
    · split
      · apply h'.closeFrame
      · apply h'
    · apply h'
  split
  · refine ⟨?_, h''.blocks⟩
    unfold frames
    split
    next f g fs hf =>
      have each := h''.frames
      rw [hf] at each
      simpa using each
    next => apply h''.frames
  · apply h''

theorem IsSound.continueList (h : st.IsSound s) (start : Nat) (delimiter : Char) :
  (st.continueList start delimiter).IsSound s
  := by
  unfold BlockState.continueList
  extract_lets st' fits st''
  have h' : st'.IsSound s := h.finishEmptyItem
  split
  · split
    · refine ⟨?_, h'.blocks⟩
      dsimp only
      split
      next f fs hf =>
        have each := h'.frames
        rw [hf] at each
        simpa using each
      next => simp
    · apply h'
  · have h'' : st''.IsSound s := by
      unfold st''
      split
      · apply h'
      · apply h'.finishList
    have opened := h''.openFrame (.list delimiter true) start
    exact ⟨opened.frames, opened.blocks⟩

theorem IsSound.blankLine (h : st.IsSound s) :
  st.blankLine.IsSound s
  := by
  unfold BlockState.blankLine
  split
  next => apply h
  next indent start blocks fs hf =>
    refine ⟨?_, h.blocks⟩
    rw [List.forall_mem_cons]
    apply h.of_frames hf
  next => exact ⟨h.frames, h.blocks⟩

end BlockState

/-! ### Headings -/

namespace Source

theorem le_of_lineEnd? {i next : Nat} (h : s.lineEnd? i = some next) :
  i ≤ next
  := by
  unfold lineEnd? at h
  split at h
  next => cases h; omega
  next => cases h; omega
  next =>
    cases h
    split <;> omega
  next => cases h

theorem lt_of_underline? {i level stop : Nat} (h : s.underline? i = some (level, stop)) :
  i < stop
  := by
  unfold underline? at h
  obtain ⟨c, hc, h⟩ := Option.bind_eq_some_iff.mp h
  extract_lets finish at h
  have after {n : Nat} (done : finish n = some (level, stop)) : i < stop := by
    obtain ⟨next, hnext, done⟩ := Option.bind_eq_some_iff.mp done
    cases done
    have size := count_pos (p := (· == c)) hc (beq_self_eq_true c)
    have blank := (skipWhile_spec s isLineSpace (s.skipWhile (· == c) i)).1
    have ends := le_of_lineEnd? hnext
    unfold count at size
    unfold skipLineSpace at ends
    omega
  split at h
  · apply after h
  · split at h
    · apply after h
    · cases h

/-- The separators between words are ASCII characters. -/
theorem ascii_of_isSpace {c : Char} (h : isSpace c) :
  c.toNat < 0x80
  := by
  unfold isSpace at h
  simp only [Bool.or_eq_true, beq_iff_eq, Bool.and_eq_true, decide_eq_true_eq] at h
  rcases h with rfl | ⟨-, h⟩
  · decide
  · apply Nat.lt_of_le_of_lt h
    decide

theorem isNumbered_of_headingLevel? {i level : Nat} (h : s.headingLevel? i = some level) :
  s.IsNumbered level i
  := by
  unfold headingLevel? at h
  dsimp only at h
  split at h
  next found =>
    cases h
    rw [Bool.and_eq_true] at found
    refine ⟨?_, ?_⟩
    · apply areAscii_count
      intro c hc
      rw [beq_iff_eq.mp hc]
      decide
    · intro c hc
      have space := found.2
      rw [hc, Option.all_some] at space
      apply ascii_of_isSpace space
  next => cases h

end Source

/-! ### Leaves -/

theorem InlineText.isSound_of_empty {span : Span} {containers : List Container} {inTable : Bool} :
  InlineText.IsSound s ⟨span, #[], containers, inTable⟩
  := by
  simp [InlineText.IsSound]

theorem indentedCode_isSound {containers : List Container} {start : Nat} {leaf : Leaf}
    {blank : Bool} (h : indentedCode s containers start = (leaf, blank)) :
  leaf.block.IsSound s
  := by
  have rest (i : Nat) (blank : Bool) (stop : Nat) :
      (indentedCode.go s containers start i blank stop).1.block.IsSound s := by
    fun_induction indentedCode.go s containers start i blank stop with
    | case1 => assumption
    | case2 | case3 => trivial
  have all := rest start false start
  unfold indentedCode at h
  rw [h] at all
  apply all

theorem fencedCode_isSound (containers : List Container) (start indent : Nat) (mark : Char)
    (n : Nat) :
  (fencedCode s containers start indent mark n).block.IsSound s
  := by
  have rest (i : Nat) :
      (fencedCode.go s containers start indent mark n i).block.IsSound s := by
    fun_induction fencedCode.go s containers start indent mark n i with
    | case3 => assumption
    | case1 | case2 | case4 => trivial
  apply rest

theorem htmlBlock_isSound (containers : List Container) (start : Nat) (stopAt : HtmlEnd) :
  (htmlBlock s containers start stopAt).block.IsSound s
  := by
  have rest (i : Nat) : (htmlBlock.go s containers start stopAt i).block.IsSound s := by
    fun_induction htmlBlock.go s containers start stopAt i with
    | case4 | case8 =>
      subst stopAt
      assumption
    | case1 | case2 | case3 | case5 | case6 | case7 | case9 => trivial
  apply rest

theorem numberSignHeading_isSound {start level : Nat} (h : s.headingLevel? start = some level)
    (containers : List Container) :
  (numberSignHeading s containers start level).block.IsSound s
  := by
  have signs := Source.isNumbered_of_headingLevel? h
  unfold numberSignHeading
  extract_lets leaf line
  split
  · exact ⟨Or.inl signs, InlineText.isSound_of_empty⟩
  · exact ⟨Or.inl signs, (tokenizeLine_isSound (by simp) _ _).tokens⟩

theorem tableRow_isSound {containers : List Container} {columns start next : Nat} {row : TableRow}
    (h : tableRow s containers columns start = (row, next)) :
  row.IsSound s
  := by
  have rest (i : Nat) (cells : List InlineText) (h : ∀ cell ∈ cells, cell.IsSound s) :
      ∀ cell ∈ (tableRow.go s containers i cells).1, cell.IsSound s := by
    have more (j : Nat) (span : Span) :
        InlineText.IsSound s ⟨span, (tokenizeLine s .cell j #[]).tokens, containers, true⟩ :=
      (tokenizeLine_isSound (by simp) _ _).tokens
    fun_induction tableRow.go s containers i cells with
    | case1 i cells first j next ends => simpa only [List.mem_reverse] using h
    | case2 i cells first j ends line cells' grows ih =>
      apply ih
      rw [List.forall_mem_cons]
      exact ⟨more _ _, h⟩
    | case3 i cells first j ends line cells' stuck =>
      simp only [List.mem_reverse]
      rw [List.forall_mem_cons]
      exact ⟨more _ _, h⟩
  obtain ⟨rfl, -⟩ := Prod.mk.inj h
  intro cell hcell
  rcases List.mem_append.mp hcell with hcell | hcell
  · apply rest start [] (by simp) cell (List.mem_of_mem_take hcell)
  · rw [(List.mem_replicate.mp hcell).2]
    apply InlineText.isSound_of_empty

theorem tableBody_isSound {containers : List Container} {columns i stop : Nat}
    {rows : List TableRow} (h : tableBody s containers columns i = (rows, stop)) :
  ∀ row ∈ rows, row.IsSound s
  := by
  fun_induction tableBody s containers columns i generalizing rows stop with
  | case1 =>
    cases h
    simp
  | case2 =>
    rename_i hrow _ _ _ hrows ih
    cases h
    rw [List.forall_mem_cons]
    exact ⟨tableRow_isSound hrow, ih hrows⟩
  | case3 =>
    rename_i hrow _
    cases h
    rw [List.forall_mem_cons]
    exact ⟨tableRow_isSound hrow, by simp⟩

theorem paragraph_isSound (containers : List Container) (start : Nat) :
  (paragraph s containers start).block.IsSound s
  := by
  have rest (i : Nat) (tokens : Array Token) (h : ∀ t ∈ tokens, t.IsSound s) :
      (paragraph.go s containers start i tokens).block.IsSound s := by
    fun_induction paragraph.go s containers start i tokens with
    | case1 =>
      rename_i hrow _ _ hrows
      unfold Block.IsSound
      rw [List.forall_mem_cons]
      exact ⟨tableRow_isSound hrow, tableBody_isSound hrows⟩
    | case2 =>
      rename_i underline _
      refine ⟨Or.inr ?_, (tokenizeLine_isSound h _ _).tokens⟩
      split at underline
      · exact ⟨_, Source.lt_of_underline? underline, underline⟩
      · cases underline
    | case3 | case5 => apply (tokenizeLine_isSound h _ _).tokens
    | case4 i tokens line =>
      rename_i more ih
      have sound : line.IsSound s := tokenizeLine_isSound h _ _
      apply ih
      -- the break between two lines is a token as well
      unfold more
      split
      next token ending =>
        intro t ht
        rcases Array.mem_push.mp ht with ht | rfl
        · apply sound.tokens t ht
        · apply sound.ending t ending
      next => apply sound.tokens
  apply rest _ _ (by simp)

/-! ### Documents -/

section

variable {st : BlockState}

/-- What the marks at the start of a line lead to has sound tokens. -/
def LineContent.IsSound (s : Source) : LineContent → Prop
  | .done st _ | .content st _ => st.IsSound s

theorem openContainers_isSound {st : BlockState} (h : st.IsSound s) (line : Nat) (c : Cursor) :
  (openContainers s line st c).IsSound s
  := by
  unfold openContainers
  split
  · apply h
  · split
    next mark c' hmark =>
      extract_lets start st' content
      have h' : st'.IsSound s := (h.continueList _ _).openFrame _ _
      split
      · exact ⟨h'.frames, h'.blocks⟩
      · split
        next further =>
          -- a list item may begin with another one or with a quote
          have shorter := Nat.sub_lt_sub_left further.2 further.1
          apply openContainers_isSound h'
        next => apply h'
    next =>
      split
      next c' hquote =>
        extract_lets st'
        have h' : st'.IsSound s := (h.finishList _).openFrame _ _
        split
        next further =>
          have shorter := Nat.sub_lt_sub_left further.2 further.1
          apply openContainers_isSound h'
        next => apply h'
      next => apply h
termination_by s.limit - c.pos

theorem definitionsAndParagraph_isSound (h : st.IsSound s) (i : Nat) :
  (definitionsAndParagraph s st i).1.IsSound s
  := by
  have defined {st : BlockState} (h : st.IsSound s) (definitions : Definitions) :
      BlockState.IsSound s { st with definitions } :=
    ⟨h.frames, h.blocks⟩
  fun_induction definitionsAndParagraph s st i with
  | case1 => apply (h.finishList _).add (paragraph_isSound _ _)
  | case2 | case3 | case5 => apply (defined h _).finishList
  | case4 =>
    rename_i ih
    apply ih (defined h _)

theorem readLeaf_isSound (h : st.IsSound s) (line : Nat) (c : Cursor) :
  (readLeaf s line st c).1.IsSound s
  := by
  have closed := h.finishList line
  fun_cases readLeaf s line st c with
  | case1 =>
    rename_i hleaf
    have added := closed.add (indentedCode_isSound hleaf)
    exact ⟨added.frames, added.blocks⟩
  | case2 => apply closed.add (htmlBlock_isSound _ _ _)
  | case3 => apply closed
  | case4 =>
    rename_i level
    apply closed.add (numberSignHeading_isSound level _)
  | case5 => apply closed.add (fencedCode_isSound _ _ _ _ _)
  | case6 => apply definitionsAndParagraph_isSound h

theorem readBlock_isSound (h : st.IsSound s) {st' : BlockState} {i next : Nat}
    (read : readBlock s st i = (st', next)) :
  st'.IsSound s
  := by
  have opened {n : Nat} {c : Cursor} {content : LineContent}
      (hopen : openContainers s i (st.closeContainers n i) c = content) : content.IsSound s :=
    hopen ▸ openContainers_isSound (h.closeContainers n i) i c
  obtain ⟨rfl, -⟩ := Prod.mk.inj read
  split
  next st' next hopen => apply opened hopen
  next st' c hopen =>
    have inner : st'.IsSound s := opened hopen
    split
    · apply inner.blankLine
    · apply readLeaf_isSound inner

theorem readBlocks_isSound (h : st.IsSound s) (i : Nat) :
  (readBlocks s st i).IsSound s
  := by
  fun_induction readBlocks s st i with
  | case1 =>
    rename_i read _ ih
    apply ih (readBlock_isSound h read)
  | case2 =>
    rename_i read _
    apply (readBlock_isSound h read).closeFrames
  | case3 => apply h.closeFrames

end

theorem blocksOf_areSound (s : Source) :
  Block.AreSound s (blocksOf s).1
  := by
  have empty : BlockState.IsSound s {} := ⟨by simp, trivial⟩
  have read := (readBlocks_isSound empty 0).blocks
  unfold blocksOf
  simpa only [Block.areSound_iff, List.mem_reverse] using read

/-- All events that describe a text have the marks of their kind. -/
theorem hasMarks_of_mem_events {text : String} {e : Event} (he : e ∈ events text) :
  HasMarks (Source.ofString text) e
  := by
  apply Block.hasMarks_eventsOfList (blocksOf_areSound _) _ _ e he

end LiveMarkdown.Markdown
