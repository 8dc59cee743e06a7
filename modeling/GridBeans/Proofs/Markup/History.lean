import Mathlib.Data.List.Infix
import GridBeans.Proofs.Markup.Spacing

/-!
# Histories of a sheet

A sheet remembers no more of what was done to it than a depth and two flags. Here they are told from
the history of actions: the depth counts the blocks that are open, the one flag says that a blank
line was requested and that since then no section has started and no block has ended, and the other
says that the last line started a block. Hence every line is indented by the blocks around it, and
blank lines that are only requested never stand at the edge of a block or next to each other.
-/
namespace GridBeans.Markup

/-! ## What a history says -/

instance : DecidablePred Mark.Opens
  | .opening piece => .isTrue ⟨piece, rfl⟩
  | .line _ | .closing _ | .blank | .requestBlank | .sectionStart => .isFalse nofun

instance : DecidablePred Mark.Closes
  | .closing piece => .isTrue ⟨piece, rfl⟩
  | .line _ | .opening _ | .blank | .requestBlank | .sectionStart => .isFalse nofun

/-- The action starts a section or ends a block, so an earlier request counts no more. -/
def Mark.Settles (m : Mark) : Prop :=
  m = .sectionStart ∨ m.Closes

/-- A blank line was requested, and no action has settled the request since. -/
def Wanted (history : List Mark) : Prop :=
  ∃ before since, history = before ++ .requestBlank :: since ∧ ∀ m ∈ since, ¬ m.Settles

/-- The blocks that are open after a history. -/
def openBlocks (history : List Mark) : Nat :=
  history.countP (·.Opens) - history.countP (·.Closes)

/-- No block is closed that was not opened before. -/
def Matched (marks : List Mark) : Prop :=
  ∀ history, history <+: marks → history.countP (·.Closes) ≤ history.countP (·.Opens)

/-- The blocks around the line of an action. The line that ends a block stands outside of it, like
the one that starts it. -/
def blocksAround (history : List Mark) (m : Mark) : Nat :=
  if m.Closes then openBlocks (history ++ [m]) else openBlocks history

/-- The cursor after a history from a depth on. -/
def cursorAfter (depth : Nat) (history : List Mark) : Cursor :=
  ((Cursor.start depth).run history).2

/-- The action that wrote the last line opens a block. -/
def OpensLast (depth : Nat) (history : List Mark) : Prop :=
  ∃ w ∈ ((Cursor.start depth).written history).getLast?, w.1.Opens

/-! ## One more action -/

/-- An action changes the depth by the tag it writes: one more behind a start, one less at an end.
-/
theorem Cursor.depth_step (c : Cursor) (m : Mark) :
    (c.step m).2.depth =
      c.depth + (if m.Opens then 1 else 0) - if m.Closes then 1 else 0 := by
  cases m with
  | line | opening | closing | blank | requestBlank => simp [Cursor.step, Mark.Opens, Mark.Closes]
  | sectionStart =>
    rw [Cursor.step]
    split <;> simp [Mark.Opens, Mark.Closes]

/-- A blank line is requested behind a request, and behind an action that does not settle an earlier
one. -/
theorem Cursor.blankRequested_step (c : Cursor) (m : Mark) :
    (c.step m).2.blankRequested = true ↔
      m = .requestBlank ∨ ¬ m.Settles ∧ c.blankRequested = true := by
  cases m with
  | line | opening | closing | blank | requestBlank =>
    simp [Cursor.step, Mark.Settles, Mark.Closes]
  | sectionStart =>
    rw [Cursor.step]
    split <;> simp [Mark.Settles]

/-- An action that writes a line decides whether the last line opens a block; any other does not
matter. -/
theorem Cursor.atBlockStart_step (c : Cursor) (m : Mark) :
    (c.step m).2.atBlockStart = true ↔
      if (c.step m).1.isSome then m.Opens else c.atBlockStart = true := by
  cases m with
  | line | opening | closing | blank | requestBlank => simp [Cursor.step, Mark.Opens]
  | sectionStart =>
    rw [Cursor.step]
    split <;> simp [Mark.Opens]

theorem cursorAfter_concat (top : Nat) (history : List Mark) (m : Mark) :
    cursorAfter top (history ++ [m]) = ((cursorAfter top history).step m).2 := by
  rw [cursorAfter, Cursor.run_append]
  rfl

theorem Cursor.written_append (c : Cursor) (xs ys : List Mark) :
    c.written (xs ++ ys) = c.written xs ++ (c.run xs).2.written ys := by
  induction xs generalizing c with
  | nil => rfl
  | cons m rest ih =>
    rw [List.cons_append, Cursor.written, Cursor.written, ih, List.append_assoc]
    rfl

/-- A blank line is wanted after one more action if the action requests it, or if it was wanted and
is not settled. -/
theorem wanted_concat (history : List Mark) (m : Mark) :
    Wanted (history ++ [m]) ↔ m = .requestBlank ∨ ¬ m.Settles ∧ Wanted history := by
  constructor
  · rintro ⟨before, since, same, unsettled⟩
    rcases List.eq_nil_or_concat since with rfl | ⟨since, last, rfl⟩
    · obtain ⟨-, lastSame⟩ := List.append_inj' same rfl
      exact .inl (List.singleton_inj.mp lastSame)
    · rw [List.concat_eq_append, ← List.cons_append, ← List.append_assoc] at same
      obtain ⟨frontSame, lastSame⟩ := List.append_inj' same rfl
      obtain rfl := List.singleton_inj.mp lastSame
      rw [List.concat_eq_append, List.forall_mem_append, List.forall_mem_singleton] at unsettled
      exact .inr ⟨unsettled.2, before, since, frontSame, unsettled.1⟩
  · rintro (rfl | ⟨unsettled, before, since, rfl, others⟩)
    · exact ⟨history, [], rfl, List.forall_mem_nil _⟩
    · refine ⟨before, since ++ [m], by simp, ?_⟩
      exact List.forall_mem_append.mpr ⟨others, List.forall_mem_singleton.mpr unsettled⟩

/-- Whether the last line opens a block only changes with an action that writes a line. -/
theorem opensLast_concat (top : Nat) (history : List Mark) (m : Mark) :
    OpensLast top (history ++ [m]) ↔
      if ((cursorAfter top history).step m).1.isSome then m.Opens else OpensLast top history := by
  have lines : (Cursor.start top).written (history ++ [m]) =
      (Cursor.start top).written history ++
        ((cursorAfter top history).step m).1.toList.map fun line => (m, line) := by
    rw [Cursor.written_append, Cursor.written, Cursor.written, List.append_nil]
    rfl
  rw [OpensLast, lines]
  cases ((cursorAfter top history).step m).1 with
  | none => simp [OpensLast]
  | some line => simp

/-- The number of open blocks changes by one, up or down, with the tag that an action writes. -/
theorem openBlocks_concat (history : List Mark) (m : Mark) :
    openBlocks (history ++ [m]) =
      history.countP (·.Opens) + (if m.Opens then 1 else 0) -
        (history.countP (·.Closes) + if m.Closes then 1 else 0) := by
  simp [openBlocks, List.countP_append, List.countP_singleton]

theorem Matched.of_prefix {marks front : List Mark} (matched : Matched marks)
    (ahead : front <+: marks) : Matched front :=
  fun history isPrefix => matched history (isPrefix.trans ahead)

/-! ## What a sheet remembers -/

/-- The depth and the flags of the cursor that started at a depth, told from the history. -/
structure Remembers (top : Nat) (history : List Mark) : Prop where
  depth : (cursorAfter top history).depth = top + openBlocks history
  requested : (cursorAfter top history).blankRequested = true ↔ Wanted history
  blockStart : (cursorAfter top history).atBlockStart = true ↔ OpensLast top history

namespace Remembers

variable {top : Nat} {history : List Mark} {m : Mark}

theorem nil (top : Nat) : Remembers top [] := by
  refine ⟨rfl, ?_, ?_⟩
  · simp [cursorAfter, Cursor.run, Cursor.start, Wanted]
  · simp [cursorAfter, Cursor.run, Cursor.start, OpensLast, Cursor.written]

/-- One more action keeps what the sheet remembers in step with the history. -/
theorem concat (remembers : Remembers top history) (matched : Matched (history ++ [m])) :
    Remembers top (history ++ [m]) := by
  refine ⟨?_, ?_, ?_⟩
  · have before := matched history (List.prefix_append _ _)
    have depth := remembers.depth
    rw [openBlocks] at depth
    rw [cursorAfter_concat, Cursor.depth_step, openBlocks_concat, depth]
    have fits := matched _ (List.prefix_refl _)
    rw [List.countP_append, List.countP_append, List.countP_singleton,
      List.countP_singleton] at fits
    simp only [decide_eq_true_eq] at fits
    omega
  · rw [cursorAfter_concat, Cursor.blankRequested_step, remembers.requested, wanted_concat]
  · rw [cursorAfter_concat, Cursor.atBlockStart_step, opensLast_concat, remembers.blockStart]

/-- After any history that closes no more blocks than it opens. -/
theorem of_matched (matched : Matched history) : Remembers top history := by
  induction history using List.reverseRecOn with
  | nil => exact nil top
  | append_singleton history m ih =>
    exact concat (ih (matched.of_prefix (List.prefix_append _ _))) matched

/-- A blank line is due exactly if one is still wanted and the last line does not open a block. -/
theorem blankDue_iff (remembers : Remembers top history) :
    (cursorAfter top history).blankDue = true ↔ Wanted history ∧ ¬ OpensLast top history := by
  rw [Cursor.blankDue, Bool.and_eq_true, remembers.requested, Bool.not_eq_true',
    ← Bool.not_eq_true, remembers.blockStart]

/-- The line of an action is indented by the blocks around it. -/
theorem line_step (remembers : Remembers top history) (matched : Matched (history ++ [m]))
    {piece : Piece} (writes : m.piece? = some piece) :
    ((cursorAfter top history).step m).1 =
      some (.content (top + blocksAround history m) piece) := by
  have depth := remembers.depth
  have behind := (remembers.concat matched).depth
  rw [cursorAfter_concat] at behind
  cases m with
  | line given | opening given =>
    obtain rfl := Option.some.inj writes
    rw [blocksAround, if_neg (by simp [Mark.Closes]), ← depth]
    rfl
  | closing given =>
    obtain rfl := Option.some.inj writes
    rw [blocksAround, if_pos ⟨_, rfl⟩, ← behind]
    rfl
  | blank | requestBlank | sectionStart => cases writes

end Remembers

/-! ## Where blank lines stand -/

/-- The action writes the first line of a section. -/
def Mark.Begins (m : Mark) : Prop :=
  m.Opens ∨ ∃ piece, m = .line piece

/-- Blank lines are only requested, every section starts with a line, and no text is empty. -/
structure LeavesBlanks (marks : List Mark) : Prop where
  requested : .blank ∉ marks
  begun : ∀ rest, .sectionStart :: rest <:+ marks → ∃ m ∈ rest.head?, m.Begins
  filled : ∀ m ∈ marks, ∀ piece ∈ m.piece?, piece.render ≠ ""

/-- An empty line is at no edge of a block and not next to another one. -/
structure BlanksApart (written : List (Mark × Line)) : Prop where
  single : written.IsChain fun a b => a.2.render = "" → b.2.render ≠ ""
  opening : written.IsChain fun a b => a.1.Opens → b.2.render ≠ ""
  closing : written.IsChain fun a b => b.1.Closes → a.2.render ≠ ""

/-- Of two lines one after the other, an empty one has text on the other side, opens no block and
closes none. -/
def Parted (a b : Mark × Line) : Prop :=
  (a.2.render = "" → b.2.render ≠ "") ∧ (a.1.Opens → b.2.render ≠ "") ∧
    (b.1.Closes → a.2.render ≠ "")

theorem render_content_ne {piece : Piece} (filled : piece.render ≠ "") (depth : Nat) :
    (Line.content depth piece).render ≠ "" := by
  simp [Line.render, filled]

/-- An action with a piece writes it on a line. -/
theorem Cursor.step_piece (c : Cursor) {m : Mark} {piece : Piece} (writes : m.piece? = some piece) :
    ∃ depth, (c.step m).1 = some (.content depth piece) := by
  cases m with
  | line given | opening given | closing given =>
    obtain rfl := Option.some.inj writes
    exact ⟨_, rfl⟩
  | blank | requestBlank | sectionStart => cases writes

/-- An action without a piece writes a blank line if any. -/
theorem Cursor.step_silent (c : Cursor) {m : Mark} (silent : m.piece? = none) {line : Line}
    (writes : (c.step m).1 = some line) :
    line = .blank ∧ (m = .blank ∨ m = .sectionStart ∧ c.atBlockStart = false) := by
  cases m with
  | line | opening | closing => cases silent
  | blank => exact ⟨(Option.some.inj writes).symm, .inl rfl⟩
  | requestBlank => cases writes
  | sectionStart =>
    rw [Cursor.step] at writes
    split at writes
    · rename_i due
      have notAtStart : c.atBlockStart = false := by
        rw [Cursor.blankDue, Bool.and_eq_true, Bool.not_eq_true'] at due
        exact due.2
      exact ⟨(Option.some.inj writes).symm, .inr ⟨rfl, notAtStart⟩⟩
    · cases writes

namespace LeavesBlanks

variable {m : Mark} {rest : List Mark}

theorem tail (leaves : LeavesBlanks (m :: rest)) : LeavesBlanks rest := by
  refine ⟨fun inside => leaves.requested (List.mem_cons_of_mem m inside), fun behind within => ?_,
    fun other inside => leaves.filled other (List.mem_cons_of_mem m inside)⟩
  exact leaves.begun behind (within.trans (List.suffix_cons m rest))

/-- A section starts with a line that has text and closes no block. -/
theorem begun_line (leaves : LeavesBlanks (.sectionStart :: rest)) (c : Cursor) :
    ∀ w ∈ (c.written rest).head?, w.2.render ≠ "" ∧ ¬ w.1.Closes := by
  obtain ⟨first, isFirst, begins⟩ := leaves.begun rest (List.suffix_refl _)
  obtain ⟨behind, rfl⟩ := List.head?_eq_some_iff.mp isFirst
  have hasPiece : (∃ piece, first.piece? = some piece) ∧ ¬ first.Closes := by
    rcases begins with ⟨piece, rfl⟩ | ⟨piece, rfl⟩
    all_goals exact ⟨⟨piece, rfl⟩, by simp [Mark.Closes]⟩
  obtain ⟨⟨piece, writes⟩, closesNone⟩ := hasPiece
  obtain ⟨depth, line⟩ := c.step_piece writes
  have filled := leaves.filled first (by simp) piece writes
  intro w isHead
  rw [Cursor.written, line] at isHead
  obtain rfl := Option.some.inj isHead
  exact ⟨render_content_ne filled depth, closesNone⟩

/-- The lines part empty ones from each other and from the edges of blocks, and the start of a block
that is still open is followed by text. -/
theorem parted {marks : List Mark} (leaves : LeavesBlanks marks) (c : Cursor) :
    (c.written marks).IsChain Parted ∧
      (c.atBlockStart = true → ∀ w ∈ (c.written marks).head?, w.2.render ≠ "") := by
  induction marks generalizing c with
  | nil =>
    refine ⟨.nil, fun _ w isHead => ?_⟩
    cases isHead
  | cons m rest ih =>
    obtain ⟨chain, text⟩ := ih leaves.tail (c.step m).2
    have atStart := c.atBlockStart_step m
    cases writes : (c.step m).1 with
    | none =>
      rw [writes] at atStart
      have same : c.written (m :: rest) = (c.step m).2.written rest := by
        rw [Cursor.written, writes]
        rfl
      rw [same]
      exact ⟨chain, fun start => text (atStart.mpr start)⟩
    | some line =>
      rw [writes] at atStart
      have lines : c.written (m :: rest) = (m, line) :: (c.step m).2.written rest := by
        rw [Cursor.written, writes]
        rfl
      rw [lines]
      cases hasPiece : m.piece? with
      | some piece =>
        obtain ⟨depth, isContent⟩ := c.step_piece hasPiece
        obtain rfl : line = .content depth piece := Option.some.inj (writes.symm.trans isContent)
        have filled := render_content_ne (leaves.filled m List.mem_cons_self piece hasPiece) depth
        refine ⟨List.isChain_cons.mpr ⟨fun w isNext => ?_, chain⟩, fun _ w isHead => ?_⟩
        · exact ⟨fun empty => absurd empty filled, fun opens => text (atStart.mpr opens) w isNext,
            fun _ => filled⟩
        · obtain rfl := Option.some.inj isHead
          exact filled
      | none =>
        obtain ⟨rfl, rfl | ⟨rfl, notAtStart⟩⟩ := c.step_silent hasPiece writes
        · exact absurd List.mem_cons_self leaves.requested
        · have begins := leaves.begun_line (c.step .sectionStart).2
          refine ⟨List.isChain_cons.mpr ⟨fun w isNext => ?_, chain⟩, fun start => ?_⟩
          · obtain ⟨filled, closesNone⟩ := begins w isNext
            exact ⟨fun _ => filled, fun _ => filled, fun closes => absurd closes closesNone⟩
          · rw [notAtStart] at start
            cases start

/-- If blank lines are only requested, none of them is at an edge of a block or next to another. -/
theorem blanksApart {marks : List Mark} (leaves : LeavesBlanks marks) (c : Cursor) :
    BlanksApart (c.written marks) := by
  obtain ⟨chain, -⟩ := leaves.parted c
  exact ⟨chain.imp fun _ _ parted => parted.1, chain.imp fun _ _ parted => parted.2.1,
    chain.imp fun _ _ parted => parted.2.2⟩

end LeavesBlanks

/-! ## Sheets -/

theorem Sheet.run_one (s : Sheet) (m : Mark) :
    (s.run [m]).lines = s.lines ++ (s.cursor.step m).1.toList := by
  simp [Sheet.run, Cursor.run]

/-- A sheet on which blocks are matched tells its history. A blank line is written for a section
exactly if it was requested, no earlier section or end of a block has settled the request, and the
last line does not open a block. Every text is indented by four spaces for each block around it and
for each level that the sheet starts at. If blank lines are only requested and every section starts
with a text, then empty lines are at no edge of a block and not next to each other. -/
theorem sheet_follows_history (top : Nat) (marks : List Mark) (matched : Matched marks) :
    (∀ history rest, marks = history ++ .sectionStart :: rest →
      let sheet := (Sheet.empty top).run history
      (sheet.cursor.blankDue = true ↔ Wanted history ∧ ¬ OpensLast top history) ∧
        (sheet.run [.sectionStart]).lines =
          sheet.lines ++ if sheet.cursor.blankDue then [.blank] else []) ∧
      (∀ history m rest piece, marks = history ++ m :: rest → m.piece? = some piece →
        let sheet := (Sheet.empty top).run history
        ∃ line, (sheet.run [m]).lines = sheet.lines ++ [line] ∧
          line.render =
            String.ofList (List.replicate (4 * (top + blocksAround history m)) ' ') ++
              piece.render) ∧
      (LeavesBlanks marks →
        let written := (Cursor.start top).written marks
        written.map Prod.snd = ((Sheet.empty top).run marks).lines ∧ BlanksApart written) := by
  refine ⟨fun history rest same => ?_, fun history m rest piece same writes => ?_,
    fun leaves => ⟨?_, leaves.blanksApart _⟩⟩
  · have remembers : Remembers top history :=
      .of_matched (matched.of_prefix (same ▸ List.prefix_append _ _))
    refine ⟨remembers.blankDue_iff, ?_⟩
    rw [Sheet.run_one, Cursor.step]
    split <;> rfl
  · have upToHere : Matched (history ++ [m]) :=
      matched.of_prefix ⟨rest, by rw [same, List.append_assoc]; rfl⟩
    have remembers : Remembers top history :=
      .of_matched (upToHere.of_prefix (List.prefix_append _ _))
    have writesLine : (((Sheet.empty top).run history).cursor.step m).1 =
        some (.content (top + blocksAround history m) piece) :=
      remembers.line_step upToHere writes
    refine ⟨.content (top + blocksAround history m) piece, ?_, rfl⟩
    rw [Sheet.run_one, writesLine]
    rfl
  · rw [Cursor.map_snd_written]
    rfl

/-- A block in which a blank line is requested at its start, twice between two sections, and at its
end. -/
def requestingMarks : List Mark :=
  [.requestBlank, .opening (.verbatim "<bean>"), .sectionStart, .line (.verbatim "a"),
    .requestBlank, .requestBlank, .sectionStart, .line (.verbatim "b"), .requestBlank,
    .closing (.verbatim "</bean>")]

/-- A block with two requests for blank lines that count only once, and with two, at its edges, that
do not count. -/
theorem requestingMarks_follow_history :
    Matched requestingMarks ∧ LeavesBlanks requestingMarks ∧
      ((Sheet.empty 1).run requestingMarks).render =
        "    <bean>\n        a\n\n        b\n    </bean>\n" ∧
      BlanksApart ((Cursor.start 1).written requestingMarks) := by
  have matched : Matched requestingMarks := by
    have each : ∀ history ∈ requestingMarks.inits,
        history.countP (·.Closes) ≤ history.countP (·.Opens) := by decide
    exact fun history ahead => each history ((List.mem_inits _ _).mpr ahead)
  have leaves : LeavesBlanks requestingMarks := by
    refine ⟨by decide, fun rest within => ?_, by decide⟩
    have isTail := (List.mem_tails _ _).mpr within
    simp only [requestingMarks, List.tails, List.mem_cons, List.cons.injEq, reduceCtorEq, true_and,
      false_and, false_or, or_false, List.not_mem_nil] at isTail
    rcases isTail with rfl | rfl
    all_goals exact ⟨_, rfl, .inr ⟨_, rfl⟩⟩
  obtain ⟨-, -, apart⟩ := sheet_follows_history 1 requestingMarks matched
  exact ⟨matched, leaves, by decide, (apart leaves).2⟩

end GridBeans.Markup
