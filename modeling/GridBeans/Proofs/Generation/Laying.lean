import GridBeans.Proofs.Generation.Failing
import GridBeans.Proofs.Markup.Sections

/-!
# Laying lines

What a script that succeeds writes from any cursor, said without the cursor: the lines at no depth,
and how they take the blank line that may be due. Pieces and blocks of their own ignore it, sections
put it ahead of their lines, and groups of sections with a request behind each of them come out with
one blank line between two that have any line. Each way is kept when scripts are put together.
-/
namespace GridBeans.Markup

/-! ## Cursors -/

/-- The cursor at the same depth with no blank line due. -/
def Cursor.settled (c : Cursor) : Cursor :=
  ⟨c.depth, false, false⟩

/-- The cursor behind the lines of a section, which is as it was if there are none. -/
def Cursor.behind (c : Cursor) (lines : List Line) : Cursor :=
  if lines = [] then c else c.settled

/-- The blank line ahead of the lines of a section. -/
def Cursor.ahead (c : Cursor) (lines : List Line) : List Line :=
  if lines ≠ [] ∧ c.blankDue = true then [.blank] else []

/-- The next section is set off, unless it is the first one of its block. -/
def Cursor.Parted (c : Cursor) : Prop :=
  c.blankRequested = true ∨ c.atBlockStart = true

@[simp] theorem Cursor.behind_nil (c : Cursor) : c.behind [] = c := rfl

@[simp] theorem Cursor.ahead_nil (c : Cursor) : c.ahead [] = [] := rfl

theorem Cursor.behind_of_ne_nil (c : Cursor) {lines : List Line} (filled : lines ≠ []) :
    c.behind lines = c.settled :=
  if_neg filled

theorem Cursor.ahead_of_ne_nil (c : Cursor) {lines : List Line} (filled : lines ≠ []) :
    c.ahead lines = if c.blankDue then [.blank] else [] := by
  simp only [ahead, ne_eq, filled, not_false_eq_true, true_and]

@[simp] theorem Cursor.settled_behind (c : Cursor) (lines : List Line) :
    c.settled.behind lines = c.settled := by
  rw [behind]
  split <;> rfl

@[simp] theorem Cursor.depth_behind (c : Cursor) (lines : List Line) :
    (c.behind lines).depth = c.depth := by
  rw [behind]
  split <;> rfl

theorem Cursor.ahead_of_not_due {c : Cursor} (notDue : c.blankDue = false) (lines : List Line) :
    c.ahead lines = [] := by
  simp [ahead, notDue]

/-- Where no blank line is due, none is due behind a section either. -/
theorem Cursor.blankDue_behind {c : Cursor} (notDue : c.blankDue = false) (lines : List Line) :
    (c.behind lines).blankDue = false := by
  rw [behind]
  split
  · exact notDue
  · rfl

/-- A request more makes no difference where sections are parted already. -/
theorem Cursor.Parted.ahead_request {c : Cursor} (parted : c.Parted) (lines : List Line) :
    ({ c with blankRequested := true } : Cursor).ahead lines = c.ahead lines := by
  have same : ({ c with blankRequested := true } : Cursor).blankDue = c.blankDue := by
    rcases parted with requested | start
    · simp [blankDue, requested]
    · simp [blankDue, start]
  rw [ahead, ahead, same]

end GridBeans.Markup

namespace GridBeans.Generation

open GridBeans.Markup

namespace Script

variable {α β : Type}

/-! ## Scripts one after the other -/

/-- Of two scripts that succeed, the second goes on from where the first one left the cursor. -/
theorem run_next {x : Script α} {y : Script β} (succeeds : (x >>= fun _ => y).failure? = none) :
    x.failure? = none ∧ y.failure? = none ∧ ∀ c : Cursor,
      c.run (x >>= fun _ => y).marks =
        ((c.run x.marks).1 ++ ((c.run x.marks).2.run y.marks).1,
          ((c.run x.marks).2.run y.marks).2) := by
  rw [failure?_next, Option.or_eq_none_iff] at succeeds
  refine ⟨succeeds.1, succeeds.2, fun c => ?_⟩
  obtain ⟨a, result⟩ := x.exists_outcome_ok_iff.mpr succeeds.1
  have marks : (x >>= fun _ => y).marks = x.marks ++ y.marks := by
    show (x.andThen fun _ => y).marks = _
    rw [marks_andThen, result]
  rw [marks, Cursor.run_append]

/-! ## Ways of laying lines -/

/-- The lines follow, from any cursor. -/
def Writes (x : Script α) (lines : List Line) : Prop :=
  x.failure? = none → ∀ c : Cursor,
    (c.run x.marks).1 = deeper c.depth lines ∧ (c.run x.marks).2.depth = c.depth

/-- The lines are what a block has inside. -/
def Fills (x : Script α) (lines : List Line) : Prop :=
  x.failure? = none → ∀ c : Cursor, c.atBlockStart = true →
    (c.run x.marks).1 = deeper c.depth lines ∧ (c.run x.marks).2.depth = c.depth

/-- The lines follow, from any cursor, and no blank line is due behind them. -/
def Stands (x : Script α) (lines : List Line) : Prop :=
  x.failure? = none → ∀ c : Cursor, c.run x.marks = (deeper c.depth lines, c.settled)

/-- Where no blank line is due, the lines follow and none is due behind them. -/
def Joins (x : Script α) (lines : List Line) : Prop :=
  x.failure? = none → ∀ c : Cursor, c.blankDue = false →
    c.run x.marks = (deeper c.depth lines, c.behind lines)

/-- The lines are a section: the blank line that is due goes ahead of them. -/
def Opens (x : Script α) (lines : List Line) : Prop :=
  x.failure? = none → ∀ c : Cursor,
    c.run x.marks = (c.ahead lines ++ deeper c.depth lines, c.behind lines)

/-- From where sections are parted, the lines are groups with blank lines between them. -/
def Spaces (x : Script α) (groups : List (List Line)) : Prop :=
  x.failure? = none → ∀ c : Cursor, c.Parted →
    (c.run x.marks).1 = c.ahead (spaced groups) ++ deeper c.depth (spaced groups) ∧
      (c.run x.marks).2.depth = c.depth

/-- The lines are a group ahead of whatever groups follow. -/
def Parts (x : Script α) (lines : List Line) : Prop :=
  ∀ (y : Script Unit) (groups : List (List Line)), y.Spaces groups →
    (x >>= fun _ => y).Spaces (lines :: groups)

variable {x : Script α} {y : Script β} {first second lines : List Line}

/-! ### Pieces -/

namespace Writes

theorem nothing (a : α) : (pure a : Script α).Writes [] :=
  fun _ _ => ⟨rfl, rfl⟩

theorem line (piece : Piece) : (Script.line piece).Writes (pieceLines [piece]) := by
  intro _ c
  have depth : 0 + c.depth = c.depth := Nat.zero_add c.depth
  simp only [pieceLines, List.map_cons, List.map_nil, deeper_cons, deeper_nil, Line.deeper, depth]
  exact ⟨rfl, rfl⟩

theorem blank : Script.blank.Writes [.blank] :=
  fun _ _ => ⟨rfl, rfl⟩

/-- Scripts one after the other write their lines one after the other, at the same depth. -/
theorem next (one : x.Writes first) (two : y.Writes second) :
    (x >>= fun _ => y).Writes (first ++ second) := by
  intro succeeds c
  obtain ⟨firstSucceeds, secondSucceeds, run⟩ := run_next succeeds
  obtain ⟨lines, depth⟩ := one firstSucceeds c
  obtain ⟨moreLines, moreDepth⟩ := two secondSucceeds (c.run x.marks).2
  rw [run, lines, moreLines, depth, deeper_append]
  exact ⟨rfl, moreDepth.trans depth⟩

theorem fills (writes : x.Writes lines) : x.Fills lines :=
  fun succeeds c _ => writes succeeds c

/-- The lines are added to those of any sheet, at the depth that the sheet is at. -/
theorem lines_runOn (writes : x.Writes lines) (succeeds : x.failure? = none) (sheet : Sheet) :
    (x.runOn sheet).lines = sheet.lines ++ deeper sheet.cursor.depth lines := by
  show sheet.lines ++ (sheet.cursor.run x.marks).1 = _
  rw [(writes succeeds sheet.cursor).1]

/-- A script for each item of a list writes the lines of the items in order. -/
theorem forEach {items : List α} {f : α → Script Unit} {each : α → List Line}
    (all : ∀ a, (f a).Writes (each a)) :
    (Script.forEach items f).Writes (items.flatMap each) := by
  induction items with
  | nil => exact .nothing ()
  | cons a rest ih => exact (all a).next ih

/-- A line for each item. -/
theorem forEach_line (items : List α) (row : α → Piece) :
    (Script.forEach items fun a => Script.line (row a)).Writes (pieceLines (items.map row)) := by
  rw [pieceLines_map]
  exact .forEach fun a => .line (row a)

/-- The lines of each item, with a blank line between two items. -/
theorem forEachSpaced {items : List α} {f : α → Script Unit} {each : α → List Line}
    (all : ∀ a, (f a).Writes (each a)) (filled : ∀ a, each a ≠ []) :
    (Script.forEachSpaced items f).Writes (spaced (items.map each)) := by
  induction items with
  | nil => exact .nothing ()
  | cons a rest ih =>
    cases rest with
    | nil =>
      have only : spaced ([a].map each) = each a := by simp
      rw [only]
      exact all a
    | cons b others =>
      have more : spaced ((b :: others).map each) ≠ [] := by
        rw [ne_eq, spaced_eq_nil]
        exact fun none => filled b (none (each b) List.mem_cons_self)
      rw [List.map_cons, spaced_cons, apart_of_ne_nil (filled a) more]
      exact (all a).next (Writes.blank.next ih)

end Writes

/-! ### Blocks -/

/-- What stands is also written; that no blank line is due behind it is then left out. -/
theorem Stands.writes (stands : x.Stands lines) : x.Writes lines := by
  intro succeeds c
  rw [stands succeeds c]
  exact ⟨rfl, rfl⟩

/-- A block stands on its own from any cursor, as long as its content fills it. -/
theorem Fills.block {body : Script Unit} (fills : body.Fills lines) (element : String)
    (attributes : List Attribute) :
    (Script.block element attributes body).Stands (elementLines element attributes lines) := by
  intro succeeds c
  rw [failure?_block] at succeeds
  obtain ⟨u, result⟩ := body.exists_outcome_ok_iff.mpr succeeds
  have marks : (Script.block element attributes body).marks =
      .opening (.startTag element attributes) :: (body.marks ++ [.closing (.endTag element)]) := by
    show ((Script.mark _).andThen fun _ => body.andThen fun _ => Script.mark _).marks = _
    rw [marks_andThen]
    show _ ++ (body.andThen fun _ => Script.mark _).marks = _
    rw [marks_andThen, result]
    rfl
  -- The start tag leaves a request as it is, but at the start of a block none is due.
  obtain ⟨inside, depth⟩ := fills succeeds ⟨c.depth + 1, c.blankRequested, true⟩ rfl
  have level : 1 + c.depth = c.depth + 1 := Nat.add_comm 1 c.depth
  have ground : 0 + c.depth = c.depth := Nat.zero_add c.depth
  simp only [marks, Cursor.run, Cursor.step, Cursor.run_append, inside, depth,
    Nat.add_sub_cancel, elementLines, deeper_cons, deeper_append, deeper_deeper, deeper_nil,
    Line.deeper, level, ground, Option.toList_some, List.singleton_append, List.append_nil]
  rfl

/-! ### Lines where nothing is due -/

namespace Joins

theorem nothing (a : α) : (pure a : Script α).Joins [] :=
  fun _ _ _ => rfl

theorem next (one : x.Joins first) (two : y.Joins second) :
    (x >>= fun _ => y).Joins (first ++ second) := by
  intro succeeds c notDue
  obtain ⟨firstSucceeds, secondSucceeds, run⟩ := run_next succeeds
  rw [run, one firstSucceeds c notDue,
    two secondSucceeds (c.behind first) (Cursor.blankDue_behind notDue first), c.depth_behind,
    deeper_append]
  by_cases empty : first = []
  · simp [empty]
  · have filled : first ++ second ≠ [] := by simp [empty]
    rw [c.behind_of_ne_nil empty, c.behind_of_ne_nil filled, c.settled_behind]

theorem fills (joins : x.Joins lines) : x.Fills lines := by
  intro succeeds c start
  have notDue : c.blankDue = false := by simp [Cursor.blankDue, start]
  rw [joins succeeds c notDue]
  exact ⟨rfl, c.depth_behind lines⟩

theorem forEach {items : List α} {f : α → Script Unit} {each : α → List Line}
    (all : ∀ a, (f a).Joins (each a)) : (Script.forEach items f).Joins (items.flatMap each) := by
  induction items with
  | nil => exact .nothing ()
  | cons a rest ih => exact (all a).next ih

theorem onlyIf (condition : Prop) [Decidable condition] {x : Script Unit} (joins : x.Joins lines) :
    (Script.onlyIf condition x).Joins (if condition then lines else []) := by
  rw [Script.onlyIf]
  split
  · exact joins
  · exact .nothing ()

end Joins

theorem Stands.joins (stands : x.Stands lines) (filled : lines ≠ []) : x.Joins lines := by
  intro succeeds c _
  rw [stands succeeds c, c.behind_of_ne_nil filled]

/-! ### Sections -/

namespace Opens

theorem nothing (a : α) : (pure a : Script α).Opens [] :=
  fun _ _ => rfl

theorem next (one : x.Opens first) (two : y.Opens second) :
    (x >>= fun _ => y).Opens (first ++ second) := by
  intro succeeds c
  obtain ⟨firstSucceeds, secondSucceeds, run⟩ := run_next succeeds
  rw [run, one firstSucceeds c, two secondSucceeds, c.depth_behind, deeper_append]
  by_cases empty : first = []
  · simp [empty]
  · have filled : first ++ second ≠ [] := by simp [empty]
    have due : c.ahead (first ++ second) = c.ahead first := by
      simp [Cursor.ahead, empty]
    rw [c.behind_of_ne_nil empty, c.behind_of_ne_nil filled, c.settled_behind, due,
      Cursor.ahead_of_not_due (c := c.settled) rfl, List.nil_append, List.append_assoc]

/-- A script that fails may be given any lines, since they are only asked for after a success. -/
theorem fail (e : Failure) : (Script.fail e : Script α).Opens lines := by
  intro succeeds
  cases succeeds

/-- A result added at the end changes nothing. -/
theorem result (opens : x.Opens lines) (b : β) : (x >>= fun _ => pure b).Opens lines := by
  simpa using opens.next (nothing b)

theorem discard (opens : x.Opens lines) : (Functor.discard x).Opens lines :=
  opens.result ()

/-- What is looked up first is found if the script succeeds. -/
theorem ofExcept_bind {found : Except Failure α} {f : α → Script β}
    (each : ∀ a, found = .ok a → (f a).Opens lines) :
    (Script.ofExcept found >>= f).Opens lines := by
  cases found with
  | error e => exact .fail e
  | ok a => exact each a rfl

theorem onlyIf (condition : Prop) [Decidable condition] {x : Script Unit} (opens : x.Opens lines) :
    (Script.onlyIf condition x).Opens (if condition then lines else []) := by
  rw [Script.onlyIf]
  split
  · exact opens
  · exact .nothing ()

theorem line (piece : Piece) :
    (Script.sectionStart >>= fun _ => Script.line piece).Opens (pieceLines [piece]) := by
  intro _ c
  have ground : 0 + c.depth = c.depth := Nat.zero_add c.depth
  have marks : (Script.sectionStart >>= fun _ => Script.line piece).marks =
      [.sectionStart, .line piece] := rfl
  simp only [marks, Cursor.run, Cursor.step, pieceLines, List.map_cons, List.map_nil,
    deeper_cons, deeper_nil, Line.deeper, ground, Cursor.ahead]
  cases c.blankDue with
  | false => rfl
  | true => rfl

/-- A block with a section start ahead of it is a section. -/
theorem block (stands : x.Stands lines) (filled : lines ≠ []) :
    (Script.sectionStart >>= fun _ => x).Opens lines := by
  intro succeeds c
  obtain ⟨-, standing, run⟩ := run_next succeeds
  have start : c.run Script.sectionStart.marks =
      (c.ahead lines, if c.blankDue then c.settled else { c with blankRequested := false }) := by
    show c.run [Mark.sectionStart] = _
    simp only [Cursor.run, Cursor.step, Cursor.ahead]
    cases c.blankDue with
    | false => simp
    | true => simp [filled, Cursor.settled]
  rw [run, start, stands standing, c.behind_of_ne_nil filled]
  cases c.blankDue with
  | false => rfl
  | true => rfl

theorem joins (opens : x.Opens lines) : x.Joins lines := by
  intro succeeds c notDue
  rw [opens succeeds c, Cursor.ahead_of_not_due notDue, List.nil_append]

theorem fills (opens : x.Opens lines) : x.Fills lines :=
  opens.joins.fills

/-- The lines are added to those of any sheet, behind the blank line that is due. -/
theorem runOn_eq (opens : x.Opens lines) (succeeds : x.failure? = none) (sheet : Sheet) :
    x.runOn sheet =
      ⟨sheet.lines ++ (sheet.cursor.ahead lines ++ deeper sheet.cursor.depth lines),
        sheet.cursor.behind lines⟩ := by
  show (⟨sheet.lines ++ (sheet.cursor.run x.marks).1, (sheet.cursor.run x.marks).2⟩ : Sheet) = _
  rw [opens succeeds sheet.cursor]

end Opens

/-! ### Groups of sections -/

theorem Spaces.last (opens : x.Opens lines) : x.Spaces [lines] := by
  intro succeeds c _
  rw [opens succeeds c]
  simp

/-- Inside a block, groups with requests between them come with one blank line between neighbours.
-/
theorem Spaces.fills {groups : List (List Line)} (spaces : x.Spaces groups) :
    x.Fills (spaced groups) := by
  intro succeeds c start
  have notDue : c.blankDue = false := by simp [Cursor.blankDue, start]
  obtain ⟨lines, depth⟩ := spaces succeeds c (.inr start)
  rw [lines, Cursor.ahead_of_not_due notDue]
  exact ⟨rfl, depth⟩

/-- A request goes between a section and the groups behind it. -/
theorem Opens.requested (opens : x.Opens lines) :
    (x >>= fun _ => requestBlank).Parts lines := by
  intro y groups spaces succeeds c parted
  rw [next_assoc] at succeeds ⊢
  obtain ⟨opened, rest, run⟩ := run_next succeeds
  obtain ⟨-, following, runRest⟩ := run_next rest
  have request : ∀ d : Cursor, d.run requestBlank.marks = ([], { d with blankRequested := true }) :=
    fun _ => rfl
  rw [run, opens opened, runRest, request]
  obtain ⟨behind, depth⟩ :=
    spaces following { c.behind lines with blankRequested := true } (.inl rfl)
  rw [behind, depth, c.depth_behind, spaced_cons]
  -- Without lines the request is one more at the same place; behind lines it is the only one.
  by_cases empty : lines = []
  · simp [empty, parted.ahead_request]
  · rw [c.behind_of_ne_nil empty]
    by_cases none : spaced groups = []
    · simp [none]
    · have due : ({ c.settled with blankRequested := true } : Cursor).ahead (spaced groups) =
          [.blank] := by
        simp [Cursor.ahead, none, Cursor.blankDue, Cursor.settled]
      have sameAhead : c.ahead (apart lines (spaced groups)) = c.ahead lines := by
        simp [Cursor.ahead, apart_eq_nil, empty]
      rw [due, sameAhead, apart_of_ne_nil empty none]
      simp [Line.deeper]

/-- What has no lines is a group without any. -/
theorem Opens.skipped (opens : x.Opens []) : x.Parts [] := by
  intro y groups spaces succeeds c parted
  obtain ⟨opened, following, run⟩ := run_next succeeds
  rw [run, opens opened, spaced_cons, apart_nil_left]
  exact spaces following c parted

/-- A section, a request for a blank line and spaced groups behind it are one more group. -/
theorem Opens.spaces {groups : List (List Line)} (opens : x.Opens lines) {y : Script Unit}
    (following : y.Spaces groups) :
    (x >>= fun _ => requestBlank >>= fun _ => y).Spaces (lines :: groups) := by
  rw [← next_assoc]
  exact opens.requested y groups following

end Script

end GridBeans.Generation
