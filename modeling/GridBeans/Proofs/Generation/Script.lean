import GridBeans.Generation.Script
import GridBeans.Proofs.Markup.Layout

/-!
# Laws of scripts

What scripts write, register and result in, in terms of their parts. A script that fails keeps what
it wrote and registered up to then.
-/
namespace GridBeans.Generation

open GridBeans.Markup

namespace Script

variable {α β γ : Type}

def pieces (x : Script α) : List Piece :=
  x.marks.filterMap Mark.piece?

theorem outcome_bind (x : Script α) (f : α → Script β) :
    (x >>= f).outcome = x.outcome.bind fun a => (f a).outcome := by
  show (x.andThen f).outcome = _
  unfold andThen
  cases x.outcome with
  | error e => rfl
  | ok a => rfl

/-- The pieces of two scripts in a row. Those of the second only come after a success of the first.
-/
theorem pieces_bind (x : Script α) (f : α → Script β) :
    (x >>= f).pieces = x.pieces ++ (match x.outcome with
      | .ok a => (f a).pieces
      | .error _ => []) := by
  show (x.andThen f).marks.filterMap Mark.piece? = _
  rw [marks_andThen, List.filterMap_append]
  cases x.outcome with
  | error e => rfl
  | ok a => rfl

/-- The data sources of two scripts in a row, which follow the same rule as the pieces. -/
theorem sources_bind (x : Script α) (f : α → Script β) :
    (x >>= f).sources = x.sources ++ (match x.outcome with
      | .ok a => (f a).sources
      | .error _ => []) :=
  x.sources_andThen f

theorem outcome_block (element : String) (attributes : List Attribute) (body : Script Unit) :
    (block element attributes body).outcome = body.outcome := by
  rw [block, outcome_bind, outcome_bind]
  cases body.outcome with
  | error e => rfl
  | ok a => rfl

/-- An element that succeeds is written with both tags; one that fails stays open. -/
theorem pieces_block (element : String) (attributes : List Attribute) (body : Script Unit) :
    (block element attributes body).pieces = .startTag element attributes ::
      (body.pieces ++ (match body.outcome with
        | .ok _ => [.endTag element]
        | .error _ => [])) := by
  rw [block, pieces_bind, pieces_bind]
  cases body.outcome with
  | error e => rfl
  | ok a => rfl

theorem sources_block (element : String) (attributes : List Attribute) (body : Script Unit) :
    (block element attributes body).sources = body.sources := by
  rw [block, sources_bind, sources_bind]
  cases body.outcome with
  | error e => exact (List.append_nil body.sources)
  | ok a => exact (List.append_nil body.sources)

/-! ## Sequences -/

/-- How scripts in a row are grouped does not matter, so a long one can be cut anywhere. -/
theorem next_assoc (x : Script α) (y : Script β) (z : Script γ) :
    ((x >>= fun _ => y) >>= fun _ => z) = (x >>= fun _ => y >>= fun _ => z) := by
  show (x.andThen fun _ => y).andThen (fun _ => z) = x.andThen fun _ => y.andThen fun _ => z
  unfold andThen
  cases x.outcome with
  | error e => rfl
  | ok a =>
    cases y.outcome with
    | error e => rfl
    | ok b => simp only [List.append_assoc]

theorem next_unit (x : Script Unit) : (x >>= fun _ => pure ()) = x := by
  obtain ⟨steps, outcome⟩ := x
  show andThen ⟨steps, outcome⟩ (fun _ => pure ()) = _
  unfold andThen
  cases outcome with
  | error e => rfl
  | ok u => exact congrArg (Script.mk · _) (List.append_nil steps)

theorem forEach_singleton (a : α) (f : α → Script Unit) : forEach [a] f = f a :=
  next_unit (f a)

theorem forEach_append (front back : List α) (f : α → Script Unit) :
    forEach (front ++ back) f = forEach front f >>= fun _ => forEach back f := by
  induction front with
  | nil => rfl
  | cons a rest ih => rw [List.cons_append, forEach, forEach, ih, next_assoc]

/-! ## On sheets -/

/-- The pieces on the lines of a script's text are those it writes. -/
theorem pieces_runOn (x : Script α) (depth : Nat) :
    (x.runOn (Sheet.empty depth)).lines.filterMap Line.piece? = x.pieces :=
  pieces_run (Cursor.start depth) x.marks

/-- A script without steps leaves any sheet as it is. -/
theorem runOn_ofExcept (outcome : Except Failure α) (sheet : Sheet) :
    (ofExcept outcome).runOn sheet = sheet := by
  show (⟨sheet.lines ++ [], sheet.cursor⟩ : Sheet) = sheet
  rw [List.append_nil]

end Script

end GridBeans.Generation
