import GridBeans.Proofs.Markup.Layout

/-!
# Nested blocks

Actions are nested if each block that they open is closed by the end tag of its element, the blocks
inside it before it. Nested actions leave a sheet at the depth it was at, and the lines they write
are balanced. Actions that end inside blocks, as those of a script do that fails there, still never
close a block that they did not open.
-/
namespace GridBeans.Markup

/-! ## Lines and actions -/

/-- The piece neither opens nor closes an element. -/
def Piece.Closed : Piece → Prop
  | .startTag .. | .endTag .. => False
  | .emptyTag .. | .leaf .. | .comment .. | .verbatim .. => True

/-- Blocks are opened by start tags and closed by end tags, and no other line holds a tag of
either kind. -/
def Mark.Tagged : Mark → Prop
  | .opening piece => ∃ element attributes, piece = .startTag element attributes
  | .closing piece => ∃ element, piece = .endTag element
  | .line piece => piece.Closed
  | .blank | .requestBlank | .sectionStart => True

/-- Lines from a depth on in which each start tag is closed by an end tag of the same element, with
the same indentation, and all lines between the two are balanced one level deeper. -/
inductive Balanced : Nat → List Line → Prop
  | nil {depth : Nat} : Balanced depth []
  | blank {depth : Nat} {rest : List Line} : Balanced depth rest → Balanced depth (.blank :: rest)
  | piece {depth : Nat} {piece : Piece} {rest : List Line} : piece.Closed → Balanced depth rest →
      Balanced depth (.content depth piece :: rest)
  | element {depth : Nat} {element : String} {attributes : List Attribute}
      {inner rest : List Line} : Balanced (depth + 1) inner → Balanced depth rest →
      Balanced depth (.content depth (.startTag element attributes) ::
        (inner ++ .content depth (.endTag element) :: rest))

/-- Actions that close every block they open, in the right order. -/
inductive Nested : List Mark → Prop
  | nil : Nested []
  | spacing {m : Mark} {rest : List Mark} : m.piece? = none → Nested rest → Nested (m :: rest)
  | line {piece : Piece} {rest : List Mark} : piece.Closed → Nested rest →
      Nested (.line piece :: rest)
  | block {element : String} {attributes : List Attribute} {inner rest : List Mark} :
      Nested inner → Nested rest →
      Nested (.opening (.startTag element attributes) ::
        (inner ++ .closing (.endTag element) :: rest))

/-- Actions that are nested but for the blocks that are still open at their end. -/
inductive Unclosed : List Mark → Prop
  | nested {marks : List Mark} : Nested marks → Unclosed marks
  | inside {front inner : List Mark} {element : String} {attributes : List Attribute} :
      Nested front → Unclosed inner →
      Unclosed (front ++ .opening (.startTag element attributes) :: inner)

/-! ## Actions one after the other -/

theorem Nested.append {front back : List Mark} (first : Nested front) (second : Nested back) :
    Nested (front ++ back) := by
  induction first with
  | nil => exact second
  | spacing silent _ ih => exact .spacing silent ih
  | line closed _ ih => exact .line closed ih
  | block inside _ _ ih =>
    rw [List.cons_append, List.append_assoc, List.cons_append]
    exact .block inside ih

theorem Unclosed.behind {front back : List Mark} (first : Nested front) (second : Unclosed back) :
    Unclosed (front ++ back) := by
  cases second with
  | nested nested => exact .nested (first.append nested)
  | inside ahead inner =>
    rw [← List.append_assoc]
    exact .inside (first.append ahead) inner

theorem Nested.tagged {marks : List Mark} (nested : Nested marks) : ∀ m ∈ marks, m.Tagged := by
  induction nested with
  | nil => exact List.forall_mem_nil _
  | @spacing m rest silent _ ih =>
    refine List.forall_mem_cons.mpr ⟨?_, ih⟩
    cases m with
    | line | opening | closing => cases silent
    | blank | requestBlank | sectionStart => trivial
  | line closed _ ih => exact List.forall_mem_cons.mpr ⟨closed, ih⟩
  | @block element attributes inner rest _ _ inside behind =>
    refine List.forall_mem_cons.mpr ⟨⟨element, attributes, rfl⟩, ?_⟩
    exact List.forall_mem_append.mpr ⟨inside, List.forall_mem_cons.mpr ⟨⟨element, rfl⟩, behind⟩⟩

theorem Unclosed.tagged {marks : List Mark} (unclosed : Unclosed marks) :
    ∀ m ∈ marks, m.Tagged := by
  induction unclosed with
  | nested nested => exact nested.tagged
  | @inside front inner element attributes ahead _ ih =>
    refine List.forall_mem_append.mpr ⟨ahead.tagged, ?_⟩
    exact List.forall_mem_cons.mpr ⟨⟨element, attributes, rfl⟩, ih⟩

/-! ## What nested actions write -/

/-- Nested actions come back to the depth they start at, and write balanced lines. -/
theorem Nested.run {marks : List Mark} (nested : Nested marks) (c : Cursor) :
    (c.run marks).2.depth = c.depth ∧ Balanced c.depth (c.run marks).1 := by
  induction nested generalizing c with
  | nil => exact ⟨rfl, .nil⟩
  | @spacing m rest silent _ ih =>
    obtain ⟨depth, balanced⟩ := ih (c.step m).2
    have stays : (c.step m).2.depth = c.depth ∧
        ((c.step m).1 = none ∨ (c.step m).1 = some .blank) := by
      cases m with
      | line | opening | closing => cases silent
      | blank => exact ⟨rfl, .inr rfl⟩
      | requestBlank => exact ⟨rfl, .inl rfl⟩
      | sectionStart =>
        rw [Cursor.step]
        split
        · exact ⟨rfl, .inr rfl⟩
        · exact ⟨rfl, .inl rfl⟩
    rw [stays.1] at depth balanced
    refine ⟨depth, ?_⟩
    show Balanced c.depth ((c.step m).1.toList ++ ((c.step m).2.run rest).1)
    rcases stays.2 with nothing | blank
    · rw [nothing]
      exact balanced
    · rw [blank]
      exact .blank balanced
  | line closed _ ih =>
    obtain ⟨depth, balanced⟩ := ih { c with atBlockStart := false }
    exact ⟨depth, .piece closed balanced⟩
  | @block element attributes inner rest _ _ inside behind =>
    obtain ⟨innerDepth, innerBalanced⟩ := inside ⟨c.depth + 1, c.blankRequested, true⟩
    obtain ⟨depth, balanced⟩ := behind ⟨c.depth, false, false⟩
    simp only [Cursor.run, Cursor.step, Cursor.run_append, innerDepth, Nat.add_sub_cancel]
    exact ⟨depth, .element innerBalanced balanced⟩

/-! ## Depth at any moment -/

/-- Whatever has been done so far, the depth is not below a level, and a block that is closed then
is one above it. -/
structure KeepsAbove (level : Nat) (c : Cursor) (marks : List Mark) : Prop where
  depth : ∀ done rest, marks = done ++ rest → level ≤ (c.run done).2.depth
  closing : ∀ done piece rest, marks = done ++ .closing piece :: rest →
    level < (c.run done).2.depth

namespace KeepsAbove

variable {level : Nat} {c : Cursor}

theorem nil (above : level ≤ c.depth) : KeepsAbove level c [] := by
  constructor
  · intro done rest same
    obtain ⟨rfl, -⟩ := List.append_eq_nil_iff.mp same.symm
    exact above
  · intro done piece rest same
    simp at same

theorem cons {m : Mark} {marks : List Mark} (above : level ≤ c.depth)
    (closes : (∃ piece, m = .closing piece) → level < c.depth)
    (behind : KeepsAbove level (c.step m).2 marks) : KeepsAbove level c (m :: marks) := by
  constructor
  · intro done rest same
    cases done with
    | nil => exact above
    | cons first done =>
      obtain ⟨rfl, others⟩ := List.cons.inj same
      exact behind.depth done rest others
  · intro done piece rest same
    cases done with
    | nil => exact closes ⟨piece, (List.cons.inj same).1⟩
    | cons first done =>
      obtain ⟨rfl, others⟩ := List.cons.inj same
      exact behind.closing done piece rest others

theorem append {front back : List Mark} (first : KeepsAbove level c front)
    (second : KeepsAbove level (c.run front).2 back) : KeepsAbove level c (front ++ back) := by
  induction front generalizing c with
  | nil => exact second
  | cons m front ih =>
    have here : level ≤ c.depth := first.depth [] (m :: front) rfl
    refine .cons here (fun closes => ?_) (ih ⟨fun done rest same => ?_, ?_⟩ second)
    · obtain ⟨piece, rfl⟩ := closes
      exact first.closing [] piece front rfl
    · exact first.depth (m :: done) rest (congrArg (m :: ·) same)
    · exact fun done piece rest same => first.closing (m :: done) piece rest
        (congrArg (m :: ·) same)

end KeepsAbove

/-- Nested actions never go below the depth they start at, and close no block that was open there.
-/
theorem Nested.keepsAbove {marks : List Mark} (nested : Nested marks) {level : Nat} {c : Cursor}
    (above : level ≤ c.depth) : KeepsAbove level c marks := by
  induction nested generalizing c with
  | nil => exact .nil above
  | @spacing m rest silent _ ih =>
    have depth : (c.step m).2.depth = c.depth := (Nested.spacing silent .nil).run c |>.1
    refine .cons above ?_ (ih (depth ▸ above))
    rintro ⟨piece, rfl⟩
    cases silent
  | line _ _ ih => exact .cons above (by simp) (ih above)
  | @block element attributes inner rest wholeInner _ inside behind =>
    have depth : (Cursor.run ⟨c.depth + 1, c.blankRequested, true⟩ inner).2.depth = c.depth + 1 :=
      (wholeInner.run _).1
    refine .cons above (by simp) (.append (inside (Nat.le_succ_of_le above)) ?_)
    -- The block is closed one level above the depth it was opened at.
    have opened : level < (Cursor.run ⟨c.depth + 1, c.blankRequested, true⟩ inner).2.depth := by
      omega
    refine .cons (Nat.le_of_lt opened) (fun _ => opened) (behind ?_)
    show level ≤ (Cursor.run ⟨c.depth + 1, c.blankRequested, true⟩ inner).2.depth - 1
    omega

/-- Blocks that are left open lead deeper only, so no action goes below the depth at the start. -/
theorem Unclosed.keepsAbove {marks : List Mark} (unclosed : Unclosed marks) {level : Nat}
    {c : Cursor} (above : level ≤ c.depth) : KeepsAbove level c marks := by
  induction unclosed generalizing c with
  | nested nested => exact nested.keepsAbove above
  | @inside front inner element attributes ahead _ ih =>
    have depth : (c.run front).2.depth = c.depth := (ahead.run c).1
    have reached : level ≤ (c.run front).2.depth := depth ▸ above
    refine (ahead.keepsAbove above).append (.cons reached (by simp) (ih ?_))
    exact Nat.le_succ_of_le reached

end GridBeans.Markup
