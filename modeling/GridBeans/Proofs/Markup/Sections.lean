import GridBeans.Proofs.Markup.Nesting

/-!
# Sections of lines

Lines as they are laid out when nobody keeps a cursor: a part of a document is a list of lines at
no depth, an element sets the lines inside it one level deeper, and of several groups of lines those
that have any are set apart by one blank line each. Lines are tidy if they are made of pieces and of
elements around such groups, so that blank lines only stand inside elements, ahead of a line there.
-/
namespace GridBeans.Markup

/-! ## Lines at a depth -/

/-- A line that stands deeper. Blank lines have no indentation. -/
def Line.deeper (levels : Nat) : Line → Line
  | .blank => .blank
  | .content depth piece => .content (depth + levels) piece

/-- Lines that all stand deeper. -/
def deeper (levels : Nat) (lines : List Line) : List Line :=
  lines.map (Line.deeper levels)

@[simp] theorem deeper_nil (levels : Nat) : deeper levels [] = [] := rfl

@[simp] theorem deeper_cons (levels : Nat) (line : Line) (rest : List Line) :
    deeper levels (line :: rest) = line.deeper levels :: deeper levels rest := rfl

@[simp] theorem deeper_append (levels : Nat) (front back : List Line) :
    deeper levels (front ++ back) = deeper levels front ++ deeper levels back :=
  List.map_append

@[simp] theorem deeper_eq_nil (levels : Nat) (lines : List Line) :
    deeper levels lines = [] ↔ lines = [] :=
  List.map_eq_nil_iff

@[simp] theorem deeper_zero (lines : List Line) : deeper 0 lines = lines := by
  have same : ∀ line : Line, line.deeper 0 = line := by
    intro line
    cases line <;> rfl
  rw [deeper, List.map_congr_left fun line _ => same line, List.map_id']

theorem deeper_deeper (outer inner : Nat) (lines : List Line) :
    deeper outer (deeper inner lines) = deeper (inner + outer) lines := by
  have same : ∀ line : Line, (line.deeper inner).deeper outer = line.deeper (inner + outer) := by
    intro line
    cases line with
    | blank => rfl
    | content depth piece => simp only [Line.deeper, Nat.add_assoc]
  simp [deeper, Function.comp_def, same]

/-- Setting lines deeper adds four spaces for each level to those that are not blank. -/
theorem Line.render_deeper (levels : Nat) (line : Line) :
    (line.deeper levels).render =
      if line = .blank then "" else indentation levels ++ line.render := by
  cases line with
  | blank => rfl
  | content depth piece =>
    have total : 4 * (depth + levels) = 4 * levels + 4 * depth := by omega
    have spaces : indentation (depth + levels) = indentation levels ++ indentation depth := by
      rw [indentation, total, ← List.replicate_append_replicate, String.ofList_append]
      rfl
    simp [Line.deeper, Line.render, spaces, String.append_assoc]

/-- Deeper lines are rendered with more indentation, but a blank line stays empty. -/
theorem map_render_deeper (levels : Nat) (lines : List Line) :
    (deeper levels lines).map Line.render = lines.map fun line =>
      if line = .blank then "" else indentation levels ++ line.render := by
  rw [deeper, List.map_map]
  exact List.map_congr_left fun line _ => line.render_deeper levels

/-- The pieces on lines do not depend on how deep the lines stand. -/
theorem filterMap_piece?_deeper (levels : Nat) (lines : List Line) :
    (deeper levels lines).filterMap Line.piece? = lines.filterMap Line.piece? := by
  have same : ∀ line : Line, (line.deeper levels).piece? = line.piece? := by
    intro line
    cases line <;> rfl
  simp only [deeper, List.filterMap_map, Function.comp_def, same]

def pieceLines (pieces : List Piece) : List Line :=
  pieces.map (Line.content 0)

/-- The lines of rows are those of each row. -/
theorem pieceLines_map {α : Type} (row : α → Piece) (items : List α) :
    pieceLines (items.map row) = items.flatMap fun a => pieceLines [row a] := by
  rw [pieceLines, List.map_map, ← List.flatMap_pure_eq_map]
  rfl

/-- An element around lines. -/
def elementLines (element : String) (attributes : List Attribute) (inside : List Line) :
    List Line :=
  .content 0 (.startTag element attributes) ::
    (deeper 1 inside ++ [.content 0 (.endTag element)])

/-! ## Groups -/

/-- Two groups with a blank line between them, if both have any line. -/
def apart (front back : List Line) : List Line :=
  if front = [] then back
  else if back = [] then front
  else front ++ .blank :: back

/-- Groups one after the other, with a blank line between two that have any line. -/
def spaced (groups : List (List Line)) : List Line :=
  [Line.blank].intercalate (groups.filter (· ≠ []))

@[simp] theorem apart_nil_left (back : List Line) : apart [] back = back := rfl

@[simp] theorem apart_nil_right (front : List Line) : apart front [] = front := by
  unfold apart
  split
  · rename_i empty
    exact empty.symm
  · rfl

theorem apart_of_ne_nil {front back : List Line} (left : front ≠ []) (right : back ≠ []) :
    apart front back = front ++ .blank :: back := by
  rw [apart, if_neg left, if_neg right]

theorem apart_eq_nil (front back : List Line) : apart front back = [] ↔ front = [] ∧ back = [] := by
  by_cases left : front = []
  · simp [left]
  · by_cases right : back = []
    · simp [right]
    · simp [apart_of_ne_nil left right, left]

/-- Setting apart is associative, since an empty part brings no blank line. -/
theorem apart_assoc (a b c : List Line) : apart (apart a b) c = apart a (apart b c) := by
  by_cases ha : a = []
  · simp [ha]
  · by_cases hb : b = []
    · simp [hb]
    · by_cases hc : c = []
      · simp [hc]
      · simp [apart, ha, hb, hc]

@[simp] theorem spaced_nil : spaced [] = [] := rfl

@[simp] theorem spaced_cons (group : List Line) (rest : List (List Line)) :
    spaced (group :: rest) = apart group (spaced rest) := by
  by_cases empty : group = []
  · simp [spaced, empty]
  · have kept : (group :: rest).filter (· ≠ []) = group :: rest.filter (· ≠ []) :=
      List.filter_cons_of_pos (by simpa using empty)
    rw [spaced, spaced, kept]
    cases behind : rest.filter (· ≠ []) with
    | nil => simp
    | cons next others =>
      have nextFilled : next ≠ [] := by
        have mem : next ∈ rest.filter (· ≠ []) := behind ▸ List.mem_cons_self
        simpa using (List.mem_filter.mp mem).2
      have restFilled : [Line.blank].intercalate (next :: others) ≠ [] := by
        cases others with
        | nil => simpa using nextFilled
        | cons other others => simp [List.intercalate_cons_cons]
      rw [List.intercalate_cons_cons, apart_of_ne_nil empty restFilled, List.append_assoc]
      rfl

/-- Two lists of groups are set apart like two groups, by a single blank line. -/
theorem spaced_append (front back : List (List Line)) :
    spaced (front ++ back) = apart (spaced front) (spaced back) := by
  induction front with
  | nil => rfl
  | cons group rest ih => simp [ih, apart_assoc]

theorem spaced_eq_nil (groups : List (List Line)) :
    spaced groups = [] ↔ ∀ group ∈ groups, group = [] := by
  induction groups with
  | nil => simp
  | cons group rest ih => simp [apart_eq_nil, ih]

/-- Where every group has a line, there is a blank line between any two. -/
theorem spaced_of_filled {groups : List (List Line)} (filled : ∀ group ∈ groups, group ≠ []) :
    spaced groups = [Line.blank].intercalate groups := by
  rw [spaced, List.filter_eq_self.mpr fun group mem => by simpa using filled group mem]

/-- Groups that are set apart end in the lines of the last one, whatever stands ahead of them. -/
theorem exists_spaced_concat (front : List (List Line)) (last : List Line) :
    ∃ ahead, spaced (front ++ [last]) = ahead ++ last := by
  have only : spaced [last] = last := by simp
  rw [spaced_append, only, apart]
  split
  · exact ⟨[], rfl⟩
  · split
    · rename_i empty
      exact ⟨spaced front, by rw [empty, List.append_nil]⟩
    · exact ⟨spaced front ++ [.blank], by simp⟩

/-- Setting groups deeper sets each of them deeper. -/
theorem deeper_spaced (levels : Nat) (groups : List (List Line)) :
    deeper levels (spaced groups) = spaced (groups.map (deeper levels)) := by
  induction groups with
  | nil => rfl
  | cons group rest ih =>
    rw [List.map_cons, spaced_cons, spaced_cons, ← ih]
    by_cases empty : group = []
    · simp [empty]
    · by_cases none : spaced rest = []
      · simp [none]
      · have emptyDeeper : deeper levels group ≠ [] := by simpa using empty
        have noneDeeper : deeper levels (spaced rest) ≠ [] := by simpa using none
        rw [apart_of_ne_nil empty none, apart_of_ne_nil emptyDeeper noneDeeper]
        simp [Line.deeper]

/-! ## Pieces -/

theorem filterMap_piece?_elementLines (element : String) (attributes : List Attribute)
    (inside : List Line) :
    (elementLines element attributes inside).filterMap Line.piece? =
      .startTag element attributes :: (inside.filterMap Line.piece? ++ [.endTag element]) := by
  show _ :: List.filterMap Line.piece? (deeper 1 inside ++ _) = _
  rw [List.filterMap_append, filterMap_piece?_deeper]
  rfl

/-- Blank lines between groups bring no pieces, so the pieces are those of the groups in order. -/
theorem filterMap_piece?_spaced (groups : List (List Line)) :
    (spaced groups).filterMap Line.piece? = groups.flatten.filterMap Line.piece? := by
  induction groups with
  | nil => rfl
  | cons group rest ih =>
    rw [List.flatten_cons, List.filterMap_append, ← ih, ← List.filterMap_append, spaced_cons, apart]
    split
    · rename_i empty
      rw [empty, List.nil_append]
    · split
      · rename_i none
        rw [none, List.append_nil]
      · rw [List.filterMap_append, List.filterMap_append]
        rfl

/-! ## Lines within lines -/

/-- Every group stands together among the groups that are set apart. -/
theorem infix_spaced {group : List Line} {groups : List (List Line)} (mem : group ∈ groups) :
    group <:+: spaced groups := by
  induction groups with
  | nil => cases mem
  | cons first rest ih =>
    rw [spaced_cons, apart]
    rcases List.mem_cons.mp mem with rfl | later
    · split
      · rename_i empty
        rw [empty]
        exact List.nil_infix
      · split
        · exact List.infix_refl group
        · exact (List.prefix_append group _).isInfix
    · have within := ih later
      split
      · exact within
      · split
        · rename_i none
          rw [none] at within
          exact within.trans List.nil_infix
        · exact (within.trans (List.suffix_cons _ _).isInfix).trans (List.suffix_append _ _).isInfix

theorem infix_elementLines (element : String) (attributes : List Attribute) (inside : List Line) :
    deeper 1 inside <:+: elementLines element attributes inside :=
  ⟨[.content 0 (.startTag element attributes)], [.content 0 (.endTag element)], by
    simp [elementLines]⟩

theorem infix_deeper (levels : Nat) {lines others : List Line} (within : lines <:+: others) :
    deeper levels lines <:+: deeper levels others :=
  within.map _

/-! ## Tidy lines -/

/-- Pieces of a class that neither open nor close an element, one below the other, and elements
around groups of such lines. -/
inductive Tidy (Q : Piece → Prop) : List Line → Prop
  | nil : Tidy Q []
  | piece {p : Piece} {rest : List Line} : Q p → p.Closed → Tidy Q rest →
      Tidy Q (.content 0 p :: rest)
  | element {element : String} {attributes : List Attribute} {groups : List (List Line)}
      {rest : List Line} : Q (.startTag element attributes) → Q (.endTag element) →
      (∀ group ∈ groups, Tidy Q group) → Tidy Q rest →
      Tidy Q (elementLines element attributes (spaced groups) ++ rest)

variable {Q : Piece → Prop}

namespace Tidy

theorem append {front back : List Line} (first : Tidy Q front) (second : Tidy Q back) :
    Tidy Q (front ++ back) := by
  induction first with
  | nil => exact second
  | piece ofClass closed _ ih => exact .piece ofClass closed ih
  | element start stop groups _ _ ih =>
    rw [List.append_assoc]
    exact .element start stop groups ih

theorem pieces {pieces : List Piece} (ofClass : ∀ p ∈ pieces, Q p ∧ p.Closed) :
    Tidy Q (pieceLines pieces) := by
  induction pieces with
  | nil => exact .nil
  | cons p rest ih =>
    rw [List.forall_mem_cons] at ofClass
    exact .piece ofClass.1.1 ofClass.1.2 (ih ofClass.2)

/-- One piece alone. -/
theorem single {p : Piece} (ofClass : Q p) (closed : p.Closed) : Tidy Q (pieceLines [p]) :=
  .piece ofClass closed .nil

/-- One element around groups. -/
theorem around {element : String} {attributes : List Attribute} {groups : List (List Line)}
    (start : Q (.startTag element attributes)) (stop : Q (.endTag element))
    (each : ∀ group ∈ groups, Tidy Q group) :
    Tidy Q (elementLines element attributes (spaced groups)) := by
  simpa using Tidy.element start stop each .nil

/-- One element around lines without a blank line between them. -/
theorem inside {element : String} {attributes : List Attribute} {lines : List Line}
    (start : Q (.startTag element attributes)) (stop : Q (.endTag element))
    (tidy : Tidy Q lines) : Tidy Q (elementLines element attributes lines) := by
  have only : spaced [lines] = lines := by simp
  rw [← only]
  exact around start stop (List.forall_mem_singleton.mpr tidy)

theorem flatMap {α : Type} {items : List α} {f : α → List Line}
    (each : ∀ a ∈ items, Tidy Q (f a)) : Tidy Q (items.flatMap f) := by
  induction items with
  | nil => exact .nil
  | cons a rest ih =>
    rw [List.forall_mem_cons] at each
    exact each.1.append (ih each.2)

end Tidy

/-- Every piece on tidy lines is of the class. -/
theorem Tidy.every {lines : List Line} (tidy : Tidy Q lines) :
    ∀ p ∈ lines.filterMap Line.piece?, Q p := by
  induction tidy with
  | nil => simp
  | piece ofClass _ _ ih =>
    exact List.forall_mem_cons.mpr ⟨ofClass, ih⟩
  | @element name attributes groups rest start stop _ _ each ih =>
    intro p mem
    rw [List.filterMap_append, List.mem_append] at mem
    rcases mem with inElement | inRest
    · rw [filterMap_piece?_elementLines, filterMap_piece?_spaced, List.mem_cons, List.mem_append,
        List.mem_singleton] at inElement
      rcases inElement with rfl | inGroups | rfl
      · exact start
      · obtain ⟨line, inLines, isPiece⟩ := List.mem_filterMap.mp inGroups
        obtain ⟨group, inside, inGroup⟩ := List.mem_flatten.mp inLines
        exact each group inside p (List.mem_filterMap.mpr ⟨line, inGroup, isPiece⟩)
      · exact stop
    · exact ih p inRest

/-! ## Blank lines of tidy lines -/

/-- Each blank line is directly followed by a line that stands at least as deep. -/
def BlanksAhead (level : Nat) (lines : List Line) : Prop :=
  ∀ front back, lines = front ++ .blank :: back →
    ∃ depth piece rest, back = .content depth piece :: rest ∧ level ≤ depth

/-- The first line, if there is one, is not blank. -/
def StartsFilled (lines : List Line) : Prop :=
  ∀ rest, lines ≠ .blank :: rest

namespace BlanksAhead

variable {level : Nat}

theorem nil : BlanksAhead level [] := by
  intro front back same
  simp at same

theorem content {depth : Nat} {piece : Piece} {rest : List Line} (behind : BlanksAhead level rest) :
    BlanksAhead level (.content depth piece :: rest) := by
  intro front back same
  cases front with
  | nil => cases same
  | cons first front =>
    rw [List.cons_append, List.cons.injEq] at same
    exact behind front back same.2

theorem append {front back : List Line} (first : BlanksAhead level front)
    (second : BlanksAhead level back) : BlanksAhead level (front ++ back) := by
  intro before after same
  rcases List.append_eq_append_iff.mp same with ⟨middle, rfl, split⟩ | ⟨middle, rfl, split⟩
  · exact second middle after split
  · cases middle with
    | nil => exact second [] after (by simpa using split.symm)
    | cons line middle =>
      rw [List.cons_append, List.cons.injEq] at split
      obtain ⟨rfl, rfl⟩ := split
      obtain ⟨depth, piece, rest, rfl, deep⟩ := first before middle rfl
      exact ⟨depth, piece, rest ++ back, rfl, deep⟩

theorem mono {lines : List Line} (ahead : BlanksAhead level lines) : BlanksAhead 0 lines := by
  intro front back same
  obtain ⟨depth, piece, rest, found, -⟩ := ahead front back same
  exact ⟨depth, piece, rest, found, Nat.zero_le depth⟩

/-- When lines are moved deeper, so is the level ahead of which their blank lines stand. -/
theorem deeper {lines : List Line} (ahead : BlanksAhead level lines) (levels : Nat) :
    BlanksAhead (level + levels) (Markup.deeper levels lines) := by
  intro front back same
  obtain ⟨before, others, rfl, -, sameOthers⟩ := List.map_eq_append_iff.mp same
  obtain ⟨line, after, rfl, isBlank, rfl⟩ := List.map_eq_cons_iff.mp sameOthers
  cases line with
  | content => cases isBlank
  | blank =>
    obtain ⟨depth, piece, rest, rfl, deep⟩ := ahead before after rfl
    exact ⟨depth + levels, piece, Markup.deeper levels rest, rfl, by omega⟩

end BlanksAhead

/-- A blank line between two groups stands ahead of the second one. -/
theorem blanksAhead_spaced {groups : List (List Line)}
    (each : ∀ group ∈ groups, BlanksAhead 0 group ∧ StartsFilled group) :
    BlanksAhead 0 (spaced groups) ∧ StartsFilled (spaced groups) := by
  induction groups with
  | nil => exact ⟨.nil, nofun⟩
  | cons group rest ih =>
    rw [List.forall_mem_cons] at each
    obtain ⟨⟨ahead, filled⟩, others⟩ := each
    obtain ⟨restAhead, restFilled⟩ := ih others
    rw [spaced_cons, apart]
    split
    · exact ⟨restAhead, restFilled⟩
    · split
      · exact ⟨ahead, filled⟩
      · rename_i hasLine restHasLine
        have between : BlanksAhead 0 (.blank :: spaced rest) := by
          intro front back same
          cases front with
          | nil =>
            obtain rfl : spaced rest = back := (List.cons.inj same).2
            cases first : spaced rest with
            | nil => exact absurd first restHasLine
            | cons line behind =>
              cases line with
              | blank => exact absurd first (restFilled behind)
              | content depth piece => exact ⟨depth, piece, behind, rfl, Nat.zero_le depth⟩
          | cons line front =>
            rw [List.cons_append, List.cons.injEq] at same
            exact restAhead front back same.2
        refine ⟨ahead.append between, ?_⟩
        cases group with
        | nil => exact absurd rfl hasLine
        | cons line behind =>
          rintro others same
          exact filled behind (by rw [(List.cons.inj same).1])

/-- Tidy lines have blank lines only inside elements, each ahead of a line there. -/
theorem Tidy.blanksAhead {lines : List Line} (tidy : Tidy Q lines) :
    BlanksAhead 1 lines ∧ StartsFilled lines := by
  induction tidy with
  | nil => exact ⟨.nil, nofun⟩
  | piece _ _ _ ih => exact ⟨.content ih.1, nofun⟩
  | @element _ _ groups _ _ _ _ _ each ih =>
    -- Inside the element every line is one level deeper, the lines behind blank ones too.
    have inside : BlanksAhead 0 (spaced groups) :=
      (blanksAhead_spaced fun group mem => ⟨(each group mem).1.mono, (each group mem).2⟩).1
    exact ⟨.append (.content ((inside.deeper 1).append (.content .nil))) ih.1, nofun⟩

end GridBeans.Markup
