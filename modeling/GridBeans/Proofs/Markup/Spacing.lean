import GridBeans.Proofs.Markup.Sections

/-!
# Spacing

Lines are well spaced if blank lines only separate others: they never stand together, at the start
or the end of a block, or at the start or the end of all lines. Tidy lines are well spaced, since
the pieces and elements they are made of can have a blank line on either side, and the blank lines
between groups have a group on either side.
-/
namespace GridBeans.Markup

/-! ## Lines and the actions that write them -/

/-- The lines that a list of actions writes, each with the action that wrote it. -/
def Cursor.written (c : Cursor) : List Mark → List (Mark × Line)
  | [] => []
  | m :: rest => (c.step m).1.toList.map (fun line => (m, line)) ++ (c.step m).2.written rest

theorem Cursor.map_snd_written (c : Cursor) (marks : List Mark) :
    (c.written marks).map Prod.snd = (c.run marks).1 := by
  induction marks generalizing c with
  | nil => rfl
  | cons m rest ih =>
    have here : (c.step m).1.toList.map (Prod.snd ∘ fun line => (m, line)) = (c.step m).1.toList :=
      List.map_id _
    rw [Cursor.written, List.map_append, List.map_map, here, ih]
    rfl

/-- The action opens a block. -/
def Mark.Opens (m : Mark) : Prop :=
  ∃ piece, m = .opening piece

/-- The action closes a block. -/
def Mark.Closes (m : Mark) : Prop :=
  ∃ piece, m = .closing piece

/-- Blank lines stand only between two other lines, of which the one before opens no block and the
one behind closes none. -/
structure WellSpaced (written : List (Mark × Line)) : Prop where
  single : written.IsChain fun a b => a.2 = .blank → b.2 ≠ .blank
  opening : written.IsChain fun a b => a.1.Opens → b.2 ≠ .blank
  closing : written.IsChain fun a b => b.1.Closes → a.2 ≠ .blank
  first : ∀ w ∈ written.head?, w.2 ≠ .blank
  last : ∀ w ∈ written.getLast?, w.2 ≠ .blank

/-! ## Room for blank lines -/

/-- A blank line may stand directly behind the line. -/
def Line.RoomBehind : Line → Prop
  | .blank | .content _ (.startTag ..) => False
  | .content .. => True

/-- A blank line may stand directly ahead of the line. -/
def Line.RoomAhead : Line → Prop
  | .blank | .content _ (.endTag ..) => False
  | .content .. => True

/-- The second line may directly follow the first one. -/
def Line.Follows (a b : Line) : Prop :=
  (b = .blank → a.RoomBehind) ∧ (a = .blank → b.RoomAhead)

/-- The lines are well spaced, and stay so with a blank line on either side. -/
structure Aired (lines : List Line) : Prop where
  chain : lines.IsChain Line.Follows
  first : ∀ line ∈ lines.head?, line.RoomAhead
  last : ∀ line ∈ lines.getLast?, line.RoomBehind

theorem Line.RoomBehind.ne_blank {line : Line} (room : line.RoomBehind) : line ≠ .blank := by
  rintro rfl
  exact room

theorem Line.RoomAhead.ne_blank {line : Line} (room : line.RoomAhead) : line ≠ .blank := by
  rintro rfl
  exact room

/-- Between two lines that are not blank, anything goes. -/
theorem Line.follows_of_ne_blank {a b : Line} (before : a ≠ .blank) (behind : b ≠ .blank) :
    a.Follows b :=
  ⟨fun isBlank => absurd isBlank behind, fun isBlank => absurd isBlank before⟩

theorem Piece.Closed.room {piece : Piece} (closed : piece.Closed) (depth : Nat) :
    (Line.content depth piece).RoomAhead ∧ (Line.content depth piece).RoomBehind := by
  cases piece with
  | startTag | endTag => exact closed.elim
  | emptyTag | leaf | comment | verbatim => exact ⟨trivial, trivial⟩

/-! ## Aired lines -/

namespace Aired

variable {lines front back : List Line}

theorem nil : Aired [] :=
  ⟨.nil, nofun, nofun⟩

/-- What stands deeper has the same room around it. -/
theorem deeper (aired : Aired lines) (levels : Nat) : Aired (deeper levels lines) := by
  have ahead : ∀ line : Line, line.RoomAhead → (line.deeper levels).RoomAhead := by
    intro line room
    cases line with
    | blank => exact room
    | content depth piece => cases piece <;> exact room
  have behind : ∀ line : Line, line.RoomBehind → (line.deeper levels).RoomBehind := by
    intro line room
    cases line with
    | blank => exact room
    | content depth piece => cases piece <;> exact room
  have wasBlank : ∀ line : Line, line.deeper levels = .blank → line = .blank := by
    intro line same
    cases line with
    | blank => rfl
    | content => cases same
  refine ⟨List.isChain_map_of_isChain _ (fun a b follows => ?_) aired.chain, ?_, ?_⟩
  · exact ⟨fun isBlank => behind a (follows.1 (wasBlank b isBlank)),
      fun isBlank => ahead b (follows.2 (wasBlank a isBlank))⟩
  · rw [Markup.deeper, List.head?_map]
    rintro line mem
    obtain ⟨given, isFirst, rfl⟩ := Option.map_eq_some_iff.mp mem
    exact ahead given (aired.first given isFirst)
  · rw [Markup.deeper, List.getLast?_map]
    rintro line mem
    obtain ⟨given, isLast, rfl⟩ := Option.map_eq_some_iff.mp mem
    exact behind given (aired.last given isLast)

/-- Aired lines can be joined, since no blank line is at the ends where they meet. -/
theorem append (first : Aired front) (second : Aired back) : Aired (front ++ back) := by
  refine ⟨List.isChain_append.mpr ⟨first.chain, second.chain, fun a isLast b isFirst => ?_⟩, ?_, ?_⟩
  · exact Line.follows_of_ne_blank (first.last a isLast).ne_blank (second.first b isFirst).ne_blank
  · intro line isFirst
    cases front with
    | nil => exact second.first line isFirst
    | cons => exact first.first line isFirst
  · intro line isLast
    rw [List.getLast?_append, Option.mem_def, Option.or_eq_some_iff] at isLast
    rcases isLast with ofBack | ⟨-, ofFront⟩
    · exact second.last line ofBack
    · exact first.last line ofFront

theorem piece {p : Piece} (closed : p.Closed) (depth : Nat) : Aired [.content depth p] := by
  refine ⟨.singleton _, ?_, ?_⟩
  · rintro line ⟨⟩
    exact (closed.room depth).1
  · rintro line ⟨⟩
    exact (closed.room depth).2

/-- A start tag, lines that are well spaced without it, and an end tag. -/
theorem element (element : String) (attributes : List Attribute) (inside : Aired lines) :
    Aired (elementLines element attributes lines) := by
  have deep := inside.deeper 1
  have tag : ∀ (depth : Nat) (piece : Piece), Line.content depth piece ≠ .blank := nofun
  refine ⟨List.isChain_cons.mpr ⟨fun line isFirst => ?_, ?_⟩, ?_, ?_⟩
  · refine Line.follows_of_ne_blank (tag _ _) ?_
    cases within : Markup.deeper 1 lines with
    | nil =>
      rw [within] at isFirst
      cases isFirst
      exact tag _ _
    | cons next rest =>
      rw [within] at isFirst deep
      exact (deep.first line isFirst).ne_blank
  · refine List.isChain_append.mpr ⟨deep.chain, .singleton _, fun line isLast stop isStop => ?_⟩
    cases isStop
    exact Line.follows_of_ne_blank (deep.last line isLast).ne_blank (tag _ _)
  · rintro line ⟨⟩
    trivial
  · intro line isLast
    have stop : (elementLines element attributes lines).getLast? =
        some (.content 0 (.endTag element)) := by
      rw [elementLines, ← List.cons_append, List.getLast?_concat]
    rw [stop] at isLast
    cases isLast
    trivial

/-- A blank line has room between two groups that have any line. -/
theorem apart (first : Aired front) (second : Aired back) : Aired (apart front back) := by
  rw [Markup.apart]
  split
  · exact second
  · split
    · exact first
    · rename_i hasLine others
      have parted : (Line.blank :: back).IsChain Line.Follows :=
        List.isChain_cons.mpr ⟨fun line isFirst =>
          ⟨fun isBlank => absurd isBlank (second.first line isFirst).ne_blank,
            fun _ => second.first line isFirst⟩, second.chain⟩
      refine ⟨List.isChain_append.mpr ⟨first.chain, parted, fun line isLast next isNext => ?_⟩,
        ?_, ?_⟩
      · cases isNext
        exact ⟨fun _ => first.last line isLast,
          fun isBlank => absurd isBlank (first.last line isLast).ne_blank⟩
      · intro line isFirst
        rw [List.head?_append_of_ne_nil _ hasLine] at isFirst
        exact first.first line isFirst
      · intro line isLast
        rw [List.getLast?_append_of_ne_nil _ (List.cons_ne_nil _ _),
          List.getLast?_cons_of_ne_nil others] at isLast
        exact second.last line isLast

/-- Groups set apart are aired, if each group is: the blank line between them has room on both
sides. -/
theorem spaced {groups : List (List Line)} (each : ∀ group ∈ groups, Aired group) :
    Aired (spaced groups) := by
  induction groups with
  | nil => exact .nil
  | cons group rest ih =>
    rw [List.forall_mem_cons] at each
    rw [spaced_cons]
    exact each.1.apart (ih each.2)

end Aired

theorem Tidy.aired {Q : Piece → Prop} {lines : List Line} (tidy : Tidy Q lines) : Aired lines := by
  induction tidy with
  | nil => exact .nil
  | piece _ closed _ ih => exact (Aired.piece closed 0).append ih
  | element _ _ _ _ each ih => exact (Aired.element _ _ (.spaced each)).append ih

/-! ## Well spaced lines -/

/-- Of actions with their tags, one that opens a block writes a start tag and one that closes a
block an end tag. -/
theorem Cursor.tags_written {c : Cursor} {marks : List Mark} (tagged : ∀ m ∈ marks, m.Tagged) :
    ∀ w ∈ c.written marks, (w.1.Opens → ¬ w.2.RoomBehind) ∧ (w.1.Closes → ¬ w.2.RoomAhead) := by
  induction marks generalizing c with
  | nil => exact List.forall_mem_nil _
  | cons m rest ih =>
    rw [List.forall_mem_cons] at tagged
    refine List.forall_mem_append.mpr ⟨fun w mem => ?_, ih tagged.2⟩
    obtain ⟨line, isLine, rfl⟩ := List.mem_map.mp mem
    constructor
    · rintro ⟨piece, rfl⟩
      obtain ⟨element, attributes, rfl⟩ := tagged.1
      cases List.mem_singleton.mp isLine
      exact id
    · rintro ⟨piece, rfl⟩
      obtain ⟨element, rfl⟩ := tagged.1
      cases List.mem_singleton.mp isLine
      exact id

/-- Actions with their tags that write aired lines space them well. -/
theorem Aired.wellSpaced {c : Cursor} {marks : List Mark} (tagged : ∀ m ∈ marks, m.Tagged)
    (aired : Aired (c.run marks).1) : WellSpaced (c.written marks) := by
  have tags := Cursor.tags_written (c := c) tagged
  rw [← c.map_snd_written] at aired
  have chain := (List.isChain_map Prod.snd).mp aired.chain
  refine ⟨chain.imp fun a b follows blank => ?_, chain.imp_of_mem_imp fun a b memA _ follows => ?_,
    chain.imp_of_mem_imp fun a b _ memB follows => ?_, fun w isFirst => ?_, fun w isLast => ?_⟩
  · exact (follows.2 blank).ne_blank
  · exact fun opens blank => (tags a memA).1 opens (follows.1 blank)
  · exact fun closes blank => (tags b memB).2 closes (follows.2 blank)
  · refine (aired.first w.2 ?_).ne_blank
    rw [List.head?_map]
    exact Option.mem_map_of_mem _ isFirst
  · refine (aired.last w.2 ?_).ne_blank
    rw [List.getLast?_map]
    exact Option.mem_map_of_mem _ isLast

end GridBeans.Markup
