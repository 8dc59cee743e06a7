import GridBeans.Proofs.Properties.Reader

/-!
# Logical lines

A key is plain if it has no separator, blank, line end or backslash and no mark at its start. A text
in front of a given end comes back as one logical line only if none of its characters ends a line
and it does not start with a blank or a mark; otherwise the lines that come of it are shorter. One
step of a scan keeps this bound (`Scan.Bounded.step`), and so does a whole scan.
-/
namespace GridBeans.Properties

/-- A character that ends neither a key nor a line and escapes nothing. -/
def isPlain (c : Char) : Bool := !(endsKey c || isLineEnd c || c = '\\')

/-- A text that is read as the key it is. -/
def isPlainKey (key : List Char) : Bool := key.all isPlain && !key.head?.any isMark

/-- A plain character that means itself behind a backslash, and no digit or mark. -/
def isFirm (c : Char) : Bool :=
  isPlain c && !isMark c && (Text.digit? 16 c).isNone && !(c ∈ ['t', 'n', 'r', 'f', 'u'])

theorem isPlain_iff (c : Char) :
    isPlain c = true ↔ endsKey c = false ∧ isLineEnd c = false ∧ c ≠ '\\' := by
  simp [isPlain, and_assoc]

theorem isFirm_iff (c : Char) :
    isFirm c = true ↔ isPlain c = true ∧ isMark c = false ∧ Text.digit? 16 c = none ∧
      c ≠ 't' ∧ c ≠ 'n' ∧ c ≠ 'r' ∧ c ≠ 'f' ∧ c ≠ 'u' := by
  simp [isFirm, and_assoc]

theorem isPlainKey_iff (key : List Char) :
    isPlainKey key = true ↔ (∀ c ∈ key, isPlain c = true) ∧ ∀ c ∈ key.head?, isMark c = false := by
  cases key with
  | nil => simp [isPlainKey]
  | cons c rest => simp [isPlainKey]

/-- The end of a line: the end of its key, whose first character is firm, and what is behind it. -/
structure IsTail (first : Char) (others rest : List Char) : Prop where
  firm : isFirm first = true
  plain : ∀ c ∈ others, isPlain c = true
  stops : ∀ c ∈ rest.head?, endsKey c = true
  inert : ∀ c ∈ rest, isLineEnd c = false ∧ c ≠ '\\'

variable {first : Char} {others rest : List Char}

/-! ## Lines -/

namespace Scan

theorem step_inside {s : Scan} (inside : s.place = .inside) {c : Char} (ends : isLineEnd c = false)
    (plain : c ≠ '\\') : s.step c = ⟨.inside, s.line ++ [c], s.lines⟩ := by
  simp [step, inside, ends, plain, add]

/-- Inside a line, characters that neither end it nor escape anything are taken as they are. -/
theorem run_inside {s : Scan} (inside : s.place = .inside) {cs : List Char}
    (inert : ∀ c ∈ cs, isLineEnd c = false ∧ c ≠ '\\') :
    s.run cs = ⟨.inside, s.line ++ cs, s.lines⟩ := by
  induction cs generalizing s with
  | nil =>
    rw [List.append_nil, ← inside]
    rfl
  | cons c cs ih =>
    rw [List.forall_mem_cons] at inert
    show (s.step c).run cs = _
    rw [step_inside inside inert.1.1 inert.1.2, ih rfl inert.2, List.append_assoc]
    rfl

/-- Outside of comments a firm character is taken wherever it stands. -/
theorem step_firm (s : Scan) (entry : s.place ≠ .comment) {c : Char} (firm : isFirm c = true) :
    s.step c = ⟨.inside, s.line ++ [c], s.lines⟩ := by
  obtain ⟨plain, mark, -⟩ := (isFirm_iff c).mp firm
  obtain ⟨key, ends, escapes⟩ := (isPlain_iff c).mp plain
  have blank : isBlank c = false := (Bool.or_eq_false_iff.mp key).2
  have feed : c ≠ '\n' := by
    rintro rfl
    exact absurd ends (by decide)
  cases place : s.place with
  | comment => exact absurd place entry
  | _ => simp [step, place, add, blank, ends, mark, escapes, feed]

/-- Inside a comment nothing is taken up to the end of the line. -/
theorem run_comment {s : Scan} (comment : s.place = .comment) {cs : List Char}
    (inert : ∀ c ∈ cs, isLineEnd c = false) : s.run cs = s := by
  induction cs with
  | nil => rfl
  | cons c cs ih =>
    rw [List.forall_mem_cons] at inert
    have stays : s.step c = s := by simp [step, comment, inert.1]
    show (s.step c).run cs = s
    rw [stays, ih inert.2]

end Scan

namespace IsTail

theorem inert_all (tail : IsTail first others rest) :
    ∀ c ∈ others ++ rest, isLineEnd c = false ∧ c ≠ '\\' := by
  intro c mem
  rcases List.mem_append.mp mem with key | behind
  · exact ((isPlain_iff c).mp (tail.plain c key)).2
  · exact tail.inert c behind

/-- A line with a firm end is closed by a line feed, unless it is a comment. -/
theorem run_line (tail : IsTail first others rest) (s : Scan) :
    s.run (first :: (others ++ rest) ++ ['\n']) =
      if s.place = .comment then ⟨.start, [], s.lines⟩
      else ⟨.start, [], s.lines ++ [s.line ++ first :: (others ++ rest)]⟩ := by
  have inert := tail.inert_all
  have firstPlain := (isPlain_iff first).mp ((isFirm_iff first).mp tail.firm).1
  rw [Scan.run_append]
  by_cases comment : s.place = .comment
  · have inComment : ∀ c ∈ first :: (others ++ rest), isLineEnd c = false :=
      List.forall_mem_cons.mpr ⟨firstPlain.2.1, fun c mem => (inert c mem).1⟩
    rw [Scan.run_comment comment inComment]
    simp [Scan.run, Scan.step, comment, isLineEnd]
  · have taken : s.run (first :: (others ++ rest)) =
        ⟨.inside, s.line ++ first :: (others ++ rest), s.lines⟩ := by
      show (s.step first).run (others ++ rest) = _
      rw [Scan.step_firm s comment tail.firm, Scan.run_inside rfl inert, List.append_assoc]
      rfl
    rw [taken, if_neg comment]
    simp [Scan.run, Scan.step, Scan.endLine, isLineEnd]

end IsTail

/-- What a scan has of a text is no longer than the text, and as long only if it is the text and
stands at the start of an entry. -/
structure Scan.Bounded (cs : List Char) (s : Scan) : Prop where
  lines : ∀ x ∈ s.lines, x.length ≤ cs.length
  line : s.line.length ≤ cs.length
  begun : s.place ≠ .start → cs ≠ []
  whole : s.line.length = cs.length → s.line = cs ∧ (∀ c ∈ cs, isLineEnd c = false) ∧
    ∀ c ∈ cs.head?, isBlank c = false ∧ isMark c = false

namespace Scan.Bounded

variable {cs : List Char} {s : Scan}

theorem initial : Bounded [] Scan.initial :=
  ⟨nofun, Nat.le_refl 0, fun moved => absurd rfl moved, fun _ => ⟨rfl, nofun, nofun⟩⟩

/-- A character that is passed over makes what is had shorter than what was read. -/
theorem pass (bounded : Bounded cs s) (c : Char) (place : Place) (line : List Char)
    (kept : line.length ≤ s.line.length) : Bounded (cs ++ [c]) ⟨place, line, s.lines⟩ := by
  have short : line.length ≤ cs.length := Nat.le_trans kept bounded.line
  refine ⟨fun x mem => ?_, ?_, fun _ => by simp, fun same => ?_⟩
  · exact Nat.le_trans (bounded.lines x mem) (by simp)
  · exact Nat.le_trans short (by simp)
  · simp only [List.length_append, List.length_singleton] at same
    omega

/-- The end of a line leaves nothing of what was read in the line after it. -/
theorem endLine (bounded : Bounded cs s) (c : Char) : Bounded (cs ++ [c]) s.endLine := by
  refine ⟨fun x mem => ?_, by simp [Scan.endLine], fun moved => absurd rfl moved, fun same => ?_⟩
  · have known : x ∈ s.lines ∨ x = s.line := by
      simp only [Scan.endLine] at mem
      split at mem
      · exact .inl mem
      · simpa using mem
    have short : x.length ≤ cs.length := by
      rcases known with earlier | rfl
      · exact bounded.lines x earlier
      · exact bounded.line
    exact Nat.le_trans short (by simp)
  · simp [Scan.endLine] at same

/-- A character that is taken keeps the bound. -/
theorem take (bounded : Bounded cs s) (place : Place) {c : Char} (ends : isLineEnd c = false)
    (starts : cs = [] → isBlank c = false ∧ isMark c = false) :
    Bounded (cs ++ [c]) ⟨place, s.line ++ [c], s.lines⟩ := by
  refine ⟨fun x mem => ?_, ?_, fun _ => by simp, fun same => ?_⟩
  · exact Nat.le_trans (bounded.lines x mem) (by simp)
  · simpa using bounded.line
  · obtain ⟨whole, noEnd, head⟩ := bounded.whole (by simpa using same)
    refine ⟨by rw [whole], by simpa [or_imp, forall_and, ends] using noEnd, ?_⟩
    cases cs with
    | nil => simpa using starts rfl
    | cons d rest => simpa using head

/-- One step keeps the bound, whatever the character and the place are. -/
theorem step (bounded : Bounded cs s) (c : Char) : Bounded (cs ++ [c]) (s.step c) := by
  have stays : Bounded (cs ++ [c]) s := bounded.pass c s.place s.line (Nat.le_refl _)
  have moves (place : Place) : Bounded (cs ++ [c]) { s with place := place } :=
    bounded.pass c place s.line (Nat.le_refl _)
  have takes (place : Place) (moved : s.place ≠ .start) (ends : ¬ isLineEnd c = true) :
      Bounded (cs ++ [c]) ⟨place, s.line ++ [c], s.lines⟩ :=
    bounded.take place (by simpa using ends) fun empty => absurd empty (bounded.begun moved)
  cases place : s.place with
  | start =>
    simp only [Scan.step, place, Bool.or_eq_true]
    split
    · exact stays
    · rename_i inert
      split
      · exact moves .comment
      · rename_i mark
        exact bounded.take _ (by grind) fun _ => by grind
  | comment =>
    simp only [Scan.step, place]
    split
    · exact bounded.pass c .start [] (Nat.zero_le _)
    · exact stays
  | inside =>
    simp only [Scan.step, place]
    split
    · exact bounded.endLine c
    · rename_i ends
      exact takes _ (by simp [place]) ends
  | escaping =>
    simp only [Scan.step, place]
    split
    · exact bounded.pass c _ _ (by simp)
    · rename_i ends
      exact takes _ (by simp [place]) ends
  | continued =>
    simp only [Scan.step, place]
    split
    · exact stays
    · split
      · exact bounded.endLine c
      · rename_i ends
        exact takes _ (by simp [place]) ends
  | returned =>
    simp only [Scan.step, place]
    split
    · exact moves .continued
    · split
      · exact bounded.endLine c
      · rename_i ends
        exact takes _ (by simp [place]) ends

/-- The bound holds after any text, by one step for each of its characters. -/
theorem run (bounded : Bounded cs s) (ds : List Char) : Bounded (cs ++ ds) (s.run ds) := by
  induction ds generalizing cs s with
  | nil => rwa [List.append_nil]
  | cons d ds ih =>
    have next := ih (bounded.step d)
    rwa [List.append_assoc] at next

end Scan.Bounded

/-- The logical lines of a text that is closed by a line feed. -/
def segmentLines (cs : List Char) : List (List Char) := (Scan.initial.run (cs ++ ['\n'])).lines

/-- The line feed behind a text ends all that was begun in it. -/
def IsSegment (cs : List Char) : Prop :=
  Scan.initial.run (cs ++ ['\n']) = ⟨.start, [], segmentLines cs⟩

/-- Closed lines are scanned one after the other, each into the logical lines that it gives alone.
-/
theorem run_segments {segments : List (List Char)} (closed : ∀ cs ∈ segments, IsSegment cs) :
    Scan.initial.run (segments.flatMap (· ++ ['\n'])) =
      ⟨.start, [], segments.flatMap segmentLines⟩ := by
  induction segments with
  | nil => rfl
  | cons cs others ih =>
    rw [List.forall_mem_cons] at closed
    have first : Scan.initial.run (cs ++ ['\n']) = Scan.initial.behind (segmentLines cs) := by
      rw [closed.1, Scan.behind, Scan.initial, List.append_nil]
    rw [List.flatMap_cons, Scan.run_append, first, Scan.run_behind, ih closed.2]
    rfl

/-- The lines of a text are those of its segments. -/
theorem logicalLines_segments {segments : List (List Char)}
    (closed : ∀ cs ∈ segments, IsSegment cs) :
    logicalLines (segments.flatMap (· ++ ['\n'])) = segments.flatMap segmentLines := by
  rw [logicalLines, run_segments closed]
  rfl

theorem IsTail.isSegment (tail : IsTail first others rest) (cs : List Char) :
    IsSegment (cs ++ first :: (others ++ rest)) := by
  rw [IsSegment, segmentLines, List.append_assoc, Scan.run_append, tail.run_line]
  split <;> rfl

/-- A line in front of a firm end is shorter than the text it comes of, unless the text is one
line. -/
theorem IsTail.mem_segmentLines (tail : IsTail first others rest) {cs line : List Char}
    (mem : line ∈ segmentLines (cs ++ first :: (others ++ rest))) :
    line.length ≤ cs.length ∨ ∃ front, line = front ++ first :: (others ++ rest) ∧
      front.length ≤ cs.length ∧
      (front.length = cs.length → front = cs ∧ (∀ c ∈ cs, isLineEnd c = false) ∧
        ∀ c ∈ cs.head?, isBlank c = false ∧ isMark c = false) := by
  have bounded : Scan.Bounded cs (Scan.initial.run cs) := Scan.Bounded.initial.run cs
  rw [segmentLines, List.append_assoc, Scan.run_append, tail.run_line] at mem
  split at mem
  · exact .inl (bounded.lines line mem)
  · rcases List.mem_append.mp mem with earlier | last
    · exact .inl (bounded.lines line earlier)
    · exact .inr ⟨_, List.mem_singleton.mp last, bounded.line, bounded.whole⟩

/-- A plain key in front of a firm end makes one line. -/
theorem IsTail.segmentLines_plain (tail : IsTail first others rest) {cs : List Char}
    (plain : isPlainKey cs = true) :
    segmentLines (cs ++ first :: (others ++ rest)) = [cs ++ first :: (others ++ rest)] := by
  have scanned : Scan.initial.run cs = ⟨if cs = [] then .start else .inside, cs, []⟩ := by
    rw [isPlainKey_iff] at plain
    cases cs with
    | nil => rfl
    | cons c cs =>
      obtain ⟨chars, head⟩ := plain
      rw [List.forall_mem_cons, isPlain_iff] at chars
      obtain ⟨⟨key, ends, escapes⟩, behind⟩ := chars
      have taken : Scan.initial.step c = ⟨.inside, [c], []⟩ := by
        have blank : isBlank c = false := (Bool.or_eq_false_iff.mp key).2
        have mark : isMark c = false := head c rfl
        simp [Scan.step, Scan.initial, Scan.add, blank, ends, mark, escapes]
      show (Scan.initial.step c).run cs = _
      rw [taken, Scan.run_inside rfl fun d mem => ((isPlain_iff d).mp (behind d mem)).2]
      rfl
  have entry : (if cs = [] then Place.start else .inside) ≠ .comment := by
    split <;> decide
  rw [segmentLines, List.append_assoc, Scan.run_append, tail.run_line, scanned, if_neg entry]
  rfl

/-- A line that starts with a mark gives no logical line. -/
theorem segmentLines_comment {c : Char} (mark : isMark c = true) {cs : List Char}
    (inert : ∀ d ∈ cs, isLineEnd d = false) : segmentLines (c :: cs) = [] := by
  have begun : Scan.initial.step c = ⟨.comment, [], []⟩ := by
    have known : c = '#' ∨ c = '!' := by simpa [isMark] using mark
    rcases known with rfl | rfl <;> rfl
  have scanned : Scan.initial.run (c :: cs ++ ['\n']) = Scan.initial := by
    show ((Scan.initial.step c).run (cs ++ ['\n'])) = _
    rw [begun, Scan.run_append, Scan.run_comment rfl inert]
    rfl
  rw [segmentLines, scanned]
  rfl

end GridBeans.Properties
