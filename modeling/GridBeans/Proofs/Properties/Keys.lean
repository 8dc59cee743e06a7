import GridBeans.Proofs.Properties.Lines

/-!
# Keys that are read as they are written

Behind a plain key, a line that is left to its end is read as that key. Behind anything else, what
is read of the line is shorter than what is written: `IsTail.exists_front_of_mem` bounds the keys
that can come of a text in front of a given end, and says that only a plain text reaches the bound.
-/
namespace GridBeans.Properties

open Json (StringPart joinParts)

variable {first : Char} {others rest : List Char}

/-! ## Escapes -/

theorem joinParts_map_char (cs : List Char) : joinParts (cs.map .char) = some cs := by
  induction cs with
  | nil => rfl
  | cons c cs ih => rw [List.map_cons, joinParts, ih, Option.map_some]

theorem length_joinParts_le {parts : List StringPart} {cs : List Char}
    (joined : joinParts parts = some cs) : cs.length ≤ parts.length := by
  fun_induction joinParts parts generalizing cs <;> grind [Option.map_eq_some_iff]

theorem joinParts_append_char (parts : List StringPart) (c : Char) (cs : List Char) :
    joinParts (parts ++ (c :: cs).map .char) = (joinParts parts).map (· ++ c :: cs) := by
  have start : joinParts ((c :: cs).map .char) = some (c :: cs) := joinParts_map_char _
  -- A unit at the end of the parts finds no second half behind it.
  have unpaired {rest : List StringPart} (noPair : ∀ low tail, rest = .code low :: tail → False)
      (low : Nat) (tail : List StringPart) :
      rest ++ (c :: cs).map .char = .code low :: tail → False := by
    cases rest with
    | nil => nofun
    | cons part rest =>
      intro same
      exact noPair low rest (by rw [(List.cons.inj same).1])
  fun_induction joinParts parts with
  | case1 => exact start
  | case2 d rest ih =>
    rw [List.cons_append, joinParts, ih]
    cases joinParts rest <;> rfl
  | case3 high low rest isHigh isLow ih =>
    rw [List.cons_append, List.cons_append, joinParts, if_pos isHigh, if_pos isLow, ih]
    cases joinParts rest <;> rfl
  | case4 high low rest isHigh isLow =>
    rw [List.cons_append, List.cons_append, joinParts, if_pos isHigh, if_neg isLow]
    rfl
  | case5 high low rest isHigh isLow =>
    rw [List.cons_append, List.cons_append, joinParts, if_neg isHigh, if_pos isLow]
    rfl
  | case6 high low rest isHigh isLow ih =>
    rw [List.cons_append] at ih
    rw [List.cons_append, List.cons_append, joinParts, if_neg isHigh, if_neg isLow, ih]
    cases joinParts (.code low :: rest) <;> rfl
  | case7 value rest noPair half =>
    rw [List.cons_append, joinParts, if_pos half]
    · rfl
    · exact unpaired noPair
  | case8 value rest noPair whole ih =>
    rw [List.cons_append, joinParts, if_neg whole, ih]
    · cases joinParts rest <;> rfl
    · exact unpaired noPair

theorem resolveFrom_plain {cs : List Char} (plain : ∀ c ∈ cs, c ≠ '\\') :
    resolveFrom .between cs = some (cs.map .char) := by
  induction cs with
  | nil => rfl
  | cons c cs ih =>
    rw [List.forall_mem_cons] at plain
    rw [resolveFrom, if_neg plain.1, ih plain.2, Option.map_some, List.map_cons]

/-- A text without backslash stands for itself. -/
theorem resolve_plain {cs : List Char} (plain : ∀ c ∈ cs, c ≠ '\\') : resolve cs = some cs := by
  rw [resolve, resolveFrom_plain plain, Option.bind_some, joinParts_map_char]

theorem length_resolveFrom_le {escape : Escape} {cs : List Char} {parts : List StringPart}
    (resolved : resolveFrom escape cs = some parts) : parts.length ≤ cs.length := by
  fun_induction resolveFrom escape cs generalizing parts <;> grind [Option.map_eq_some_iff]

/-- A text stands for no longer text. -/
theorem length_resolve_le {cs key : List Char} (resolved : resolve cs = some key) :
    key.length ≤ cs.length := by
  obtain ⟨parts, resolvedParts, joined⟩ := Option.bind_eq_some_iff.mp resolved
  exact Nat.le_trans (length_joinParts_le joined) (length_resolveFrom_le resolvedParts)

/-- What is written in front of a firm end stands for a text in front of that end, shorter if there
is an escape in it. -/
theorem resolveFrom_firm (firm : isFirm first = true) (plain : ∀ c ∈ others, isPlain c = true)
    {escape : Escape} {cs : List Char} {parts : List StringPart}
    (resolved : resolveFrom escape (cs ++ first :: others) = some parts) :
    ∃ front, parts = front ++ (first :: others).map .char ∧ front.length ≤ cs.length ∧
      (escape = .between → front.length = cs.length → front = cs.map .char ∧ '\\' ∉ cs) := by
  obtain ⟨firstPlain, -, noDigit, noTab, noFeed, noReturn, noPage, noUnit⟩ :=
    (isFirm_iff first).mp firm
  have noEscape : ∀ c ∈ first :: others, c ≠ '\\' := by
    simp only [isPlain_iff] at firstPlain plain
    exact List.forall_mem_cons.mpr ⟨firstPlain.2.2, fun c mem => (plain c mem).2.2⟩
  have same : escapedForm first = first := by
    simp [escapedForm, noTab, noFeed, noReturn, noPage]
  have behind : resolveFrom .between others = some (others.map .char) :=
    resolveFrom_plain fun c mem => noEscape c (List.mem_cons_of_mem first mem)
  induction cs generalizing escape parts with
  | nil =>
    refine ⟨[], ?_, Nat.le_refl 0, fun _ _ => ⟨rfl, nofun⟩⟩
    rw [List.nil_append] at resolved
    cases escape with
    | between =>
      rw [resolveFrom_plain noEscape] at resolved
      exact (Option.some.inj resolved).symm
    | begun =>
      rw [resolveFrom, if_neg noUnit, same, behind] at resolved
      exact (Option.some.inj resolved).symm
    | digits left value =>
      simp [resolveFrom, noDigit] at resolved
  | cons c cs ih =>
    rw [List.cons_append] at resolved
    have longer {escape : Escape} {part : StringPart}
        (resolved : (resolveFrom escape (cs ++ first :: others)).map (part :: ·) = some parts) :
        ∃ front, parts = part :: front ++ (first :: others).map .char ∧
          front.length ≤ cs.length ∧
          (escape = .between → front.length = cs.length → front = cs.map .char ∧ '\\' ∉ cs) := by
      obtain ⟨later, resolvedLater, rfl⟩ := Option.map_eq_some_iff.mp resolved
      obtain ⟨front, rfl, bound, whole⟩ := ih resolvedLater
      exact ⟨front, rfl, bound, whole⟩
    cases escape with
    | between =>
      rw [resolveFrom] at resolved
      split at resolved
      · obtain ⟨front, rfl, bound, -⟩ := ih resolved
        refine ⟨front, rfl, by simp; omega, fun _ full => ?_⟩
        simp only [List.length_cons] at full
        omega
      · rename_i other
        obtain ⟨front, rfl, bound, whole⟩ := longer resolved
        refine ⟨.char c :: front, rfl, by simpa using bound, fun _ full => ?_⟩
        obtain ⟨rfl, free⟩ := whole rfl (by simpa using full)
        exact ⟨rfl, by simpa [Ne.symm other] using free⟩
    | begun =>
      rw [resolveFrom] at resolved
      split at resolved
      · obtain ⟨front, rfl, bound, -⟩ := ih resolved
        exact ⟨front, rfl, by simp; omega, nofun⟩
      · obtain ⟨front, rfl, bound, -⟩ := longer resolved
        exact ⟨_ :: front, rfl, by simpa using bound, nofun⟩
    | digits left value =>
      cases known : Text.digit? 16 c with
      | none => simp [resolveFrom, known] at resolved
      | some d =>
        cases left with
        | zero =>
          simp only [resolveFrom, known] at resolved
          obtain ⟨front, rfl, bound, -⟩ := longer resolved
          exact ⟨_ :: front, rfl, by simpa using bound, nofun⟩
        | succ left =>
          simp only [resolveFrom, known] at resolved
          obtain ⟨front, rfl, bound, -⟩ := ih resolved
          exact ⟨front, rfl, by simp; omega, nofun⟩

/-! ## Cutting lines -/

theorem length_cutKey_le (escaped : Bool) (cs : List Char) :
    (cutKey escaped cs).1.length ≤ cs.length := by
  induction cs generalizing escaped with
  | nil => exact Nat.le_refl 0
  | cons c cs ih =>
    rw [cutKey]
    split
    · exact Nat.zero_le _
    · exact Nat.succ_le_succ (ih _)

/-- A plain key is cut off at the first character behind it that ends a key. -/
theorem cutKey_plain {cs : List Char} (plain : ∀ c ∈ cs, isPlain c = true)
    (stops : ∀ c ∈ rest.head?, endsKey c = true) : cutKey false (cs ++ rest) = (cs, rest) := by
  induction cs with
  | nil =>
    cases rest with
    | nil => rfl
    | cons c rest => simp [cutKey, stops c rfl]
  | cons c cs ih =>
    rw [List.forall_mem_cons, isPlain_iff] at plain
    obtain ⟨⟨key, -, escapes⟩, others⟩ := plain
    simp [cutKey, key, escapes, ih others]

/-- A line is cut before its firm end, or it is left to that end and has no separator or blank in
front of it that is not escaped. -/
theorem IsTail.cutKey_line (tail : IsTail first others rest) (escaped : Bool) (cs : List Char) :
    (cutKey escaped (cs ++ first :: (others ++ rest))).1.length ≤ cs.length ∨
      cutKey escaped (cs ++ first :: (others ++ rest)) = (cs ++ first :: others, rest) ∧
        (escaped = false → '\\' ∉ cs → ∀ c ∈ cs, endsKey c = false) := by
  induction cs generalizing escaped with
  | nil =>
    obtain ⟨key, -, escapes⟩ := (isPlain_iff first).mp ((isFirm_iff first).mp tail.firm).1
    exact .inr ⟨by simp [cutKey, key, escapes, cutKey_plain tail.plain tail.stops], nofun⟩
  | cons c cs ih =>
    rw [List.cons_append, cutKey]
    split
    · exact .inl (Nat.zero_le _)
    · rename_i goesOn
      rcases ih (!escaped && c = '\\') with short | ⟨cut, free⟩
      · exact .inl (by simpa using short)
      · refine .inr ⟨by rw [cut]; rfl, fun started noEscape => ?_⟩
        rw [List.mem_cons, not_or] at noEscape
        have other : c ≠ '\\' := Ne.symm noEscape.1
        refine List.forall_mem_cons.mpr ⟨by simpa [started] using goesOn, ?_⟩
        exact free (by simp [other]) noEscape.2

/-- The key of a line that is read is what its front resolves to. -/
theorem readLine_eq_some {line : List Char} {key value : String}
    (read : readLine line = some (key, value)) :
    resolve (cutKey false line).1 = some key.toList := by
  simp only [readLine, Option.bind_eq_bind, Option.bind_eq_some_iff, Option.pure_def,
    Option.some.injEq, Prod.mk.injEq] at read
  obtain ⟨resolved, found, -, -, rfl, -⟩ := read
  rw [found, String.toList_ofList]

/-- The key of a line is shorter than what is in front of its firm end, or it has that end behind
no longer text, and as long a text only behind one without separators, blanks and escapes. -/
theorem IsTail.exists_front (tail : IsTail first others rest) {cs : List Char}
    {key value : String}
    (read : readLine (cs ++ first :: (others ++ rest)) = some (key, value)) :
    key.toList.length ≤ cs.length ∨ ∃ front, key.toList = front ++ first :: others ∧
      front.length ≤ cs.length ∧ (front.length = cs.length →
        front = cs ∧ '\\' ∉ cs ∧ ∀ c ∈ cs, endsKey c = false) := by
  have resolved := readLine_eq_some read
  rcases tail.cutKey_line false cs with short | ⟨cut, free⟩
  · exact .inl (Nat.le_trans (length_resolve_le resolved) short)
  · rw [cut] at resolved
    obtain ⟨parts, resolvedParts, joined⟩ := Option.bind_eq_some_iff.mp resolved
    obtain ⟨front, rfl, bound, whole⟩ := resolveFrom_firm tail.firm tail.plain resolvedParts
    rw [joinParts_append_char, Option.map_eq_some_iff] at joined
    obtain ⟨text, joinedFront, same⟩ := joined
    have short := length_joinParts_le joinedFront
    refine .inr ⟨text, same.symm, Nat.le_trans short bound, fun full => ?_⟩
    obtain ⟨rfl, noEscape⟩ := whole rfl (by omega)
    rw [joinParts_map_char] at joinedFront
    exact ⟨(Option.some.inj joinedFront).symm, noEscape, free rfl noEscape⟩

/-! ## Entries -/

/-- Every entry is that of a line. -/
theorem exists_line_of_mem {lines : List (List Char)} {entries : List (String × String)}
    (read : lines.mapM readLine = some entries) {entry : String × String}
    (mem : entry ∈ entries) : ∃ line ∈ lines, readLine line = some entry := by
  induction lines generalizing entries with
  | nil =>
    rw [← Option.some.inj read] at mem
    cases mem
  | cons line lines ih =>
    simp only [List.mapM_cons, Option.bind_eq_bind, Option.bind_eq_some_iff, Option.pure_def,
      Option.some.injEq] at read
    obtain ⟨found, readFound, later, readLater, rfl⟩ := read
    rcases List.mem_cons.mp mem with rfl | inLater
    · exact ⟨line, List.mem_cons_self, readFound⟩
    · obtain ⟨source, inside, same⟩ := ih readLater inLater
      exact ⟨source, List.mem_cons_of_mem line inside, same⟩

/-- Lines that are all read one by one are read together. -/
theorem mapM_readLine {α : Type} {items : List α} {line : α → List Char}
    {entry : α → String × String} (each : ∀ a ∈ items, readLine (line a) = some (entry a)) :
    (items.map line).mapM readLine = some (items.map entry) := by
  induction items with
  | nil => rfl
  | cons a items ih =>
    rw [List.forall_mem_cons] at each
    rw [List.map_cons, List.mapM_cons, each.1, ih each.2]
    rfl

/-! ## Main results -/

/-- The keys that come of a text in front of a firm end are shorter than that text, or they have
that end behind no longer text, and as long a text only if it is the plain key that is written. -/
theorem IsTail.exists_front_of_mem (tail : IsTail first others rest) {cs line : List Char}
    (mem : line ∈ segmentLines (cs ++ first :: (others ++ rest))) {key value : String}
    (read : readLine line = some (key, value)) :
    key.toList.length ≤ cs.length ∨ ∃ front, key.toList = front ++ first :: others ∧
      front.length ≤ cs.length ∧
      (front.length = cs.length → front = cs ∧ isPlainKey cs = true) := by
  rcases tail.mem_segmentLines mem with short | ⟨left, rfl, bound, whole⟩
  · exact .inl (Nat.le_trans (Nat.le_trans (length_resolve_le (readLine_eq_some read))
      (length_cutKey_le false line)) short)
  · rcases tail.exists_front read with short | ⟨front, same, shorter, free⟩
    · exact .inl (Nat.le_trans short bound)
    · refine .inr ⟨front, same, Nat.le_trans shorter bound, fun full => ?_⟩
      obtain ⟨rfl, noEnd, head⟩ := whole (by omega)
      obtain ⟨rfl, noEscape, noKeyEnd⟩ := free full
      refine ⟨rfl, (isPlainKey_iff _).mpr ⟨fun c inside => ?_, fun c inside => (head c inside).2⟩⟩
      refine (isPlain_iff c).mpr ⟨noKeyEnd c inside, noEnd c inside, ?_⟩
      rintro rfl
      exact noEscape inside

/-- A line with a plain key, a firm end and a separator behind it is the entry of that key, without
a value. -/
theorem IsTail.readLine_of_plain (tail : IsTail first others ['=']) {cs : List Char}
    (plain : isPlainKey cs = true) :
    readLine (cs ++ first :: (others ++ ['='])) =
      some (String.ofList (cs ++ first :: others), "") := by
  have chars : ∀ c ∈ cs ++ first :: others, isPlain c = true := by
    intro c mem
    rcases List.mem_append.mp mem with front | ending
    · exact ((isPlainKey_iff cs).mp plain).1 c front
    · rcases List.mem_cons.mp ending with rfl | behind
      · exact ((isFirm_iff c).mp tail.firm).1
      · exact tail.plain c behind
  have cut : cutKey false (cs ++ first :: (others ++ ['='])) = (cs ++ first :: others, ['=']) := by
    rw [← cutKey_plain chars tail.stops, List.append_assoc]
    rfl
  rw [readLine, cut]
  show (resolve (cs ++ first :: others)).bind _ = _
  rw [resolve_plain fun c mem => ((isPlain_iff c).mp (chars c mem)).2.2]
  rfl

end GridBeans.Properties
