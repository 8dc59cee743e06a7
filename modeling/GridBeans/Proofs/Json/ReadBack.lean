import GridBeans.Json.Draft
import GridBeans.Proofs.Json.Sorted

/-!
# Values read back

A value that is written with a line for each item and member is read back from its text, if the
members of its objects are in order and it has no numbers. The text is cut into tokens from its
start, and the tokens are read as the value wherever a value may be.
-/
namespace GridBeans.Json

/-! ## Tokens of a text -/

/-- A text starts with tokens, and there is a text behind them. -/
structure Starts (cs : List Char) (tokens : List Token) (after : List Char) : Prop where
  bound : tokens.length + after.length ≤ cs.length
  scan : ∀ count : Nat, scanSome (tokens.length + count) cs = tokens ++ scanSome count after

namespace Starts

variable {cs mid after : List Char} {first second : List Token} {c : Char}

/-- Scanning can be cut: the tokens of a front and of what is behind it are those of the whole. -/
theorem append (one : Starts cs first mid) (two : Starts mid second after) :
    Starts cs (first ++ second) after where
  bound := by
    have front := one.bound
    have back := two.bound
    rw [List.length_append]
    omega
  scan count := by
    rw [List.length_append, Nat.add_assoc, one.scan, two.scan, List.append_assoc]

theorem blank (space : isSpace c = true) (starts : Starts cs first after) :
    Starts (c :: cs) first after where
  bound := by
    have behind := starts.bound
    rw [List.length_cons]
    omega
  scan count := by
    rw [← starts.scan count]
    cases first.length + count with
    | zero => rfl
    | succ n => rw [scanSome, scanSome, List.dropWhile_cons_of_pos space]

theorem blanks {spaces : List Char} (each : ∀ c ∈ spaces, isSpace c = true)
    (starts : Starts cs first after) : Starts (spaces ++ cs) first after := by
  induction spaces with
  | nil => exact starts
  | cons c rest ih =>
    obtain ⟨space, restSpaces⟩ := List.forall_mem_cons.mp each
    exact (ih restSpaces).blank space

/-- A token that is read from the start of a text. -/
theorem token {token : Token} (notSpace : isSpace c = false)
    (read : readToken c cs = (token, after)) (behind : after.length ≤ cs.length) :
    Starts (c :: cs) [token] after where
  bound := by
    rw [List.length_singleton, List.length_cons]
    omega
  scan count := by
    rw [List.length_singleton, Nat.add_comm, scanSome,
      List.dropWhile_cons_of_neg (by simp [notSpace])]
    simp only [read]
    rfl

/-- If a text starts with tokens and nothing is behind them, they are all of its tokens. -/
theorem scan_eq {tokens : List Token} (starts : Starts cs tokens []) : Json.scan cs = tokens := by
  have none : ∀ count, scanSome count [] = [] := by
    intro count
    cases count <;> rfl
  obtain ⟨count, isLength⟩ := Nat.exists_eq_add_of_le starts.bound
  rw [Json.scan, isLength, List.length_nil, Nat.add_zero, starts.scan, none, List.append_nil]

end Starts

/-! ## Strings -/

/-- A character that is written after a backslash. -/
theorem readString_simple {e c : Char} (isCode : e ≠ 'u') (simple : simpleEscape? e = some c)
    (rest : List Char) (parts : List StringPart) :
    readString ('\\' :: e :: rest) parts = readString rest (.char c :: parts) := by
  rw [readString]
  · simp only [simple]
  · rintro _ _ _ _ _ rfl
    exact absurd rfl isCode

/-- A character that is written by its code in hexadecimal. -/
theorem readString_code {n : Nat} (small : n < 32) (rest : List Char) (parts : List StringPart) :
    readString ('\\' :: 'u' :: '0' :: '0' :: hexDigit (n / 16) :: hexDigit (n % 16) :: rest) parts =
      readString rest (.code n :: parts) := by
  have number : ∀ n < 32,
      Text.number? 16 ['0', '0', hexDigit (n / 16), hexDigit (n % 16)] = some n := by decide
  rw [readString, number n small]

/-- A code that is not half of a pair stands for its character. -/
theorem joinParts_code {n : Nat} (small : n < 32) (parts : List StringPart) :
    joinParts (.code n :: parts) = (joinParts parts).map (Char.ofNat n :: ·) := by
  have notHigh : isHighSurrogate n = false := by simp [isHighSurrogate]; omega
  have notLow : isLowSurrogate n = false := by simp [isLowSurrogate]; omega
  match parts with
  | [] => simp [joinParts, notHigh, notLow]
  | .char _ :: _ => simp [joinParts, notHigh, notLow]
  | .code _ :: _ => simp [joinParts, notHigh, notLow]

/-- The characters that are written with a letter or a sign behind a backslash. -/
def lettered : List (Char × Char) :=
  [('"', '"'), ('\\', '\\'), ('\n', 'n'), ('\r', 'r'), ('\t', 't'), (Char.ofNat 8, 'b'),
    (Char.ofNat 12, 'f')]

theorem escapeChar_lettered : ∀ p ∈ lettered,
    escapeChar p.1 = ['\\', p.2] ∧ p.2 ≠ 'u' ∧ simpleEscape? p.2 = some p.1 := by
  decide

/-- A character without a short escape stands for itself, unless it is a control character. -/
theorem escapeChar_of_not_lettered {c : Char} (other : c ∉ lettered.map Prod.fst) :
    c ≠ '"' ∧ c ≠ '\\' ∧ escapeChar c =
      if c.toNat < 32 then
        ['\\', 'u', '0', '0', hexDigit (c.toNat / 16), hexDigit (c.toNat % 16)]
      else [c] := by
  have coded : ∀ n, c ≠ Char.ofNat n → c.toNat ≠ n := by
    rintro _ different rfl
    exact different (Char.ofNat_toNat c).symm
  simp only [lettered, List.map_cons, List.map_nil, List.mem_cons, List.not_mem_nil, or_false,
    not_or] at other
  obtain ⟨notQuote, notBackslash, notNewline, notReturn, notTab, notBackspace, notFeed⟩ := other
  refine ⟨notQuote, notBackslash, ?_⟩
  rw [escapeChar, if_neg notQuote, if_neg notBackslash, if_neg notNewline, if_neg notReturn,
    if_neg notTab, if_neg (coded 8 notBackspace), if_neg (coded 12 notFeed)]

/-- A character is read back from its form inside a string. -/
theorem readString_escapeChar (c : Char) : ∃ part : StringPart,
    (∀ rest parts, readString (escapeChar c ++ rest) parts = readString rest (part :: parts)) ∧
      ∀ parts, joinParts (part :: parts) = (joinParts parts).map (c :: ·) := by
  by_cases isLettered : c ∈ lettered.map Prod.fst
  · obtain ⟨p, mem, rfl⟩ := List.mem_map.mp isLettered
    obtain ⟨form, isCode, simple⟩ := escapeChar_lettered p mem
    rw [form]
    exact ⟨.char p.1, readString_simple isCode simple, fun _ => rfl⟩
  · obtain ⟨notQuote, notBackslash, form⟩ := escapeChar_of_not_lettered isLettered
    rw [form]
    by_cases isControl : c.toNat < 32
    · rw [if_pos isControl]
      refine ⟨.code c.toNat, readString_code isControl, fun parts => ?_⟩
      rw [joinParts_code isControl, Char.ofNat_toNat]
    · rw [if_neg isControl]
      refine ⟨.char c, fun rest parts => ?_, fun _ => rfl⟩
      rw [List.singleton_append, readString, if_neg isControl]
      · exact notQuote
      · exact fun _ _ _ _ _ same => absurd same notBackslash
      · exact fun _ _ same => absurd same notBackslash

/-- An escaped string is read back up to its closing quote, whatever follows. -/
theorem readString_escaped (s rest : List Char) (before : List StringPart) :
    ∃ parts, readString (s.flatMap escapeChar ++ '"' :: rest) before =
        some (before.reverse ++ parts, rest) ∧ joinParts parts = some s := by
  induction s generalizing before with
  | nil => exact ⟨[], by simp [readString], rfl⟩
  | cons c s ih =>
    obtain ⟨part, read, joined⟩ := readString_escapeChar c
    obtain ⟨parts, readRest, joinedRest⟩ := ih (part :: before)
    refine ⟨part :: parts, ?_, ?_⟩
    · rw [List.flatMap_cons, List.append_assoc, read, readRest, List.reverse_cons,
        List.append_assoc]
      rfl
    · rw [joined, joinedRest]
      rfl

theorem starts_quote (s : String) (after : List Char) :
    Starts ((quote s).toList ++ after) [.string (some s)] after := by
  have text : (quote s).toList ++ after =
      '"' :: (s.toList.flatMap escapeChar ++ '"' :: after) := by
    simp [quote]
  obtain ⟨parts, read, joined⟩ := readString_escaped s.toList after []
  rw [text]
  refine .token (by decide) ?_ ?_
  · rw [readToken, read]
    simp [joined]
  · simp only [List.length_append, List.length_cons]
    omega

/-! ## Values of tokens -/

/-- What reading comes to after a step. -/
def Step.resume (tokens : List Token) : Step → Draft
  | .done draft => draft
  | .goOn place frames => Draft.ofTokens place frames tokens

/-- Tokens are read as a value wherever a value may be, and reading goes on behind them. -/
def ReadAs (tokens : List Token) (t : Tree) : Prop :=
  ∀ (place : Place) (frames inner : List Frame) (rest : List Token),
    place.frames? = some inner →
      Draft.ofTokens place frames (tokens ++ rest) =
        (deliver t (!rest.isEmpty) (inner ++ frames)).resume rest

/-- A text is cut into tokens that are read as a value, whatever comes behind it. -/
def Prints (text : String) (t : Tree) : Prop :=
  ∃ tokens, (∀ after, Starts (text.toList ++ after) tokens after) ∧ ReadAs tokens t

/-- Reading tokens is one step with the first and going on with the rest. -/
theorem ofTokens_cons (place : Place) (frames : List Frame) (token : Token) (rest : List Token) :
    Draft.ofTokens place frames (token :: rest) =
      (place.step frames token (!rest.isEmpty)).resume rest := by
  rw [Draft.ofTokens]
  cases place.step frames token (!rest.isEmpty) <;> rfl

section

variable {place : Place} {inner : List Frame}

/-- Where a value may be, a token that does not close a list starts one. -/
theorem step_eq_startValue (allowed : place.frames? = some inner) {token : Token}
    (opens : token ≠ .closeArray) (frames : List Frame) (more : Bool) :
    place.step frames token more = place.startValue frames token more := by
  cases place with
  | top | nextItem | memberValue => cases token <;> rfl
  | firstItem => cases token <;> first | rfl | exact absurd rfl opens
  | afterItem | firstName | nextName | colon | afterMember => cases allowed

theorem ReadAs.leaf {token : Token} {t : Tree} (isLeaf : token.leaf? = some t) :
    ReadAs [token] t := by
  intro place frames inner rest allowed
  have opens : token ≠ .closeArray := by
    rintro rfl
    cases isLeaf
  rw [List.singleton_append, ofTokens_cons, step_eq_startValue allowed opens, Place.startValue,
    allowed]
  simp only [isLeaf]

/-- A list that opens goes on at its first item. -/
theorem ofTokens_openArray (allowed : place.frames? = some inner) (frames : List Frame)
    (rest : List Token) :
    Draft.ofTokens place frames (.openArray :: rest) =
      Draft.ofTokens .firstItem (inner ++ frames) rest := by
  rw [ofTokens_cons, step_eq_startValue allowed (by decide), Place.startValue, allowed]
  rfl

/-- An object that opens goes on at its first name. -/
theorem ofTokens_openObject (allowed : place.frames? = some inner) (frames : List Frame)
    (rest : List Token) :
    Draft.ofTokens place frames (.openObject :: rest) =
      Draft.ofTokens .firstName (inner ++ frames) rest := by
  rw [ofTokens_cons, step_eq_startValue allowed (by decide), Place.startValue, allowed]
  rfl

end

/-! ## Items and members -/

/-- Texts of items behind others are read as these items, until their list ends. -/
def PrintsItems (text : String) (items : List Tree) : Prop :=
  ∃ tokens, (∀ after, Starts (text.toList ++ after) tokens after) ∧
    ∀ (frames : List Frame) (before : List Tree) (rest : List Token),
      Draft.ofTokens (.afterItem before) frames (tokens ++ rest) =
        Draft.ofTokens (.afterItem (items.reverse ++ before)) frames rest

def PrintsMembers (text : String) (members : List (Option String × Tree)) : Prop :=
  ∃ tokens, (∀ after, Starts (text.toList ++ after) tokens after) ∧
    ∀ (frames : List Frame) (before : List (Option String × Tree)) (rest : List Token),
      Draft.ofTokens (.afterMember before) frames (tokens ++ rest) =
        Draft.ofTokens (.afterMember (members.reverse ++ before)) frames rest

theorem isSpace_lineBreak (level : Nat) : ∀ c ∈ (lineBreak level).toList, isSpace c = true := by
  intro c mem
  simp only [lineBreak, String.toList_append, String.toList_ofList, List.mem_append,
    List.mem_replicate] at mem
  rcases mem with newline | ⟨-, rfl⟩
  · obtain rfl : c = '\n' := by simpa using newline
    decide
  · decide

/-- A sign of its own is a token. -/
theorem starts_sign {c : Char} {token : Token} (notSpace : isSpace c = false)
    (read : ∀ rest, readToken c rest = (token, rest)) (after : List Char) :
    Starts (c :: after) [token] after :=
  .token notSpace (read after) (Nat.le_refl _)

/-- If each item is printed readably, so are the items with commas between them. -/
theorem prints_items {level : Nat} {items : List Value}
    (each : ∀ v ∈ items, Prints (v.pretty level) v.tree) :
    PrintsItems (prettyItems level items) (treeItems items) := by
  induction items with
  | nil =>
    refine ⟨[], fun after => ?_, fun _ _ _ => rfl⟩
    exact ⟨by simp [prettyItems], fun _ => by simp [prettyItems]⟩
  | cons v rest ih =>
    obtain ⟨first, restPrint⟩ := List.forall_mem_cons.mp each
    obtain ⟨item, itemStarts, itemRead⟩ := first
    obtain ⟨others, othersStart, othersRead⟩ := ih restPrint
    refine ⟨.comma :: (item ++ others), fun after => ?_, fun frames before tail => ?_⟩
    · have text : (prettyItems level (v :: rest)).toList ++ after = ',' ::
          ((lineBreak level).toList ++
            ((v.pretty level).toList ++ ((prettyItems level rest).toList ++ after))) := by
        simp [prettyItems]
      have behind := ((itemStarts _).append (othersStart after)).blanks (isSpace_lineBreak level)
      rw [text]
      exact (starts_sign (by decide) (fun _ => rfl) _).append behind
    · have comma : Draft.ofTokens (.afterItem before) frames
          (.comma :: (item ++ (others ++ tail))) =
            Draft.ofTokens (.nextItem before) frames (item ++ (others ++ tail)) := by
        rw [ofTokens_cons]
        rfl
      rw [List.cons_append, List.append_assoc, comma, itemRead _ _ _ _ rfl]
      show Draft.ofTokens (.afterItem (v.tree :: before)) frames (others ++ tail) = _
      rw [othersRead, treeItems, List.reverse_cons, List.append_assoc]
      rfl

/-- A name and its value are read from a place for a name, and the member is added. -/
theorem prints_member {level : Nat} {v : Value} (value : Prints (v.pretty level) v.tree)
    (name : String) :
    ∃ tokens, (∀ after, Starts
        ((quote name).toList ++ (':' :: ' ' :: ((v.pretty level).toList ++ after))) tokens after) ∧
      ∀ (place : Place) (frames : List Frame) (before : List (Option String × Tree))
        (rest : List Token), (place = .firstName ∧ before = [] ∨ place = .nextName before) →
          Draft.ofTokens place frames (tokens ++ rest) =
            Draft.ofTokens (.afterMember ((some name, v.tree) :: before)) frames rest := by
  obtain ⟨tokens, starts, read⟩ := value
  refine ⟨.string (some name) :: .colon :: tokens, fun after => ?_,
    fun place frames before rest allowed => ?_⟩
  · have behind := (starts after).blank (c := ' ') rfl
    have colon := (starts_sign (c := ':') rfl (fun _ => rfl) _).append behind
    exact (starts_quote name _).append colon
  · have named : Draft.ofTokens place frames
        (.string (some name) :: .colon :: (tokens ++ rest)) =
          Draft.ofTokens (.memberValue before (some name)) frames (tokens ++ rest) := by
      rw [ofTokens_cons]
      rcases allowed with ⟨rfl, rfl⟩ | rfl
      · rfl
      · rfl
    rw [List.cons_append, List.cons_append, named, read _ _ _ _ rfl]
    rfl

theorem prints_members {level : Nat} {members : List (String × Value)}
    (each : ∀ m ∈ members, Prints (m.2.pretty level) m.2.tree) :
    PrintsMembers (prettyMembers level members) (treeMembers members) := by
  induction members with
  | nil =>
    refine ⟨[], fun after => ?_, fun _ _ _ => rfl⟩
    exact ⟨by simp [prettyMembers], fun _ => by simp [prettyMembers]⟩
  | cons m rest ih =>
    obtain ⟨name, v⟩ := m
    obtain ⟨first, restPrint⟩ := List.forall_mem_cons.mp each
    obtain ⟨member, memberStarts, memberRead⟩ := prints_member first name
    obtain ⟨others, othersStart, othersRead⟩ := ih restPrint
    refine ⟨.comma :: (member ++ others), fun after => ?_, fun frames before tail => ?_⟩
    · have text : (prettyMembers level ((name, v) :: rest)).toList ++ after = ',' ::
          ((lineBreak level).toList ++ ((quote name).toList ++ (':' :: ' ' ::
            ((v.pretty level).toList ++ ((prettyMembers level rest).toList ++ after))))) := by
        simp [prettyMembers]
      have behind := ((memberStarts _).append (othersStart after)).blanks (isSpace_lineBreak level)
      rw [text]
      exact (starts_sign (by decide) (fun _ => rfl) _).append behind
    · have comma : Draft.ofTokens (.afterMember before) frames
          (.comma :: (member ++ (others ++ tail))) =
            Draft.ofTokens (.nextName before) frames (member ++ (others ++ tail)) := by
        rw [ofTokens_cons]
        rfl
      rw [List.cons_append, List.append_assoc, comma, memberRead _ _ _ _ (.inr rfl), othersRead,
        treeMembers, List.reverse_cons, List.append_assoc]
      rfl

theorem prints_array {level : Nat} {items : List Value}
    (each : ∀ v ∈ items, Prints (v.pretty (level + 1)) v.tree) :
    Prints ((Value.array items).pretty level) (Value.array items).tree := by
  cases items with
  | nil =>
    refine ⟨[.openArray, .closeArray], fun after => ?_, fun place frames inner rest allowed => ?_⟩
    · have text : ((Value.array []).pretty level).toList ++ after = '[' :: ']' :: after := by
        simp [Value.pretty]
      rw [text]
      exact (starts_sign rfl (fun _ => rfl) _).append (starts_sign rfl (fun _ => rfl) after)
    · rw [List.cons_append, ofTokens_openArray allowed, List.singleton_append, ofTokens_cons]
      rfl
  | cons v rest =>
    obtain ⟨first, restPrint⟩ := List.forall_mem_cons.mp each
    obtain ⟨item, itemStarts, itemRead⟩ := first
    obtain ⟨others, othersStart, othersRead⟩ := prints_items restPrint
    refine ⟨.openArray :: (item ++ (others ++ [.closeArray])), fun after => ?_,
      fun place frames inner tail allowed => ?_⟩
    · have text : ((Value.array (v :: rest)).pretty level).toList ++ after = '[' ::
          ((lineBreak (level + 1)).toList ++ ((v.pretty (level + 1)).toList ++
            ((prettyItems (level + 1) rest).toList ++ ((lineBreak level).toList ++
              (']' :: after))))) := by
        simp [Value.pretty]
      have close := (starts_sign (c := ']') rfl (fun _ => rfl) after).blanks
        (isSpace_lineBreak level)
      have inside := (itemStarts _).append ((othersStart _).append close)
      rw [text]
      exact (starts_sign (by decide) (fun _ => rfl) _).append
        (inside.blanks (isSpace_lineBreak (level + 1)))
    · rw [List.cons_append, List.append_assoc, List.append_assoc, ofTokens_openArray allowed,
        itemRead _ _ _ _ rfl]
      show Draft.ofTokens (.afterItem [v.tree]) (inner ++ frames)
        (others ++ (.closeArray :: tail)) = _
      rw [othersRead, ofTokens_cons]
      show (deliver (.array ((treeItems rest).reverse ++ [v.tree]).reverse true)
        _ _).resume tail = _
      rw [List.reverse_append, List.reverse_reverse]
      rfl

theorem prints_object {level : Nat} {members : List (String × Value)}
    (each : ∀ m ∈ members, Prints (m.2.pretty (level + 1)) m.2.tree) :
    Prints ((Value.object members).pretty level) (Value.object members).tree := by
  cases members with
  | nil =>
    refine ⟨[.openObject, .closeObject], fun after => ?_, fun place frames inner rest allowed => ?_⟩
    · have text : ((Value.object []).pretty level).toList ++ after = '\x7b' :: '\x7d' :: after := by
        simp [Value.pretty]
      rw [text]
      exact (starts_sign rfl (fun _ => rfl) _).append (starts_sign rfl (fun _ => rfl) after)
    · rw [List.cons_append, ofTokens_openObject allowed, List.singleton_append, ofTokens_cons]
      rfl
  | cons m rest =>
    obtain ⟨name, v⟩ := m
    obtain ⟨first, restPrint⟩ := List.forall_mem_cons.mp each
    obtain ⟨member, memberStarts, memberRead⟩ := prints_member first name
    obtain ⟨others, othersStart, othersRead⟩ := prints_members restPrint
    refine ⟨.openObject :: (member ++ (others ++ [.closeObject])), fun after => ?_,
      fun place frames inner tail allowed => ?_⟩
    · have text : ((Value.object ((name, v) :: rest)).pretty level).toList ++ after = '\x7b' ::
          ((lineBreak (level + 1)).toList ++ ((quote name).toList ++ (':' :: ' ' ::
            ((v.pretty (level + 1)).toList ++ ((prettyMembers (level + 1) rest).toList ++
              ((lineBreak level).toList ++ ('\x7d' :: after))))))) := by
        simp [Value.pretty]
      have close := (starts_sign (c := '\x7d') rfl (fun _ => rfl) after).blanks
        (isSpace_lineBreak level)
      have inside := (memberStarts _).append ((othersStart _).append close)
      rw [text]
      exact (starts_sign (by decide) (fun _ => rfl) _).append
        (inside.blanks (isSpace_lineBreak (level + 1)))
    · rw [List.cons_append, List.append_assoc, List.append_assoc, ofTokens_openObject allowed,
        memberRead _ _ _ _ (.inl ⟨rfl, rfl⟩)]
      show Draft.ofTokens (.afterMember [(some name, v.tree)]) (inner ++ frames)
        (others ++ (.closeObject :: tail)) = _
      rw [othersRead, ofTokens_cons]
      show (deliver (.object ((treeMembers rest).reverse ++ [(some name, v.tree)]).reverse true)
        _ _).resume tail = _
      rw [List.reverse_append, List.reverse_reverse]
      rfl

/-! ## Values -/

/-- A value without numbers in which the members of every object are in order. -/
inductive Settled : Value → Prop
  | null : Settled .null
  | bool (value : Bool) : Settled (.bool value)
  | string (text : String) : Settled (.string text)
  | array {items : List Value} : (∀ v ∈ items, Settled v) → Settled (.array items)
  | object {members : List (String × Value)} : Ascending members →
      (∀ m ∈ members, Settled m.2) → Settled (.object members)

/-- A settled value is printed as tokens that are read as its tree, at every level of indentation.
-/
theorem Settled.prints {v : Value} (settled : Settled v) (level : Nat) :
    Prints (v.pretty level) v.tree := by
  induction settled generalizing level with
  | null =>
    refine ⟨[.null], fun after => ?_, .leaf rfl⟩
    have text : (Value.null.pretty level).toList ++ after = 'n' :: 'u' :: 'l' :: 'l' :: after := by
      simp [Value.pretty]
    rw [text]
    exact .token rfl rfl (Nat.le_add_right after.length 3)
  | bool value =>
    refine ⟨[.bool value], fun after => ?_, .leaf rfl⟩
    have text : ((Value.bool value).pretty level).toList ++ after =
        (if value then ['t', 'r', 'u', 'e'] else ['f', 'a', 'l', 's', 'e']) ++ after := by
      cases value <;> simp [Value.pretty]
    rw [text]
    cases value with
    | true => exact .token rfl rfl (Nat.le_add_right after.length 3)
    | false => exact .token rfl rfl (Nat.le_add_right after.length 4)
  | string text => exact ⟨[.string (some text)], starts_quote text, .leaf rfl⟩
  | array _ ih => exact prints_array fun v mem => ih v mem (level + 1)
  | object _ _ ih => exact prints_object fun m mem => ih m mem (level + 1)

/-- The tree of a value stands for this value. -/
theorem Settled.value?_tree {v : Value} (settled : Settled v) : v.tree.value? = some v := by
  induction settled with
  | null | bool | string => rfl
  | @array items _ ih =>
    have each : valueItems? (treeItems items) = some items := by
      clear * - ih
      induction items with
      | nil => rfl
      | cons v rest ihRest =>
        obtain ⟨first, others⟩ := List.forall_mem_cons.mp ih
        rw [treeItems, valueItems?, first, ihRest others]
        rfl
    rw [Value.tree, Tree.value?, if_pos rfl, each]
    rfl
  | @object members ascending _ ih =>
    have each : valueMembers? (treeMembers members) = some members := by
      clear * - ih
      induction members with
      | nil => rfl
      | cons m rest ihRest =>
        obtain ⟨first, others⟩ := List.forall_mem_cons.mp ih
        rw [treeMembers, valueMembers?, first, ihRest others]
        rfl
    rw [Value.tree, Tree.value?, if_pos rfl, each, Option.map_some,
      sortMembers_of_ascending ascending]

/-- A settled value is read back from its printed text, with nothing behind it. -/
theorem Settled.ofText?_pretty {v : Value} (settled : Settled v) (level : Nat) :
    Value.ofText? (v.pretty level) = some v := by
  obtain ⟨tokens, starts, read⟩ := settled.prints level
  have all := starts []
  rw [List.append_nil] at all
  have draft : Draft.ofText (v.pretty level) = ⟨v.tree, false⟩ := by
    rw [Draft.ofText, all.scan_eq, ← List.append_nil tokens, read .top [] [] [] rfl]
    rfl
  rw [Value.ofText?, draft]
  exact settled.value?_tree

/-- An object with settled values is settled once its members are sorted. -/
theorem Settled.sorted {members : List (String × Value)} (each : ∀ m ∈ members, Settled m.2) :
    Settled (.object (sortMembers members)) :=
  .object (ascending_sortMembers members) fun m mem => each m (mem_of_mem_sortMembers mem)

end GridBeans.Json
