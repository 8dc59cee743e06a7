import GridBeans.Markup.Escape
import GridBeans.Proofs.Xml.Reader

/-!
# Escaped text

Escaping is computed as whole replacements in turn, but it replaces each character on its own by
its entity. Hence decoding gives the text back, an escaped text has none of the characters that are
escaped, and its ampersands are those of entities.
-/
namespace GridBeans.Markup

open GridBeans.Xml

/-- The entity of a character that has one, and any other character itself. -/
def entity (c : Char) : List Char :=
  if c = '&' then "&amp;".toList
  else if c = '"' then "&quot;".toList
  else if c = '<' then "&lt;".toList
  else if c = '>' then "&gt;".toList
  else [c]

/-- The form of one character where some characters are escaped. -/
def escapedForm (escaped : List Char) (c : Char) : List Char :=
  if c ∈ escaped then entity c else [c]

/-- The characters that are escaped in an attribute value. -/
def attributeSpecials : List Char := ['&', '"']

/-- The characters that are escaped in a text. -/
def textSpecials : List Char := ['&', '<', '>']

/-! ## Character by character -/

theorem replaceChar_cons (c : Char) (substitute : List Char) (x : Char) (xs : List Char) :
    replaceChar c substitute (x :: xs) =
      (if x = c then substitute else [x]) ++ replaceChar c substitute xs := by
  simp [replaceChar]

theorem replaceChar_singleton {c x : Char} (different : x ≠ c) (substitute : List Char) :
    replaceChar c substitute [x] = [x] := by
  simp [replaceChar, different]

theorem escapedForm_of_not_mem {escaped : List Char} {c : Char} (outside : c ∉ escaped) :
    escapedForm escaped c = [c] := if_neg outside

theorem escapeAttributeChars_cons (c : Char) (cs : List Char) :
    escapeAttributeChars (c :: cs) =
      escapedForm attributeSpecials c ++ escapeAttributeChars cs := by
  rw [escapeAttributeChars, replaceChar_cons, replaceChar_append]
  congr 1
  by_cases ampersand : c = '&'
  · subst ampersand
    decide
  · by_cases quote : c = '"'
    · subst quote
      decide
    · have outside : c ∉ attributeSpecials := by simp only [attributeSpecials, List.mem_cons,
        ampersand, quote, List.not_mem_nil, or_self, not_false_eq_true]
      rw [if_neg ampersand, replaceChar_singleton quote, escapedForm_of_not_mem outside]

theorem escapeTextChars_cons (c : Char) (cs : List Char) :
    escapeTextChars (c :: cs) = escapedForm textSpecials c ++ escapeTextChars cs := by
  rw [escapeTextChars, replaceChar_cons, replaceChar_append, replaceChar_append]
  congr 1
  by_cases ampersand : c = '&'
  · subst ampersand
    decide
  · by_cases less : c = '<'
    · subst less
      decide
    · by_cases greater : c = '>'
      · subst greater
        decide
      · have outside : c ∉ textSpecials := by simp only [textSpecials, List.mem_cons,
          ampersand, less, greater, List.not_mem_nil, or_self, not_false_eq_true]
        rw [if_neg ampersand, replaceChar_singleton less, replaceChar_singleton greater,
          escapedForm_of_not_mem outside]

/-- Attribute values are escaped character by character, although one character is replaced after
the other. -/
theorem escapeAttributeChars_eq_flatMap (cs : List Char) :
    escapeAttributeChars cs = cs.flatMap (escapedForm attributeSpecials) := by
  induction cs with
  | nil => rfl
  | cons c cs ih => rw [escapeAttributeChars_cons, ih, List.flatMap_cons]

/-- Texts are escaped character by character as well, so the order of the replacements does not
show. -/
theorem escapeTextChars_eq_flatMap (cs : List Char) :
    escapeTextChars cs = cs.flatMap (escapedForm textSpecials) := by
  induction cs with
  | nil => rfl
  | cons c cs ih => rw [escapeTextChars_cons, ih, List.flatMap_cons]

/-! ## What escaping keeps and what it removes -/

def specials : List Char := ['&', '"', '<', '>']

theorem entity_chars {c : Char} (special : c ∈ specials) :
    ∀ d ∈ entity c, d ∈ "&ampquotlg;".toList := by
  simp only [specials, List.mem_cons, List.not_mem_nil, or_false] at special
  rcases special with rfl | rfl | rfl | rfl <;> simp [entity]

theorem entity_of_not_special {c : Char} (plain : c ∉ specials) : entity c = [c] := by
  simp only [specials, List.mem_cons, List.not_mem_nil, or_false, not_or] at plain
  simp [entity, plain]

/-- Decoding leaves a character alone that starts no entity. -/
theorem decode_cons {c : Char} (plain : c ≠ '&') (rest : List Char) :
    decode (c :: rest) = c :: decode rest := by
  rw [decode] <;> intros <;> contradiction

theorem decode_entity {c : Char} (special : c ∈ specials) (rest : List Char) :
    decode (entity c ++ rest) = c :: decode rest := by
  simp only [specials, List.mem_cons, List.not_mem_nil, or_false] at special
  rcases special with rfl | rfl | rfl | rfl <;> rfl

theorem hasOnlyReferences_entity {c : Char} (special : c ∈ specials) (rest : List Char) :
    hasOnlyReferences (entity c ++ rest) = hasOnlyReferences rest := by
  simp only [specials, List.mem_cons, List.not_mem_nil, or_false] at special
  rcases special with rfl | rfl | rfl | rfl <;> rfl

/-- A character that is escaped is written as its entity alone. -/
theorem not_mem_escaped {escaped : List Char} {c : Char} (special : c ∈ ['"', '<', '>'])
    (inside : c ∈ escaped) (cs : List Char) : c ∉ cs.flatMap (escapedForm escaped) := by
  intro mem
  rw [List.mem_flatMap] at mem
  obtain ⟨d, -, form⟩ := mem
  simp only [List.mem_cons, List.not_mem_nil, or_false] at special
  rw [escapedForm] at form
  split at form
  · by_cases dSpecial : d ∈ specials
    · have entityChar := entity_chars dSpecial c form
      rcases special with rfl | rfl | rfl <;> revert entityChar <;> decide
    · rw [entity_of_not_special dSpecial, List.mem_singleton] at form
      subst form
      apply dSpecial
      rcases special with rfl | rfl | rfl <;> decide
  · rename_i outside
    rw [List.mem_singleton] at form
    exact outside (form ▸ inside)

/-- A character that is not escaped stays, so it can be found again in the escaped text. -/
theorem mem_escaped_of_mem {escaped : List Char} {c : Char} (outside : c ∉ escaped)
    {cs : List Char} (mem : c ∈ cs) : c ∈ cs.flatMap (escapedForm escaped) := by
  rw [List.mem_flatMap]
  exact ⟨c, mem, by simp [escapedForm_of_not_mem outside]⟩

section
variable {escaped : List Char} (ampersand : '&' ∈ escaped)
include ampersand

/-- Where ampersands are escaped, a character is written as its entity or starts none. -/
theorem escapedForm_cases (c : Char) :
    (c ∈ specials ∧ escapedForm escaped c = entity c) ∨
      (c ≠ '&' ∧ escapedForm escaped c = [c]) := by
  by_cases inside : c ∈ escaped
  · by_cases special : c ∈ specials
    · exact .inl ⟨special, if_pos inside⟩
    · refine .inr ⟨fun same => special (same ▸ by decide), ?_⟩
      rw [escapedForm, if_pos inside, entity_of_not_special special]
  · exact .inr ⟨fun same => inside (same ▸ ampersand), escapedForm_of_not_mem inside⟩

/-- Decoding gives an escaped text back, provided that the ampersand is among the escaped
characters. -/
theorem decode_escaped (cs : List Char) : decode (cs.flatMap (escapedForm escaped)) = cs := by
  induction cs with
  | nil => rfl
  | cons c cs ih =>
    rw [List.flatMap_cons]
    rcases escapedForm_cases ampersand c with ⟨special, form⟩ | ⟨plain, form⟩
    · rw [form, decode_entity special, ih]
    · rw [form, List.singleton_append, decode_cons plain, ih]

theorem hasOnlyReferences_escaped (cs : List Char) :
    hasOnlyReferences (cs.flatMap (escapedForm escaped)) = true := by
  induction cs with
  | nil => rfl
  | cons c cs ih =>
    rw [List.flatMap_cons]
    rcases escapedForm_cases ampersand c with ⟨special, form⟩ | ⟨plain, form⟩
    · rw [form, hasOnlyReferences_entity special, ih]
    · simp [form, hasOnlyReferences, plain, ih]

/-- The characters of an escaped text are those of entities, and those of the text. -/
theorem mem_escaped {c : Char} {cs : List Char} (mem : c ∈ cs.flatMap (escapedForm escaped)) :
    c ∈ "&ampquotlg;".toList ∨ c ∈ cs := by
  rw [List.mem_flatMap] at mem
  obtain ⟨d, inside, form⟩ := mem
  rcases escapedForm_cases ampersand d with ⟨special, isEntity⟩ | ⟨_, same⟩
  · rw [isEntity] at form
    exact .inl (entity_chars special c form)
  · rw [same, List.mem_singleton] at form
    exact .inr (form ▸ inside)

end

/-! ## Escaped strings -/

/-- What a way of escaping does to strings where some characters are escaped. -/
structure Escapes (escaped : List Char) (escape : String → String) : Prop where
  /-- Each character is written on its own. -/
  eachCharacter : ∀ s, escape s = String.ofList (s.toList.flatMap (escapedForm escaped))
  append : ∀ s t, escape (s ++ t) = escape s ++ escape t
  injective : ∀ s t, escape s = escape t → s = t
  decoded : ∀ s, decode (escape s).toList = s.toList
  /-- Of the characters that are escaped, only ampersands are written at all. -/
  removed : ∀ c ∈ escaped, c ≠ '&' → ∀ s, c ∉ (escape s).toList
  /-- Where an ampersand is written, an entity begins. -/
  ampersands : ∀ s front back, (escape s).toList = front ++ '&' :: back →
    ∃ c ∈ specials, entity c <+: '&' :: back

/-- The ampersand of an entity is its first character and no other. -/
theorem entity_start {c : Char} (special : c ∈ specials) :
    ∃ name, entity c = '&' :: name ∧ '&' ∉ name := by
  simp only [specials, List.mem_cons, List.not_mem_nil, or_false] at special
  rcases special with rfl | rfl | rfl | rfl
  all_goals exact ⟨_, rfl, by decide⟩

/-- Where ampersands are escaped, each of them that is written begins an entity. -/
theorem entity_at_ampersand {escaped : List Char} (ampersand : '&' ∈ escaped) {cs : List Char}
    {front back : List Char} (same : cs.flatMap (escapedForm escaped) = front ++ '&' :: back) :
    ∃ c ∈ specials, entity c <+: '&' :: back := by
  induction cs generalizing front with
  | nil => simp at same
  | cons c cs ih =>
    -- The ampersand stands behind what is written for the first character, or inside it.
    rw [List.flatMap_cons, List.append_eq_append_iff] at same
    rcases same with ⟨between, -, behind⟩ | ⟨inside, form, behind⟩
    · exact ih behind
    · cases inside with
      | nil =>
        have fromHere : cs.flatMap (escapedForm escaped) = [] ++ '&' :: back := behind.symm
        exact ih fromHere
      | cons first rest =>
        obtain ⟨rfl, rfl⟩ := List.cons.inj behind
        rcases escapedForm_cases ampersand c with ⟨special, isEntity⟩ | ⟨plain, itself⟩
        · obtain ⟨name, starts, free⟩ := entity_start special
          have isFirst : front = [] := by
            cases front with
            | nil => rfl
            | cons d front =>
              rw [isEntity, starts, List.cons_append] at form
              exact absurd ((List.cons.inj form).2 ▸ by simp) free
          rw [isFirst, List.nil_append, isEntity] at form
          exact ⟨c, special, form ▸ List.prefix_append ('&' :: rest) _⟩
        · have alone : '&' ∈ [c] := by
            rw [← itself, form]
            simp
          exact absurd (List.mem_singleton.mp alone).symm plain

/-- Escaping that replaces ampersands and other special characters one by one. -/
theorem Escapes.of_eachCharacter {escaped : List Char} {escape : String → String}
    (ampersand : '&' ∈ escaped) (special : ∀ c ∈ escaped, c ∈ specials)
    (each : ∀ s, escape s = String.ofList (s.toList.flatMap (escapedForm escaped))) :
    Escapes escaped escape := by
  have written : ∀ s, (escape s).toList = s.toList.flatMap (escapedForm escaped) := by
    intro s
    rw [each, String.toList_ofList]
  have decoded : ∀ s, decode (escape s).toList = s.toList := by
    intro s
    rw [written, decode_escaped ampersand]
  refine ⟨each, fun s t => ?_, fun s t same => ?_, decoded, fun c inside other s => ?_,
    fun s front back same => ?_⟩
  · rw [each, each, each, String.toList_append, List.flatMap_append, String.ofList_append]
  · apply String.toList_injective
    rw [← decoded s, same, decoded t]
  · have isSpecial := special c inside
    simp only [specials, List.mem_cons, other, false_or] at isSpecial
    rw [written]
    exact not_mem_escaped (by simpa using isSpecial) inside s.toList
  · rw [written] at same
    exact entity_at_ampersand ampersand same

/-- Both ways of escaping, which replace one character after the other in the whole string, treat
each character on its own. -/
theorem escaping_each_character :
    Escapes attributeSpecials escapeAttribute ∧ Escapes textSpecials escapeText :=
  ⟨.of_eachCharacter (by decide) (by simp [attributeSpecials, specials]) fun s => by
      rw [escapeAttribute, escapeAttributeChars_eq_flatMap],
    .of_eachCharacter (by decide) (by simp [textSpecials, specials]) fun s => by
      rw [escapeText, escapeTextChars_eq_flatMap]⟩

/-- Text that looks like an entity is escaped once more, and comes back as it was. -/
example : escapeAttribute "&quot;\"&amp;lt;" = "&amp;quot;&quot;&amp;amp;lt;" := by
  decide

end GridBeans.Markup
