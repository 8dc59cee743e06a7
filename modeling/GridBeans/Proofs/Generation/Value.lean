import GridBeans.Generation.Property
import GridBeans.Proofs.Config.Texts

/-!
# Written values

Numbers, switches and names of classes as they are written. Digits, signs and the names of the
catalogue are plain, so only texts of the description bring characters that are not.
-/
namespace GridBeans.Generation

open GridBeans.Markup GridBeans.Config GridBeans.Catalogue

variable {P : Char → Prop}

/-! ## Numbers -/

theorem plain_digits (n : Nat) : ∀ c ∈ Nat.toDigits 10 n, isPlainChar c = true := by
  intro c mem
  have digit : c.isDigit = true := Nat.isDigit_of_mem_toDigits (by decide) (by decide) mem
  simp [isPlainChar, Char.isAlphanum, digit]

theorem plain_natural (n : Nat) : Plain (toString n) := by
  have digits : (toString n).toList = Nat.toDigits 10 n := by
    rw [Nat.toString_eq_repr, Nat.repr_eq_ofList_toDigits, String.toList_ofList]
  intro c mem
  rw [digits] at mem
  exact plain_digits n c mem

/-- An integer is written with digits and perhaps a sign, none of which is ever escaped. -/
theorem plain_integer (i : Int) : Plain (toString i) := by
  cases i with
  | ofNat n => exact plain_natural n
  | negSucc n =>
    have split : toString (Int.negSucc n) = "-" ++ toString (n + 1) := rfl
    rw [split]
    exact plain_append.mpr ⟨plain_literal rfl, plain_natural (n + 1)⟩

theorem plain_positionalText {digits : List Char} (plain : ∀ c ∈ digits, isPlainChar c = true)
    (point : Int) (keepFraction : Bool) :
    Plain (Decimal.positionalText digits point keepFraction) := by
  have zeros : ∀ n, ∀ c ∈ List.replicate n '0', isPlainChar c = true := by
    intro n c mem
    rw [List.eq_of_mem_replicate mem]
    decide
  unfold Decimal.positionalText
  split
  · refine plain_append.mpr ⟨plain_literal rfl, plain_ofList.mpr fun c mem => ?_⟩
    rcases List.mem_append.mp mem with padding | digit
    · exact zeros _ c padding
    · exact plain c digit
  · refine plain_append.mpr ⟨plain_ofList.mpr fun c mem => ?_, ?_⟩
    · rcases List.mem_append.mp mem with digit | padding
      · exact plain c (List.mem_of_mem_take digit)
      · exact zeros _ c padding
    · split
      · cases keepFraction <;> exact plain_literal rfl
      · refine plain_append.mpr ⟨plain_literal rfl, plain_ofList.mpr fun c mem => ?_⟩
        exact plain c (List.mem_of_mem_drop mem)

theorem plain_exponentText {digits : List Char} (plain : ∀ c ∈ digits, isPlainChar c = true)
    (exponent : Int) : Plain (Decimal.exponentText digits exponent) := by
  have first : Plain (String.ofList (digits.take 1)) :=
    plain_ofList.mpr fun c mem => plain c (List.mem_of_mem_take mem)
  have rest : Plain (String.ofList (digits.drop 1)) :=
    plain_ofList.mpr fun c mem => plain c (List.mem_of_mem_drop mem)
  unfold Decimal.exponentText
  refine plain_append.mpr ⟨plain_append.mpr ⟨plain_append.mpr ⟨plain_append.mpr ⟨first, ?_⟩,
    plain_literal rfl⟩, ?_⟩, plain_natural _⟩
  · split
    · exact plain_literal rfl
    · exact plain_append.mpr ⟨plain_literal rfl, rest⟩
  · split <;> exact plain_literal rfl

/-- A double is written with plain characters in any layout whose special words are plain. -/
theorem plain_layout (layout : Decimal.Layout) (nan : Plain layout.nanText)
    (infinity : Plain layout.infinityText) (d : Decimal.Double) : Plain (layout.write d) := by
  have sign : ∀ negative : Bool, Plain (if negative then "-" else "") := by
    intro negative
    cases negative <;> exact plain_literal rfl
  cases d with
  | nan => exact nan
  | infinite negative => exact plain_append.mpr ⟨sign negative, infinity⟩
  | finite negative mantissa exponent =>
    rw [Decimal.Layout.write]
    split
    · have zero : ∀ c ∈ ['0'], isPlainChar c = true := List.forall_mem_singleton.mpr rfl
      exact plain_append.mpr ⟨sign negative, plain_positionalText zero _ _⟩
    · -- The digits are kept as a variable, so that no one computes them.
      generalize Decimal.shortest layout.tie mantissa exponent = found
      obtain ⟨digits, power⟩ := found
      refine plain_append.mpr ⟨sign negative, ?_⟩
      have either : ∀ (b : Bool) (point power : Int),
          Plain (if b then Decimal.positionalText (Nat.toDigits 10 digits) point layout.keepFraction
            else Decimal.exponentText (Nat.toDigits 10 digits) power) := by
        intro b point power
        cases b
        · exact plain_exponentText (plain_digits digits) power
        · exact plain_positionalText (plain_digits digits) point layout.keepFraction
      exact either _ _ _

theorem plain_number (n : Json.Number) : Plain n.render := by
  cases n with
  | integer i => exact plain_integer i
  | double d => exact plain_layout Json.layout (plain_literal rfl) (plain_literal rfl) d

/-! ## Values of properties -/

/-- A type whose values are written as their texts, if they hold any. -/
class WritesTexts (α : Type) [PropertyValue α] [HasTexts α] : Prop where
  proper : ∀ {P : Char → Prop} (a : α), Spelled P a → (PropertyValue.attributeValue a).Proper P

instance : WritesTexts String := ⟨fun text spelled => (spelled_text text).mp spelled⟩

instance : WritesTexts Bool where
  proper b _ := by
    cases b <;> exact plain_literal rfl

instance : WritesTexts CacheMode where
  proper mode _ := by
    cases mode <;> exact plain_literal rfl

/-! ## Names of classes -/

theorem plain_knownClass : ∀ c ∈ knownClasses, Plain c.qualified := by
  simp only [knownClasses, javaClasses, dialects, List.map_cons, List.map_nil, List.cons_append,
    List.nil_append, List.forall_mem_cons]
  repeat' apply And.intro
  all_goals first | exact plain_literal rfl | exact List.forall_mem_nil _

theorem plain_dataSourceClass {dialect className : String}
    (found : dataSourceClass? dialect = some className) : Plain className := by
  have all : ∀ d ∈ dialects, Plain d.dataSource := by
    simp only [dialects, List.forall_mem_cons]
    repeat' apply And.intro
    all_goals first | exact plain_literal rfl | exact List.forall_mem_nil _
  rw [dataSourceClass?, Option.map_eq_some_iff] at found
  obtain ⟨d, hit, rfl⟩ := found
  exact all d (List.mem_of_find?_eq_some hit)

/-- The full name of a class is one of the catalogue or the name itself. -/
theorem over_resolveClassName [AdmitsPlain P] {name : String} (admitted : Over P name) :
    Over P (resolveClassName name) := by
  rw [resolveClassName]
  split
  · rename_i c hit
    exact (plain_knownClass c (List.mem_of_find?_eq_some hit)).over
  · exact admitted

end GridBeans.Generation
