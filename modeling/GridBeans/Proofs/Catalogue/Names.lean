import GridBeans.Catalogue.Classes

/-!
# Names of known classes

A known class goes by a short and by a full name. No full name is a short name too, so a name that
has been resolved stays as it is, and two names stand for the same class exactly if they resolve to
the same full name.
-/
namespace GridBeans.Catalogue

/-- The short names of the Java library classes of the list. -/
def javaShortNames : List String :=
  javaClasses.map KnownClass.short

/-- The full names of the Java library classes of the list. -/
def javaFullNames : List String :=
  javaClasses.map KnownClass.qualified

/-- A name is the short name of a known class, or stands for itself. -/
theorem resolveClassName_cases (name : String) :
    (∃ c ∈ knownClasses, c.short = name ∧ resolveClassName name = c.qualified) ∨
      ((∀ c ∈ knownClasses, c.short ≠ name) ∧ resolveClassName name = name) := by
  unfold resolveClassName
  cases hit : knownClasses.find? fun c => c.short == name with
  | some c =>
    have named : c.short = name := by simpa using List.find?_some hit
    exact .inl ⟨c, List.mem_of_find?_eq_some hit, named, rfl⟩
  | none =>
    refine .inr ⟨fun c mem => ?_, rfl⟩
    simpa using List.find?_eq_none.mp hit c mem

/-- A name that no known class goes by is left as it is, so qualified names pass through unchanged.
-/
theorem resolveClassName_of_not_short {name : String}
    (notShort : ∀ c ∈ knownClasses, c.short ≠ name) : resolveClassName name = name := by
  rcases resolveClassName_cases name with ⟨c, mem, short, -⟩ | ⟨-, same⟩
  · exact absurd short (notShort c mem)
  · exact same

/-- No short name is the qualified name of a known class, the built-in classes and the dialects
taken together. -/
theorem short_ne_qualified :
    ∀ c ∈ knownClasses, ∀ other ∈ knownClasses, other.short ≠ c.qualified := by
  decide

/-- What a name resolves to is the short name of no known class, whether or not it was one itself.
-/
theorem short_ne_resolved (name : String) :
    ∀ c ∈ knownClasses, c.short ≠ resolveClassName name := by
  intro other inList
  rcases resolveClassName_cases name with ⟨c, mem, -, same⟩ | ⟨notShort, same⟩
  · rw [same]
    exact short_ne_qualified c mem other inList
  · rw [same]
    exact notShort other inList

/-- Resolving twice is resolving once, since what a short name stands for is never a short name
itself. -/
@[simp] theorem resolveClassName_resolved (name : String) :
    resolveClassName (resolveClassName name) = resolveClassName name :=
  resolveClassName_of_not_short (short_ne_resolved name)

/-- No short name of a built-in class is left after resolving, whatever the name was. -/
theorem resolved_not_short (name : String) : resolveClassName name ∉ javaShortNames := by
  intro isShort
  obtain ⟨c, mem, short⟩ := List.mem_map.mp isShort
  exact short_ne_resolved name c (List.mem_append_left _ mem) short

/-- A class of the Java library is told by its full name, whichever name is given. -/
theorem isJavaClass_iff (name : String) :
    isJavaClass name = true ↔ resolveClassName name ∈ javaFullNames := by
  have resolves : ∀ c ∈ javaClasses, resolveClassName c.short = c.qualified := by decide
  have onlyJava : ∀ c ∈ knownClasses, c.qualified ∈ javaFullNames →
      isJavaClass c.short = true := by decide
  constructor
  · intro isJava
    obtain ⟨c, mem, either⟩ := List.any_eq_true.mp isJava
    rw [Bool.or_eq_true, beq_iff_eq, beq_iff_eq] at either
    rcases either with rfl | rfl
    · rw [resolves c mem]
      exact List.mem_map_of_mem mem
    · rw [resolveClassName_of_not_short (short_ne_qualified c (List.mem_append_left _ mem))]
      exact List.mem_map_of_mem mem
  · intro full
    rcases resolveClassName_cases name with ⟨c, mem, rfl, same⟩ | ⟨-, same⟩
    · exact onlyJava c mem (same ▸ full)
    · rw [same] at full
      obtain ⟨c, mem, named⟩ := List.mem_map.mp full
      exact List.any_eq_true.mpr ⟨c, mem, by simp [named]⟩

/-- Whether a class is a built-in one does not depend on which of its two names is used. -/
@[simp] theorem isJavaClass_resolved (name : String) :
    isJavaClass (resolveClassName name) = isJavaClass name := by
  rw [Bool.eq_iff_iff, isJavaClass_iff, isJavaClass_iff, resolveClassName_resolved]

end GridBeans.Catalogue
