import GridBeans.Proofs.Generation.Presence

/-!
# All or nothing

The parts of a document that can fail look up everything they need before they write anything, so
one that fails leaves the sheet as it was, with a blank line still due if one was. An optional slot
says by its result what it did: either nothing, or it has written the property of the slot around a
bean of the chosen class.
-/
namespace GridBeans.Generation

open GridBeans.Xml GridBeans.Markup GridBeans.Config GridBeans.Json

namespace Script

variable {α β κ : Type}

/-! ## Scripts that fail first -/

/-- Where the script fails, the sheet is as it was. -/
def AllOrNothing (x : Script α) : Prop :=
  ∀ (sheet : Sheet) (e : Failure), x.outcome = .error e → x.runOn sheet = sheet

/-- A script that does not fail has nothing to take back. -/
theorem AllOrNothing.of_succeeds {x : Script α} (succeeds : x.failure? = none) :
    x.AllOrNothing := by
  intro sheet e failed
  rw [outcome_eq_error_iff, succeeds] at failed
  cases failed

/-- A script that looks something up and then cannot fail is all or nothing. -/
theorem AllOrNothing.lookup (found : Except Failure α) {f : α → Script β}
    (succeeds : ∀ a, (f a).failure? = none) : (ofExcept found >>= f).AllOrNothing := by
  cases found with
  | error e => exact fun sheet _ _ => runOn_ofExcept (.error e : Except Failure β) sheet
  | ok a => exact .of_succeeds (succeeds a)

/-! ## Optional slots -/

/-- A slot whose bean has the class that is chosen, if any: its result says whether one is, and the
sheet is as it was unless the result is that one is. Then the property of the slot is written around
a bean of that class, no block is left open and no blank line is due. -/
structure FillsSlot (x : Script Bool) (name : String) (className : Option String) : Prop where
  failed : x.AllOrNothing
  flag : ∀ written, x.outcome = .ok written → written = className.isSome
  left : ∀ sheet : Sheet, x.outcome = .ok false → x.runOn sheet = sheet
  filled : ∀ sheet : Sheet, x.outcome = .ok true → ∃ chosen ∈ className, ∃ added children,
    (x.runOn sheet).lines = sheet.lines ++ added ∧ WholeLines added ∧
      nodesOf added = [.element "property" [("name", name)]
        [.element "bean" [("class", chosen)] children]] ∧
      (x.runOn sheet).cursor = ⟨sheet.cursor.depth, false, false⟩

/-- A slot in which nothing is chosen leaves the sheet as it is and says so. -/
theorem FillsSlot.nothing (name : String) : (pure false : Script Bool).FillsSlot name none where
  failed := .of_succeeds rfl
  flag written result := (Except.ok.inj result).symm
  left sheet _ := runOn_ofExcept (.ok false) sheet
  filled _ result := absurd (Except.ok.inj result) (by decide)

/-- A slot that fails at once leaves the sheet as it is, whatever was to be written. -/
theorem FillsSlot.fail (name : String) (e : Failure) :
    (Script.fail e : Script Bool).FillsSlot name none where
  failed sheet _ _ := runOn_ofExcept (.error e : Except Failure Bool) sheet
  flag _ result := nomatch result
  left _ result := nomatch result
  filled _ result := nomatch result

end Script

open Script

/-- A forced bean of a shape is the property around a bean of the class of the shape. -/
theorem shapedLines_forced (name : String) (shape : BeanShape) (members : List (String × Value)) :
    WholeLines (shapedLines name shape members true) ∧
      ∃ children, nodesOf (shapedLines name shape members true) =
        [.element "property" [("name", name)]
          [.element "bean" [("class", shape.className)] children]] := by
  by_cases counts : shape.fields.any (·.hasValue members) = true
  · have fields := (fieldsLines_lists shape.fields members).whole
    obtain ⟨children, nodes, -⟩ := shapedLines_written name shape members true counts
    refine ⟨?_, children, nodes⟩
    rw [shapedLines, if_pos counts]
    exact (fields.element _ _).element _ _
  · have bean : WholeLines (bareBean shape.className) := Whole.emptyTag _ _
    rw [shapedLines, if_neg counts, if_pos rfl]
    exact ⟨bean.element _ _, [], rfl⟩

/-- A bean of a shape fills its slot with the class of the shape. -/
theorem fillsSlot_shapedBean (name : String) (shape : BeanShape)
    (members : List (String × Value)) :
    (do shapedBean name shape members true; pure true : Script Bool).FillsSlot name
      (some shape.className) := by
  have succeeds : (do shapedBean name shape members true; pure true : Script Bool).failure? =
      none := by simp
  have flag : ∀ written,
      (do shapedBean name shape members true; pure true : Script Bool).outcome = .ok written →
        written = true := by
    intro written result
    obtain ⟨u, done⟩ := (shapedBean name shape members true).exists_outcome_ok_iff.mpr
      (failure?_shapedBean name shape members true)
    rw [outcome_bind, done] at result
    exact (Except.ok.inj result).symm
  refine ⟨.of_succeeds succeeds, flag, fun _ left => absurd (flag false left) (by decide),
    fun sheet _ => ?_⟩
  obtain ⟨whole, children, nodes⟩ := shapedLines_forced name shape members
  have filled : shapedLines name shape members true ≠ [] := by
    intro none
    rw [none] at nodes
    cases nodes
  have pieces := filterMap_piece?_added sheet.cursor (shapedLines name shape members true)
  rw [(settingsBean_opens name shape members true).runOn_eq succeeds sheet]
  refine ⟨shape.className, rfl, _, children, rfl, ?_, ?_, Cursor.behind_of_ne_nil _ filled⟩
  · rw [WholeLines, pieces]
    exact whole
  · rw [nodesOf, pieces]
    exact nodes

/-! ## Slots with a kind -/

/-- The class of the chosen kind, if one is chosen that is known. -/
def chosenClass {κ : Type} (kind : Option String) (ofName : String → Except Failure κ)
    (className : κ → String) : Option String :=
  (Text.nonEmpty? kind).bind fun name => (ofName name).toOption.map className

/-- A slot whose kind is looked up before its bean is written. -/
theorem fillsSlot_choice {κ : Type} {name : String} (kind : Option String)
    (ofName : String → Except Failure κ) {f : κ → Script Bool} {className : κ → String}
    (each : ∀ k, (f k).FillsSlot name (some (className k))) :
    (match Text.nonEmpty? kind with
      | none => pure false
      | some chosen => Script.ofExcept (ofName chosen) >>= f : Script Bool).FillsSlot name
        (chosenClass kind ofName className) := by
  unfold chosenClass
  cases Text.nonEmpty? kind with
  | none => exact .nothing name
  | some chosen =>
    show (Script.ofExcept (ofName chosen) >>= f).FillsSlot name
      ((ofName chosen).toOption.map className)
    cases ofName chosen with
    | error e => exact .fail name e
    | ok k => exact each k

/-- An eviction policy is written under the class of its kind, or the sheet stays as it is. -/
theorem evictionPolicy_fillsSlot (policy : Option EvictionPolicyConfig) (propertyName : String) :
    (evictionPolicy policy propertyName).FillsSlot propertyName (policy.bind fun p =>
      chosenClass p.kind EvictionKind.ofName fun k => k.shape.className) := by
  cases policy with
  | none => exact .nothing propertyName
  | some p =>
    exact fillsSlot_choice p.kind EvictionKind.ofName fun k => fillsSlot_shapedBean _ _ _

/-- A marshaller is written under the class of its kind, or the sheet stays as it is; its section
may be missing. -/
theorem marshaller_fillsSlot (config : Option MarshallerConfig) :
    (marshaller config).FillsSlot "marshaller" (config.bind fun m =>
      chosenClass m.kind MarshallerKind.ofName fun k => k.shape.className) := by
  cases config with
  | none => exact .nothing "marshaller"
  | some m =>
    exact fillsSlot_choice m.kind MarshallerKind.ofName fun k => fillsSlot_shapedBean _ _ _

/-- There is one kind of swap space; any other name that is not empty fails ahead of the first line.
-/
theorem swapSpace_fillsSlot (config : Option SwapSpaceSpiConfig) :
    (swapSpace config).FillsSlot "swapSpaceSpi" (config.bind fun s =>
      if s.kind = some fileSwapSpaceKind then some BeanShape.fileSwapSpaceSpi.className
      else none) := by
  cases config with
  | none => exact .nothing "swapSpaceSpi"
  | some s =>
    rw [swapSpace, Option.bind_some]
    rcases nonEmpty?_cases .swapSpace [] s.kind with
      ⟨skipped, -, given⟩ | ⟨kind, given, chosen, -, -⟩
    · have other : s.kind ≠ some fileSwapSpaceKind := by
        rcases given with given | given
        · simp [given]
        · rw [given]
          decide
      rw [skipped, if_neg other]
      exact .nothing "swapSpaceSpi"
    · rw [chosen, given]
      by_cases isFile : kind = fileSwapSpaceKind
      · simp only [isFile, if_true]
        exact fillsSlot_shapedBean _ _ _
      · simp only [isFile, if_false, Option.some.injEq]
        exact .fail "swapSpaceSpi" _

/-! ## Beans from serialised values -/

/-- The bean of a value whose members are made by a serialiser, which may fail. A value that is not
made into an object has no members. -/
def serialisedBean {α : Type} (serialise : α → Except Failure Value) (bean : Option α)
    (name : String) (shape : BeanShape) (force : Bool) : Script Unit := do
  let members ← Script.ofExcept <|
    match bean with
    | none => .ok []
    | some a => (serialise a).map fun
      | .object members => members
      | _ => []
  shapedBean name shape members force

/-- The parts that can fail leave the sheet as it was if they do, also the bean of a value that
cannot be serialised, which none of the described ones is. An optional slot fills the sheet with the
property of the chosen class, or leaves it as it was. -/
theorem parts_all_or_nothing :
    (∀ d, (discovery d).AllOrNothing) ∧
      (∀ names, (eventTypes names).AllOrNothing) ∧
      (∀ {α : Type} (serialise : α → Except Failure Value) bean name shape force,
        (serialisedBean serialise bean name shape force).AllOrNothing) ∧
      (∀ {α : Type} [HasMembers α] (bean : Option α) name shape force,
        serialisedBean (fun a => .ok (.object (HasMembers.members a))) bean name shape force =
          shapedBean name shape (membersOf bean) force) ∧
      (∀ policy propertyName, (evictionPolicy policy propertyName).FillsSlot propertyName
        (policy.bind fun p => chosenClass p.kind EvictionKind.ofName fun k => k.shape.className)) ∧
      (∀ config, (marshaller config).FillsSlot "marshaller"
        (config.bind fun m =>
          chosenClass m.kind MarshallerKind.ofName fun k => k.shape.className)) ∧
      ∀ config, (swapSpace config).FillsSlot "swapSpaceSpi"
        (config.bind fun s =>
          if s.kind = some fileSwapSpaceKind then some BeanShape.fileSwapSpaceSpi.className
          else none) := by
  refine ⟨fun d => ?_, fun names => ?_, fun _ _ _ _ _ => ?_, fun bean _ _ _ => ?_,
    evictionPolicy_fillsSlot, marshaller_fillsSlot, swapSpace_fillsSlot⟩
  · exact .lookup _ fun finder => by simp
  · rw [eventTypes]
    split
    · exact .of_succeeds rfl
    · refine .lookup _ fun groups => ?_
      simp only [failure?_next, failure?_sectionStart, failure?_propertyBlock,
        failure?_requestBlank, Option.none_or, Option.or_none]
      split
      · rfl
      · simp
  · exact .lookup _ fun members => failure?_shapedBean _ _ members _
  · cases bean with
    | none => rfl
    | some a => rfl

-- The last of several groups is not known, and the blank line that was due stays due.
example : (eventTypes ["EVTS_ERROR", "EVTS_NONE"]).runOn ⟨[], ⟨1, true, false⟩⟩ =
    ⟨[], ⟨1, true, false⟩⟩ := by decide

-- A store factory is not such a part: its bean is written before its dialect is looked up.
example : (storeFactory (some ⟨some "CacheJdbcPojoStoreFactory", some ⟨none, some "unknown"⟩,
    none, none⟩)).runOn (Sheet.empty 0) ≠ Sheet.empty 0 := by decide

end GridBeans.Generation
