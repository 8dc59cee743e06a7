import GridBeans.Generation.NodeParts
import GridBeans.Generation.StoreFactory
import GridBeans.Proofs.Config.Members
import GridBeans.Proofs.Generation.Outlined

/-!
# Records written through shapes

Settings of a record reach its bean in three steps: as typed values of the record, as JSON members
with names of their own, and through the table of a shape that looks these names up. What comes out
is what would be written for the typed values directly: a setting for each value that is given, in
the order of the shape, and no block if none is given.
-/
namespace GridBeans.Generation

open GridBeans.Markup GridBeans.Config GridBeans.Catalogue GridBeans.Json

/-! ## Settings that are given -/

/-- A setting that is given, with the property that it sets. -/
inductive Setting where
  /-- Written as the value of the property. -/
  | value (property : String) (value : AttributeValue)
  /-- Written as a bean of the class that the name stands for, if it has any character. -/
  | classRef (property name : String)
  deriving DecidableEq, Repr

namespace Setting

def property : Setting → String
  | .value property _ => property
  | .classRef property _ => property

def write : Setting → Script Unit
  | .value property v => do
    Script.sectionStart
    Script.line (propertyTag property v)
  | .classRef property name =>
    if name.isEmpty then pure ()
    else propertyBlock property (.line (beanTag (.plain (resolveClassName name))))

def lines : Setting → List Line
  | .value property v => pieceLines [propertyTag property v]
  | .classRef property name =>
    if name.isEmpty then []
    else propertyAround property (pieceLines [beanTag (.plain (resolveClassName name))])

theorem write_joins (s : Setting) : s.write.Joins s.lines := by
  cases s with
  | value property v => exact (Script.Opens.line (propertyTag property v)).joins
  | classRef property name =>
    simp only [write, lines]
    split
    · exact .nothing ()
    · exact (propertyBlock_stands property (Script.Writes.line _).fills).joins
        (elementLines_ne_nil _ _ _)

end Setting

/-- The setting of a typed value, if the value is given. -/
def given {α : Type} [PropertyValue α] (property : String) (value : Option α) : List Setting :=
  value.toList.map fun a => .value property (PropertyValue.attributeValue a)

/-- A number that has a text in JSON is written by this text. -/
def givenNumber (property : String) (value : Option Decimal.Double) : List Setting :=
  (value.filter fun d => d.isFinite).toList.map fun d => .value property (.written (layout.write d))

def givenClass (property : String) (name : Option String) : List Setting :=
  name.toList.map fun name => .classRef property name

/-- A bean around settings, which is left out or has no content if there are none. -/
def recordBean (name className : String) (settings : List Setting) (force : Bool) :
    Script Unit :=
  if settings ≠ [] then do
    Script.sectionStart
    propertyBlock name (beanBlock className (.forEach settings Setting.write))
  else if force then do
    Script.sectionStart
    propertyBlock name (.line (beanTag (.written className)))
  else pure ()

def recordLines (name className : String) (settings : List Setting) (force : Bool) :
    List Line :=
  if settings ≠ [] then
    propertyAround name (beanAround className (settings.flatMap Setting.lines))
  else if force then propertyAround name (bareBean className)
  else []

/-- A record opens a section with the settings that are given, or with an empty bean where it is
forced. -/
theorem recordBean_opens (name className : String) (settings : List Setting) (force : Bool) :
    (recordBean name className settings force).Opens
      (recordLines name className settings force) := by
  unfold recordBean recordLines
  split
  · have inside : (Script.forEach settings Setting.write).Joins
        (settings.flatMap Setting.lines) := .forEach Setting.write_joins
    exact sectionBlock_opens name (beanBlock_stands className inside.fills).writes.fills
  · split
    · exact sectionBlock_opens name (Script.Writes.line _).fills
    · exact .nothing ()

/-- A property with a value is written as its setting. -/
theorem property_eq_forEach {α : Type} [PropertyValue α] (name : String) (value : Option α) :
    property name value = Script.forEach (given name value) Setting.write := by
  cases value with
  | none => rfl
  | some a => rfl

/-! ## Fields of a shape -/

/-- What a field finds among members and writes are these settings. -/
structure FieldShape.Gives (members : List (String × Value)) (f : FieldShape)
    (settings : List Setting) : Prop where
  counts : f.hasValue members = true ↔ settings ≠ []
  writes : f.write members = Script.forEach settings Setting.write
  named : (settings.map Setting.property).Sublist [f.propertyName]

section

variable {members : List (String × Value)} {f : FieldShape}

/-- What is not given, or has no text in JSON, is no setting. -/
theorem gives_nothing (found : member? f.name members = none ∨
    member? f.name members = some .null) : f.Gives members [] := by
  have none : f.hasValue members = false := by
    rcases found with missing | isNull
    · simp [FieldShape.hasValue, missing]
    · simp [FieldShape.hasValue, isNull]
  refine ⟨by simp [none], ?_, List.nil_sublist _⟩
  rw [FieldShape.write, none]
  rfl

/-- A single value is written as such. -/
theorem gives_value {v : Value} (isScalar : f.kind = .scalar)
    (found : member? f.name members = some v) (notNull : v ≠ .null)
    (single : ∀ items, v ≠ .array items) :
    f.Gives members [.value f.propertyName (PropertyValue.attributeValue v)] := by
  have counts : f.hasValue members = true := by
    rw [FieldShape.hasValue, found]
    cases v with
    | null => exact absurd rfl notNull
    | array items => exact absurd rfl (single items)
    | bool | number | string | object => simp [isScalar]
  refine ⟨by simp [counts], ?_, List.Sublist.refl _⟩
  rw [FieldShape.write, counts, found, if_pos rfl]
  simp only [FieldShape.writeValue, isScalar]
  rfl

/-- A setting that is a single value. -/
theorem gives_given {α : Type} [PropertyValue α] {value : Option α} {member : α → Value}
    (isScalar : f.kind = .scalar) (found : member? f.name members = value.map member)
    (notNull : ∀ a, member a ≠ .null) (single : ∀ a items, member a ≠ .array items)
    (same : ∀ a : α,
      PropertyValue.attributeValue (member a) = PropertyValue.attributeValue a) :
    f.Gives members (given f.propertyName value) := by
  cases value with
  | none => exact gives_nothing (.inl found)
  | some a =>
    rw [given, Option.toList_some, List.map_singleton, ← same]
    exact gives_value isScalar found (notNull a) (single a)

theorem gives_text {value : Option String} (isScalar : f.kind = .scalar)
    (found : member? f.name members = value.map Value.string) :
    f.Gives members (given f.propertyName value) :=
  gives_given isScalar found (fun _ => nofun) (fun _ _ => nofun) fun _ => rfl

theorem gives_integer {value : Option Int} (isScalar : f.kind = .scalar)
    (found : member? f.name members = value.map fun i => .number (.integer i)) :
    f.Gives members (given f.propertyName value) :=
  gives_given isScalar found (fun _ => nofun) (fun _ _ => nofun) fun _ => rfl

theorem gives_bool {value : Option Bool} (isScalar : f.kind = .scalar)
    (found : member? f.name members = value.map Value.bool) :
    f.Gives members (given f.propertyName value) :=
  gives_given isScalar found (fun _ => nofun) (fun _ _ => nofun) fun _ => rfl

/-- A double that is not finite is null among the members, and so its field gives nothing. -/
theorem gives_number {value : Option Decimal.Double} (isScalar : f.kind = .scalar)
    (found : member? f.name members =
      value.map fun d => if d.isFinite then .number (.double d) else .null) :
    f.Gives members (givenNumber f.propertyName value) := by
  cases value with
  | none => exact gives_nothing (.inl found)
  | some d =>
    by_cases finite : d.isFinite
    · rw [Option.map_some, if_pos finite] at found
      rw [givenNumber, Option.filter_some, if_pos finite]
      exact gives_value isScalar found nofun fun _ => nofun
    · rw [Option.map_some, if_neg finite] at found
      rw [givenNumber, Option.filter_some, if_neg finite]
      exact gives_nothing (.inr found)

/-- The name of a class counts even if it is empty, and is then not written. -/
theorem gives_class {name : Option String} (isClass : f.kind = .classNameRef)
    (found : member? f.name members = name.map Value.string) :
    f.Gives members (givenClass f.propertyName name) := by
  cases name with
  | none => exact gives_nothing (.inl found)
  | some name =>
    have counts : f.hasValue members = true := by
      simp [FieldShape.hasValue, found, isClass]
    refine ⟨by simp [counts, givenClass], ?_, List.Sublist.refl _⟩
    rw [FieldShape.write, counts, found, if_pos rfl, givenClass, Option.toList_some,
      List.map_singleton, Script.forEach_singleton]
    simp only [FieldShape.writeValue, isClass, Option.map_some]
    rfl

end

/-- The fields of a shape give the settings of all of them, in the order of the shape. -/
theorem fields_give {members : List (String × Value)} {fields : List FieldShape}
    {settings : List (List Setting)}
    (each : List.Forall₂ (FieldShape.Gives members) fields settings) :
    (fields.any (·.hasValue members) = true ↔ settings.flatten ≠ []) ∧
      Script.forEach fields (·.write members) =
        Script.forEach settings.flatten Setting.write ∧
      (settings.flatten.map Setting.property).Sublist (fields.map FieldShape.propertyName) := by
  induction each with
  | nil => exact ⟨by simp, rfl, List.Sublist.refl _⟩
  | @cons f first fields rest gives _ ih =>
    obtain ⟨counts, writes, named⟩ := ih
    refine ⟨?_, ?_, ?_⟩
    · rw [List.any_cons, Bool.or_eq_true, gives.counts, counts, List.flatten_cons,
        ← not_and_or, ← List.append_eq_nil_iff]
    · rw [List.flatten_cons, Script.forEach_append, ← gives.writes, ← writes]
      rfl
    · rw [List.flatten_cons, List.map_append]
      exact gives.named.append named

/-! ## Records -/

/-- The records whose settings are single values and are written through a shape. -/
inductive Record where
  | atomics (a : AtomicConfiguration)
  | transactions (t : TransactionConfiguration)
  | swapFiles (s : FileSwapSpaceSpi)
  | eviction (kind : EvictionKind) (limits : EvictionPolicyFields)
  | marshaller (m : OptimizedMarshaller)
  | pojoStore (f : JdbcPojoStoreFactory)
  | blobStore (f : JdbcBlobStoreFactory)
  deriving DecidableEq, Repr

namespace Record

/-- The shape that the slot of the record has. -/
def shape : Record → BeanShape
  | .atomics _ => .atomicConfiguration
  | .transactions _ => .transactionConfiguration
  | .swapFiles _ => .fileSwapSpaceSpi
  | .eviction kind _ => kind.shape
  | .marshaller _ => MarshallerKind.optimized.shape
  | .pojoStore _ => StoreKind.jdbcPojo.shape
  | .blobStore _ => StoreKind.jdbcBlob.shape

/-- The members that stand for the record in JSON. -/
def members : Record → List (String × Value)
  | .atomics a => HasMembers.members a
  | .transactions t => HasMembers.members t
  | .swapFiles s => HasMembers.members s
  | .eviction _ limits => HasMembers.members limits
  | .marshaller m => HasMembers.members m
  | .pojoStore f => HasMembers.members f
  | .blobStore f => HasMembers.members f

/-- What the record has to say for each field of its shape, straight from its typed values and by
the property that is set. A random choice of entries has one limit only. -/
def fields : Record → List (List Setting)
  | .atomics a =>
    [ given "backups" a.backups,
      given "cacheMode" a.cacheMode,
      given "atomicSequenceReserveSize" a.atomicSequenceReserveSize ]
  | .transactions t =>
    [ given "defaultTxConcurrency" t.defaultTxConcurrency,
      given "defaultTxIsolation" t.transactionIsolation,
      given "defaultTxTimeout" t.defaultTxTimeout,
      given "pessimisticTxLogLinger" t.pessimisticTxLogLinger,
      given "pessimisticTxLogSize" t.pessimisticTxLogSize,
      given "txSerializableEnabled" t.txSerializableEnabled ]
  | .swapFiles s =>
    [ given "baseDirectory" s.baseDirectory,
      given "readStripesNumber" s.readStripesNumber,
      givenNumber "maximumSparsity" s.maximumSparsity,
      given "maxWriteQueueSize" s.maxWriteQueueSize,
      given "writeBufferSize" s.writeBufferSize ]
  | .eviction .random limits => [given "maxSize" limits.maxSize]
  | .eviction _ limits =>
    [ given "batchSize" limits.batchSize,
      given "maxMemorySize" limits.maxMemorySize,
      given "maxSize" limits.maxSize ]
  | .marshaller m =>
    [ given "poolSize" m.poolSize,
      given "requireSerializable" m.requireSerializable ]
  | .pojoStore f =>
    [ given "dataSourceBean" f.dataSourceBean,
      givenClass "dialect" f.dialect ]
  | .blobStore f =>
    [ given "user" f.user,
      given "dataSourceBean" f.dataSourceBean,
      given "initSchema" f.initSchema,
      given "createTableQuery" f.createTableQuery,
      given "loadQuery" f.loadQuery,
      given "insertQuery" f.insertQuery,
      given "updateQuery" f.updateQuery,
      given "deleteQuery" f.deleteQuery ]

/-- The settings of the record that are given. -/
def settings (r : Record) : List Setting :=
  r.fields.flatten

/-- Each field of the shape finds the member that stands for its setting, and no other. -/
theorem gives (r : Record) :
    List.Forall₂ (FieldShape.Gives r.members) r.shape.fields r.fields := by
  cases r with
  | atomics a =>
    refine .cons (gives_integer rfl ?_) <| .cons (gives_text rfl ?_) <|
      .cons (gives_integer rfl ?_) .nil
    all_goals simp [members, HasMembers.members, member?_append, scalarField]
  | transactions t =>
    refine .cons (gives_text rfl ?_) <| .cons (gives_text rfl ?_) <|
      .cons (gives_integer rfl ?_) <| .cons (gives_integer rfl ?_) <|
      .cons (gives_integer rfl ?_) <| .cons (gives_bool rfl ?_) .nil
    all_goals simp [members, HasMembers.members, member?_append, scalarField]
  | swapFiles s =>
    refine .cons (gives_text rfl ?_) <| .cons (gives_integer rfl ?_) <|
      .cons (gives_number rfl ?_) <| .cons (gives_integer rfl ?_) <|
      .cons (gives_integer rfl ?_) .nil
    all_goals simp [members, HasMembers.members, member?_append, scalarField]
  | eviction kind limits =>
    cases kind with
    | random =>
      refine .cons (gives_integer rfl ?_) .nil
      simp [members, HasMembers.members, member?_append, scalarField]
    | lru | fifo | sorted =>
      refine .cons (gives_integer rfl ?_) <| .cons (gives_integer rfl ?_) <|
        .cons (gives_integer rfl ?_) .nil
      all_goals simp [members, HasMembers.members, member?_append, scalarField]
  | marshaller m =>
    refine .cons (gives_integer rfl ?_) <| .cons (gives_bool rfl ?_) .nil
    all_goals simp [members, HasMembers.members, member?_append, scalarField]
  | pojoStore f =>
    refine .cons (gives_text rfl ?_) <| .cons (gives_class rfl ?_) .nil
    all_goals simp [members, HasMembers.members, member?_append, scalarField]
  | blobStore f =>
    refine .cons (gives_text rfl ?_) <| .cons (gives_text rfl ?_) <|
      .cons (gives_bool rfl ?_) <| .cons (gives_text rfl ?_) <| .cons (gives_text rfl ?_) <|
      .cons (gives_text rfl ?_) <| .cons (gives_text rfl ?_) <| .cons (gives_text rfl ?_) .nil
    all_goals simp [members, HasMembers.members, member?_append, scalarField]

end Record

/-- The way through members and shape comes to the same as writing the typed values. -/
theorem shapedBean_eq_recordBean (r : Record) (name : String) (force : Bool) :
    shapedBean name r.shape r.members force =
      recordBean name r.shape.className r.settings force := by
  obtain ⟨counts, writes, -⟩ := fields_give r.gives
  rw [shapedBean, recordBean, writes]
  exact if_congr counts rfl rfl

/-- A record is written as its typed values are: a property with a value is written as its setting
alone, and the bean of a record, whatever the sheet, as the settings that are given, one below the
other in the order of the shape and each by the property that its field sets. If none is given there
is nothing, or a bean without content. -/
theorem records_written_as_given :
    (∀ {α : Type} [PropertyValue α] (name : String) (value : Option α),
      property name value = Script.forEach (given name value) Setting.write) ∧
    ∀ (r : Record) (name : String) (force : Bool),
      shapedBean name r.shape r.members force =
        recordBean name r.shape.className r.settings force ∧
      (r.settings.map Setting.property).Sublist (r.shape.fields.map FieldShape.propertyName) ∧
      ∀ sheet : Sheet,
        let lines := recordLines name r.shape.className r.settings force
        ((shapedBean name r.shape r.members force).runOn sheet).lines =
          sheet.lines ++ (sheet.cursor.ahead lines ++ deeper sheet.cursor.depth lines) := by
  refine ⟨fun name value => property_eq_forEach name value, fun r name force =>
    ⟨shapedBean_eq_recordBean r name force, (fields_give r.gives).2.2, fun sheet => ?_⟩⟩
  have succeeds := failure?_shapedBean name r.shape r.members force
  rw [shapedBean_eq_recordBean] at succeeds ⊢
  rw [(recordBean_opens name r.shape.className r.settings force).runOn_eq succeeds sheet]

-- An empty name of a dialect is given, so the bean has a block, and nothing is written for it.
example : (Record.pojoStore ⟨none, some ""⟩).settings.flatMap Setting.lines = [] ∧
    (Record.pojoStore ⟨none, some ""⟩).settings ≠ [] := by decide

end GridBeans.Generation
