import GridBeans.Generation.NodeParts
import GridBeans.Generation.StoreFactory
import GridBeans.Proofs.Generation.ProperBean

/-!
# Proper parts

The beans that are chosen by kind: finders, eviction policies, store factories, marshallers and swap
spaces. Each shape writes the members of its own settings.
-/
namespace GridBeans.Generation

open GridBeans.Markup GridBeans.Config GridBeans.Json

variable {P : Char → Prop}

/-! ## Members -/

/-- Settings whose members are scalars, their texts being those of the settings. -/
class ScalarMembers (α : Type) [HasMembers α] [HasTexts α] : Prop where
  scalar : ∀ {P : Char → Prop} (a : α), Spelled P a → ∀ m ∈ HasMembers.members a, Scalar P m.2

theorem textMember_scalar {name : String} {value : Option String} (spelled : Spelled P value) :
    ∀ m ∈ textMember name value, Scalar P m.2 := by
  cases value with
  | none => exact List.forall_mem_nil _
  | some text =>
    have admitted : Over P text := (spelled_text text).mp ((spelled_some text).mp spelled)
    exact List.forall_mem_singleton.mpr admitted

theorem integerMember_scalar (name : String) (value : Option Int) :
    ∀ m ∈ integerMember name value, Scalar P m.2 := by
  cases value with
  | none => exact List.forall_mem_nil _
  | some i => exact List.forall_mem_singleton.mpr trivial

theorem boolMember_scalar (name : String) (value : Option Bool) :
    ∀ m ∈ boolMember name value, Scalar P m.2 := by
  cases value with
  | none => exact List.forall_mem_nil _
  | some b => exact List.forall_mem_singleton.mpr trivial

theorem doubleMember_scalar (name : String) (value : Option Decimal.Double) :
    ∀ m ∈ doubleMember name value, Scalar P m.2 := by
  cases value with
  | none => exact List.forall_mem_nil _
  | some d =>
    refine List.forall_mem_singleton.mpr ?_
    cases finite : d.isFinite with
    | false => simp [finite, Scalar]
    | true => simp [finite, Scalar]

instance : ScalarMembers AtomicConfiguration where
  scalar a spelled := by
    simp only [HasMembers.members, List.forall_mem_append]
    exact ⟨⟨integerMember_scalar _ _, textMember_scalar spelled⟩, integerMember_scalar _ _⟩

instance : ScalarMembers TransactionConfiguration where
  scalar t spelled := by
    obtain ⟨concurrency, isolation⟩ := (spelled_transactionConfiguration t).mp spelled
    simp only [HasMembers.members, List.forall_mem_append]
    exact ⟨⟨⟨⟨⟨textMember_scalar concurrency, textMember_scalar isolation⟩,
      integerMember_scalar _ _⟩, integerMember_scalar _ _⟩, integerMember_scalar _ _⟩,
      boolMember_scalar _ _⟩

instance : ScalarMembers FileSwapSpaceSpi where
  scalar s spelled := by
    simp only [HasMembers.members, List.forall_mem_append]
    exact ⟨⟨⟨⟨textMember_scalar spelled, integerMember_scalar _ _⟩, doubleMember_scalar _ _⟩,
      integerMember_scalar _ _⟩, integerMember_scalar _ _⟩

instance : ScalarMembers OptimizedMarshaller where
  scalar m _ := by
    simp only [HasMembers.members, List.forall_mem_append]
    exact ⟨integerMember_scalar _ _, boolMember_scalar _ _⟩

instance : ScalarMembers JdkMarshaller := ⟨fun _ _ => List.forall_mem_nil _⟩

instance : ScalarMembers EvictionPolicyFields where
  scalar p _ := by
    simp only [HasMembers.members, List.forall_mem_append]
    exact ⟨⟨integerMember_scalar _ _, integerMember_scalar _ _⟩, integerMember_scalar _ _⟩

instance : ScalarMembers JdbcPojoStoreFactory where
  scalar f spelled := by
    obtain ⟨dataSourceBean, dialect⟩ := (spelled_jdbcPojoStoreFactory f).mp spelled
    simp only [HasMembers.members, List.forall_mem_append]
    exact ⟨textMember_scalar dataSourceBean, textMember_scalar dialect⟩

instance : ScalarMembers JdbcBlobStoreFactory where
  scalar f spelled := by
    obtain ⟨user, dataSourceBean, create, load, insert, update, delete⟩ :=
      (spelled_jdbcBlobStoreFactory f).mp spelled
    simp only [HasMembers.members, List.forall_mem_append]
    exact ⟨⟨⟨⟨⟨⟨⟨textMember_scalar user, textMember_scalar dataSourceBean⟩,
      boolMember_scalar _ _⟩, textMember_scalar create⟩, textMember_scalar load⟩,
      textMember_scalar insert⟩, textMember_scalar update⟩, textMember_scalar delete⟩

/-- A record without lists has scalar members only, with the characters of the record. -/
theorem membersOf_scalar {α : Type} [HasMembers α] [HasTexts α] [ScalarMembers α]
    {settings : Option α} (spelled : Spelled P settings) :
    ∀ m ∈ membersOf settings, Scalar P m.2 := by
  cases settings with
  | none => exact List.forall_mem_nil _
  | some a => exact ScalarMembers.scalar a ((spelled_some a).mp spelled)

/-! ## Shapes -/

/-- Every field holds a scalar. -/
def BeanShape.isScalar (shape : BeanShape) : Bool :=
  shape.fields.all fun f => f.kind = .scalar || f.kind = .classNameRef

/-- A shape of scalar fields accepts any scalars, whatever their names are. -/
theorem BeanShape.accepts_scalars {shape : BeanShape} {members : List (String × Value)}
    (scalarShape : shape.isScalar = true) (scalars : ∀ m ∈ members, Scalar P m.2) :
    shape.Accepts P members := by
  intro f inside m mem
  have kinds := List.all_eq_true.mp scalarShape f inside
  simp only [Bool.or_eq_true, decide_eq_true_eq] at kinds
  rcases kinds with kind | kind
  · rw [kind]
    exact scalars m mem
  · rw [kind]
    exact scalars m mem

theorem atomicConfiguration_plain : BeanShape.atomicConfiguration.Plain := by
  refine ⟨plain_literal rfl, ?_⟩
  simp only [BeanShape.atomicConfiguration, List.forall_mem_cons]
  exact ⟨plain_literal rfl, plain_literal rfl, plain_literal rfl, List.forall_mem_nil _⟩

theorem transactionConfiguration_plain : BeanShape.transactionConfiguration.Plain := by
  refine ⟨plain_literal rfl, ?_⟩
  simp only [BeanShape.transactionConfiguration, List.forall_mem_cons]
  exact ⟨plain_literal rfl, plain_literal rfl, plain_literal rfl, plain_literal rfl,
    plain_literal rfl, plain_literal rfl, List.forall_mem_nil _⟩

theorem fileSwapSpaceSpi_plain : BeanShape.fileSwapSpaceSpi.Plain := by
  refine ⟨plain_literal rfl, ?_⟩
  simp only [BeanShape.fileSwapSpaceSpi, List.forall_mem_cons]
  exact ⟨plain_literal rfl, plain_literal rfl, plain_literal rfl, plain_literal rfl,
    plain_literal rfl, List.forall_mem_nil _⟩

theorem evictionFields_plain : ∀ f ∈ BeanShape.evictionFields, Plain f.propertyName := by
  simp only [BeanShape.evictionFields, List.forall_mem_cons]
  exact ⟨plain_literal rfl, plain_literal rfl, plain_literal rfl, List.forall_mem_nil _⟩

theorem evictionShape_plain (kind : EvictionKind) : kind.shape.Plain := by
  cases kind with
  | lru => exact ⟨plain_literal rfl, evictionFields_plain⟩
  | random => exact ⟨plain_literal rfl, List.forall_mem_singleton.mpr (plain_literal rfl)⟩
  | fifo => exact ⟨plain_literal rfl, evictionFields_plain⟩
  | sorted => exact ⟨plain_literal rfl, evictionFields_plain⟩

theorem marshallerShape_plain (kind : MarshallerKind) : kind.shape.Plain := by
  cases kind with
  | optimized =>
    refine ⟨plain_literal rfl, ?_⟩
    simp only [MarshallerKind.shape, BeanShape.optimizedMarshaller, List.forall_mem_cons]
    exact ⟨plain_literal rfl, plain_literal rfl, List.forall_mem_nil _⟩
  | jdk => exact ⟨plain_literal rfl, List.forall_mem_nil _⟩

theorem storeShape_plain (kind : StoreKind) : kind.shape.Plain := by
  cases kind with
  | jdbcPojo =>
    refine ⟨plain_literal rfl, ?_⟩
    simp only [StoreKind.shape, BeanShape.jdbcPojoStoreFactory, List.forall_mem_cons]
    exact ⟨plain_literal rfl, plain_literal rfl, List.forall_mem_nil _⟩
  | jdbcBlob =>
    refine ⟨plain_literal rfl, ?_⟩
    simp only [StoreKind.shape, BeanShape.jdbcBlobStoreFactory, List.forall_mem_cons]
    exact ⟨plain_literal rfl, plain_literal rfl, plain_literal rfl, plain_literal rfl,
      plain_literal rfl, plain_literal rfl, plain_literal rfl, plain_literal rfl,
      List.forall_mem_nil _⟩
  | hibernateBlob =>
    exact ⟨plain_literal rfl, List.forall_mem_singleton.mpr (plain_literal rfl)⟩

/-! ## Chosen beans -/

/-- The texts that are looked at are among those of the value. -/
theorem over_nonEmpty {value : Option String} {text : String}
    (found : Text.nonEmpty? value = some text) (spelled : Spelled P value) : Over P text := by
  cases value with
  | none => simp [Text.nonEmpty?] at found
  | some written =>
    rw [Text.nonEmpty?] at found
    split at found
    · cases found
    · cases found
      exact (spelled_text text).mp ((spelled_some text).mp spelled)

/-- A record of scalars is proper under a scalar shape, whatever of it is given. -/
theorem settingsBean_proper [AdmitsPlain P] {α : Type} [HasMembers α] [HasTexts α]
    [ScalarMembers α] {name : String} {shape : BeanShape} {settings : Option α} (force : Bool)
    (plain : Plain name) (named : shape.Plain) (scalarShape : shape.isScalar = true)
    (spelled : Spelled P settings) :
    (shapedBean name shape (membersOf settings) force).Proper P :=
  shapedBean_proper force plain named
    (BeanShape.accepts_scalars scalarShape (membersOf_scalar spelled))

theorem evictionPolicy_proper [AdmitsPlain P] {policy : Option EvictionPolicyConfig}
    {propertyName : String} (plain : Plain propertyName) (spelled : Spelled P policy) :
    (evictionPolicy policy propertyName).Proper P := by
  cases policy with
  | none => exact .pure false
  | some p =>
    obtain ⟨-, lru, rnd, fifo, sorted⟩ :=
      (spelled_evictionPolicyConfig p).mp ((spelled_some p).mp spelled)
    rw [evictionPolicy]
    split
    · exact .pure false
    · refine .bind (.ofExcept _) fun kind _ => .next ?_ (.pure true)
      have limits : Spelled P (kind.limits p) := by
        cases kind with
        | lru => exact lru
        | random => exact rnd
        | fifo => exact fifo
        | sorted => exact sorted
      have scalarShape : kind.shape.isScalar = true := by cases kind <;> rfl
      exact settingsBean_proper true plain (evictionShape_plain kind) scalarShape limits

theorem marshaller_proper [AdmitsPlain P] {config : Option MarshallerConfig}
    (spelled : Spelled P config) : (marshaller config).Proper P := by
  cases config with
  | none => exact .pure false
  | some m =>
    obtain ⟨-, optimized, jdk⟩ := (spelled_marshallerConfig m).mp ((spelled_some m).mp spelled)
    rw [marshaller]
    split
    · exact .pure false
    · refine .bind (.ofExcept _) fun kind _ => .next ?_ (.pure true)
      cases kind with
      | optimized =>
        exact settingsBean_proper true (plain_literal rfl) (marshallerShape_plain .optimized) rfl
          optimized
      | jdk =>
        exact settingsBean_proper true (plain_literal rfl) (marshallerShape_plain .jdk) rfl jdk

theorem swapSpace_proper [AdmitsPlain P] {config : Option SwapSpaceSpiConfig}
    (spelled : Spelled P config) : (swapSpace config).Proper P := by
  cases config with
  | none => exact .pure false
  | some s =>
    obtain ⟨-, file⟩ := (spelled_swapSpaceSpiConfig s).mp ((spelled_some s).mp spelled)
    rw [swapSpace]
    split
    · exact .pure false
    · split
      · exact .next (settingsBean_proper true (plain_literal rfl) fileSwapSpaceSpi_plain rfl file)
          (.pure true)
      · exact .fail _

/-- The shape with a property bag accepts the entries of its record. -/
theorem hibernateBlob_accepts {f : HibernateBlobStoreFactory} (spelled : Spelled P f) :
    BeanShape.hibernateBlobStoreFactory.Accepts P (HasMembers.members f) := by
  intro field inside m mem
  rw [BeanShape.hibernateBlobStoreFactory, List.mem_singleton] at inside
  subst inside
  simp only [HasMembers.members, textsMember] at mem
  split at mem
  · cases mem
  · rw [List.mem_singleton] at mem
    subst mem
    intro text listed
    simp only [itemTexts, List.map_map, List.mem_map] at listed
    obtain ⟨entry, inList, rfl⟩ := listed
    exact (spelled_texts f.hibernateProperties).mp spelled entry inList

theorem requiredSection_ok {α : Type} {slot : Slot} {kind : String} {given : Option α} {a : α}
    (found : requiredSection slot kind given = .ok a) : given = some a := by
  cases given with
  | none => cases found
  | some b => exact congrArg some (Except.ok.inj found)

/-- The data source of a store is named by a text of its settings. -/
theorem dataSourceOf_proper {f : JdbcPojoStoreFactory} {s : DataSource}
    (found : dataSourceOf f = .ok (some s)) (spelled : Spelled P f) : s.Proper P := by
  obtain ⟨beanSpelled, -⟩ := (spelled_jdbcPojoStoreFactory f).mp spelled
  unfold dataSourceOf at found
  split at found
  · cases found
  · split at found
    · cases found
    · rename_i className known
      split at found
      · cases found
      · rename_i beanId named
        cases found
        exact ⟨over_nonEmpty named beanSpelled, plain_dataSourceClass known⟩

theorem storeFactoryBean_proper [AdmitsPlain P] {α : Type} [HasMembers α] {kind : StoreKind}
    {settings : α} (accepted : kind.shape.Accepts P (HasMembers.members settings)) :
    (storeFactoryBean kind settings).Proper P :=
  shapedBean_proper true (plain_literal rfl) (storeShape_plain kind) accepted

theorem storeFactoryOf_proper [AdmitsPlain P] {kind : StoreKind} {f : StoreFactoryConfig}
    (spelled : Spelled P f) : (storeFactoryOf kind f).Proper P := by
  obtain ⟨-, pojo, jdbcBlob, hibernate⟩ := (spelled_storeFactoryConfig f).mp spelled
  cases kind with
  | jdbcPojo =>
    refine .bind (.ofExcept _) fun settings given => ?_
    have spelledSettings := spelled_option.mp pojo settings (requiredSection_ok given)
    refine .next (storeFactoryBean_proper (BeanShape.accepts_scalars rfl
      (ScalarMembers.scalar settings spelledSettings))) ?_
    refine .bind (.ofExcept _) fun source found => .forSome fun s same => .register ?_
    subst same
    exact dataSourceOf_proper found spelledSettings
  | jdbcBlob =>
    refine .bind (.ofExcept _) fun settings given => ?_
    have spelledSettings := spelled_option.mp jdbcBlob settings (requiredSection_ok given)
    exact storeFactoryBean_proper (BeanShape.accepts_scalars rfl
      (ScalarMembers.scalar settings spelledSettings))
  | hibernateBlob =>
    refine .bind (.ofExcept _) fun settings given => ?_
    have spelledSettings := spelled_option.mp hibernate settings (requiredSection_ok given)
    exact storeFactoryBean_proper (hibernateBlob_accepts spelledSettings)

/-- A store of any kind is proper over the characters of its sections. -/
theorem storeFactory_proper [AdmitsPlain P] {factory : Option StoreFactoryConfig}
    (spelled : Spelled P factory) : (storeFactory factory).Proper P := by
  cases factory with
  | none => exact .pure false
  | some f =>
    rw [storeFactory]
    split
    · exact .pure false
    · exact .bind (.ofExcept _) fun kind _ =>
        .next (storeFactoryOf_proper ((spelled_some f).mp spelled)) (.pure true)

end GridBeans.Generation
