import GridBeans.Proofs.Document.Edits

/-!
# Steady descriptions

A description is steady if edits without effect have none on what it reads. The simple values are
steady, since there is nothing to edit in them; lists and fields are steady if their items and
values are, and a record is steady if its fields are and have different names.
-/
namespace GridBeans.Document

open GridBeans.Json (Tree)

/-- Of a value that is edited, the same is read as before, if anything is. -/
class Codec.Steady {α : Type} (codec : Codec JsonNode α) : Prop where
  read_iff {t other : Tree} : Edit codec.kind t other → ∀ (origin : Origin) (a : α),
    codec.read ⟨origin, t⟩ = .ok a ↔ codec.read ⟨origin, other⟩ = .ok a

/-- Members of a record before and after an edit. -/
structure Members.Edited (infos : List FieldInfo) (m other : Members JsonNode) : Prop where
  missing : m.missing = other.missing
  /-- Only a field that is required can be missing. -/
  lenient : ∀ info : FieldInfo, info.presence ≠ .required → m.missing info = none
  values : ∀ info ∈ infos,
    Counterpart info.presence info.kind (m.value? info.name) (other.value? info.name)

/-- Of members that are edited, the same is read as before, if anything is. -/
class Fields.Steady {α : Type} (fields : Fields JsonNode α) : Prop where
  read_iff {m other : Members JsonNode} : m.Edited fields.infos other → ∀ a : α,
    fields.read m = .ok a ↔ fields.read other = .ok a

section

variable {α β : Type}

/-- A reading in two steps has a result exactly if the first step has one and the second has it from
there. -/
theorem bind_ok_iff {x : Except Fault α} {f : α → Except Fault β} {b : β} :
    (x >>= f) = .ok b ↔ ∃ a, x = .ok a ∧ f a = .ok b := by
  cases x with
  | error e => exact ⟨nofun, nofun⟩
  | ok a => exact ⟨fun found => ⟨a, rfl, found⟩, fun ⟨_, same, found⟩ => Except.ok.inj same ▸ found⟩

theorem map_ok_iff {f : α → β} {x : Except Fault α} {b : β} :
    f <$> x = .ok b ↔ ∃ a, x = .ok a ∧ f a = b := by
  cases x <;> simp

/-! ## Fields in sequence -/

/-- Fewer fields see no more of an edit, so the parts of a record inherit what holds of the whole.
-/
theorem Members.Edited.of_subset {infos some : List FieldInfo} {m other : Members JsonNode}
    (edited : m.Edited infos other) (inside : some ⊆ infos) : m.Edited some other :=
  ⟨edited.missing, edited.lenient, fun info mem => edited.values info (inside mem)⟩

/-- Two readings side by side have a result exactly if both have; which fault would come first does
not matter here. -/
theorem both_ok_iff {f : Except (Nat × Fault) (α → β)} {x : Except (Nat × Fault) α} {b : β} :
    both f x = .ok b ↔ ∃ g a, f = .ok g ∧ x = .ok a ∧ g a = b := by
  cases f <;> cases x <;> simp [both]

instance (a : α) : (pure a : Fields JsonNode α).Steady :=
  ⟨fun _ _ => Iff.rfl⟩

instance (f : Fields JsonNode (α → β)) (x : Fields JsonNode α) [functions : f.Steady]
    [arguments : x.Steady] : (f <*> x).Steady where
  read_iff {m other} edited b := by
    have first := functions.read_iff (edited.of_subset (List.subset_append_left _ _))
    have second := arguments.read_iff (edited.of_subset (List.subset_append_right _ _))
    have read : ∀ n, (f <*> x).read n = both (f.read n) (x.read n) := fun _ => rfl
    rw [read, read, both_ok_iff, both_ok_iff]
    simp only [first, second]

instance (g : α → β) (x : Fields JsonNode α) [x.Steady] : (g <$> x).Steady :=
  inferInstanceAs (pure g <*> x).Steady

instance (fields : Fields JsonNode α) (note : String) [steady : fields.Steady] :
    (fields.noted note).Steady where
  read_iff {m other} edited := by
    refine steady.read_iff ⟨edited.missing, edited.lenient, fun info mem => ?_⟩
    exact edited.values { info with note := some note } (List.mem_map_of_mem mem)

instance (fields : Fields JsonNode α) [steady : fields.Steady] :
    fields.withoutDefault.Steady where
  read_iff {m other} edited := by
    refine steady.read_iff ⟨edited.missing, edited.lenient, fun info mem => ?_⟩
    exact edited.values { info with shown := none } (List.mem_map_of_mem mem)

/-! ## One field -/

/-- A field has the value that is read from what is given, or its default if it may be left out. -/
theorem field_ok_iff {info : FieldInfo} {read : JsonNode → Except Fault α} {absent : Option α}
    {m : Members JsonNode} {a : α} :
    (field info read absent).read m = .ok a ↔
      match m.value? info.name with
      | some v => read v = .ok a
      | none => m.missing info = none ∧ absent = some a := by
  simp only [field, Members.value?]
  cases m.find? info.name with
  | some given => cases outcome : read given.2 <;> simp [atPosition, outcome]
  | none => cases m.missing info <;> cases absent <;> simp

/-- A field is steady if its values are, and what says as much as no value is read as the
default. -/
theorem Fields.Steady.field {info : FieldInfo} {read : JsonNode → Except Fault α}
    {absent : Option α}
    (edits : ∀ {t other : Tree}, Edit info.kind t other → ∀ origin a,
      read ⟨origin, t⟩ = .ok a ↔ read ⟨origin, other⟩ = .ok a)
    (null : info.presence = .optional → ∀ origin a,
      read ⟨origin, .null⟩ = .ok a ↔ absent = some a)
    (emptyList : ∀ item, info.presence = .defaulted → info.kind = .list item → ∀ origin a,
      read ⟨origin, .array [] true⟩ = .ok a ↔ absent = some a) :
    (field info read absent).Steady where
  read_iff {m other} edited a := by
    have counterpart := edited.values info (List.mem_singleton_self info)
    have notMissing := edited.lenient info
    rw [field_ok_iff, field_ok_iff, ← edited.missing]
    generalize m.value? info.name = before at counterpart
    generalize other.value? info.name = after at counterpart
    obtain ⟨name, presence, kind, shown, note⟩ := info
    cases counterpart with
    | same => rfl
    | edited origin edit => exact edits edit origin a
    | null origin => simp [notMissing nofun, null rfl origin a]
    | emptyList origin => simp [notMissing nofun, emptyList _ rfl rfl origin a]

/-- No edit changes a value to null or from null, so what is given stays given. -/
theorem Edit.not_null {kind : Kind} {t other : Tree} (edit : Edit kind t other) :
    t ≠ .null ∧ other ≠ .null := by
  cases edit <;> exact ⟨nofun, nofun⟩

/-- A value that may be null but is not is read as every value. -/
theorem read_of_not_null {t : Tree} (notNull : t ≠ .null) {origin : Origin}
    {codec : Codec JsonNode α} :
    (do if ← Source.isAbsent (⟨origin, t⟩ : JsonNode) then pure none
        else some <$> codec.read ⟨origin, t⟩) = some <$> codec.read ⟨origin, t⟩ := by
  cases t <;> first | rfl | exact absurd rfl notNull

instance (name : String) (codec : Codec JsonNode α) [codec.Steady] :
    (optional name codec).Steady := by
  refine .field (fun {t other} edit origin a => ?_) (fun _ origin a => ?_) nofun
  · obtain ⟨before, after⟩ := edit.not_null
    rw [read_of_not_null before, read_of_not_null after, map_ok_iff, map_ok_iff]
    simp only [Codec.Steady.read_iff edit origin]
  · change Except.ok none = Except.ok a ↔ some none = some a
    simp

instance (name : String) (codec : Codec JsonNode α) [codec.Steady] :
    (required name codec).Steady :=
  .field Codec.Steady.read_iff nofun nofun

/-! ## Simple values -/

instance : (text : Codec JsonNode String).Steady := ⟨nofun⟩

instance : (integer : Codec JsonNode Int).Steady := ⟨nofun⟩

instance : (double : Codec JsonNode Decimal.Double).Steady := ⟨nofun⟩

instance : (bool : Codec JsonNode Bool).Steady := ⟨nofun⟩

instance (name : String) (known : List (String × α)) :
    (choice name known : Codec JsonNode α).Steady := ⟨nofun⟩

instance (name : String) : (textOrEmpty name : Fields JsonNode String).Steady :=
  .field nofun nofun nofun

instance (name : String) : (switch name : Fields JsonNode Bool).Steady :=
  .field nofun nofun nofun

/-! ## Lists -/

/-- One item of a list does not matter for the result beyond what it is read as. -/
theorem mapM_replace {read : JsonNode → Except Fault α} {x y : JsonNode}
    (same : ∀ a, read x = .ok a ↔ read y = .ok a) (front back : List JsonNode) (results : List α) :
    (front ++ x :: back).mapM read = .ok results ↔
      (front ++ y :: back).mapM read = .ok results := by
  simp only [List.mapM_append, List.mapM_cons, bind_ok_iff, same]

/-- A list is read exactly if each of its items is, into the results in the same order. -/
theorem list_ok_iff {item : Codec JsonNode α} {origin : Origin} {items : List Tree}
    {results : List α} :
    (list item).read ⟨origin, .array items true⟩ = .ok results ↔
      (items.map (JsonNode.mk origin)).mapM item.read = .ok results := by
  change ((items.map (JsonNode.mk origin)).mapM item.read >>= pure) = .ok results ↔ _
  rw [bind_pure]

instance (item : Codec JsonNode α) [item.Steady] : (list item).Steady where
  read_iff {t other} edit origin results := by
    cases edit with
    | inItem edit =>
      rw [list_ok_iff, list_ok_iff, List.map_append, List.map_cons, List.map_append, List.map_cons]
      exact mapM_replace (Codec.Steady.read_iff edit origin) _ _ results

instance (name : String) (item : Codec JsonNode α) [item.Steady] : (listed name item).Steady := by
  have steady : (list item).Steady := inferInstance
  refine .field steady.read_iff nofun fun _ _ _ origin a => ?_
  change Except.ok [] = Except.ok a ↔ some [] = some a
  simp

/-! ## Records -/

/-- What an edit keeps of the members of an object is kept for the fields of a record that read
them. -/
theorem Kept.edited {infos : List FieldInfo} {members others : List (Option String × Tree)}
    (kept : Kept (infos.map fun info => (info.name, info.presence, info.kind)) members others)
    (before : Orderly (infos.map (·.name)) members) (after : Orderly (infos.map (·.name)) others)
    (origin : Origin) :
    (namedMembers origin infos members true).Edited infos
      (namedMembers origin infos others true) := by
  have names : (infos.map fun info => (info.name, info.presence, info.kind)).map Prod.fst =
      infos.map (·.name) := by rw [List.map_map]; rfl
  refine ⟨rfl, fun info notRequired => ?_, fun info mem => ?_⟩
  · simp only [namedMembers]
    cases presence : info.presence with
    | required => exact absurd presence notRequired
    | _ => rfl
  · rw [value?_namedMembers before.named, value?_namedMembers after.named]
    exact kept.values (names ▸ before) origin _ (List.mem_map_of_mem mem)

/-- Of an object, a record is read exactly if the members are in order and the fields are read. -/
theorem record_ok_iff {name : String} {fields : Fields JsonNode α} {origin : Origin}
    {members : List (Option String × Tree)} {a : α} :
    (record name fields).read ⟨origin, .object members true⟩ = .ok a ↔
      Orderly (fields.infos.map (·.name)) members ∧
        fields.read (namedMembers origin fields.infos members true) = .ok a := by
  have flawless := flaw_namedMembers_iff origin fields.infos members true
  rw [eq_self, true_and] at flawless
  have asMembers : Source.members name fields.infos (⟨origin, .object members true⟩ : JsonNode) =
      .ok (namedMembers origin fields.infos members true) := rfl
  simp only [← flawless, record, asMembers, bind, Except.bind]
  cases (namedMembers origin fields.infos members true).flaw <;>
    cases fields.read (namedMembers origin fields.infos members true) <;> simp

/-- A record is steady if its fields are and have different names. -/
theorem Codec.Steady.record {name : String} {fields : Fields JsonNode α} (steady : fields.Steady)
    (distinct : (fields.infos.map (·.name)).Nodup) : (record name fields).Steady where
  read_iff {t other} edit origin a := by
    have names : (fields.infos.map fun info => (info.name, info.presence, info.kind)).map Prod.fst =
        fields.infos.map (·.name) := by rw [List.map_map]; rfl
    obtain ⟨members, others, rfl, rfl, kept⟩ := edit.kept (names ▸ distinct)
    have orderly := kept.orderly
    rw [names] at orderly
    rw [record_ok_iff, record_ok_iff, ← orderly]
    refine and_congr_right fun before => ?_
    exact Fields.Steady.read_iff (kept.edited before (orderly.mp before) origin) a

/-! ## Many edits -/

/-- Of a value that is edited any number of times, the same is read as before, if anything is. -/
theorem Codec.Steady.read_alike {codec : Codec JsonNode α} (steady : codec.Steady) {t other : Tree}
    (alike : Alike codec.kind t other) (origin : Origin) (a : α) :
    codec.read ⟨origin, t⟩ = .ok a ↔ codec.read ⟨origin, other⟩ = .ok a := by
  induction alike with
  | rel _ _ edit => exact steady.read_iff edit origin a
  | refl _ => rfl
  | symm _ _ _ ih => exact ih.symm
  | trans _ _ _ _ _ first second => exact first.trans second

end

end GridBeans.Document
