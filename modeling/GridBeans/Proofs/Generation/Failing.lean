import GridBeans.Generation.Document
import GridBeans.Proofs.Generation.Script

/-!
# Failures of scripts

The failure a script ends in is the first one among its parts. Most parts never fail: writing and
registering always succeed, so only what is looked up by name or has to be given can fail.
-/
namespace GridBeans.Generation

open GridBeans.Markup GridBeans.Config

namespace Script

variable {α β : Type}

/-- The failure that ends a script. -/
def failure? (x : Script α) : Option Failure :=
  match x.outcome with
  | .ok _ => none
  | .error e => some e

theorem outcome_eq_error_iff (x : Script α) (e : Failure) :
    x.outcome = .error e ↔ x.failure? = some e := by
  rw [failure?]
  cases x.outcome with
  | error other => simp
  | ok a => simp

theorem exists_outcome_ok_iff (x : Script α) :
    (∃ a, x.outcome = .ok a) ↔ x.failure? = none := by
  rw [failure?]
  cases x.outcome with
  | error other => simp
  | ok a => simp

/-- A failure of the first script ends both; after a success the second one decides. -/
theorem failure?_bind (x : Script α) (f : α → Script β) :
    (x >>= f).failure? = (match x.outcome with
      | .ok a => (f a).failure?
      | .error e => some e) := by
  rw [failure?, outcome_bind]
  cases x.outcome with
  | error e => rfl
  | ok a => rfl

/-- Of two scripts that do not depend on each other, the first failure counts. -/
@[simp] theorem failure?_next (x : Script α) (y : Script β) :
    (x >>= fun _ => y).failure? = x.failure?.or y.failure? := by
  simp only [failure?, outcome_bind]
  cases x.outcome with
  | error e => rfl
  | ok a => rfl

@[simp] theorem failure?_pure (a : α) : (pure a : Script α).failure? = none := rfl

@[simp] theorem failure?_fail (e : Failure) : (fail e : Script α).failure? = some e := rfl

/-- A lookup that fails ends the script ahead of its first line. -/
theorem failure?_ofExcept_bind (x : Except Failure α) (f : α → Script β) :
    (ofExcept x >>= f).failure? = (match x with
      | .ok a => (f a).failure?
      | .error e => some e) := by
  rw [failure?_bind]
  rfl

@[simp] theorem failure?_line (piece : Piece) : (line piece).failure? = none := rfl

@[simp] theorem failure?_blank : blank.failure? = none := rfl

@[simp] theorem failure?_requestBlank : requestBlank.failure? = none := rfl

@[simp] theorem failure?_sectionStart : sectionStart.failure? = none := rfl

/-- The tags of an element cannot fail, so it fails exactly where its content does. -/
@[simp] theorem failure?_block (element : String) (attributes : List Attribute)
    (body : Script Unit) : (block element attributes body).failure? = body.failure? := by
  rw [failure?, outcome_block, failure?]

@[simp] theorem failure?_discard (x : Script α) : (discard x).failure? = x.failure? := by
  show (x >>= fun _ => pure ()).failure? = x.failure?
  simp

@[simp] theorem failure?_onlyIf (condition : Prop) [Decidable condition] (x : Script Unit) :
    (onlyIf condition x).failure? = if condition then x.failure? else none := by
  rw [onlyIf]
  split
  · rfl
  · rfl

@[simp] theorem failure?_forSome (value : Option α) (f : α → Script Unit) :
    (forSome value f).failure? = value.bind fun a => (f a).failure? := by
  cases value with
  | none => rfl
  | some a => rfl

/-- The first item whose script fails is the failure of the list. -/
@[simp] theorem failure?_forEach (items : List α) (f : α → Script Unit) :
    (forEach items f).failure? = items.findSome? fun a => (f a).failure? := by
  induction items with
  | nil => rfl
  | cons a rest ih =>
    rw [forEach, failure?_next, ih, List.findSome?_cons]
    cases (f a).failure? with
    | none => rfl
    | some e => rfl

@[simp] theorem failure?_forEachSpaced (items : List α) (f : α → Script Unit) :
    (forEachSpaced items f).failure? = items.findSome? fun a => (f a).failure? := by
  induction items with
  | nil => rfl
  | cons a rest ih =>
    cases rest with
    | nil =>
      rw [forEachSpaced, List.findSome?_cons]
      cases (f a).failure? with
      | none => rfl
      | some e => rfl
    | cons b rest =>
      have step : (forEachSpaced (a :: b :: rest) f).failure? =
          (f a).failure?.or ((b :: rest).findSome? fun a => (f a).failure?) := by
        rw [← ih, forEachSpaced, failure?_next, failure?_next, failure?_blank, Option.none_or]
        nofun
      rw [step]
      cases first : (f a).failure? with
      | none => simp only [List.findSome?_cons, first, Option.none_or]
      | some e => simp only [List.findSome?_cons, first, Option.some_or]

/-- Of two scripts that do not depend on each other, the second writes if the first succeeds. -/
theorem pieces_next (x : Script α) (y : Script β) :
    (x >>= fun _ => y).pieces = x.pieces ++ (if x.failure? = none then y.pieces else []) := by
  rw [pieces_bind, failure?]
  cases x.outcome with
  | error e => simp
  | ok a => simp

/-- A list of scripts that all succeed writes what each of them does. -/
theorem pieces_forEach {items : List α} {f : α → Script Unit}
    (succeed : ∀ a, (f a).failure? = none) :
    (forEach items f).pieces = items.flatMap fun a => (f a).pieces := by
  induction items with
  | nil => rfl
  | cons a rest ih => rw [forEach, pieces_next, if_pos (succeed a), ih, List.flatMap_cons]

end Script

/-! ## What never fails -/

open Script

@[simp] theorem failure?_property {α : Type} [PropertyValue α] (name : String) (value : Option α) :
    (property name value).failure? = none := by
  cases value with
  | none => rfl
  | some a => rfl

@[simp] theorem failure?_propertyBlock (name : String) (body : Script Unit) :
    (propertyBlock name body).failure? = body.failure? :=
  failure?_block _ _ body

@[simp] theorem failure?_beanBlock (className : String) (body : Script Unit) :
    (beanBlock className body).failure? = body.failure? :=
  failure?_block _ _ body

@[simp] theorem failure?_classProperty (name : String) (className : Option String) :
    (classProperty name className).failure? = none :=
  failure?_property name _

@[simp] theorem failure?_rowsProperty {α : Type} (name container : String) (items : List α)
    (row : α → Piece) : (rowsProperty name container items row).failure? = none := by
  rw [rowsProperty]
  split
  · rfl
  · simp

@[simp] theorem failure?_listProperty (name container : String) (items : List String) :
    (listProperty name container items).failure? = none :=
  failure?_rowsProperty name container items valueLeaf

@[simp] theorem failure?_writeValue (f : FieldShape) (v : Json.Value) :
    (f.writeValue v).failure? = none := by
  unfold FieldShape.writeValue
  cases f.kind with
  | scalar => simp
  | list => simp
  | classNameRef =>
    cases v with
    | string name =>
      simp only
      split
      · rfl
      · simp
    | null | bool | number | array | object => rfl
  | propertyBag => simp

@[simp] theorem failure?_write (f : FieldShape) (members : List (String × Json.Value)) :
    (f.write members).failure? = none := by
  unfold FieldShape.write
  split
  · split
    · simp
    · rfl
  · rfl

/-- The bean of a shape cannot fail, whatever members the record has. -/
@[simp] theorem failure?_shapedBean (name : String) (shape : BeanShape)
    (members : List (String × Json.Value)) (force : Bool) :
    (shapedBean name shape members force).failure? = none := by
  unfold shapedBean
  split
  · simp
  · split
    · simp
    · rfl

@[simp] theorem failure?_containerProperty {α : Type} (name container : String) (items : List α)
    (each : α → Script Unit) (never : ∀ a, (each a).failure? = none) :
    (containerProperty name container items each).failure? = none := by
  rw [containerProperty]
  split
  · rfl
  · simp [never]

@[simp] theorem failure?_databaseFields (name : String) (fields : List DatabaseField) :
    (databaseFields name fields).failure? = none :=
  failure?_containerProperty _ _ _ _ fun f => by simp [databaseField]

@[simp] theorem failure?_queryFields (name : String) (fields : List QueryField) :
    (queryFields name fields).failure? = none :=
  failure?_containerProperty _ _ _ _ fun _ => failure?_line _

@[simp] theorem failure?_fieldGroups (groups : List FieldGroup) :
    (fieldGroups groups).failure? = none :=
  failure?_containerProperty _ _ _ _ fun g => by simp [fieldGroup, groupField]

@[simp] theorem failure?_typeEntry (t : TypeMetadata) : (typeEntry t).failure? = none := by
  simp [typeEntry, databaseSide, querySide]

@[simp] theorem failure?_typeEntries (query store : List TypeMetadata) :
    (typeEntries query store).failure? = none := by
  rw [typeEntries]
  split
  · rfl
  · simp

@[simp] theorem failure?_finderBean (finder : IpFinder) : finder.bean.failure? = none := by
  cases finder with
  | vm v =>
    simp only [IpFinder.bean]
    split
    · rfl
    · simp
  | s3 s =>
    simp only [IpFinder.bean, failure?_beanBlock]
    split
    · rfl
    · rfl
  | sharedFs f =>
    simp only [IpFinder.bean]
    split
    · simp
    · rfl
  | multicast | cloud | googleStorage | jdbc => simp [IpFinder.bean]

@[simp] theorem failure?_groupEvents (g : Catalogue.EventGroup) :
    (groupEvents g).failure? = none := by
  simp [groupEvents]

@[simp] theorem failure?_dataSourceBean (s : DataSource) :
    (dataSourceBean s).failure? = none := by
  simp [dataSourceBean]

/-- The beans ahead of a node never fail. -/
theorem failure?_preamble (options : DocumentOptions) (sources : List DataSource) :
    (preamble options sources).failure? = none := by
  rw [preamble]
  split
  · rfl
  · simp

end GridBeans.Generation
