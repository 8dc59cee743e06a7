import GridBeans.Operations
import GridBeans.Proofs.Json.ReadBack

/-!
# Lookups in listings

The listings are texts that are read back as the objects they were written from, so what they list
under a name is what the tables have for it.
-/
namespace GridBeans.Reference

open GridBeans.Json GridBeans.Catalogue GridBeans.Generation

/-! ## Paths -/

/-- What a value has at the end of a path of names. -/
def at? : List String → Value → Option Value
  | [], v => some v
  | name :: path, v => (member? name v.members).bind (at? path)

/-- What a text lists at the end of a path of names. -/
def listed? (text : String) (path : List String) : Option Value :=
  (Value.ofText? text).bind (at? path)

section

variable {α : Type} {items : List α} {key : α → String} {value : α → Value}

theorem member?_map (name : String) :
    member? name (items.map fun a => (key a, value a)) =
      (items.find? (key · == name)).map value := by
  rw [member?, List.find?_map, Option.map_map]
  rfl

/-- What an object has under a name is what it is made from. -/
theorem at?_sortedObject {members : List (String × Value)} (distinct : (members.map Prod.fst).Nodup)
    (name : String) (path : List String) :
    at? (name :: path) (sortedObject members) = (member? name members).bind (at? path) := by
  rw [at?, sortedObject, Value.members, member?_sortMembers distinct]

/-- What an object that is made from a table has under a name is what the table has for it. -/
theorem at?_table (distinct : (items.map key).Nodup) (name : String) (path : List String) :
    at? (name :: path) (sortedObject (items.map fun a => (key a, value a))) =
      (items.find? (key · == name)).bind fun a => at? path (value a) := by
  have names : ((items.map fun a => (key a, value a)).map Prod.fst).Nodup := by
    rw [List.map_map]
    exact distinct
  rw [at?_sortedObject names, member?_map, Option.bind_map]
  rfl

theorem settled_table (settled : ∀ a, Settled (value a)) :
    Settled (sortedObject (items.map fun a => (key a, value a))) :=
  .sorted (List.forall_mem_map.mpr fun a _ => settled a)

end

/-! ## Texts -/

/-- The listing of classes consists of values that are read back from their printed form. -/
theorem settled_classListing : Settled classListing := by
  refine .sorted ?_
  simp only [List.forall_mem_cons, List.not_mem_nil, false_implies, implies_true, and_true]
  refine ⟨settled_table fun c => .string _, settled_table fun d => .sorted ?_,
    settled_table fun s => settled_table fun k => .string _⟩
  simp only [List.forall_mem_cons, List.not_mem_nil, false_implies, implies_true, and_true]
  exact ⟨.string _, .string _⟩

theorem settled_eventGroupListing : Settled eventGroupListing :=
  settled_table fun _ => .array (List.forall_mem_map.mpr fun e _ => .string e)

/-- A path into the printed listing of classes finds what it finds in the value before printing. -/
theorem listed?_knownClasses (path : List String) :
    listed? knownClassesText path = at? path classListing := by
  rw [listed?, knownClassesText, settled_classListing.ofText?_pretty]
  rfl

/-- The listing of groups has under each name the events that the catalogue finds under it. -/
theorem listed?_eventGroups (name : String) :
    listed? eventGroupsText [name] =
      (eventsOf? name).map fun events => .array (events.map .string) := by
  rw [listed?, eventGroupsText, settled_eventGroupListing.ofText?_pretty, Option.bind_some,
    eventGroupListing, at?_table (by decide), eventsOf?]
  cases eventGroups.find? fun g => g.name == name <;> rfl

/-! ## Classes -/

theorem listed?_java (name : String) :
    listed? knownClassesText ["javaBuildInClasses", name] =
      (javaClasses.find? (·.short == name)).map fun c => .string c.qualified := by
  rw [listed?_knownClasses, classListing, at?_sortedObject (by decide), member?_cons_self,
    Option.bind_some, at?_table (by decide)]
  exact Option.map_eq_bind.symm

theorem listed?_dialect (name : String) (path : List String) :
    listed? knownClassesText ("jdbcDialects" :: name :: path) =
      (dialects.find? (·.short == name)).bind fun d => at? path (sortedObject
        [("dialect", .string d.qualified), ("dataSource", .string d.dataSource)]) := by
  rw [listed?_knownClasses, classListing, at?_sortedObject (by decide),
    member?_cons_of_ne (by decide), member?_cons_self, Option.bind_some, at?_table (by decide)]

/-! ## Kinds -/

/-- The slots have different names, so none of them is lost in the listing. -/
theorem slots_distinct : (slotKinds.map SlotKinds.slot).Nodup := by decide

theorem kinds_distinct : ∀ s ∈ slotKinds, (s.kinds.map Prod.fst).Nodup := by decide

/-- What is found under a name that no other item has is the item of this name. -/
theorem find?_of_mem {α : Type} {items : List α} {key : α → String}
    (distinct : (items.map key).Nodup) {a : α} (mem : a ∈ items) :
    items.find? (key · == key a) = some a := by
  cases hit : items.find? (key · == key a) with
  | none => simpa using List.find?_eq_none.mp hit a mem
  | some b =>
    have named : key b = key a := by simpa using List.find?_some hit
    rw [List.inj_on_of_nodup_map distinct (List.mem_of_find?_eq_some hit) mem named]

/-- A kind is listed in its slot with the class that the table of the slot has for it. -/
theorem listed?_kind {s : SlotKinds} (slot : s ∈ slotKinds) (kind : String) :
    listed? knownClassesText ["variants", s.slot, kind] =
      (s.kinds.find? (·.1 == kind)).map fun k => .string k.2 := by
  have ofSlot : listed? knownClassesText ["variants", s.slot, kind] =
      (slotKinds.find? (·.slot == s.slot)).bind fun s => at? [kind] s.listing := by
    rw [listed?_knownClasses, classListing, at?_sortedObject (by decide),
      member?_cons_of_ne (by decide), member?_cons_of_ne (by decide), member?_cons_self,
      Option.bind_some, at?_table slots_distinct]
  rw [ofSlot, find?_of_mem slots_distinct slot, Option.bind_some]
  exact (at?_table (kinds_distinct s slot) kind []).trans Option.map_eq_bind.symm

/-- A kind of a slot is listed with its class, and no other name is listed for the slot. -/
theorem kind_cases {κ : Type} {slot : String} {all : List κ} {name className : κ → String}
    (isSlot : ⟨slot, all.map fun k => (name k, className k)⟩ ∈ slotKinds) (kind : String) :
    (∃ k, name k = kind ∧ all.find? (name · == kind) = some k ∧
        listed? knownClassesText ["variants", slot, kind] = some (.string (className k))) ∨
      all.find? (name · == kind) = none ∧
        listed? knownClassesText ["variants", slot, kind] = none := by
  have inTable : listed? knownClassesText ["variants", slot, kind] =
      (all.find? (name · == kind)).map fun k => .string (className k) := by
    rw [listed?_kind isSlot, List.find?_map, Option.map_map]
    rfl
  rw [inTable]
  cases hit : all.find? (name · == kind) with
  | none => exact .inr ⟨rfl, rfl⟩
  | some k => exact .inl ⟨k, by simpa using List.find?_some hit, rfl, rfl⟩

end GridBeans.Reference
