import Mathlib.Data.List.Nodup
import Mathlib.Logic.Relation
import GridBeans.Document.Json

/-!
# Edits without effect

A record in JSON is told by the values that its members give to the fields. The order of the members
says nothing, nor do members that belong to no field; a null says no more of an optional field than
its absence, and an empty list no more of a list. Such edits, in one place of a value, leave what is
read from it as it is, if the descriptions of its records are put together from fields and records
that behave so.
-/
namespace GridBeans.Document

open GridBeans.Json (Tree)

/-! ## Edits -/

/-- One edit of a value that is read as a kind: something is added that says nothing, or members
change places, in the value itself or further inside. -/
inductive Edit : Kind → Tree → Tree → Prop
  | reordered {record : String} {fields : List (String × Presence × Kind)}
      {members others : List (Option String × Tree)} : members.Perm others →
      Edit (.record record fields) (.object members true) (.object others true)
  /-- A member is added that belongs to no field. -/
  | unknown {record name : String} {fields : List (String × Presence × Kind)} {value : Tree}
      {members : List (Option String × Tree)} :
      name ∉ fields.map Prod.fst → value.isWhole = true →
      Edit (.record record fields) (.object members true)
        (.object ((some name, value) :: members) true)
  /-- A null is added for an optional field. -/
  | null {record name : String} {fields : List (String × Presence × Kind)} {kind : Kind}
      {members : List (Option String × Tree)} :
      (name, .optional, kind) ∈ fields → some name ∉ members.map Prod.fst →
      Edit (.record record fields) (.object members true)
        (.object ((some name, .null) :: members) true)
  /-- An empty list is added for a list that may be left out. -/
  | emptyList {record name : String} {fields : List (String × Presence × Kind)} {item : Kind}
      {members : List (Option String × Tree)} :
      (name, .defaulted, .list item) ∈ fields → some name ∉ members.map Prod.fst →
      Edit (.record record fields) (.object members true)
        (.object ((some name, .array [] true) :: members) true)
  /-- The value of a field is edited. -/
  | inMember {record name : String} {fields : List (String × Presence × Kind)}
      {presence : Presence} {kind : Kind} {value other : Tree}
      {front back : List (Option String × Tree)} :
      (name, presence, kind) ∈ fields → Edit kind value other →
      Edit (.record record fields) (.object (front ++ (some name, value) :: back) true)
        (.object (front ++ (some name, other) :: back) true)
  /-- An item of a list is edited. -/
  | inItem {item : Kind} {value other : Tree} {front back : List Tree} : Edit item value other →
      Edit (.list item) (.array (front ++ value :: back) true)
        (.array (front ++ other :: back) true)

/-- One value becomes the other by edits that are made or undone, any number of them. -/
def Alike (kind : Kind) : Tree → Tree → Prop :=
  Relation.EqvGen (Edit kind)

/-- What is given for a field before and after an edit. -/
inductive Counterpart : Presence → Kind → Option JsonNode → Option JsonNode → Prop
  | same {presence : Presence} {kind : Kind} (value : Option JsonNode) :
      Counterpart presence kind value value
  | edited {presence : Presence} {kind : Kind} {value other : Tree} (origin : Origin) :
      Edit kind value other →
      Counterpart presence kind (some ⟨origin, value⟩) (some ⟨origin, other⟩)
  | null {kind : Kind} (origin : Origin) :
      Counterpart .optional kind none (some ⟨origin, .null⟩)
  | emptyList {item : Kind} (origin : Origin) :
      Counterpart .defaulted (.list item) none (some ⟨origin, .array [] true⟩)

/-! ## Members -/

def valueOf? (name : String) (members : List (Option String × Tree)) : Option Tree :=
  (members.find? (·.1 == some name)).map Prod.snd

/-- Nothing is wrong with the members of a record but what may be wrong with the values of its
fields: every name is a text, no field is given twice, and nothing else breaks the text. -/
structure Orderly (names : List String) (members : List (Option String × Tree)) : Prop where
  named : none ∉ members.map Prod.fst
  once : ((members.map Prod.fst).filter (· ∈ names.map some)).Nodup
  whole : ∀ m ∈ members, m.1 ∉ names.map some → m.2.isWhole = true

section

variable {names : List String} {name : String} {value other : Tree}
  {members others front back : List (Option String × Tree)}

theorem valueOf?_cons_self : valueOf? name ((some name, value) :: members) = some value := by
  simp [valueOf?]

theorem valueOf?_cons_of_ne {member : Option String × Tree} (different : member.1 ≠ some name) :
    valueOf? name (member :: members) = valueOf? name members := by
  rw [valueOf?, List.find?_cons_of_neg (by simpa using different)]
  rfl

theorem valueOf?_of_not_mem (absent : some name ∉ members.map Prod.fst) :
    valueOf? name members = none := by
  induction members with
  | nil => rfl
  | cons member rest ih =>
    rw [List.map_cons, List.mem_cons, not_or] at absent
    rw [valueOf?_cons_of_ne (Ne.symm absent.1), ih absent.2]

/-- The first member of a name is looked for in the front, and in the back only where the front has
none. -/
theorem valueOf?_append :
    valueOf? name (front ++ back) = (valueOf? name front).or (valueOf? name back) := by
  rw [valueOf?, List.find?_append, Option.map_or]
  rfl

namespace Orderly

theorem perm (orderly : Orderly names members) (perm : members.Perm others) :
    Orderly names others := by
  have namesPerm := perm.map Prod.fst
  refine ⟨fun inside => orderly.named (namesPerm.mem_iff.mpr inside), ?_, fun m inside => ?_⟩
  · exact (namesPerm.filter _).nodup_iff.mp orderly.once
  · exact orderly.whole m (perm.mem_iff.mpr inside)

/-- Of a field that is given at most once, the only value is found. -/
theorem valueOf?_eq_some_iff (orderly : Orderly names members) (known : name ∈ names) :
    valueOf? name members = some value ↔ (some name, value) ∈ members := by
  constructor
  · intro found
    obtain ⟨⟨given, _⟩, hit, rfl⟩ := Option.map_eq_some_iff.mp found
    have isName : given = some name := by simpa using List.find?_some hit
    exact isName ▸ List.mem_of_find?_eq_some hit
  · intro inside
    obtain ⟨front, back, rfl⟩ := List.append_of_mem inside
    have once := orderly.once
    have isKnown : some name ∈ names.map some := List.mem_map_of_mem known
    rw [List.map_append, List.map_cons, List.filter_append,
      List.filter_cons_of_pos (by simpa using isKnown)] at once
    have notAhead : some name ∉ front.map Prod.fst := by
      intro ahead
      have inFilter : some name ∈ (front.map Prod.fst).filter (· ∈ names.map some) :=
        List.mem_filter.mpr ⟨ahead, by simpa using isKnown⟩
      exact (List.nodup_append.mp once).2.2 _ inFilter _ List.mem_cons_self rfl
    rw [valueOf?_append, valueOf?_of_not_mem notAhead, valueOf?_cons_self]
    rfl

/-- The order of the members does not matter for the values of fields. -/
theorem valueOf?_perm (orderly : Orderly names members) (perm : members.Perm others)
    (known : name ∈ names) : valueOf? name members = valueOf? name others := by
  ext value
  rw [orderly.valueOf?_eq_some_iff known, (orderly.perm perm).valueOf?_eq_some_iff known,
    perm.mem_iff]

/-- A member that belongs to no field has only to be whole. -/
theorem cons_unknown_iff (unknown : name ∉ names) (whole : value.isWhole = true) :
    Orderly names ((some name, value) :: members) ↔ Orderly names members := by
  have outside : some name ∉ names.map some := by simpa using unknown
  have once : ((some name :: members.map Prod.fst).filter (· ∈ names.map some)) =
      (members.map Prod.fst).filter (· ∈ names.map some) :=
    List.filter_cons_of_neg (by simpa using outside)
  constructor
  · intro orderly
    exact ⟨fun inside => orderly.named (List.mem_cons_of_mem _ inside), once ▸ orderly.once,
      fun m inside => orderly.whole m (List.mem_cons_of_mem _ inside)⟩
  · intro orderly
    refine ⟨?_, ?_, List.forall_mem_cons.mpr ⟨fun _ => whole, orderly.whole⟩⟩
    · simpa using orderly.named
    · rw [List.map_cons, once]
      exact orderly.once

/-- A member for a field that has none yet is in order. -/
theorem cons_known_iff (known : name ∈ names) (absent : some name ∉ members.map Prod.fst) :
    Orderly names ((some name, value) :: members) ↔ Orderly names members := by
  have isKnown : some name ∈ names.map some := List.mem_map_of_mem known
  have once : ((some name :: members.map Prod.fst).filter (· ∈ names.map some)) =
      some name :: (members.map Prod.fst).filter (· ∈ names.map some) :=
    List.filter_cons_of_pos (by simpa using isKnown)
  constructor
  · intro orderly
    refine ⟨fun inside => orderly.named (List.mem_cons_of_mem _ inside), ?_,
      fun m inside => orderly.whole m (List.mem_cons_of_mem _ inside)⟩
    have both := orderly.once
    rw [List.map_cons, once] at both
    exact both.of_cons
  · intro orderly
    refine ⟨?_, ?_, List.forall_mem_cons.mpr ⟨fun outside => absurd isKnown outside, orderly.whole⟩⟩
    · simpa using orderly.named
    · rw [List.map_cons, once]
      exact orderly.once.cons fun inside => absent (List.mem_of_mem_filter inside)

/-- A record stays orderly when the value of a member is replaced, since only names matter. -/
theorem replace (known : name ∈ names)
    (orderly : Orderly names (front ++ (some name, value) :: back)) :
    Orderly names (front ++ (some name, other) :: back) := by
  have sameNames : (front ++ (some name, other) :: back).map Prod.fst =
      (front ++ (some name, value) :: back).map Prod.fst := by simp
  refine ⟨sameNames ▸ orderly.named, sameNames ▸ orderly.once, fun m inside outside => ?_⟩
  have notThis : m ≠ (some name, other) := by
    rintro rfl
    exact outside (List.mem_map_of_mem known)
  refine orderly.whole m ?_ outside
  simp only [List.mem_append, List.mem_cons, notThis, false_or] at inside ⊢
  exact inside.imp_right .inr

end Orderly

end

/-! ## Edits of members -/

/-- What an edit of a record does to its members: they are in order as before, and each field has a
counterpart of its value. -/
structure Kept (fields : List (String × Presence × Kind))
    (members others : List (Option String × Tree)) : Prop where
  orderly : Orderly (fields.map Prod.fst) members ↔ Orderly (fields.map Prod.fst) others
  values : Orderly (fields.map Prod.fst) members → ∀ origin : Origin, ∀ f ∈ fields,
    Counterpart f.2.1 f.2.2 ((valueOf? f.1 members).map (JsonNode.mk origin))
      ((valueOf? f.1 others).map (JsonNode.mk origin))

section

variable {fields : List (String × Presence × Kind)} {name : String} {presence : Presence}
  {kind : Kind} {value other : Tree} {members front back : List (Option String × Tree)}

/-- A field whose name is that of another field is this field. -/
theorem eq_of_name (distinct : (fields.map Prod.fst).Nodup)
    (isField : (name, presence, kind) ∈ fields)
    {f : String × Presence × Kind} (mem : f ∈ fields) (same : f.1 = name) :
    f = (name, presence, kind) :=
  List.inj_on_of_nodup_map distinct mem isField same

/-- A value is added for a field that says the same as no value. -/
theorem Kept.added (distinct : (fields.map Prod.fst).Nodup)
    (isField : (name, presence, kind) ∈ fields) (absent : some name ∉ members.map Prod.fst)
    (counterpart : ∀ origin, Counterpart presence kind none (some ⟨origin, value⟩)) :
    Kept fields members ((some name, value) :: members) := by
  have known : name ∈ fields.map Prod.fst := List.mem_map_of_mem isField
  refine ⟨(Orderly.cons_known_iff known absent).symm, fun orderly origin f mem => ?_⟩
  by_cases same : f.1 = name
  · obtain rfl := eq_of_name distinct isField mem same
    rw [valueOf?_of_not_mem absent, valueOf?_cons_self]
    exact counterpart origin
  · rw [valueOf?_cons_of_ne fun isSame => same (Option.some.inj isSame).symm]
    exact .same _

/-- The value of a field is edited. -/
theorem Kept.replaced (distinct : (fields.map Prod.fst).Nodup)
    (isField : (name, presence, kind) ∈ fields) (edit : Edit kind value other) :
    Kept fields (front ++ (some name, value) :: back) (front ++ (some name, other) :: back) := by
  have known : name ∈ fields.map Prod.fst := List.mem_map_of_mem isField
  refine ⟨⟨Orderly.replace known, Orderly.replace known⟩, fun orderly origin f mem => ?_⟩
  rw [valueOf?_append, valueOf?_append]
  by_cases same : f.1 = name
  · obtain rfl := eq_of_name distinct isField mem same
    rw [valueOf?_cons_self, valueOf?_cons_self]
    cases valueOf? name front with
    | none => exact .edited origin edit
    | some first => exact .same _
  · have different : some name ≠ some f.1 := fun isSame => same (Option.some.inj isSame).symm
    rw [valueOf?_cons_of_ne different, valueOf?_cons_of_ne different]
    exact .same _

end

/-- An edit of a record leaves a whole record again, and of its members what `Kept` states. -/
theorem Edit.kept {record : String} {fields : List (String × Presence × Kind)} {t other : Tree}
    (distinct : (fields.map Prod.fst).Nodup) (edit : Edit (.record record fields) t other) :
    ∃ members others, t = .object members true ∧ other = .object others true ∧
      Kept fields members others := by
  cases edit with
  | reordered perm =>
    refine ⟨_, _, rfl, rfl, ⟨fun o => o.perm perm, fun o => o.perm perm.symm⟩,
      fun orderly origin f mem => ?_⟩
    rw [orderly.valueOf?_perm perm (List.mem_map_of_mem mem)]
    exact .same _
  | unknown unknown whole =>
    refine ⟨_, _, rfl, rfl, (Orderly.cons_unknown_iff unknown whole).symm,
      fun orderly origin f mem => ?_⟩
    rw [valueOf?_cons_of_ne]
    · exact .same _
    · intro same
      exact unknown (Option.some.inj same ▸ List.mem_map_of_mem mem)
  | null isField absent => exact ⟨_, _, rfl, rfl, .added distinct isField absent .null⟩
  | emptyList isField absent => exact ⟨_, _, rfl, rfl, .added distinct isField absent .emptyList⟩
  | inMember isField edit => exact ⟨_, _, rfl, rfl, .replaced distinct isField edit⟩

/-! ## Reading members -/

def Members.value? {ν : Type} (m : Members ν) (name : String) : Option ν :=
  (m.find? name).map Prod.snd

theorem Members.value?_eq {ν : Type} (m : Members ν) (name : String) :
    m.value? name = (m.given.find? (·.1 == name)).map Prod.snd := by
  rw [Members.value?, Members.find?]
  induction m.given with
  | nil => rfl
  | cons member rest ih =>
    rw [List.findIdx?_cons, List.find?_cons]
    cases member.1 == name with
    | true => rfl
    | false =>
      rw [← ih]
      cases rest.findIdx? (·.1 == name) with
      | none => rfl
      | some i => simp [Function.comp_def]

/-- A member with its name as the text that it stands for. -/
def namedMember (entry : String × Tree) : Option String × Tree :=
  (some entry.1, entry.2)

/-- All members are read exactly if every name is a text, so none is lost without notice. -/
theorem length_readableMembers_iff (members : List (Option String × Tree)) :
    (readableMembers members).length = members.length ↔ none ∉ members.map Prod.fst := by
  induction members with
  | nil => simp [readableMembers]
  | cons member rest ih =>
    obtain ⟨name, value⟩ := member
    cases name with
    | none => simp [readableMembers]
    | some name => simpa [readableMembers] using ih

/-- Where every member has a name that is text, all members are readable, in the same order. -/
theorem map_readableMembers {members : List (Option String × Tree)}
    (named : none ∉ members.map Prod.fst) :
    (readableMembers members).map namedMember = members := by
  induction members with
  | nil => rfl
  | cons member rest ih =>
    obtain ⟨name, value⟩ := member
    rw [List.map_cons, List.mem_cons, not_or] at named
    cases name with
    | none => exact absurd rfl named.1
    | some name => rw [readableMembers, List.map_cons, ih named.2, namedMember]

/-- Members have no flaw if no field is given twice, none of those that were seen before is given
again, and what belongs to no field is whole. -/
theorem memberFlaw_eq_none_iff (names : List String) (position : Nat) (seen : List String)
    (entries : List (String × Tree)) :
    memberFlaw names position seen entries = none ↔
      ((entries.map Prod.fst).filter (· ∈ names)).Nodup ∧
        (∀ e ∈ entries, e.1 ∈ names → e.1 ∉ seen) ∧
        ∀ e ∈ entries, e.1 ∉ names → e.2.isWhole = true := by
  induction entries generalizing position seen with
  | nil => simp [memberFlaw]
  | cons entry rest ih =>
    obtain ⟨name, value⟩ := entry
    rw [memberFlaw, List.map_cons, List.forall_mem_cons, List.forall_mem_cons]
    by_cases known : name ∈ names
    · rw [if_pos (by simpa using known), List.filter_cons_of_pos (by simpa using known),
        List.nodup_cons]
      by_cases before : name ∈ seen
      · simp [known, before]
      · rw [if_neg (by simpa using before), ih]
        have apart : name ∉ (rest.map Prod.fst).filter (· ∈ names) ↔
            ∀ e ∈ rest, e.1 ∈ names → e.1 ≠ name := by
          constructor
          · intro outside e mem _ same
            have given : name ∈ rest.map Prod.fst := same ▸ List.mem_map_of_mem mem
            exact outside (List.mem_filter.mpr ⟨given, by simpa using known⟩)
          · intro different inside
            obtain ⟨e, mem, rfl⟩ := List.mem_map.mp (List.mem_of_mem_filter inside)
            exact different e mem known rfl
        have unseen : (∀ e ∈ rest, e.1 ∈ names → e.1 ∉ name :: seen) ↔
            (∀ e ∈ rest, e.1 ∈ names → e.1 ≠ name) ∧ ∀ e ∈ rest, e.1 ∈ names → e.1 ∉ seen := by
          simp only [List.mem_cons, not_or, imp_and, forall_and]
        rw [apart, unseen]
        simp only [known, before]
        tauto
    · rw [if_neg (by simpa using known), List.filter_cons_of_neg (by simpa using known)]
      cases value.isWhole with
      | true => simp [ih, known]
      | false => simp [known]

/-- Being orderly is what the reader checks: it finds no flaw in the members, from the first one on.
-/
theorem orderly_map_iff (names : List String) (entries : List (String × Tree)) :
    Orderly names (entries.map namedMember) ↔ memberFlaw names 0 [] entries = none := by
  have isName : ∀ name : String, some name ∈ names.map some ↔ name ∈ names := by simp
  have namesOf : (entries.map namedMember).map Prod.fst = (entries.map Prod.fst).map some := by
    rw [List.map_map, List.map_map]
    rfl
  have once : ((entries.map namedMember).map Prod.fst).filter (· ∈ names.map some) =
      ((entries.map Prod.fst).filter (· ∈ names)).map some := by
    rw [namesOf, List.filter_map]
    simp only [Function.comp_def, isName]
  have nodup : (((entries.map Prod.fst).filter (· ∈ names)).map some).Nodup ↔
      ((entries.map Prod.fst).filter (· ∈ names)).Nodup :=
    List.nodup_map_iff fun _ _ same => Option.some.inj same
  rw [memberFlaw_eq_none_iff]
  constructor
  · intro orderly
    refine ⟨nodup.mp (once ▸ orderly.once), fun _ _ _ => List.not_mem_nil, fun e mem outside => ?_⟩
    exact orderly.whole _ (List.mem_map_of_mem mem) fun inside => outside ((isName _).mp inside)
  · rintro ⟨noneTwice, -, whole⟩
    refine ⟨by simp [namesOf], once ▸ nodup.mpr noneTwice, fun m mem outside => ?_⟩
    obtain ⟨e, inside, rfl⟩ := List.mem_map.mp mem
    exact whole e inside fun isKnown => outside ((isName _).mpr isKnown)

/-- The members of an object have no flaw of their own exactly if the object is closed and they are
in order. -/
theorem flaw_namedMembers_iff (origin : Origin) (infos : List FieldInfo)
    (members : List (Option String × Tree)) (closed : Bool) :
    (namedMembers origin infos members closed).flaw = none ↔
      closed = true ∧ Orderly (infos.map (·.name)) members := by
  rw [namedMembers]
  by_cases named : none ∉ members.map Prod.fst
  · have allRead := (length_readableMembers_iff members).mpr named
    have orderly := orderly_map_iff (infos.map (·.name)) (readableMembers members)
    rw [map_readableMembers named] at orderly
    rw [orderly]
    cases memberFlaw (infos.map (·.name)) 0 [] (readableMembers members) with
    | some flaw => simp
    | none => simp [allRead]
  · have notAll := mt (length_readableMembers_iff members).mp named
    have notOrderly : ¬ Orderly (infos.map (·.name)) members := fun orderly => named orderly.named
    cases memberFlaw (infos.map (·.name)) 0 [] (readableMembers members) with
    | some flaw => simp [notOrderly]
    | none => simp [notOrderly, notAll]

/-- What is given for a name is the value of the first member with this name. -/
theorem value?_namedMembers {members : List (Option String × Tree)}
    (named : none ∉ members.map Prod.fst) (origin : Origin) (infos : List FieldInfo) (closed : Bool)
    (name : String) :
    (namedMembers origin infos members closed).value? name =
      (valueOf? name members).map (JsonNode.mk origin) := by
  have sameName : ∀ e : String × Tree, (namedMember e).1 == some name ↔ e.1 == name := by
    simp [namedMember]
  have given : (namedMembers origin infos members closed).given =
      (readableMembers members).map fun e => (e.1, JsonNode.mk origin e.2) := rfl
  rw [Members.value?_eq, given, valueOf?]
  nth_rewrite 2 [← map_readableMembers named]
  rw [List.find?_map, List.find?_map, Option.map_map, Option.map_map, Option.map_map]
  simp only [Function.comp_def, Bool.coe_iff_coe.mp (sameName _)]
  rfl

end GridBeans.Document
