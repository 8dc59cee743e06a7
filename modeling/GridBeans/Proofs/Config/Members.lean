import GridBeans.Config.Members

/-!
# Members of one name

Which member of a record is found under a name. Each setting that is given is one member, so the
members of a record are searched one setting after the other, and a setting of another name is
passed over.
-/
namespace GridBeans.Json

/-- A member is looked up in the front part first, and behind it only where the front has none of
its name. -/
theorem member?_append (name : String) (front back : List (String × Value)) :
    member? name (front ++ back) = (member? name front).or (member? name back) := by
  rw [member?, List.find?_append, Option.map_or]
  rfl

/-- A setting that may not be given has a member under its own name, exactly if it is given. -/
theorem member?_toList_map {α : Type} (name other : String) (value : Option α) (f : α → Value) :
    member? name (value.toList.map fun a => (other, f a)) =
      if other = name then value.map f else none := by
  cases value with
  | none => simp [member?]
  | some a =>
    by_cases same : other = name
    · simp [member?, same]
    · simp [member?, same]

end GridBeans.Json

namespace GridBeans.Config

open GridBeans.Json

@[simp] theorem member?_textMember (name other : String) (value : Option String) :
    member? name (textMember other value) =
      if other = name then value.map Value.string else none :=
  member?_toList_map name other value _

@[simp] theorem member?_integerMember (name other : String) (value : Option Int) :
    member? name (integerMember other value) =
      if other = name then value.map fun i => .number (.integer i) else none :=
  member?_toList_map name other value _

@[simp] theorem member?_boolMember (name other : String) (value : Option Bool) :
    member? name (boolMember other value) = if other = name then value.map Value.bool else none :=
  member?_toList_map name other value _

/-- A double that JSON cannot write is there as null, so that the member is found without a value.
-/
@[simp] theorem member?_doubleMember (name other : String) (value : Option Decimal.Double) :
    member? name (doubleMember other value) =
      if other = name then
        value.map fun d => if d.isFinite then .number (.double d) else .null
      else none :=
  member?_toList_map name other value _

end GridBeans.Config
