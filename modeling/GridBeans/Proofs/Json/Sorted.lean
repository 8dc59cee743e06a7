import GridBeans.Json.Value
import Mathlib.Data.List.Induction
import Mathlib.Data.List.Nodup

/-!
# Members sorted by name

An object keeps the last of several members of one name, while a search finds the first one. Where
no name comes twice the two agree: in the sorted members, the same is found as in the given ones.
Members that are in order are left as they are by sorting.
-/
namespace GridBeans.Json

/-- The names go up from each member to the next, so none of them comes twice. -/
def Ascending (members : List (String × Value)) : Prop :=
  (members.map Prod.fst).Pairwise (· < ·)

variable {name other : String} {v w : Value} {members : List (String × Value)}

/-! ## One member -/

theorem mem_insertMember {m : String × Value} (inside : m ∈ insertMember name v members) :
    m = (name, v) ∨ m ∈ members := by
  induction members with
  | nil => exact .inl (List.mem_singleton.mp inside)
  | cons first rest ih =>
    rw [insertMember] at inside
    split at inside
    · exact List.mem_cons.mp inside
    · split at inside
      · exact (List.mem_cons.mp inside).imp_right (List.mem_cons_of_mem _)
      · rcases List.mem_cons.mp inside with rfl | behind
        · exact .inr List.mem_cons_self
        · exact (ih behind).imp_right (List.mem_cons_of_mem _)

/-- The order is kept when a member is put in its place. -/
theorem Ascending.insertMember (ascending : Ascending members) :
    Ascending (insertMember name v members) := by
  induction members with
  | nil => exact List.pairwise_singleton _ _
  | cons first rest ih =>
    obtain ⟨above, restAscending⟩ := List.pairwise_cons.mp ascending
    rw [Json.insertMember]
    split
    · rename_i before
      refine List.pairwise_cons.mpr ⟨fun later mem => ?_, ascending⟩
      rcases List.mem_cons.mp mem with rfl | behind
      · exact before
      · exact String.lt_trans before (above later behind)
    · rename_i notBefore
      split
      · rename_i same
        exact List.pairwise_cons.mpr ⟨same ▸ above, restAscending⟩
      · rename_i different
        have behind : first.1 < name :=
          Std.lt_of_le_of_ne (String.not_lt.mp notBefore) (Ne.symm different)
        refine List.pairwise_cons.mpr ⟨fun later mem => ?_, ih restAscending⟩
        obtain ⟨m, inside, rfl⟩ := List.mem_map.mp mem
        rcases mem_insertMember inside with rfl | old
        · exact behind
        · exact above m.1 (List.mem_map_of_mem old)

/-- A member behind all others is put at the end. -/
theorem insertMember_of_forall_lt (last : ∀ m ∈ members, m.1 < name) :
    insertMember name v members = members ++ [(name, v)] := by
  induction members with
  | nil => rfl
  | cons first rest ih =>
    obtain ⟨below, restBelow⟩ := List.forall_mem_cons.mp last
    have different : name ≠ first.1 := fun same => String.lt_irrefl _ (same ▸ below)
    rw [insertMember, if_neg (String.lt_asymm below), if_neg different, ih restBelow]
    rfl

theorem member?_cons_self : member? name ((name, v) :: members) = some v := by
  simp [member?]

theorem member?_cons_of_ne (different : other ≠ name) :
    member? name ((other, w) :: members) = member? name members := by
  rw [member?, List.find?_cons_of_neg (by simpa using different)]
  rfl

/-- The member that is put in its place is found, and so are all others. -/
theorem member?_insertMember :
    member? other (insertMember name v members) =
      if other = name then some v else member? other members := by
  induction members with
  | nil =>
    rw [insertMember]
    split
    · rename_i same
      rw [same, member?_cons_self]
    · rename_i different
      exact member?_cons_of_ne (Ne.symm different)
  | cons first rest ih =>
    obtain ⟨old, w⟩ := first
    by_cases same : other = name
    · subst same
      rw [insertMember, if_pos rfl]
      split
      · exact member?_cons_self
      · split
        · exact member?_cons_self
        · rename_i different
          rw [member?_cons_of_ne (Ne.symm different), ih, if_pos rfl]
    · rw [insertMember, if_neg same]
      rw [if_neg same] at ih
      split
      · exact member?_cons_of_ne (Ne.symm same)
      · split
        · rename_i isOld
          subst isOld
          rw [member?_cons_of_ne (Ne.symm same), member?_cons_of_ne (Ne.symm same)]
        · by_cases found : other = old
          · subst found
            rw [member?_cons_self, member?_cons_self]
          · rw [member?_cons_of_ne (Ne.symm found), member?_cons_of_ne (Ne.symm found), ih]

/-! ## All members -/

/-- The last member is inserted into the others once they are sorted, and replaces one of its name.
-/
theorem sortMembers_concat (m : String × Value) :
    sortMembers (members ++ [m]) = insertMember m.1 m.2 (sortMembers members) := by
  rw [sortMembers, List.foldl_append]
  rfl

/-- Sorted members have ascending names, so that no name occurs twice. -/
theorem ascending_sortMembers (members : List (String × Value)) :
    Ascending (sortMembers members) := by
  induction members using List.reverseRecOn with
  | nil => exact List.Pairwise.nil
  | append_singleton front m ih =>
    rw [sortMembers_concat]
    exact ih.insertMember

theorem mem_of_mem_sortMembers {m : String × Value} (inside : m ∈ sortMembers members) :
    m ∈ members := by
  induction members using List.reverseRecOn with
  | nil => exact inside
  | append_singleton front last ih =>
    rw [sortMembers_concat] at inside
    rcases mem_insertMember inside with rfl | old
    · exact List.mem_append_right _ (List.mem_singleton_self _)
    · exact List.mem_append_left _ (ih old)

theorem sortMembers_of_ascending (ascending : Ascending members) :
    sortMembers members = members := by
  induction members using List.reverseRecOn with
  | nil => rfl
  | append_singleton front m ih =>
    rw [Ascending, List.map_append, List.pairwise_append] at ascending
    obtain ⟨inFront, -, below⟩ := ascending
    rw [sortMembers_concat, ih inFront]
    exact insertMember_of_forall_lt fun n mem =>
      below n.1 (List.mem_map_of_mem mem) m.1 List.mem_cons_self

/-- Of several members with a name, the last one is found when they are sorted. -/
theorem member?_sortMembers_eq_reverse :
    member? name (sortMembers members) = member? name members.reverse := by
  induction members using List.reverseRecOn with
  | nil => rfl
  | append_singleton front m ih =>
    obtain ⟨last, v⟩ := m
    rw [sortMembers_concat, member?_insertMember, ih, List.reverse_append, List.reverse_singleton,
      List.singleton_append]
    split
    · rename_i same
      rw [same, member?_cons_self]
    · rename_i different
      rw [member?_cons_of_ne (Ne.symm different)]

/-- Where names are distinct, looking a name up finds exactly the member that has it. -/
theorem member?_eq_some_iff (distinct : (members.map Prod.fst).Nodup) :
    member? name members = some v ↔ (name, v) ∈ members := by
  induction members with
  | nil => exact ⟨nofun, nofun⟩
  | cons first rest ih =>
    obtain ⟨old, w⟩ := first
    obtain ⟨notAgain, restDistinct⟩ := List.nodup_cons.mp distinct
    by_cases same : old = name
    · subst same
      rw [member?_cons_self, List.mem_cons]
      constructor
      · rintro ⟨⟩
        exact .inl rfl
      · rintro (isFirst | again)
        · cases isFirst
          rfl
        · exact absurd (List.mem_map_of_mem again) notAgain
    · have notFirst : (name, v) ≠ (old, w) := fun isFirst => same (congrArg Prod.fst isFirst).symm
      rw [member?_cons_of_ne same, ih restDistinct, List.mem_cons, or_iff_right notFirst]

/-- Where no name comes twice, the same is found in the sorted members as in the given ones. -/
theorem member?_sortMembers (distinct : (members.map Prod.fst).Nodup) :
    member? name (sortMembers members) = member? name members := by
  have reversed : (members.reverse.map Prod.fst).Nodup := by
    rw [List.map_reverse, List.nodup_reverse]
    exact distinct
  ext v
  rw [member?_sortMembers_eq_reverse, member?_eq_some_iff reversed, member?_eq_some_iff distinct,
    List.mem_reverse]

end GridBeans.Json
