import GridBeans.Generation.Script
import Mathlib.Data.List.Nodup

/-!
# Registries

Registering only ever adds data sources at the end, and never one whose bean id is taken. So the
registry of a list of data sources holds the first one of each bean id, in the order of the list.
-/
namespace GridBeans.Generation

/-- The first data source of each bean id, in order. -/
def firstById : List DataSource → List DataSource
  | [] => []
  | s :: rest => s :: (firstById rest).filter fun t => t.beanId ≠ s.beanId

/-- No two data sources of a registry have one bean id. -/
def Registry.Distinct (r : Registry) : Prop :=
  (r.sources.map DataSource.beanId).Nodup

theorem Registry.contains_iff (r : Registry) (beanId : String) :
    r.contains beanId = true ↔ beanId ∈ r.sources.map DataSource.beanId := by
  simp [Registry.contains]

/-! ## One data source -/

theorem Registry.isPrefix_register (r : Registry) (s : DataSource) :
    r.sources <+: (r.register s).sources := by
  rw [Registry.register]
  split
  · exact List.prefix_rfl
  · exact List.prefix_append r.sources [s]

/-- Registering keeps bean ids distinct, since an id that is there is not added again. -/
theorem Registry.Distinct.register {r : Registry} (distinct : r.Distinct) (s : DataSource) :
    (r.register s).Distinct := by
  rw [Registry.register]
  split
  · exact distinct
  · rename_i free
    rw [Registry.contains_iff] at free
    have apart : (r.sources.map DataSource.beanId).Disjoint [s.beanId] :=
      List.disjoint_singleton.mpr free
    simpa [Registry.Distinct] using distinct.append (List.nodup_singleton s.beanId) apart

/-! ## Lists of data sources -/

theorem Registry.isPrefix_registerAll (r : Registry) (sources : List DataSource) :
    r.sources <+: (r.registerAll sources).sources := by
  induction sources generalizing r with
  | nil => exact List.prefix_rfl
  | cons s rest ih => exact (r.isPrefix_register s).trans (ih (r.register s))

theorem Registry.Distinct.registerAll {r : Registry} (distinct : r.Distinct)
    (sources : List DataSource) : (r.registerAll sources).Distinct := by
  induction sources generalizing r with
  | nil => exact distinct
  | cons s rest ih => exact ih (distinct.register s)

/-- What is registered goes behind what was there, less the bean ids that were taken. -/
theorem Registry.registerAll_sources (r : Registry) (sources : List DataSource) :
    (r.registerAll sources).sources =
      r.sources ++ (firstById sources).filter fun s => !r.contains s.beanId := by
  induction sources generalizing r with
  | nil => exact (List.append_nil r.sources).symm
  | cons s rest ih =>
    have step : r.registerAll (s :: rest) = (r.register s).registerAll rest := rfl
    rw [step, ih, firstById, List.filter_cons, List.filter_filter]
    have same : ∀ t : DataSource, (!(r.register s).contains t.beanId) =
        (!r.contains t.beanId && decide (t.beanId ≠ s.beanId)) := by
      intro t
      rw [Registry.contains_register]
      by_cases equal : t.beanId = s.beanId
      · simp [equal]
      · simp [equal, Ne.symm equal]
    simp only [same]
    by_cases taken : r.contains s.beanId = true
    · simp [Registry.register, taken]
    · simp [Registry.register, taken]

/-- The registry of a list alone. -/
theorem Registry.registerAll_empty (sources : List DataSource) :
    (Registry.empty.registerAll sources).sources = firstById sources := by
  simp [Registry.registerAll_sources, Registry.empty, Registry.contains]

/-- First occurrences have distinct bean ids, by induction from the front. -/
theorem firstById_distinct (sources : List DataSource) :
    ((firstById sources).map DataSource.beanId).Nodup := by
  have empty : Registry.empty.Distinct := List.nodup_nil
  rw [← Registry.registerAll_empty]
  exact empty.registerAll sources

theorem firstById_sublist (sources : List DataSource) : (firstById sources).Sublist sources := by
  induction sources with
  | nil => exact .slnil
  | cons s rest ih => exact (List.filter_sublist.trans ih).cons_cons s

theorem firstById_eq_nil_iff (sources : List DataSource) :
    firstById sources = [] ↔ sources = [] := by
  cases sources with
  | nil => simp [firstById]
  | cons s rest => simp [firstById]

/-- No bean id is lost when only the first occurrences are kept. -/
theorem mem_ids_firstById (sources : List DataSource) (beanId : String) :
    beanId ∈ (firstById sources).map DataSource.beanId ↔
      beanId ∈ sources.map DataSource.beanId := by
  induction sources with
  | nil => rfl
  | cons s rest ih =>
    rw [firstById, List.map_cons, List.map_cons, List.mem_cons, List.mem_cons, ← ih]
    by_cases same : beanId = s.beanId
    · simp [same]
    · have kept : beanId ∈ ((firstById rest).filter fun t => t.beanId ≠ s.beanId).map
          DataSource.beanId ↔ beanId ∈ (firstById rest).map DataSource.beanId := by
        simp only [List.mem_map, List.mem_filter, decide_eq_true_eq]
        constructor
        · rintro ⟨t, ⟨mem, -⟩, named⟩
          exact ⟨t, mem, named⟩
        · rintro ⟨t, mem, rfl⟩
          exact ⟨t, ⟨mem, same⟩, rfl⟩
      rw [kept]

/-- Of the data sources with one bean id, exactly the first is kept. -/
theorem filter_firstById {sources : List DataSource} {beanId : String} {first : DataSource}
    (found : sources.find? (fun s => s.beanId = beanId) = some first) :
    (firstById sources).filter (fun s => s.beanId = beanId) = [first] := by
  induction sources with
  | nil => cases found
  | cons s rest ih =>
    rw [firstById, List.filter_cons, List.filter_filter]
    by_cases same : s.beanId = beanId
    · have nothingElse : (firstById rest).filter
          (fun t => decide (t.beanId = beanId) && decide (t.beanId ≠ s.beanId)) = [] := by
        simp [same]
      rw [List.find?_cons_of_pos (by simpa using same)] at found
      rw [if_pos (by simpa using same), nothingElse, Option.some.inj found]
    · have othersStay : ∀ t : DataSource,
          (decide (t.beanId = beanId) && decide (t.beanId ≠ s.beanId)) =
            decide (t.beanId = beanId) := by
        intro t
        by_cases equal : t.beanId = beanId
        · simp [equal, Ne.symm same]
        · simp [equal]
      rw [List.find?_cons_of_neg (by simpa using same)] at found
      simp only [othersStay]
      simpa [same] using ih found

end GridBeans.Generation
