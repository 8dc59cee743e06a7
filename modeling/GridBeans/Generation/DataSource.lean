/-!
# Data sources

The data sources that the stores of a cluster refer to, each declared once. A bean id keeps the
class it was first registered with.
-/
namespace GridBeans.Generation

structure DataSource where
  beanId : String
  className : String
  deriving DecidableEq, Repr

/-- The data sources registered so far, in the order of their first registration. -/
structure Registry where
  sources : List DataSource
  deriving DecidableEq, Repr

def Registry.empty : Registry := ⟨[]⟩

/-- A data source with this bean id is registered. -/
def Registry.contains (r : Registry) (beanId : String) : Bool :=
  r.sources.any (·.beanId == beanId)

/-- Adds a data source at the end, unless its bean id is taken. -/
def Registry.register (r : Registry) (s : DataSource) : Registry :=
  if r.contains s.beanId then r else ⟨r.sources ++ [s]⟩

theorem Registry.contains_register (r : Registry) (s : DataSource) (beanId : String) :
    (r.register s).contains beanId = (r.contains beanId || s.beanId == beanId) := by
  unfold Registry.register
  split
  · rename_i taken
    by_cases same : s.beanId = beanId
    · subst same
      simp [taken]
    · simp [same]
  · simp [Registry.contains]

/-- Adds data sources in order. -/
def Registry.registerAll (r : Registry) (sources : List DataSource) : Registry :=
  sources.foldl Registry.register r

end GridBeans.Generation
