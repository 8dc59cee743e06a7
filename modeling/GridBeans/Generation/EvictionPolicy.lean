import GridBeans.Config.Members
import GridBeans.Generation.ShapedBean
import GridBeans.Text.Blank

/-!
# Eviction policies

The bean of the chosen eviction policy. Only the limits of the chosen policy are read.
-/
namespace GridBeans.Generation

open GridBeans.Config

inductive EvictionKind where
  | lru | random | fifo | sorted
  deriving DecidableEq, Repr

namespace EvictionKind

def all : List EvictionKind := [.lru, .random, .fifo, .sorted]

def name : EvictionKind → String
  | .lru => "LRU"
  | .random => "RND"
  | .fifo => "FIFO"
  | .sorted => "SORTED"

def shape : EvictionKind → BeanShape
  | .lru => .lruEvictionPolicy
  | .random => .randomEvictionPolicy
  | .fifo => .fifoEvictionPolicy
  | .sorted => .sortedEvictionPolicy

/-- The limits given for a kind. -/
def limits (k : EvictionKind) (p : EvictionPolicyConfig) : Option EvictionPolicyFields :=
  match k with
  | .lru => p.lru
  | .random => p.rnd
  | .fifo => p.fifo
  | .sorted => p.sorted

def ofName (kind : String) : Except Failure EvictionKind :=
  match all.find? (·.name == kind) with
  | some k => .ok k
  | none => .error (.unknownKind .evictionPolicy kind)

end EvictionKind

/-- The eviction policy under a property name. Says whether a policy is chosen. -/
def evictionPolicy (policy : Option EvictionPolicyConfig) (propertyName : String) :
    Script Bool :=
  match policy with
  | none => pure false
  | some p =>
    match Text.nonEmpty? p.kind with
    | none => pure false
    | some name => do
      let kind ← Script.ofExcept (EvictionKind.ofName name)
      shapedBean propertyName kind.shape (membersOf (kind.limits p)) true
      pure true

end GridBeans.Generation
