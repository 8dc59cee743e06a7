import GridBeans.Config.Members
import GridBeans.Generation.ShapedBean
import GridBeans.Text.Blank

/-!
# Marshaller and swap space

The beans of the chosen marshaller and swap space of a node. Their sections may be missing: the
bean is then written without content.
-/
namespace GridBeans.Generation

open GridBeans.Config

inductive MarshallerKind where
  | optimized | jdk
  deriving DecidableEq, Repr

namespace MarshallerKind

def all : List MarshallerKind := [.optimized, .jdk]

def name : MarshallerKind → String
  | .optimized => "OptimizedMarshaller"
  | .jdk => "JdkMarshaller"

def shape : MarshallerKind → BeanShape
  | .optimized => .optimizedMarshaller
  | .jdk => .jdkMarshaller

/-- The settings given for a kind. -/
def settings (k : MarshallerKind) (m : MarshallerConfig) : List (String × Json.Value) :=
  match k with
  | .optimized => membersOf m.optimized
  | .jdk => membersOf m.jdk

def ofName (kind : String) : Except Failure MarshallerKind :=
  match all.find? (·.name == kind) with
  | some k => .ok k
  | none => .error (.unknownKind .marshaller kind)

end MarshallerKind

/-- The marshaller. Says whether one is chosen. -/
def marshaller (config : Option MarshallerConfig) : Script Bool :=
  match config with
  | none => pure false
  | some m =>
    match Text.nonEmpty? m.kind with
    | none => pure false
    | some name => do
      let kind ← Script.ofExcept (MarshallerKind.ofName name)
      shapedBean "marshaller" kind.shape (kind.settings m) true
      pure true

/-- The only kind of swap space. -/
def fileSwapSpaceKind : String := "FileSwapSpaceSpi"

/-- The swap space. Says whether one is chosen. -/
def swapSpace (config : Option SwapSpaceSpiConfig) : Script Bool :=
  match config with
  | none => pure false
  | some s =>
    match Text.nonEmpty? s.kind with
    | none => pure false
    | some kind =>
      if kind = fileSwapSpaceKind then do
        shapedBean "swapSpaceSpi" .fileSwapSpaceSpi (membersOf s.file) true
        pure true
      else Script.fail (.unknownKind .swapSpace kind)

end GridBeans.Generation
