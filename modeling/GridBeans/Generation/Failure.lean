/-!
# Failures of generation

Why no configuration can be generated for a description that could be read.
-/
namespace GridBeans.Generation

/-- A place of the description in which a kind is chosen by name. -/
inductive Slot where
  | discovery | evictionPolicy | storeFactory | marshaller | swapSpace | dialect
  deriving DecidableEq, Repr

inductive Failure where
  /-- The name is none of the kinds of the slot. -/
  | unknownKind (slot : Slot) (kind : String)
  /-- The chosen kind needs a section of settings that is not given. -/
  | missingSection (slot : Slot) (kind : String)
  /-- A section lacks a field that another field of it calls for. -/
  | missingField (bean field : String)
  | unknownEventGroup (name : String)
  deriving DecidableEq, Repr

def Slot.label : Slot → String
  | .discovery => "discovery"
  | .evictionPolicy => "eviction policy"
  | .storeFactory => "store factory"
  | .marshaller => "marshaller"
  | .swapSpace => "swap space SPI"
  | .dialect => "dialect"

def Failure.message : Failure → String
  | .unknownKind slot kind => "unknown " ++ slot.label ++ " kind: " ++ kind
  | .missingSection slot kind =>
    slot.label ++ " kind " ++ kind ++ " requires a `" ++ kind ++ "` section"
  | .missingField bean field => bean ++ " requires `" ++ field ++ "`"
  | .unknownEventGroup name => "unknown event group: " ++ name

end GridBeans.Generation
