import GridBeans.Config.Eviction
import GridBeans.Config.Node
import GridBeans.Config.Store

/-!
# Settings as JSON members

The settings of the records that are written as beans from a shape, as the members of a JSON
object: a setting that is not given has no member, and a number that JSON cannot write is null.
-/
namespace GridBeans.Config

open GridBeans.Decimal (Double)
open GridBeans.Json

/-- A record whose settings are the members of an object. -/
class HasMembers (α : Type) where
  members : α → List (String × Value)

def textMember (name : String) (value : Option String) : List (String × Value) :=
  value.toList.map fun text => (name, .string text)

def integerMember (name : String) (value : Option Int) : List (String × Value) :=
  value.toList.map fun i => (name, .number (.integer i))

def boolMember (name : String) (value : Option Bool) : List (String × Value) :=
  value.toList.map fun b => (name, .bool b)

def doubleMember (name : String) (value : Option Double) : List (String × Value) :=
  value.toList.map fun d => (name, if d.isFinite then .number (.double d) else .null)

/-- The member of a list of texts, left out if the list is empty. -/
def textsMember (name : String) (texts : List String) : List (String × Value) :=
  if texts.isEmpty then [] else [(name, .array (texts.map .string))]

instance : HasMembers AtomicConfiguration where
  members a :=
    integerMember "backups" a.backups ++ textMember "cacheMode" a.cacheMode ++
      integerMember "atomicSequenceReserveSize" a.atomicSequenceReserveSize

instance : HasMembers TransactionConfiguration where
  members t :=
    textMember "defaultTxConcurrency" t.defaultTxConcurrency ++
      textMember "transactionIsolation" t.transactionIsolation ++
      integerMember "defaultTxTimeout" t.defaultTxTimeout ++
      integerMember "pessimisticTxLogLinger" t.pessimisticTxLogLinger ++
      integerMember "pessimisticTxLogSize" t.pessimisticTxLogSize ++
      boolMember "txSerializableEnabled" t.txSerializableEnabled

instance : HasMembers OptimizedMarshaller where
  members m :=
    integerMember "poolSize" m.poolSize ++ boolMember "requireSerializable" m.requireSerializable

instance : HasMembers JdkMarshaller where
  members _ := []

instance : HasMembers FileSwapSpaceSpi where
  members s :=
    textMember "baseDirectory" s.baseDirectory ++
      integerMember "readStripesNumber" s.readStripesNumber ++
      doubleMember "maximumSparsity" s.maximumSparsity ++
      integerMember "maxWriteQueueSize" s.maxWriteQueueSize ++
      integerMember "writeBufferSize" s.writeBufferSize

instance : HasMembers EvictionPolicyFields where
  members p :=
    integerMember "batchSize" p.batchSize ++ integerMember "maxMemorySize" p.maxMemorySize ++
      integerMember "maxSize" p.maxSize

instance : HasMembers JdbcPojoStoreFactory where
  members f :=
    textMember "dataSourceBean" f.dataSourceBean ++ textMember "dialect" f.dialect

instance : HasMembers JdbcBlobStoreFactory where
  members f :=
    textMember "user" f.user ++ textMember "dataSourceBean" f.dataSourceBean ++
      boolMember "initSchema" f.initSchema ++
      textMember "createTableQuery" f.createTableQuery ++ textMember "loadQuery" f.loadQuery ++
      textMember "insertQuery" f.insertQuery ++ textMember "updateQuery" f.updateQuery ++
      textMember "deleteQuery" f.deleteQuery

instance : HasMembers HibernateBlobStoreFactory where
  members f := textsMember "hibernateProperties" f.hibernateProperties

/-- The members of settings that may not be given. -/
def membersOf {α : Type} [HasMembers α] : Option α → List (String × Value)
  | none => []
  | some a => HasMembers.members a

end GridBeans.Config
