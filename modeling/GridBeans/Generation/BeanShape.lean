/-!
# Bean shapes

Beans that are written from a table of their fields: the class, and for each field the way its
value is written and the property it sets.
-/
namespace GridBeans.Generation

/-- How the value of a field is written. -/
inductive FieldKind where
  /-- As the value of the property. -/
  | scalar
  /-- As a list of values. -/
  | list
  /-- As a bean without content, the value being the name of its class. -/
  | classNameRef
  /-- As properties, each item being a key and a value around an equals sign. -/
  | propertyBag
  deriving DecidableEq, Repr

structure FieldShape where
  name : String
  kind : FieldKind
  /-- The property, where it is not named like the field. -/
  setter : Option String
  deriving DecidableEq, Repr

structure BeanShape where
  className : String
  fields : List FieldShape
  deriving DecidableEq, Repr

/-- The property that a field sets. -/
def FieldShape.propertyName (f : FieldShape) : String :=
  f.setter.getD f.name

/-- A field whose value is the value of the property of the same name. -/
def scalarField (name : String) : FieldShape :=
  ⟨name, .scalar, none⟩

namespace BeanShape

def atomicConfiguration : BeanShape :=
  ⟨"org.apache.ignite.configuration.AtomicConfiguration",
    [scalarField "backups", scalarField "cacheMode", scalarField "atomicSequenceReserveSize"]⟩

def transactionConfiguration : BeanShape :=
  ⟨"org.apache.ignite.configuration.TransactionConfiguration",
    [scalarField "defaultTxConcurrency",
      ⟨"transactionIsolation", .scalar, some "defaultTxIsolation"⟩,
      scalarField "defaultTxTimeout", scalarField "pessimisticTxLogLinger",
      scalarField "pessimisticTxLogSize", scalarField "txSerializableEnabled"]⟩

def fileSwapSpaceSpi : BeanShape :=
  ⟨"org.apache.ignite.spi.swapspace.file.FileSwapSpaceSpi",
    [scalarField "baseDirectory", scalarField "readStripesNumber",
      scalarField "maximumSparsity", scalarField "maxWriteQueueSize",
      scalarField "writeBufferSize"]⟩

def evictionFields : List FieldShape :=
  [scalarField "batchSize", scalarField "maxMemorySize", scalarField "maxSize"]

def lruEvictionPolicy : BeanShape :=
  ⟨"org.apache.ignite.cache.eviction.lru.LruEvictionPolicy", evictionFields⟩

def randomEvictionPolicy : BeanShape :=
  ⟨"org.apache.ignite.cache.eviction.random.RandomEvictionPolicy", [scalarField "maxSize"]⟩

def fifoEvictionPolicy : BeanShape :=
  ⟨"org.apache.ignite.cache.eviction.fifo.FifoEvictionPolicy", evictionFields⟩

def sortedEvictionPolicy : BeanShape :=
  ⟨"org.apache.ignite.cache.eviction.sorted.SortedEvictionPolicy", evictionFields⟩

def optimizedMarshaller : BeanShape :=
  ⟨"org.apache.ignite.marshaller.optimized.OptimizedMarshaller",
    [scalarField "poolSize", scalarField "requireSerializable"]⟩

def jdkMarshaller : BeanShape :=
  ⟨"org.apache.ignite.marshaller.jdk.JdkMarshaller", []⟩

def jdbcPojoStoreFactory : BeanShape :=
  ⟨"org.apache.ignite.cache.store.jdbc.CacheJdbcPojoStoreFactory",
    [scalarField "dataSourceBean", ⟨"dialect", .classNameRef, none⟩]⟩

def jdbcBlobStoreFactory : BeanShape :=
  ⟨"org.apache.ignite.cache.store.jdbc.CacheJdbcBlobStoreFactory",
    [scalarField "user", scalarField "dataSourceBean", scalarField "initSchema",
      scalarField "createTableQuery", scalarField "loadQuery", scalarField "insertQuery",
      scalarField "updateQuery", scalarField "deleteQuery"]⟩

def hibernateBlobStoreFactory : BeanShape :=
  ⟨"org.apache.ignite.cache.store.hibernate.CacheHibernateBlobStoreFactory",
    [⟨"hibernateProperties", .propertyBag, none⟩]⟩

end BeanShape

end GridBeans.Generation
