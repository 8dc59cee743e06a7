import GridBeans.Generation.EvictionPolicy
import GridBeans.Generation.IpFinder

/-!
# Cache stores

The bean of the chosen store factory. A factory that maps objects to tables and names a dialect
also needs the data source of that dialect, which it registers after the bean is written.
-/
namespace GridBeans.Generation

open GridBeans.Config

inductive StoreKind where
  | jdbcPojo | jdbcBlob | hibernateBlob
  deriving DecidableEq, Repr

namespace StoreKind

def all : List StoreKind := [.jdbcPojo, .jdbcBlob, .hibernateBlob]

def name : StoreKind → String
  | .jdbcPojo => "CacheJdbcPojoStoreFactory"
  | .jdbcBlob => "CacheJdbcBlobStoreFactory"
  | .hibernateBlob => "CacheHibernateBlobStoreFactory"

def shape : StoreKind → BeanShape
  | .jdbcPojo => .jdbcPojoStoreFactory
  | .jdbcBlob => .jdbcBlobStoreFactory
  | .hibernateBlob => .hibernateBlobStoreFactory

def ofName (kind : String) : Except Failure StoreKind :=
  match all.find? (·.name == kind) with
  | some k => .ok k
  | none => .error (.unknownKind .storeFactory kind)

end StoreKind

/-- The data source that a factory with a dialect needs; none without a dialect. -/
def dataSourceOf (f : JdbcPojoStoreFactory) : Except Failure (Option DataSource) :=
  match Text.nonEmpty? f.dialect with
  | none => .ok none
  | some dialect =>
    match Catalogue.dataSourceClass? dialect with
    | none => .error (.unknownKind .dialect dialect)
    | some className =>
      match Text.nonEmpty? f.dataSourceBean with
      | none => .error (.missingField StoreKind.jdbcPojo.name "dataSourceBean")
      | some beanId => .ok (some ⟨beanId, className⟩)

def storeFactoryBean {α : Type} [HasMembers α] (kind : StoreKind) (settings : α) :
    Script Unit :=
  shapedBean "cacheStoreFactory" kind.shape (HasMembers.members settings) true

/-- Writes the factory of a kind and registers what it needs. -/
def storeFactoryOf (kind : StoreKind) (f : StoreFactoryConfig) : Script Unit :=
  match kind with
  | .jdbcPojo => do
    let settings ← Script.ofExcept (requiredSection .storeFactory kind.name f.jdbcPojo)
    storeFactoryBean kind settings
    let source ← Script.ofExcept (dataSourceOf settings)
    Script.forSome source Script.register
  | .jdbcBlob => do
    let settings ← Script.ofExcept (requiredSection .storeFactory kind.name f.jdbcBlob)
    storeFactoryBean kind settings
  | .hibernateBlob => do
    let settings ← Script.ofExcept (requiredSection .storeFactory kind.name f.hibernateBlob)
    storeFactoryBean kind settings

/-- The store factory. Says whether one is chosen. -/
def storeFactory (factory : Option StoreFactoryConfig) : Script Bool :=
  match factory with
  | none => pure false
  | some f =>
    match Text.nonEmpty? f.kind with
    | none => pure false
    | some name => do
      let kind ← Script.ofExcept (StoreKind.ofName name)
      storeFactoryOf kind f
      pure true

end GridBeans.Generation
