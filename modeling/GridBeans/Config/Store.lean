import GridBeans.Document.Reader

/-!
# Cache stores

The factory of the store behind a cache.
-/
namespace GridBeans.Config

open GridBeans.Document

/-- Objects are mapped to tables of a data source. -/
structure JdbcPojoStoreFactory where
  dataSourceBean : Option String
  dialect : Option String
  deriving DecidableEq, Repr

def JdbcPojoStoreFactory.schema {ν : Type} [Source ν] : Fields ν JdbcPojoStoreFactory :=
  JdbcPojoStoreFactory.mk
    <$> optional "dataSourceBean" text
    <*> (optional "dialect" text).noted "Short dialect name, e.g. `Oracle` or `MySQL`."

def JdbcPojoStoreFactory.codec {ν : Type} [Source ν] : Codec ν JdbcPojoStoreFactory :=
  record "JdbcPojoStoreFactory" JdbcPojoStoreFactory.schema

/-- Entries are kept as binary objects in one table. -/
structure JdbcBlobStoreFactory where
  user : Option String
  dataSourceBean : Option String
  initSchema : Option Bool
  createTableQuery : Option String
  loadQuery : Option String
  insertQuery : Option String
  updateQuery : Option String
  deleteQuery : Option String
  deriving DecidableEq, Repr

def JdbcBlobStoreFactory.schema {ν : Type} [Source ν] : Fields ν JdbcBlobStoreFactory :=
  JdbcBlobStoreFactory.mk
    <$> optional "user" text
    <*> optional "dataSourceBean" text
    <*> optional "initSchema" bool
    <*> optional "createTableQuery" text
    <*> optional "loadQuery" text
    <*> optional "insertQuery" text
    <*> optional "updateQuery" text
    <*> optional "deleteQuery" text

def JdbcBlobStoreFactory.codec {ν : Type} [Source ν] : Codec ν JdbcBlobStoreFactory :=
  record "JdbcBlobStoreFactory" JdbcBlobStoreFactory.schema

/-- Entries are kept through an object mapper with its own properties. -/
structure HibernateBlobStoreFactory where
  hibernateProperties : List String
  deriving DecidableEq, Repr

def HibernateBlobStoreFactory.schema {ν : Type} [Source ν] :
    Fields ν HibernateBlobStoreFactory :=
  HibernateBlobStoreFactory.mk
    <$> ((listed "hibernateProperties" text).withoutDefault).noted "`key=value` strings."

def HibernateBlobStoreFactory.codec {ν : Type} [Source ν] : Codec ν HibernateBlobStoreFactory :=
  record "HibernateBlobStoreFactory" HibernateBlobStoreFactory.schema

/-- The factory by name, and the section of each one. -/
structure StoreFactoryConfig where
  kind : Option String
  jdbcPojo : Option JdbcPojoStoreFactory
  jdbcBlob : Option JdbcBlobStoreFactory
  hibernateBlob : Option HibernateBlobStoreFactory
  deriving DecidableEq, Repr

def StoreFactoryConfig.schema {ν : Type} [Source ν] : Fields ν StoreFactoryConfig :=
  StoreFactoryConfig.mk
    <$> optional "kind" text
    <*> optional "CacheJdbcPojoStoreFactory" JdbcPojoStoreFactory.codec
    <*> optional "CacheJdbcBlobStoreFactory" JdbcBlobStoreFactory.codec
    <*> optional "CacheHibernateBlobStoreFactory" HibernateBlobStoreFactory.codec

def StoreFactoryConfig.codec {ν : Type} [Source ν] : Codec ν StoreFactoryConfig :=
  record "StoreFactoryConfig" StoreFactoryConfig.schema

end GridBeans.Config
