/-!
# Known classes

Short names that stand for classes: those of the Java library that are common as key, value and
field types, and those of database dialects, which also name the class of a pooled data source.
A name that is not known is taken to be the full name of a class already.
-/
namespace GridBeans.Catalogue

/-- A class with the short name it goes by. -/
structure KnownClass where
  short : String
  qualified : String
  deriving DecidableEq, Repr

structure Dialect where
  short : String
  qualified : String
  dataSource : String
  deriving DecidableEq, Repr

def javaClasses : List KnownClass := [
  ⟨"BigDecimal", "java.math.BigDecimal"⟩,
  ⟨"Boolean", "java.lang.Boolean"⟩,
  ⟨"Byte", "java.lang.Byte"⟩,
  ⟨"Date", "java.sql.Date"⟩,
  ⟨"Double", "java.lang.Double"⟩,
  ⟨"Float", "java.lang.Float"⟩,
  ⟨"Integer", "java.lang.Integer"⟩,
  ⟨"Long", "java.lang.Long"⟩,
  ⟨"Short", "java.lang.Short"⟩,
  ⟨"String", "java.lang.String"⟩,
  ⟨"Time", "java.sql.Time"⟩,
  ⟨"Timestamp", "java.sql.Timestamp"⟩,
  ⟨"UUID", "java.util.UUID"⟩]

def dialects : List Dialect := [
  ⟨"Oracle",
    "org.apache.ignite.cache.store.jdbc.dialect.OracleDialect",
    "oracle.jdbc.pool.OracleDataSource"⟩,
  ⟨"DB2",
    "org.apache.ignite.cache.store.jdbc.dialect.DB2Dialect",
    "com.ibm.db2.jcc.DB2ConnectionPoolDataSource"⟩,
  ⟨"SQLServer",
    "org.apache.ignite.cache.store.jdbc.dialect.SQLServerDialect",
    "com.microsoft.sqlserver.jdbc.SQLServerDataSource"⟩,
  ⟨"MySQL",
    "org.apache.ignite.cache.store.jdbc.dialect.MySQLDialect",
    "com.mysql.jdbc.jdbc2.optional.MysqlDataSource"⟩,
  ⟨"PostgreSQL",
    "org.apache.ignite.cache.store.jdbc.dialect.BasicJdbcDialect",
    "org.postgresql.ds.PGPoolingDataSource"⟩,
  ⟨"H2",
    "org.apache.ignite.cache.store.jdbc.dialect.H2Dialect",
    "org.h2.jdbcx.JdbcDataSource"⟩]

/-- All short names with the classes they stand for. -/
def knownClasses : List KnownClass :=
  javaClasses ++ dialects.map fun d => ⟨d.short, d.qualified⟩

/-- The full name of the class that a name stands for. -/
def resolveClassName (name : String) : String :=
  match knownClasses.find? fun c => c.short == name with
  | some c => c.qualified
  | none => name

/-- The short or the full name of a Java library class of the list. -/
def isJavaClass (name : String) : Bool :=
  javaClasses.any fun c => c.short == name || c.qualified == name

/-- The class of the pooled data source for a dialect; none if the dialect is not known. -/
def dataSourceClass? (dialect : String) : Option String :=
  (dialects.find? fun d => d.short == dialect).map Dialect.dataSource

end GridBeans.Catalogue
