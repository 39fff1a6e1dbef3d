import AnchorRegistry.DatabaseUrl.Basic

/-! Drivers. A scheme is a database system and, after a plus, one of its drivers. Of the drivers that are
known only those that come with the service are there to be used. A system also keeps names for its column
types, its constructs and its inner parts: after the plus they name no driver, although the system knows
them. -/

namespace AnchorRegistry.DatabaseUrl

/-- A driver of a database system. -/
structure Driver where
  name : Text
  isAsync : Bool := false
  isInstalled : Bool := false
deriving DecidableEq

/-- The known systems with their drivers, the default one first. -/
def drivers : List (Text × List Driver) :=
  let mysql : List Driver :=
    [{ name := "mysqldb" }, { name := "aiomysql", isAsync := true },
      { name := "asyncmy", isAsync := true }, { name := "cymysql" }, { name := "mariadbconnector" },
      { name := "mysqlconnector" }, { name := "pymysql" }, { name := "pyodbc" }]
  [("sqlite",
      [{ name := "pysqlite", isInstalled := true },
        { name := "aiosqlite", isAsync := true, isInstalled := true }, { name := "pysqlcipher" }]),
    ("postgresql",
      [{ name := "psycopg" }, { name := "asyncpg", isAsync := true, isInstalled := true },
        { name := "psycopg_async", isAsync := true }, { name := "psycopg2" }, { name := "psycopg2cffi" },
        { name := "pg8000" }]),
    ("mysql", mysql), ("mariadb", mysql),
    ("oracle",
      [{ name := "oracledb" }, { name := "oracledb_async", isAsync := true }, { name := "cx_oracle" }]),
    ("mssql",
      [{ name := "pyodbc" }, { name := "aioodbc", isAsync := true }, { name := "pymssql" },
        { name := "mssqlpython" }])]

/-- The default driver also answers to this name. -/
def defaultName : Text := "base"

def known? (system name : Text) : Option Driver :=
  match (drivers.find? fun (known, _) => known = system).map (·.2) with
  | none => none
  | some known => if name = defaultName then known.head? else known.find? fun d => d.name = name

def words (lines : List Text) : List Text := lines.flatMap fun line => line.splitOn ' '

/-- Names kept by every system, each between two pairs of underscores. -/
def commonNames : List Text :=
  (words
    ["all annotations builtins cached class delattr dict dir doc eq file format ge getattribute",
     "getstate gt hash init init_subclass le loader lt name ne new package path reduce reduce_ex",
     "repr setattr sizeof spec str subclasshook"]).map fun name =>
      ("__" : Text) ++ name ++ ("__" : Text)

def reservedNames : List (Text × List Text) :=
  [("sqlite", commonNames ++ words
      ["json dml dialect BLOB BOOLEAN CHAR DATE DATETIME DECIMAL FLOAT INTEGER JSON JSONB NUMERIC",
       "REAL SMALLINT TEXT TIME TIMESTAMP VARCHAR Insert insert"]),
    ("postgresql", commonNames ++ words
      ["arraylib array dml ext hstore json named_types operators pg_catalog ranges types",
       "bitstring _psycopg_common dialect ModuleType All Any ARRAY BIGINT BIT BOOLEAN BYTEA",
       "BitString CHAR CIDR CITEXT CreateDomainType CreateEnumType DATE DATEMULTIRANGE DATERANGE",
       "DOMAIN DOUBLE_PRECISION DropDomainType DropEnumType ENUM ExcludeConstraint FLOAT HSTORE",
       "INET INT4MULTIRANGE INT4RANGE INT8MULTIRANGE INT8RANGE INTEGER INTERVAL Insert JSON JSONB",
       "JSONPATH MACADDR MACADDR8 MONEY MultiRange NUMERIC NUMMULTIRANGE NUMRANGE NamedType OID",
       "REAL REGCLASS REGCONFIG Range SMALLINT TEXT TIME TIMESTAMP TSMULTIRANGE TSQUERY TSRANGE",
       "TSTZMULTIRANGE TSTZRANGE TSVECTOR UUID VARCHAR AbstractMultiRange AbstractRange",
       "AbstractSingleRange aggregate_order_by array_agg distinct_on insert phraseto_tsquery",
       "plainto_tsquery to_tsquery to_tsvector ts_headline websearch_to_tsquery"]),
    ("mysql", commonNames ++ words
      ["dml enumerated expression json mariadb reflection reserved_words types _mariadb_shim",
       "dialect BIGINT BINARY BIT BLOB BOOLEAN CHAR DATE DATETIME DECIMAL DOUBLE ENUM FLOAT INET4",
       "INET6 INTEGER JSON LONGBLOB LONGTEXT MEDIUMBLOB MEDIUMINT MEDIUMTEXT NCHAR NUMERIC",
       "NVARCHAR REAL SET SMALLINT TEXT TIME TIMESTAMP TINYBLOB TINYINT TINYTEXT VARBINARY",
       "VARCHAR YEAR Insert insert limit match"]),
    ("oracle", commonNames ++ words
      ["dictionary types vector json dialect ModuleType BFILE BINARY_DOUBLE BINARY_FLOAT BLOB",
       "BOOLEAN CHAR CLOB DATE DOUBLE_PRECISION FLOAT INTERVAL JSON LONG NCHAR NCLOB NUMBER",
       "NVARCHAR NVARCHAR2 RAW REAL ROWID SparseVector TIMESTAMP VARCHAR VARCHAR2 VECTOR",
       "VectorDistanceType VectorIndexConfig VectorIndexType VectorStorageFormat",
       "VectorStorageType"]),
    ("mssql", commonNames ++ words
      ["information_schema json dialect BIGINT BINARY BIT CHAR DATE DATETIME DATETIME2",
       "DATETIMEOFFSET DECIMAL DOUBLE_PRECISION FLOAT IMAGE INTEGER JSON MONEY NCHAR NTEXT",
       "NUMERIC NVARCHAR REAL ROWVERSION SMALLDATETIME SMALLINT SMALLMONEY SQL_VARIANT TEXT TIME",
       "TIMESTAMP TINYINT UNIQUEIDENTIFIER VARBINARY VARCHAR XML try_cast"]),
    ("mariadb", words
      ["dml enumerated expression json mariadb provision reflection reserved_words types",
       "_mariadb_shim"])]

def isReserved (system name : Text) : Bool :=
  reservedNames.any fun (known, names) => known = system && names.contains name

/-- A driver by name, if it is there to be used. -/
def findDriver (system name : Text) : Except UrlError Driver :=
  match known? system name with
  | none => .error (if isReserved system name then .reservedName else .unknownDriver)
  | some d => if d.isInstalled then .ok d else .error .missingDriver

/-- The driver that a URL names, or else the default driver of its system. -/
def driver (url : DatabaseUrl) : Except UrlError Driver :=
  match url.scheme.splitOn '+' with
  | [system] => findDriver system defaultName
  | [system, name] => findDriver system name
  | _ => .error .malformedPart

end AnchorRegistry.DatabaseUrl
