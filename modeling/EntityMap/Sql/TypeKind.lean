import EntityMap.Dialect

/-!
The types that come with a dialect: the words that stand for them, and the names under which they
are written.
-/

namespace EntityMap.Sql

/-- A kind of type. Different words may stand for one kind, and a word for different kinds in
different dialects. -/
inductive TypeKind where
  | array | bigDecimal | bigInt | bigSerial | binary | bit | blob | boolean | blankPaddedChar | char
  | date | dateTime | dateTime2 | decimal | double | enum | float | geography | geometry | hstore
  | image | inet | int | int128 | int256 | interval | json | jsonb | list | longBlob | longText
  | map | mediumBlob | mediumInt | mediumText | money | name | nationalChar | nationalVarchar
  | nullable | object | rowVersion | serial | set | smallDateTime | smallInt | smallMoney | smallSerial
  | struct | text | time | timeTz | timestamp | timestampLocal | timestampPlain | timestampTz
  | tinyBlob | tinyInt | tinyText | unsignedBigInt | unsignedDecimal | unsignedDouble | unsignedInt
  | unsignedInt128 | unsignedInt256 | unsignedMediumInt | unsignedSmallInt | unsignedTinyInt | uuid
  | varbinary | varchar | variant | vector | xml | year
  /-- A type that has one word in all dialects that know it. -/
  | plain (word : String)
  deriving DecidableEq, Inhabited, Repr

namespace TypeKind

/-! ### Words -/

def commonWords : List (String × TypeKind) := [
  ("ARRAY", array), ("BIT", bit), ("BOOL", boolean), ("BOOLEAN", boolean), ("BYTE", tinyInt),
  ("MEDIUMINT", mediumInt), ("INT1", tinyInt), ("TINYINT", tinyInt), ("INT16", smallInt),
  ("SHORT", smallInt), ("SMALLINT", smallInt), ("HUGEINT", int128), ("UHUGEINT", unsignedInt128),
  ("INT2", smallInt), ("INTEGER", int), ("INT", int), ("INT4", int), ("INT32", int),
  ("INT64", bigInt), ("INT128", int128), ("INT256", int256), ("LONG", bigInt), ("BIGINT", bigInt),
  ("INT8", tinyInt), ("UINT", unsignedInt), ("UINT128", unsignedInt128),
  ("UINT256", unsignedInt256), ("DEC", decimal), ("DECIMAL", decimal), ("BIGDECIMAL", bigDecimal),
  ("BIGNUMERIC", bigDecimal), ("ENUM", enum), ("GEOGRAPHY", geography), ("GEOMETRY", geometry),
  ("INET", inet), ("INTERVAL", interval), ("LIST", list), ("MAP", map), ("NULLABLE", nullable),
  ("NUMBER", decimal), ("NUMERIC", decimal), ("FIXED", decimal), ("OBJECT", object),
  ("REAL", float), ("FLOAT", float), ("FLOAT4", float), ("FLOAT8", double), ("DOUBLE", double),
  ("DOUBLE PRECISION", double), ("JSON", json), ("JSONB", jsonb), ("CHAR", char),
  ("CHARACTER", char), ("CHAR VARYING", varchar), ("CHARACTER VARYING", varchar),
  ("NCHAR", nationalChar), ("VARCHAR", varchar), ("VARCHAR2", varchar),
  ("NVARCHAR", nationalVarchar), ("NVARCHAR2", nationalVarchar), ("BPCHAR", blankPaddedChar),
  ("STR", text), ("STRING", text), ("TEXT", text), ("LONGTEXT", longText),
  ("MEDIUMTEXT", mediumText), ("TINYTEXT", tinyText), ("CLOB", text), ("LONGVARCHAR", text),
  ("BINARY", binary), ("BLOB", varbinary), ("LONGBLOB", longBlob), ("MEDIUMBLOB", mediumBlob),
  ("TINYBLOB", tinyBlob), ("BYTEA", varbinary), ("VARBINARY", varbinary), ("TIME", time),
  ("TIMETZ", timeTz), ("TIMESTAMP", timestamp), ("TIMESTAMPTZ", timestampTz),
  ("TIMESTAMPLTZ", timestampLocal), ("TIMESTAMP_LTZ", timestampLocal),
  ("TIMESTAMPNTZ", timestampPlain), ("TIMESTAMP_NTZ", timestampPlain), ("DATE", date),
  ("DATETIME", dateTime), ("STRUCT", struct), ("UUID", uuid), ("VARIANT", variant),
  ("VECTOR", vector)]

def plainWords : Dialect → List String
  | .postgres => [
    "CSTRING", "OID", "POINT", "REGCLASS", "REGCOLLATION", "REGCONFIG", "REGDICTIONARY",
    "REGNAMESPACE", "REGOPER", "REGOPERATOR", "REGPROC", "REGPROCEDURE", "REGROLE", "REGTYPE"]
  | .duckdb => ["TIMESTAMP_MS", "TIMESTAMP_NS", "TIMESTAMP_S"]
  | _ => []

def commonPlainWords : List String := [
  "DATEMULTIRANGE", "DATERANGE", "DECFLOAT", "INT4MULTIRANGE", "INT4RANGE", "INT8MULTIRANGE",
  "INT8RANGE", "IPADDRESS", "IPPREFIX", "NULL", "NUMMULTIRANGE", "NUMRANGE", "REF", "TIME_NS",
  "TSMULTIRANGE", "TSRANGE", "TSTZMULTIRANGE", "TSTZRANGE", "UNKNOWN"]

/-- The words that a dialect adds, or gives a meaning of its own. -/
def ownWords : Dialect → List (String × TypeKind)
  | .mysql => [
    ("BLOB", blob), ("SERIAL", serial), ("SET", set), ("SIGNED", bigInt),
    ("SIGNED INTEGER", bigInt), ("TIMESTAMP", timestampTz), ("UNSIGNED", unsignedBigInt),
    ("UNSIGNED INTEGER", unsignedBigInt), ("YEAR", year)]
  | .postgres => [
    ("BIGSERIAL", bigSerial), ("FLOAT", double), ("HSTORE", hstore), ("INT8", bigInt),
    ("MONEY", money), ("NAME", name), ("SERIAL", serial), ("SMALLSERIAL", smallSerial),
    ("XML", xml)]
  | .tsql => [
    ("DATETIME2", dateTime2), ("DATETIMEOFFSET", timestampTz), ("IMAGE", image), ("MONEY", money),
    ("NTEXT", text), ("ROWVERSION", rowVersion), ("SMALLDATETIME", smallDateTime),
    ("SMALLMONEY", smallMoney), ("SQL_VARIANT", variant), ("TIMESTAMP", rowVersion),
    ("TINYINT", unsignedTinyInt), ("UNIQUEIDENTIFIER", uuid), ("XML", xml)]
  | .bigquery => [
    ("BYTES", binary), ("BYTEINT", int), ("FLOAT64", double), ("RECORD", struct),
    ("TIMESTAMP", timestampTz)]
  | .duckdb => [
    ("BITSTRING", bit), ("BPCHAR", text), ("CHAR", text), ("INT8", bigInt), ("LOGICAL", boolean),
    ("SIGNED", int), ("TIMESTAMP_US", timestamp), ("UBIGINT", unsignedBigInt),
    ("UINTEGER", unsignedInt), ("USMALLINT", unsignedSmallInt), ("UTINYINT", unsignedTinyInt),
    ("VARCHAR", text)]
  | .snowflake => [
    ("BYTEINT", int), ("FLOAT", double), ("NCHAR VARYING", varchar), ("NUMBER", decimal),
    ("SQL_DOUBLE", double), ("SQL_VARCHAR", varchar), ("TIMESTAMP_TZ", timestampTz)]
  | .oracle => [("BINARY_DOUBLE", double), ("BINARY_FLOAT", float), ("XML", xml), ("XMLTYPE", xml)]
  | .sqlite => []

/-- The kind of type that a word stands for, given in upper case. -/
def ofWord? (dialect : Dialect) (word : String) : Option TypeKind :=
  ((ownWords dialect).lookup word).or <| (commonWords.lookup word).or <|
    if (plainWords dialect).contains word || commonPlainWords.contains word then some (plain word)
    else none

/-! ### Names -/

def commonName : TypeKind → String
  | array => "ARRAY"
  | bigDecimal => "BIGDECIMAL"
  | bigInt => "BIGINT"
  | bigSerial => "BIGSERIAL"
  | binary => "BINARY"
  | bit => "BIT"
  | blob => "BLOB"
  | boolean => "BOOLEAN"
  | blankPaddedChar => "BPCHAR"
  | char => "CHAR"
  | date => "DATE"
  | dateTime => "DATETIME"
  | dateTime2 => "DATETIME2"
  | decimal => "DECIMAL"
  | double => "DOUBLE"
  | enum => "ENUM"
  | float => "FLOAT"
  | geography => "GEOGRAPHY"
  | geometry => "GEOMETRY"
  | hstore => "HSTORE"
  | image => "IMAGE"
  | inet => "INET"
  | int => "INT"
  | int128 => "INT128"
  | int256 => "INT256"
  | interval => "INTERVAL"
  | json => "JSON"
  | jsonb => "JSONB"
  | list => "LIST"
  | longBlob => "BLOB"
  | longText => "TEXT"
  | map => "MAP"
  | mediumBlob => "BLOB"
  | mediumInt => "MEDIUMINT"
  | mediumText => "TEXT"
  | money => "MONEY"
  | name => "NAME"
  | nationalChar => "CHAR"
  | nationalVarchar => "VARCHAR"
  | nullable => "NULLABLE"
  | object => "OBJECT"
  | rowVersion => "ROWVERSION"
  | serial => "SERIAL"
  | set => "SET"
  | smallDateTime => "SMALLDATETIME"
  | smallInt => "SMALLINT"
  | smallMoney => "SMALLMONEY"
  | smallSerial => "SMALLSERIAL"
  | struct => "STRUCT"
  | text => "TEXT"
  | time => "TIME"
  | timeTz => "TIMETZ"
  | timestamp => "TIMESTAMP"
  | timestampLocal => "TIMESTAMPLTZ"
  | timestampPlain => "TIMESTAMP"
  | timestampTz => "TIMESTAMPTZ"
  | tinyBlob => "BLOB"
  | tinyInt => "TINYINT"
  | tinyText => "TEXT"
  | unsignedBigInt => "UBIGINT"
  | unsignedDecimal => "UDECIMAL"
  | unsignedDouble => "UDOUBLE"
  | unsignedInt => "UINT"
  | unsignedInt128 => "UINT128"
  | unsignedInt256 => "UINT256"
  | unsignedMediumInt => "UMEDIUMINT"
  | unsignedSmallInt => "USMALLINT"
  | unsignedTinyInt => "UTINYINT"
  | uuid => "UUID"
  | varbinary => "VARBINARY"
  | varchar => "VARCHAR"
  | variant => "VARIANT"
  | vector => "VECTOR"
  | xml => "XML"
  | year => "YEAR"
  | plain word => word

def ownNames : Dialect → List (TypeKind × String)
  | .mysql => [
    (tinyText, "TINYTEXT"), (mediumText, "MEDIUMTEXT"), (longText, "LONGTEXT"),
    (tinyBlob, "TINYBLOB"), (mediumBlob, "MEDIUMBLOB"), (longBlob, "LONGBLOB"),
    (timestamp, "DATETIME"), (timestampPlain, "DATETIME"), (timestampTz, "TIMESTAMP"),
    (timestampLocal, "TIMESTAMP"), (unsignedBigInt, "BIGINT"), (unsignedInt, "INT"),
    (unsignedMediumInt, "MEDIUMINT"), (unsignedSmallInt, "SMALLINT"), (unsignedTinyInt, "TINYINT"),
    (unsignedDecimal, "DECIMAL"), (unsignedDouble, "DOUBLE")]
  | .postgres => [
    (tinyInt, "SMALLINT"), (float, "REAL"), (double, "DOUBLE PRECISION"), (binary, "BYTEA"),
    (varbinary, "BYTEA"), (dateTime, "TIMESTAMP")]
  | .sqlite => [
    (boolean, "INTEGER"), (tinyInt, "INTEGER"), (smallInt, "INTEGER"), (int, "INTEGER"),
    (bigInt, "INTEGER"), (float, "REAL"), (double, "REAL"), (decimal, "REAL"), (char, "TEXT"),
    (nationalChar, "TEXT"), (varchar, "TEXT"), (nationalVarchar, "TEXT"), (binary, "BLOB"),
    (varbinary, "BLOB")]
  | .oracle => [
    (tinyInt, "SMALLINT"), (bigInt, "INT"), (decimal, "NUMBER"), (double, "DOUBLE PRECISION"),
    (varchar, "VARCHAR2"), (nationalVarchar, "NVARCHAR2"), (nationalChar, "NCHAR"), (text, "CLOB"),
    (timeTz, "TIME"), (timestampTz, "TIMESTAMP"), (binary, "BLOB"), (varbinary, "BLOB")]
  | .tsql => [
    (boolean, "BIT"), (int, "INTEGER"), (decimal, "NUMERIC"), (double, "FLOAT"),
    (nationalChar, "NCHAR"), (nationalVarchar, "NVARCHAR"), (text, "VARCHAR(MAX)"),
    (timestamp, "DATETIME2"), (timestampPlain, "DATETIME2"), (timestampTz, "DATETIMEOFFSET"),
    (unsignedTinyInt, "TINYINT"), (uuid, "UNIQUEIDENTIFIER"), (variant, "SQL_VARIANT")]
  | .bigquery => [
    (bigDecimal, "BIGNUMERIC"), (bigInt, "INT64"), (binary, "BYTES"), (blob, "BYTES"),
    (boolean, "BOOL"), (char, "STRING"), (decimal, "NUMERIC"), (double, "FLOAT64"),
    (float, "FLOAT64"), (int, "INT64"), (nationalChar, "STRING"), (nationalVarchar, "STRING"),
    (smallInt, "INT64"), (text, "STRING"), (timestamp, "DATETIME"), (timestampPlain, "DATETIME"),
    (timestampTz, "TIMESTAMP"), (timestampLocal, "TIMESTAMP"), (tinyInt, "INT64"),
    (varbinary, "BYTES"), (varchar, "STRING"), (rowVersion, "BYTES"), (uuid, "STRING")]
  | .snowflake => [
    (json, "VARIANT"), (text, "VARCHAR"), (bigDecimal, "DOUBLE"), (timestampPlain, "TIMESTAMPNTZ")]
  | .duckdb => [
    (binary, "BLOB"), (blankPaddedChar, "TEXT"), (char, "TEXT"), (dateTime, "TIMESTAMP"),
    (float, "REAL"), (jsonb, "JSON"), (nationalChar, "TEXT"), (nationalVarchar, "TEXT"),
    (timestampLocal, "TIMESTAMPTZ"), (unsignedInt, "UINTEGER"), (varbinary, "BLOB"),
    (rowVersion, "BLOB"), (varchar, "TEXT")]

def nameIn (dialect : Dialect) (kind : TypeKind) : String :=
  ((ownNames dialect).lookup kind).getD kind.commonName

/-! ### Groups of kinds -/

/-- The kinds that come without a sign when `UNSIGNED` follows. -/
def unsigned? : TypeKind → Option TypeKind
  | bigInt => some unsignedBigInt
  | int => some unsignedInt
  | mediumInt => some unsignedMediumInt
  | smallInt => some unsignedSmallInt
  | tinyInt => some unsignedTinyInt
  | decimal => some unsignedDecimal
  | double => some unsignedDouble
  | _ => none

def isUnsigned (kind : TypeKind) : Bool :=
  [unsignedBigInt, unsignedInt, unsignedMediumInt, unsignedSmallInt, unsignedTinyInt,
    unsignedDecimal, unsignedDouble].contains kind

/-- A kind that may be given a time zone. -/
def takesZone (kind : TypeKind) : Bool :=
  [time, timeTz, timestamp, timestampTz, timestampLocal].contains kind

def isNested (kind : TypeKind) : Bool := [array, list, map, nullable, struct].contains kind

/-- A kind that lists its values; what follows the word in parentheses are expressions. -/
def isEnumeration (kind : TypeKind) : Bool := [enum, set].contains kind

end TypeKind

end EntityMap.Sql
