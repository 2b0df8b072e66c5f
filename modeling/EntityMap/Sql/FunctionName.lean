import EntityMap.Dialect

/-!
The names of functions: those that are known, with the numbers of their arguments, and the names
that dialects have for them.
-/

namespace EntityMap.Sql.FunctionName

/-! ### Known functions -/

def unary : List String := [
  "ABS", "ACOS", "ACOSH", "ANY_VALUE", "ARRAY_COMPACT", "ARRAY_DISTINCT", "ARRAY_FIRST",
  "ARRAY_LAST", "ARRAY_MAX", "ARRAY_MIN", "ARRAY_REVERSE", "ARRAY_SUM", "ARRAY_UNION_AGG",
  "ARRAY_UNIQUE_AGG", "ASCII", "ASIN", "ASINH", "ATANH", "AVG", "BIT_LENGTH", "BITWISE_AND_AGG",
  "BITWISE_COUNT", "BITWISE_OR_AGG", "BITWISE_XOR_AGG", "BYTE_LENGTH", "CBRT", "COLLATION", "COS",
  "COSH", "COT", "COTH", "COUNT_IF", "CSC", "CSCH", "DATE_FROM_UNIX_DATE", "DATE_STR_TO_DATE",
  "DAY", "DAY_OF_MONTH", "DAY_OF_WEEK", "DAY_OF_WEEK_ISO", "DAY_OF_YEAR", "EXP", "EXPLODE",
  "FACTORIAL", "FARM_FINGERPRINT", "FLATTEN", "FROM_BASE64", "GROUPING", "HEX", "HOUR", "IS_ASCII",
  "IS_INF", "IS_NAN", "JSON_FORMAT", "JSON_KEYS", "JSON_TYPE", "KURTOSIS", "LN", "LOGICAL_AND",
  "LOGICAL_OR", "LOWER", "MAP_FROM_ENTRIES", "MD5", "MD5_DIGEST", "MEDIAN", "MINUTE", "MONTH",
  "PARSE_IP", "PARSE_NUMERIC", "QUARTER", "REVERSE", "SEC", "SECH", "SECOND", "SHA", "SHA1_DIGEST",
  "SIGN", "SIN", "SINH", "SKEWNESS", "SOUNDEX", "SPACE", "SQRT", "STDDEV", "STDDEV_POP",
  "STDDEV_SAMP", "SUM", "TAN", "TANH", "TIME_STR_TO_DATE", "TIME_STR_TO_UNIX", "TO_ARRAY",
  "TO_BASE64", "TO_CODE_POINTS", "TO_DAYS", "TO_MAP", "TRY", "TS_OR_DS_TO_DATE", "TYPEOF",
  "UNICODE", "UNIX_DATE", "UPPER", "VARIANCE", "VARIANCE_POP", "WEEK_OF_YEAR", "YEAR",
  "YEAR_OF_WEEK", "YEAR_OF_WEEK_ISO"]

def binary : List String := [
  "ARRAY_ALL", "ARRAY_ANY", "ARRAY_APPEND", "ARRAY_EXCEPT", "ARRAY_FILTER", "ARRAY_OVERLAPS",
  "ARRAY_PREPEND", "ARRAY_REMOVE", "ATAN2", "CONTAINS", "CORR", "COVAR_POP", "COVAR_SAMP",
  "ENDS_WITH", "EQUAL_NULL", "EUCLIDEAN_DISTANCE", "GETBIT", "JSON_ARRAY_CONTAINS", "LEFT",
  "MAP_CAT", "NEXT_DAY", "NULLIF", "PERCENTILE_DISC", "POWER", "REGEXP_FULL_MATCH",
  "REGEXP_I_LIKE", "REPEAT", "RIGHT", "SAFE_DIVIDE", "STARTS_WITH", "STRUCT_EXTRACT", "TRANSFORM"]

/-- Functions with any number of arguments, the least of which is given. -/
def variadic : List (String × Nat) := [
  ("ARRAY", 0), ("ARRAY_CONCAT", 1), ("ARRAY_INTERSECT", 1), ("CHR", 1), ("COALESCE", 1),
  ("COLUMNS", 1), ("CONCAT", 1), ("CONCAT_WS", 1), ("COUNT", 0), ("DATE", 0), ("DECODE", 1),
  ("FORMAT", 1),
  ("GREATEST", 1), ("JSON_ARRAY", 0), ("JSON_OBJECT", 0), ("LEAST", 1), ("LIST", 0), ("MAP", 0),
  ("MAX", 1), ("MIN", 1), ("STRUCT", 0)]

def bounded : List (String × Nat × Nat) := [
  ("ADD_MONTHS", 2, 3), ("APPROX_DISTINCT", 1, 2), ("APPROX_QUANTILE", 2, 5), ("ARG_MAX", 2, 3),
  ("ARG_MIN", 2, 3), ("ARRAY_AGG", 1, 2), ("ARRAY_CONTAINS", 2, 3), ("ARRAY_SIZE", 1, 2),
  ("ARRAY_SORT", 1, 2), ("ARRAY_TO_STRING", 2, 3), ("ATAN", 1, 2), ("CEIL", 1, 3),
  ("CURRENT_DATE", 0, 1), ("CURRENT_DATETIME", 0, 1), ("CURRENT_SCHEMA", 0, 1),
  ("CURRENT_TIME", 0, 1), ("CURRENT_TIMESTAMP", 0, 2), ("CURRENT_USER", 0, 1),
  ("DATEDIFF", 2, 6), ("DATE_ADD", 2, 3), ("DATE_BIN", 2, 4), ("DATE_FROM_PARTS", 0, 4),
  ("DATE_SUB", 2, 3), ("DATE_TRUNC", 2, 4), ("DATETIME", 1, 2), ("DATETIME_ADD", 2, 3),
  ("DATETIME_DIFF", 2, 3), ("DATETIME_SUB", 2, 3), ("DATETIME_TRUNC", 2, 3), ("DAYNAME", 1, 2),
  ("ENCODE", 2, 2), ("FIRST", 1, 2), ("FIRST_VALUE", 1, 1), ("FLOOR", 1, 3),
  ("FROM_BASE", 2, 2), ("GENERATE_SERIES", 2, 4), ("INITCAP", 1, 2), ("JSON_EXTRACT", 2, 9),
  ("JSON_EXTRACT_SCALAR", 2, 9), ("JSON_REMOVE", 2, 9), ("JSON_SET", 2, 9),
  ("LAG", 1, 3), ("LAST", 1, 2), ("LAST_DAY", 1, 2), ("LAST_VALUE", 1, 1), ("LEAD", 1, 3),
  ("LENGTH", 1, 3), ("LEVENSHTEIN", 1, 6), ("LOCALTIME", 0, 1), ("LOCALTIMESTAMP", 0, 1),
  ("LOG", 1, 2), ("MAKE_INTERVAL", 0, 7), ("MOD", 2, 2), ("MONTHNAME", 1, 2),
  ("MONTHS_BETWEEN", 2, 3), ("NTH_VALUE", 2, 4), ("NVL2", 2, 3), ("OVERLAY", 3, 4),
  ("PARSE_DATE", 1, 3), ("PARSE_JSON", 1, 3), ("PARSE_TIME", 2, 2), ("PARSE_URL", 1, 4),
  ("PERCENTILE_CONT", 1, 2), ("PI", 0, 0), ("QUANTILE", 2, 2), ("RAND", 0, 3),
  ("RANGE_BUCKET", 2, 2), ("RANK", 0, 9), ("REGEXP_COUNT", 2, 4), ("REGEXP_EXTRACT", 2, 6),
  ("REGEXP_EXTRACT_ALL", 2, 6), ("REGEXP_INSTR", 2, 7), ("REGEXP_LIKE", 2, 4),
  ("REGEXP_REPLACE", 2, 7), ("REGEXP_SPLIT", 2, 3), ("REPLACE", 2, 3), ("ROUND", 1, 4),
  ("ROW_NUMBER", 0, 1), ("SESSION_USER", 0, 0), ("SHA2", 1, 2), ("SPLIT", 2, 3),
  ("SPLIT_PART", 1, 3), ("STRING", 1, 2), ("STRING_TO_ARRAY", 1, 3), ("STR_TO_DATE", 1, 3),
  ("STR_TO_TIME", 2, 5), ("STUFF", 4, 4), ("SUBSTRING", 1, 3), ("SUBSTRING_INDEX", 3, 4),
  ("TIME", 0, 2), ("TIMESTAMP", 0, 4), ("TIMESTAMPDIFF", 2, 3), ("TIMESTAMP_ADD", 2, 3),
  ("TIMESTAMP_FROM_PARTS", 0, 9), ("TIMESTAMP_SUB", 2, 3), ("TIMESTAMP_TRUNC", 2, 4),
  ("TIME_ADD", 2, 3), ("TIME_DIFF", 2, 3), ("TIME_FROM_PARTS", 3, 6), ("TIME_SUB", 2, 3),
  ("TIME_TRUNC", 2, 3), ("TO_CHAR", 1, 4), ("TO_NUMBER", 1, 5), ("TRANSLATE", 3, 3),
  ("TRUNC", 1, 3), ("UNHEX", 1, 2), ("UTC_DATE", 0, 0), ("UTC_TIME", 0, 1),
  ("UTC_TIMESTAMP", 0, 1), ("UUID", 0, 3), ("WEEK", 1, 2), ("WIDTH_BUCKET", 4, 5)]

/-- The least and the greatest number of arguments of a function that is known by its common name.
Some have no greatest. -/
def arity? (name : String) : Option (Nat × Option Nat) :=
  if unary.contains name then some (1, some 1)
  else if binary.contains name then some (2, some 2)
  else match variadic.lookup name with
    | some least => some (least, none)
    | none => (bounded.lookup name).map fun (least, most) => (least, some most)

/-! ### Names -/

def commonAliases : List (String × String) := [
  ("APPROX_COUNT_DISTINCT", "APPROX_DISTINCT"), ("ARGMAX", "ARG_MAX"), ("ARGMIN", "ARG_MIN"),
  ("ARRAY_CAT", "ARRAY_CONCAT"), ("ARRAY_HAS", "ARRAY_CONTAINS"),
  ("ARRAY_INTERSECTION", "ARRAY_INTERSECT"), ("ARRAY_JOIN", "ARRAY_TO_STRING"),
  ("ARRAY_LENGTH", "ARRAY_SIZE"), ("BOOL_AND", "LOGICAL_AND"), ("BOOL_OR", "LOGICAL_OR"),
  ("CEILING", "CEIL"), ("CHAR", "CHR"), ("CHARACTER_LENGTH", "LENGTH"), ("CHAR_LENGTH", "LENGTH"),
  ("COUNTIF", "COUNT_IF"), ("DATEFROMPARTS", "DATE_FROM_PARTS"), ("DATE_DIFF", "DATEDIFF"),
  ("DAYOFMONTH", "DAY_OF_MONTH"), ("DAYOFWEEK", "DAY_OF_WEEK"), ("DAYOFYEAR", "DAY_OF_YEAR"),
  ("ENDSWITH", "ENDS_WITH"), ("FILTER", "ARRAY_FILTER"), ("GENERATE_UUID", "UUID"),
  ("GEN_RANDOM_UUID", "UUID"), ("GET_BIT", "GETBIT"), ("IFNULL", "COALESCE"),
  ("INSERT", "STUFF"), ("ISINF", "IS_INF"), ("ISNAN", "IS_NAN"),
  ("JSON_PARSE", "PARSE_JSON"), ("JSON_TYPEOF", "JSON_TYPE"), ("LAST_DAY_OF_MONTH", "LAST_DAY"),
  ("LCASE", "LOWER"), ("LEN", "LENGTH"), ("MAX_BY", "ARG_MAX"), ("MIN_BY", "ARG_MIN"),
  ("NVL", "COALESCE"), ("POW", "POWER"), ("RANDOM", "RAND"), ("SHA1", "SHA"), ("SIGNUM", "SIGN"),
  ("STARTSWITH", "STARTS_WITH"), ("STDEV", "STDDEV"), ("SUBSTR", "SUBSTRING"),
  ("TIMEFROMPARTS", "TIME_FROM_PARTS"), ("TIMESTAMPFROMPARTS", "TIMESTAMP_FROM_PARTS"),
  ("TIMESTAMP_DIFF", "TIMESTAMPDIFF"), ("TO_HEX", "HEX"), ("TRUNCATE", "TRUNC"), ("UCASE", "UPPER"),
  ("UUID_STRING", "UUID"), ("VARIANCE_SAMP", "VARIANCE"), ("VAR_POP", "VARIANCE_POP"),
  ("VAR_SAMP", "VARIANCE"), ("WEEKOFYEAR", "WEEK_OF_YEAR"), ("YEAROFWEEK", "YEAR_OF_WEEK")]

def ownAliases : Dialect → List (String × String)
  | .mysql => [
    ("BIT_AND", "BITWISE_AND_AGG"), ("BIT_COUNT", "BITWISE_COUNT"), ("BIT_OR", "BITWISE_OR_AGG"),
    ("BIT_XOR", "BITWISE_XOR_AGG"), ("CURDATE", "CURRENT_DATE"), ("CURTIME", "CURRENT_TIME"),
    ("DATABASE", "CURRENT_SCHEMA"), ("MAKETIME", "TIME_FROM_PARTS"),
    ("SCHEMA", "CURRENT_SCHEMA")]
  | .postgres => [
    ("BIT_AND", "BITWISE_AND_AGG"), ("BIT_OR", "BITWISE_OR_AGG"), ("BIT_XOR", "BITWISE_XOR_AGG"),
    ("MAKE_TIME", "TIME_FROM_PARTS"), ("MAKE_TIMESTAMP", "TIMESTAMP_FROM_PARTS"),
    ("NOW", "CURRENT_TIMESTAMP")]
  | .duckdb => [
    ("BIT_AND", "BITWISE_AND_AGG"), ("BIT_OR", "BITWISE_OR_AGG"), ("BIT_XOR", "BITWISE_XOR_AGG"),
    ("GET_CURRENT_TIME", "CURRENT_TIME"), ("GET_CURRENT_TIMESTAMP", "CURRENT_TIMESTAMP"),
    ("ISODOW", "DAY_OF_WEEK_ISO"), ("LIST_CONTAINS", "ARRAY_CONTAINS"),
    ("LIST_HAS", "ARRAY_CONTAINS"), ("NOW", "CURRENT_TIMESTAMP"),
    ("QUANTILE_CONT", "PERCENTILE_CONT"), ("QUANTILE_DISC", "PERCENTILE_DISC"),
    ("REGEXP_MATCHES", "REGEXP_LIKE"), ("STRING_SPLIT", "SPLIT"),
    ("STRING_SPLIT_REGEX", "REGEXP_SPLIT"),
    ("STRING_TO_ARRAY", "SPLIT"), ("STR_SPLIT", "SPLIT"), ("STR_SPLIT_REGEX", "REGEXP_SPLIT"),
    ("TODAY", "CURRENT_DATE"), ("TO_JSON", "JSON_FORMAT")]
  | .tsql => [
    ("GETDATE", "CURRENT_TIMESTAMP"), ("NEWID", "UUID"),
    ("REPLICATE", "REPEAT"), ("SCHEMA_NAME", "CURRENT_SCHEMA"), ("SUSER_NAME", "CURRENT_USER"),
    ("SUSER_SNAME", "CURRENT_USER"), ("SYSDATETIME", "CURRENT_TIMESTAMP"),
    ("SYSTEM_USER", "CURRENT_USER")]
  | .snowflake => [
    ("BOOLAND_AGG", "LOGICAL_AND"), ("BOOLOR_AGG", "LOGICAL_OR"), ("CHARINDEX", "CHARINDEX"),
    ("DAYOFWEEKISO", "DAY_OF_WEEK_ISO"), ("DAYOFWEEK_ISO", "DAY_OF_WEEK_ISO"),
    ("GETDATE", "CURRENT_TIMESTAMP"), ("LEN", "LENGTH"), ("LOCALTIME", "CURRENT_TIME"),
    ("LOCALTIMESTAMP", "CURRENT_TIMESTAMP"), ("SHA1_HEX", "SHA"),
    ("SYSTIMESTAMP", "CURRENT_TIMESTAMP"), ("TO_VARCHAR", "TO_CHAR")]
  | .bigquery => [
    ("EDIT_DISTANCE", "LEVENSHTEIN"), ("MD5", "MD5_DIGEST"), ("SHA1", "SHA1_DIGEST"),
    ("TO_HEX", "HEX")]
  | .sqlite | .oracle => []

def common? (dialect : Dialect) (name : String) : Option String :=
  let found := ((ownAliases dialect).lookup name).or (commonAliases.lookup name)
  if found.isSome then found else if (arity? name).isSome then some name else none

def written : Dialect → List (String × String)
  | .mysql => [
    ("BITWISE_AND_AGG", "BIT_AND"), ("BITWISE_COUNT", "BIT_COUNT"), ("BITWISE_OR_AGG", "BIT_OR"),
    ("BITWISE_XOR_AGG", "BIT_XOR"), ("CHR", "CHAR"), ("CURRENT_SCHEMA", "SCHEMA"),
    ("DAY_OF_MONTH", "DAYOFMONTH"), ("DAY_OF_WEEK", "DAYOFWEEK"), ("DAY_OF_YEAR", "DAYOFYEAR"),
    ("LOGICAL_AND", "MIN"), ("LOGICAL_OR", "MAX"), ("STUFF", "INSERT"),
    ("TIME_FROM_PARTS", "MAKETIME"), ("TRUNC", "TRUNCATE"), ("WEEK_OF_YEAR", "WEEKOFYEAR")]
  | .postgres => [
    ("ARRAY_CONCAT", "ARRAY_CAT"), ("ARRAY_SIZE", "ARRAY_LENGTH"), ("BITWISE_AND_AGG", "BIT_AND"),
    ("BITWISE_OR_AGG", "BIT_OR"), ("BITWISE_XOR_AGG", "BIT_XOR"), ("GETBIT", "GET_BIT"),
    ("LOGICAL_AND", "BOOL_AND"), ("LOGICAL_OR", "BOOL_OR"), ("RAND", "RANDOM"),
    ("TIMESTAMP_FROM_PARTS", "MAKE_TIMESTAMP"), ("TIME_FROM_PARTS", "MAKE_TIME"),
    ("UUID", "GEN_RANDOM_UUID"), ("VARIANCE", "VAR_SAMP"), ("VARIANCE_POP", "VAR_POP")]
  | .sqlite => [
    ("CHR", "CHAR"), ("IF", "IIF"), ("LOGICAL_AND", "MIN"), ("LOGICAL_OR", "MAX"),
    ("RAND", "RANDOM")]
  | .oracle => [
    ("LOGICAL_AND", "MIN"), ("LOGICAL_OR", "MAX"), ("RAND", "DBMS_RANDOM.VALUE"),
    ("SUBSTRING", "SUBSTR")]
  | .tsql => [
    ("CEIL", "CEILING"), ("CHR", "CHAR"), ("CURRENT_SCHEMA", "SCHEMA_NAME"),
    ("DATE_FROM_PARTS", "DATEFROMPARTS"), ("IF", "IIF"), ("LAST_DAY", "EOMONTH"),
    ("LENGTH", "LEN"), ("LN", "LOG"), ("REPEAT", "REPLICATE"), ("STDDEV", "STDEV"),
    ("TIMESTAMP_FROM_PARTS", "DATETIMEFROMPARTS"), ("TIME_FROM_PARTS", "TIMEFROMPARTS"),
    ("UUID", "NEWID")]
  | .bigquery => [
    ("APPROX_DISTINCT", "APPROX_COUNT_DISTINCT"), ("ARG_MAX", "MAX_BY"), ("ARG_MIN", "MIN_BY"),
    ("ARRAY_SIZE", "ARRAY_LENGTH"), ("BITWISE_COUNT", "BIT_COUNT"), ("COUNT_IF", "COUNTIF"),
    ("DATEDIFF", "DATE_DIFF"), ("HEX", "TO_HEX"), ("LEVENSHTEIN", "EDIT_DISTANCE"),
    ("MD5_DIGEST", "MD5"), ("SHA", "SHA1"), ("SHA1_DIGEST", "SHA1"),
    ("TIMESTAMPDIFF", "TIMESTAMP_DIFF"), ("UNHEX", "FROM_HEX"), ("UUID", "GENERATE_UUID"),
    ("VARIANCE", "VAR_SAMP"), ("VARIANCE_POP", "VAR_POP")]
  | .snowflake => [
    ("APPROX_DISTINCT", "APPROX_COUNT_DISTINCT"), ("ARG_MAX", "MAX_BY"), ("ARG_MIN", "MIN_BY"),
    ("ARRAY_CONCAT", "ARRAY_CAT"), ("ARRAY_INTERSECT", "ARRAY_INTERSECTION"),
    ("DAY_OF_MONTH", "DAYOFMONTH"), ("DAY_OF_WEEK", "DAYOFWEEK"),
    ("DAY_OF_WEEK_ISO", "DAYOFWEEKISO"), ("DAY_OF_YEAR", "DAYOFYEAR"), ("ENDS_WITH", "ENDSWITH"),
    ("IF", "IFF"), ("JSON_OBJECT", "OBJECT_CONSTRUCT_KEEP_NULL"), ("LOGICAL_AND", "BOOLAND_AGG"),
    ("LOGICAL_OR", "BOOLOR_AGG"),
    ("RAND", "RANDOM"), ("SHA", "SHA1"), ("STARTS_WITH", "STARTSWITH"), ("STUFF", "INSERT"),
    ("UUID", "UUID_STRING"), ("WEEK_OF_YEAR", "WEEKOFYEAR")]
  | .duckdb => [
    ("APPROX_DISTINCT", "APPROX_COUNT_DISTINCT"), ("ARRAY_SIZE", "ARRAY_LENGTH"),
    ("BITWISE_AND_AGG", "BIT_AND"), ("BITWISE_COUNT", "BIT_COUNT"), ("BITWISE_OR_AGG", "BIT_OR"),
    ("BITWISE_XOR_AGG", "BIT_XOR"), ("DATEDIFF", "DATE_DIFF"), ("DAY_OF_MONTH", "DAYOFMONTH"),
    ("DAY_OF_WEEK", "DAYOFWEEK"), ("DAY_OF_WEEK_ISO", "ISODOW"), ("DAY_OF_YEAR", "DAYOFYEAR"),
    ("IS_INF", "ISINF"), ("IS_NAN", "ISNAN"), ("JSON_FORMAT", "TO_JSON"),
    ("LOGICAL_AND", "BOOL_AND"), ("LOGICAL_OR", "BOOL_OR"), ("PERCENTILE_CONT", "QUANTILE_CONT"),
    ("PERCENTILE_DISC", "QUANTILE_DISC"), ("RAND", "RANDOM"), ("REGEXP_LIKE", "REGEXP_MATCHES"),
    ("REGEXP_SPLIT", "STR_SPLIT_REGEX"), ("SHA", "SHA1"), ("SPLIT", "STR_SPLIT"),
    ("VARIANCE_POP", "VAR_POP"), ("WEEK_OF_YEAR", "WEEKOFYEAR")]

def writtenIn (dialect : Dialect) (name : String) : String :=
  ((written dialect).lookup name).getD name

def commonBare : List (String × String) :=
  ["CURRENT_DATE", "CURRENT_TIME", "CURRENT_TIMESTAMP", "CURRENT_USER", "LOCALTIME",
    "LOCALTIMESTAMP"].map fun name => (name, name)

def bare : Dialect → List (String × String)
  | .postgres =>
    ["CURRENT_CATALOG", "CURRENT_SCHEMA", "SESSION_USER"].map (fun name => (name, name)) ++
      commonBare
  | .tsql =>
    [("SESSION_USER", "SESSION_USER"), ("SYSTEM_USER", "CURRENT_USER")] ++ commonBare
  | .oracle => ("SYSDATE", "SYSDATE") :: commonBare
  | .snowflake =>
    [("LOCALTIME", "CURRENT_TIME"), ("LOCALTIMESTAMP", "CURRENT_TIMESTAMP")] ++ commonBare
  | _ => commonBare

def writesBare (dialect : Dialect) (name : String) : Bool :=
  match name with
  | "CURRENT_TIMESTAMP" => [.postgres, .sqlite, .oracle, .duckdb].contains dialect
  | "CURRENT_TIME" => [.sqlite, .duckdb].contains dialect
  | "CURRENT_USER" => dialect = .postgres
  | "CURRENT_SCHEMA" => dialect = .postgres
  | "CURRENT_DATE" => dialect ≠ .tsql
  | "SESSION_USER" => !([.mysql, .bigquery].contains dialect)
  | "CURRENT_CATALOG" | "LOCALTIME" | "LOCALTIMESTAMP" | "SYSDATE" => true
  | _ => false

end EntityMap.Sql.FunctionName
