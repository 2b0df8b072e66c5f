import EntityMap.Sql.TypeKind

/-!
The words and signs that have a meaning in SQL.
-/

namespace EntityMap.Sql.Keyword

/-! ### Signs -/

def symbols : List Char := [
  '(', ')', '[', ']', '{', '}', '&', '^', ':', ',', '-', '.', '=', '>', '<', '%', '!', '/', '\\',
  '|', '+', ';', '*', '~', '?', '@', '#', '$', '\'', '\x60', '"']

def isSymbol (c : Char) : Bool := symbols.contains c

def commonOperators : List String := [
  "->>", "#>>", "<=>", "<->", "~~~", "~~*", "==", "::", "||", "|>", ">=", "<=", "<>", "!=", ":=",
  "->", "=>", "#>", "&&", "&<", "&>", "??", "~~", "~*"]

/-- The operators of several characters in a dialect, none after one that it starts with. -/
def operators : Dialect → List String
  | .mysql => "@@" :: commonOperators
  | .postgres =>
    ["||/", "|/", "@@", "@>", "<@", "?&", "?|", "#-"] ++ commonOperators
  | .oracle => "(+)" :: commonOperators
  | .duckdb => ["//", "**", "^@", "@>", "<@"] ++ commonOperators
  | _ => commonOperators

/-! ### Words -/

def commonPhrases : List String := [
  "CHARACTER VARYING", "CHARACTER SET", "CHAR VARYING", "CLUSTER BY", "CONNECT BY",
  "DISTRIBUTE BY", "DOUBLE PRECISION", "FOREIGN KEY", "FOR TIMESTAMP", "FOR VERSION", "GROUP BY",
  "GROUPING SETS", "ORDER BY", "PARTITION BY", "PARTITIONED BY", "PRIMARY KEY", "SIMILAR TO",
  "SORT BY", "START WITH"]

def phrases : Dialect → List String
  | .mysql =>
    ["LOCK TABLES", "MEMBER OF", "SIGNED INTEGER", "SOUNDS LIKE", "UNLOCK TABLES",
      "UNSIGNED INTEGER"] ++ commonPhrases
  | .postgres => "CONSTRAINT TRIGGER" :: commonPhrases
  | .tsql =>
    ["CLUSTERED INDEX", "FOR SYSTEM_TIME", "NONCLUSTERED INDEX", "UPDATE STATISTICS"] ++
      commonPhrases
  | .bigquery => ["ANY TYPE", "FOR SYSTEM_TIME", "NOT DETERMINISTIC"] ++ commonPhrases
  | .snowflake => ["FILE FORMAT", "NCHAR VARYING", "STORAGE INTEGRATION"] ++ commonPhrases
  | _ => commonPhrases

def commonReserved : List String := [
  "ALTER", "AND", "AS", "BETWEEN", "CHARACTER SET", "CLUSTER BY", "CONNECT BY", "CREATE", "CROSS",
  "DISTINCT", "DISTRIBUTE BY", "DROP", "ELSE", "EXCEPT", "FETCH", "FOR", "FOR TIMESTAMP",
  "FOR VERSION", "FROM", "GLOB", "GRANT", "GROUP BY", "GROUPING SETS", "HAVING", "ILIKE", "IN",
  "INNER", "INSERT", "INTERSECT", "INTO", "JOIN", "LATERAL", "LIKE", "NOT", "NOTNULL", "NULL",
  "ON", "OR", "ORDER BY", "OUTER", "PARTITION BY", "PARTITIONED BY", "PARTITIONED_BY",
  "PRIMARY KEY", "QUALIFY", "REGEXP", "RETURNING", "RLIKE", "ROLLBACK", "SELECT", "SIMILAR TO",
  "SORT BY", "START WITH", "STRAIGHT_JOIN", "TABLESAMPLE", "THEN", "UNCACHE", "UNION", "UNKNOWN",
  "USING", "VALUES", "WHEN", "WHERE", "WITH", "XOR"]

def reserved : Dialect → List String
  | .mysql =>
    ["CHARSET", "DISTINCTROW", "FORCE", "IGNORE", "KEY", "MEMBER OF", "MOD", "SEPARATOR",
      "SOUNDS LIKE"] ++ commonReserved
  | .postgres => ["ONLY", "VARIADIC"] ++ commonReserved
  | .tsql => ["DECLARE", "FOR SYSTEM_TIME", "OPTION", "OUTPUT"] ++ commonReserved
  | .bigquery => ["FOR SYSTEM_TIME", "NOT DETERMINISTIC"] ++ commonReserved
  | .duckdb => ["EXCLUDE", "ONLY"] ++ commonReserved
  | .oracle => "MINUS" :: commonReserved
  | .snowflake => ["EXCLUDE", "MINUS"] ++ commonReserved
  | .sqlite => commonReserved

/-- Words that start a statement which is not looked into. -/
def commands : Dialect → List String
  | .mysql =>
    ["CALL", "EXECUTE", "FETCH", "LOCK TABLES", "OPTIMIZE", "PREPARE", "RENAME", "REPLACE",
      "UNLOCK TABLES", "VACUUM"]
  | .postgres =>
    ["CALL", "CONSTRAINT TRIGGER", "DECLARE", "DO", "EXEC", "EXECUTE", "EXPLAIN", "FETCH",
      "OPTIMIZE", "PREPARE", "REFRESH", "REINDEX", "RENAME", "RESET", "SHOW", "VACUUM"]
  | .tsql =>
    ["CALL", "EXPLAIN", "FETCH", "GO", "OPTIMIZE", "PREPARE", "PRINT", "RENAME", "SHOW",
      "UPDATE STATISTICS", "VACUUM"]
  | .snowflake =>
    ["CALL", "EXECUTE", "EXPLAIN", "FETCH", "OPTIMIZE", "PREPARE", "REMOVE", "RENAME", "RM",
      "VACUUM"]
  | _ =>
    ["CALL", "EXECUTE", "EXPLAIN", "FETCH", "OPTIMIZE", "PREPARE", "RENAME", "SHOW", "VACUUM"]

/-- Keywords that may also be names, in most dialects; the words of types are such, too. -/
def commonNames : List String := [
  "ALL", "ANALYZE", "ANTI", "ANY", "APPLY", "ASC", "ASOF", "AUTOINCREMENT", "AUTO_INCREMENT",
  "BEGIN", "CACHE", "CALL", "CASE", "COLLATE", "COLUMN", "COMMENT", "COMMIT", "CONSTRAINT", "COPY",
  "CUBE", "CURRENT_CATALOG", "CURRENT_DATE", "CURRENT_SCHEMA", "CURRENT_TIME",
  "CURRENT_TIMESTAMP", "CURRENT_USER", "DATABASE", "DEFAULT", "DELETE", "DESC", "DESCRIBE", "END",
  "ESCAPE", "EXECUTE", "EXISTS", "EXPLAIN", "FALSE", "FILTER", "FIRST", "FOREIGN KEY",
  "FORMAT", "FULL", "FUNCTION", "INDEX", "IS", "ISNULL", "KEEP", "KILL", "LEFT", "LIMIT", "LOAD",
  "LOCALTIME", "LOCALTIMESTAMP", "LOCK", "MERGE", "NAMESPACE", "NATURAL", "NEXT", "OFFSET",
  "OPERATOR", "OPTIMIZE", "ORDINALITY", "OVER", "OVERLAPS", "OVERWRITE", "PARTITION", "PERCENT",
  "PIVOT", "PRAGMA", "PREPARE", "PROCEDURE", "RANGE", "RECURSIVE", "REFERENCES", "RENAME",
  "REPLACE", "RIGHT", "ROLLUP", "ROW", "ROWS", "SCHEMA", "SEMI", "SEQUENCE", "SESSION",
  "SESSION_USER", "SET", "SETTINGS", "SHOW", "SOME", "TABLE", "TEMP", "TEMPORARY", "TRUE",
  "TRIGGER", "TRUNCATE", "UNIQUE", "UNNEST", "UNPIVOT", "UPDATE", "USE", "VACUUM", "VIEW",
  "VOLATILE", "WINDOW"]

def characterSets : List String := [
  "_ARMSCII8", "_ASCII", "_BIG5", "_BINARY", "_CP1250", "_CP1251", "_CP1256", "_CP1257", "_CP850",
  "_CP852", "_CP866", "_CP932", "_DEC8", "_EUCJPMS", "_EUCKR", "_GB18030", "_GB2312", "_GBK",
  "_GEOSTD8", "_GREEK", "_HEBREW", "_HP8", "_KEYBCS2", "_KOI8R", "_KOI8U", "_LATIN1", "_LATIN2",
  "_LATIN5", "_LATIN7", "_MACCE", "_MACROMAN", "_SJIS", "_SWE7", "_TIS620", "_UCS2", "_UJIS",
  "_UTF16", "_UTF16LE", "_UTF32", "_UTF8", "_UTF8MB3", "_UTF8MB4"]

def ownNames : Dialect → List String
  | .postgres => ["TYPE"]
  | .tsql => ["DIV", "EXEC", "PROC", "SYSTEM_USER", "TOP"]
  | .sqlite | .duckdb => ["ATTACH", "DETACH", "DIV"]
  | .oracle => ["DIV", "SYSDATE", "TOP"]
  | .snowflake =>
    ["DIV", "FILE FORMAT", "STAGE", "STORAGE INTEGRATION", "STREAMLIT", "TAG", "TOP", "WAREHOUSE"]
  | .mysql => ["DIV"]
  | .bigquery => []

def isKeyword (dialect : Dialect) (word : String) : Bool :=
  commonNames.contains word || (ownNames dialect).contains word ||
    (reserved dialect).contains word ||
    (commands dialect).contains word || (TypeKind.ofWord? dialect word).isSome

def isReserved (dialect : Dialect) (word : String) : Bool := (reserved dialect).contains word

/-- Keywords that cannot be names even where any word may be one. -/
def isStrictlyReserved (dialect : Dialect) (word : String) : Bool :=
  ["NOT", "SELECT", "UNKNOWN"].contains word || (dialect = .mysql && word == "MOD")

/-- Keywords that may be called as functions, next to the words of types. -/
def callable : List String := [
  "ALL", "ANY", "CALL", "COLLATE", "CURRENT_CATALOG", "CURRENT_DATE", "CURRENT_SCHEMA",
  "CURRENT_TIME", "CURRENT_TIMESTAMP", "CURRENT_USER", "EXECUTE", "EXISTS", "EXPLAIN", "FILTER",
  "FIRST", "FORMAT", "GLOB", "ILIKE", "INDEX", "INSERT", "ISNULL", "LEFT", "LIKE", "LOCALTIME",
  "LOCALTIMESTAMP", "MERGE", "NEXT", "OFFSET", "PRIMARY KEY", "RANGE", "REGEXP", "REPLACE",
  "RIGHT", "RLIKE", "ROW", "SEQUENCE", "SESSION_USER", "SOME", "TABLE", "TRUNCATE", "UNNEST",
  "WINDOW", "XOR"]

def isCallable (dialect : Dialect) (word : String) : Bool :=
  callable.contains word || (TypeKind.ofWord? dialect word).isSome ||
    (dialect = .mysql && ["DATABASE", "MOD", "SCHEMA", "VALUES"].contains word)

end EntityMap.Sql.Keyword
