import EntityMap.Dialect
import EntityMap.Text.Case

/-!
Words that a dialect always writes in quotes when they are names.
-/

namespace EntityMap.Sql

def reservedNames : Dialect → List String
  | .mysql => [
    "accessible", "add", "all", "alter", "analyze", "and", "as", "asc", "asensitive", "before",
    "between", "bigint", "binary", "blob", "both", "by", "call", "cascade", "case", "change",
    "char", "character", "check", "collate", "column", "condition", "constraint", "continue",
    "convert", "create", "cross", "cube", "cume_dist", "current_date", "current_time",
    "current_timestamp", "current_user", "cursor", "database", "databases", "day_hour",
    "day_microsecond", "day_minute", "day_second", "dec", "decimal", "declare", "default",
    "delayed", "delete", "dense_rank", "desc", "describe", "deterministic", "distinct",
    "distinctrow", "div", "double", "drop", "dual", "each", "else", "elseif", "empty", "enclosed",
    "escaped", "except", "exists", "exit", "explain", "false", "fetch", "first_value", "float",
    "float4", "float8", "for", "force", "foreign", "from", "fulltext", "function", "generated",
    "get", "grant", "group", "grouping", "groups", "having", "high_priority", "hour_microsecond",
    "hour_minute", "hour_second", "if", "ignore", "in", "index", "infile", "inner", "inout",
    "insensitive", "insert", "int", "int1", "int2", "int3", "int4", "int8", "integer",
    "intersect", "interval", "into", "io_after_gtids", "io_before_gtids", "is", "iterate", "join",
    "json_table", "key", "keys", "kill", "lag", "last_value", "lateral", "lead", "leading",
    "leave", "left", "like", "limit", "linear", "lines", "load", "localtime", "localtimestamp",
    "lock", "long", "longblob", "longtext", "loop", "low_priority", "master_bind",
    "master_ssl_verify_server_cert", "match", "maxvalue", "mediumblob", "mediumint", "mediumtext",
    "middleint", "minute_microsecond", "minute_second", "mod", "modifies", "natural",
    "no_write_to_binlog", "not", "nth_value", "ntile", "null", "numeric", "of", "on", "optimize",
    "optimizer_costs", "option", "optionally", "or", "order", "out", "outer", "outfile", "over",
    "partition", "percent_rank", "precision", "primary", "procedure", "purge", "range", "rank",
    "read", "read_write", "reads", "real", "recursive", "references", "regexp", "release",
    "rename", "repeat", "replace", "require", "resignal", "restrict", "return", "revoke", "right",
    "rlike", "row", "row_number", "rows", "schema", "schemas", "second_microsecond", "select",
    "sensitive", "separator", "set", "show", "signal", "smallint", "spatial", "specific", "sql",
    "sql_big_result", "sql_calc_found_rows", "sql_small_result", "sqlexception", "sqlstate",
    "sqlwarning", "ssl", "starting", "stored", "straight_join", "system", "table", "terminated",
    "then", "tinyblob", "tinyint", "tinytext", "to", "trailing", "trigger", "true", "undo",
    "union", "unique", "unlock", "unsigned", "update", "usage", "use", "using", "utc_date",
    "utc_time", "utc_timestamp", "values", "varbinary", "varchar", "varcharacter", "varying",
    "virtual", "when", "where", "while", "window", "with", "write", "xor", "year_month",
    "zerofill"]
  | .bigquery => [
    "all", "and", "any", "array", "as", "asc", "assert_rows_modified", "at", "between", "by",
    "case", "cast", "collate", "contains", "create", "cross", "cube", "current", "default",
    "define", "desc", "distinct", "else", "end", "enum", "escape", "except", "exclude", "exists",
    "extract", "false", "fetch", "following", "for", "from", "full", "group", "grouping",
    "groups", "hash", "having", "if", "ignore", "in", "inner", "intersect", "interval", "into",
    "is", "join", "lateral", "left", "like", "limit", "lookup", "merge", "natural", "new", "no",
    "not", "null", "nulls", "of", "on", "or", "order", "outer", "over", "partition", "preceding",
    "proto", "qualify", "range", "recursive", "respect", "right", "rollup", "rows", "select",
    "set", "some", "struct", "tablesample", "then", "to", "treat", "true", "unbounded", "union",
    "unnest", "using", "when", "where", "window", "with", "within"]
  | .duckdb => [
    "all", "analyse", "analyze", "and", "any", "array", "as", "asc_p", "asymmetric", "both",
    "case", "cast", "check_p", "collate", "column", "constraint", "create_p", "current_catalog",
    "current_date", "current_role", "current_time", "current_timestamp", "current_user",
    "default", "deferrable", "desc_p", "distinct", "do", "else", "end_p", "except", "false_p",
    "fetch", "for", "foreign", "from", "grant", "group_p", "having", "in_p", "initially",
    "intersect", "into", "lateral_p", "leading", "limit", "localtime", "localtimestamp", "not",
    "null_p", "offset", "on", "only", "or", "order", "placing", "primary", "references",
    "returning", "select", "session_user", "some", "symmetric", "table", "then", "to_p",
    "trailing", "true_p", "union", "unique", "user", "using", "variadic", "when", "where",
    "window", "with"]
  | _ => []

/-- Whether a name is written in quotes although it has been written without them. -/
def needsQuotes (dialect : Dialect) (name : String) : Bool :=
  (reservedNames dialect).contains (Text.lower name)

end EntityMap.Sql
