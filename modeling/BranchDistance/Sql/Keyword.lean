/-!
# Keywords

Which words the grammar knows, and which of them cannot stand where a short name may follow without
its own introduction.
-/

namespace BranchDistance.Sql

/-- Keywords that share their beginning: each beginning with the endings of its keywords. -/
def keywordFamilies : List (String × List String) := [
    ("CURRENT", ["", "_CATALOG", "_DATE", "_DEFAULT_TRANSFORM_GROUP", "_PATH", "_ROLE", "_ROW",
      "_SCHEMA", "_TIME", "_TIMESTAMP", "_TRANSFORM_GROUP_FOR_TYPE", "_USER"]),
    ("FLOAT", ["", "32", "4", "64", "8"]),
    ("FORCE", ["", "_NOT_NULL", "_NULL", "_QUOTE"]),
    ("INT", ["", "128", "16", "2", "256", "32", "4", "64", "8"]),
    ("REGR_", ["AVGX", "AVGY", "COUNT", "INTERCEPT", "R2", "SLOPE", "SXX", "SXY", "SYY"]),
    ("SER", ["DE", "DEPROPERTIES", "IALIZABLE"]),
    ("TIMEZONE", ["", "_ABBR", "_HOUR", "_MINUTE", "_REGION"]),
    ("TRANSLAT", ["E", "E_REGEX", "ION"]),
    ("UINT", ["128", "16", "256", "32", "64", "8"])]

/-- Keywords that belong to no family. -/
def singleKeywords : List String := [
    "ABORT", "ABS", "ABSOLUTE", "ACCESS", "ACTION", "ADD", "ADMIN", "AFTER", "AGAINST",
    "AGGREGATION", "ALIAS", "ALL", "ALLOCATE", "ALTER", "ALWAYS", "ANALYZE", "AND", "ANTI", "ANY",
    "APPLY", "ARCHIVE", "ARE", "ARRAY", "ARRAY_MAX_CARDINALITY", "AS", "ASC", "ASENSITIVE",
    "ASOF", "ASSERT", "ASYMMETRIC", "AT", "ATOMIC", "ATTACH", "AUTHORIZATION", "AUTO",
    "AUTOINCREMENT", "AUTO_INCREMENT", "AVG", "AVRO", "BACKWARD", "BASE64", "BEFORE", "BEGIN",
    "BEGIN_FRAME", "BEGIN_PARTITION", "BETWEEN", "BIGDECIMAL", "BIGINT", "BIGNUMERIC", "BINARY",
    "BINDING", "BLOB", "BLOOMFILTER", "BOOL", "BOOLEAN", "BOTH", "BROWSE", "BTREE", "BUCKETS",
    "BY", "BYPASSRLS", "BYTEA", "BYTES", "CACHE", "CALL", "CALLED", "CARDINALITY", "CASCADE",
    "CASCADED", "CASE", "CAST", "CATALOG", "CEIL", "CEILING", "CENTURY", "CHAIN", "CHANGE",
    "CHANGE_TRACKING", "CHANNEL", "CHAR", "CHARACTER", "CHARACTERS", "CHARACTER_LENGTH",
    "CHARSET", "CHAR_LENGTH", "CHECK", "CLEAR", "CLOB", "CLONE", "CLOSE", "CLUSTER", "CLUSTERED",
    "COALESCE", "COLLATE", "COLLATION", "COLLECT", "COLLECTION", "COLUMN", "COLUMNS",
    "COLUMNSTORE", "COMMENT", "COMMIT", "COMMITTED", "COMPRESSION", "COMPUTE", "CONCURRENTLY",
    "CONDITION", "CONFLICT", "CONNECT", "CONNECTION", "CONSTRAINT", "CONTAINS", "CONTINUE",
    "CONVERT", "COPY", "COPY_OPTIONS", "CORR", "CORRESPONDING", "COUNT", "COVAR_POP",
    "COVAR_SAMP", "CREATE", "CREATEDB", "CREATEROLE", "CREDENTIALS", "CROSS", "CSV", "CUBE",
    "CUME_DIST", "CURSOR", "CYCLE", "DATA", "DATABASE", "DATABASES",
    "DATA_RETENTION_TIME_IN_DAYS", "DATE", "DATE32", "DATETIME", "DATETIME64", "DAY", "DAYOFWEEK",
    "DAYOFYEAR", "DEALLOCATE", "DEC", "DECADE", "DECIMAL", "DECLARE", "DEDUPLICATE", "DEFAULT",
    "DEFAULT_DDL_COLLATION", "DEFERRABLE", "DEFERRED", "DEFINE", "DEFINED", "DELAYED", "DELETE",
    "DELIMITED", "DELIMITER", "DELTA", "DENSE_RANK", "DEREF", "DESC", "DESCRIBE", "DETACH",
    "DETAIL", "DETERMINISTIC", "DIRECTORY", "DISABLE", "DISCARD", "DISCONNECT", "DISTINCT",
    "DISTRIBUTE", "DIV", "DO", "DOUBLE", "DOW", "DOY", "DROP", "DRY", "DUPLICATE", "DYNAMIC",
    "EACH", "ELEMENT", "ELEMENTS", "ELSE", "EMPTY", "ENABLE", "ENABLE_SCHEMA_EVOLUTION",
    "ENCODING", "ENCRYPTION", "END", "ENDPOINT", "END_FRAME", "END_PARTITION", "ENFORCED",
    "ENGINE", "ENUM", "EPHEMERAL", "EPOCH", "EQUALS", "ERROR", "ESCAPE", "ESCAPED", "EVENT",
    "EVERY", "EXCEPT", "EXCEPTION", "EXCLUDE", "EXCLUSIVE", "EXEC", "EXECUTE", "EXISTS", "EXP",
    "EXPANSION", "EXPLAIN", "EXPLICIT", "EXPORT", "EXTENDED", "EXTENSION", "EXTERNAL", "EXTRACT",
    "FAIL", "FALSE", "FETCH", "FIELDS", "FILE", "FILES", "FILE_FORMAT", "FILL", "FILTER", "FINAL",
    "FIRST", "FIRST_VALUE", "FIXEDSTRING", "FLOOR", "FLUSH", "FOLLOWING", "FOR", "FOREIGN",
    "FORMAT", "FORMATTED", "FORWARD", "FRAME_ROW", "FREE", "FREEZE", "FROM", "FSCK", "FULL",
    "FULLTEXT", "FUNCTION", "FUNCTIONS", "FUSION", "GENERAL", "GENERATE", "GENERATED",
    "GEOGRAPHY", "GET", "GLOBAL", "GRANT", "GRANTED", "GRAPHVIZ", "GROUP", "GROUPING", "GROUPS",
    "HASH", "HAVING", "HEADER", "HEAP", "HIGH_PRIORITY", "HIVEVAR", "HOLD", "HOSTS", "HOUR", "ID",
    "IDENTITY", "IF", "IGNORE", "ILIKE", "IMMEDIATE", "IMMUTABLE", "IN", "INCLUDE",
    "INCLUDE_NULL_VALUES", "INCREMENT", "INDEX", "INDICATOR", "INHERIT", "INITIALLY", "INNER",
    "INOUT", "INPUT", "INPUTFORMAT", "INSENSITIVE", "INSERT", "INSTALL", "INSTEAD", "INTEGER",
    "INTERPOLATE", "INTERSECT", "INTERSECTION", "INTERVAL", "INTO", "IS", "ISODOW", "ISOLATION",
    "ISOWEEK", "ISOYEAR", "ITEMS", "JAR", "JOIN", "JSON", "JSONB", "JSONFILE", "JSON_TABLE",
    "JULIAN", "KEY", "KEYS", "KILL", "LAG", "LANGUAGE", "LARGE", "LAST", "LAST_VALUE", "LATERAL",
    "LEAD", "LEADING", "LEFT", "LEVEL", "LIKE", "LIKE_REGEX", "LIMIT", "LINES", "LISTEN", "LN",
    "LOAD", "LOCAL", "LOCALTIME", "LOCALTIMESTAMP", "LOCATION", "LOCK", "LOCKED", "LOGIN", "LOGS",
    "LOWCARDINALITY", "LOWER", "LOW_PRIORITY", "MACRO", "MANAGEDLOCATION", "MAP", "MASKING",
    "MATCH", "MATCHED", "MATCHES", "MATCH_CONDITION", "MATCH_RECOGNIZE", "MATERIALIZE",
    "MATERIALIZED", "MAX", "MAXVALUE", "MAX_DATA_EXTENSION_TIME_IN_DAYS", "MEASURES", "MEDIUMINT",
    "MEMBER", "MERGE", "METADATA", "METHOD", "MICROSECOND", "MICROSECONDS", "MILLENIUM",
    "MILLENNIUM", "MILLISECOND", "MILLISECONDS", "MIN", "MINUTE", "MINVALUE", "MOD", "MODE",
    "MODIFIES", "MODIFY", "MODULE", "MONTH", "MSCK", "MULTISET", "MUTATION", "NAME", "NANOSECOND",
    "NANOSECONDS", "NATIONAL", "NATURAL", "NCHAR", "NCLOB", "NESTED", "NEW", "NEXT", "NO",
    "NOBYPASSRLS", "NOCREATEDB", "NOCREATEROLE", "NOINHERIT", "NOLOGIN", "NONE", "NOORDER",
    "NOREPLICATION", "NORMALIZE", "NOSCAN", "NOSUPERUSER", "NOT", "NOTHING", "NOTIFY", "NOWAIT",
    "NO_WRITE_TO_BINLOG", "NTH_VALUE", "NTILE", "NULL", "NULLABLE", "NULLIF", "NULLS", "NUMERIC",
    "NVARCHAR", "OBJECT", "OCCURRENCES_REGEX", "OCTETS", "OCTET_LENGTH", "OF", "OFFSET", "OLD",
    "OMIT", "ON", "ONE", "ONLY", "OPEN", "OPERATOR", "OPTIMIZE", "OPTIMIZER_COSTS", "OPTION",
    "OPTIONS", "OR", "ORC", "ORDER", "ORDINALITY", "OUT", "OUTER", "OUTPUTFORMAT", "OVER",
    "OVERFLOW", "OVERLAPS", "OVERLAY", "OVERWRITE", "OWNED", "OWNER", "PARALLEL", "PARAMETER",
    "PARQUET", "PART", "PARTITION", "PARTITIONED", "PARTITIONS", "PASSWORD", "PAST", "PATH",
    "PATTERN", "PER", "PERCENT", "PERCENTILE_CONT", "PERCENTILE_DISC", "PERCENT_RANK", "PERIOD",
    "PERMISSIVE", "PERSISTENT", "PIVOT", "PLACING", "PLANS", "POLICY", "PORTION", "POSITION",
    "POSITION_REGEX", "POWER", "PRAGMA", "PRECEDES", "PRECEDING", "PRECISION", "PREPARE",
    "PRESERVE", "PREWHERE", "PRIMARY", "PRIOR", "PRIVILEGES", "PROCEDURE", "PROGRAM",
    "PROJECTION", "PURGE", "QUALIFY", "QUARTER", "QUERY", "QUOTE", "RANGE", "RANK", "RAW",
    "RCFILE", "READ", "READS", "READ_ONLY", "REAL", "RECURSIVE", "REF", "REFERENCES",
    "REFERENCING", "REGCLASS", "REGEXP", "RELATIVE", "RELAY", "RELEASE", "REMOTE", "RENAME",
    "REORG", "REPAIR", "REPEATABLE", "REPLACE", "REPLICA", "REPLICATION", "RESET", "RESPECT",
    "RESTART", "RESTRICT", "RESTRICTED", "RESTRICTIVE", "RESULT", "RESULTSET", "RETAIN", "RETURN",
    "RETURNING", "RETURNS", "REVOKE", "RIGHT", "RLIKE", "ROLE", "ROLES", "ROLLBACK", "ROLLUP",
    "ROOT", "ROW", "ROWID", "ROWS", "ROW_NUMBER", "RULE", "RUN", "SAFE", "SAFE_CAST", "SAVEPOINT",
    "SCHEMA", "SCHEMAS", "SCOPE", "SCROLL", "SEARCH", "SECOND", "SECONDARY", "SECRET", "SECURITY",
    "SELECT", "SEMI", "SENSITIVE", "SEPARATOR", "SEQUENCE", "SEQUENCEFILE", "SEQUENCES",
    "SESSION", "SESSION_USER", "SET", "SETS", "SETTINGS", "SHARE", "SHOW", "SIMILAR", "SKIP",
    "SLOW", "SMALLINT", "SNAPSHOT", "SOME", "SORT", "SORTED", "SOURCE", "SPATIAL", "SPECIFIC",
    "SPECIFICTYPE", "SQL", "SQLEXCEPTION", "SQLSTATE", "SQLWARNING", "SQRT", "STABLE", "STAGE",
    "START", "STATEMENT", "STATIC", "STATISTICS", "STATUS", "STDDEV_POP", "STDDEV_SAMP", "STDIN",
    "STDOUT", "STEP", "STORAGE_INTEGRATION", "STORED", "STRICT", "STRING", "STRUCT",
    "SUBMULTISET", "SUBSTRING", "SUBSTRING_REGEX", "SUCCEEDS", "SUM", "SUPER", "SUPERUSER",
    "SWAP", "SYMMETRIC", "SYNC", "SYSTEM", "SYSTEM_TIME", "SYSTEM_USER", "TABLE", "TABLES",
    "TABLESAMPLE", "TAG", "TARGET", "TBLPROPERTIES", "TEMP", "TEMPORARY", "TERMINATED", "TEXT",
    "TEXTFILE", "THEN", "TIES", "TIME", "TIMESTAMP", "TIMESTAMPTZ", "TIMETZ", "TINYINT", "TO",
    "TOP", "TOTALS", "TRAILING", "TRANSACTION", "TRANSIENT", "TREAT", "TRIGGER", "TRIM",
    "TRIM_ARRAY", "TRUE", "TRUNCATE", "TRY_CAST", "TRY_CONVERT", "TUPLE", "TYPE", "UESCAPE",
    "UNBOUNDED", "UNCACHE", "UNCOMMITTED", "UNFREEZE", "UNION", "UNIQUE", "UNKNOWN", "UNLOAD",
    "UNLOCK", "UNLOGGED", "UNMATCHED", "UNNEST", "UNPIVOT", "UNSAFE", "UNSIGNED", "UNTIL",
    "UPDATE", "UPPER", "URL", "USAGE", "USE", "USER", "USER_RESOURCES", "USING", "UUID", "VACUUM",
    "VALID", "VALIDATION_MODE", "VALUE", "VALUES", "VALUE_OF", "VARBINARY", "VARCHAR",
    "VARIABLES", "VARYING", "VAR_POP", "VAR_SAMP", "VERBOSE", "VERSION", "VERSIONING", "VIEW",
    "VIEWS", "VIRTUAL", "VOLATILE", "WAREHOUSE", "WEEK", "WHEN", "WHENEVER", "WHERE",
    "WIDTH_BUCKET", "WINDOW", "WITH", "WITHIN", "WITHOUT", "WITHOUT_ARRAY_WRAPPER", "WORK",
    "WRITE", "XML", "XOR", "YEAR", "ZONE", "ZORDER"]

/-- All words that the grammar knows, in capitals. -/
def keywords : List String :=
  singleKeywords ++ keywordFamilies.flatMap fun (start, endings) => endings.map (start ++ ·)

/-- The keywords that never are the short name of a table without `AS`. -/
def reservedForTables : List String := [
    "WITH", "EXPLAIN", "ANALYZE", "SELECT", "WHERE", "GROUP", "SORT", "HAVING", "ORDER", "PIVOT",
    "UNPIVOT", "TOP", "LATERAL", "VIEW", "LIMIT", "OFFSET", "FETCH", "UNION", "EXCEPT",
    "INTERSECT", "ON", "JOIN", "INNER", "CROSS", "FULL", "LEFT", "RIGHT", "NATURAL", "USING",
    "CLUSTER", "DISTRIBUTE", "GLOBAL", "ASOF", "MATCH_CONDITION", "OUTER", "SET", "QUALIFY",
    "WINDOW", "END", "FOR", "PARTITION", "PREWHERE", "SETTINGS", "FORMAT", "START", "CONNECT",
    "MATCH_RECOGNIZE"]

/-- The keywords that never are the short name of a column without `AS`. -/
def reservedForColumns : List String := [
    "WITH", "EXPLAIN", "ANALYZE", "SELECT", "WHERE", "GROUP", "SORT", "HAVING", "ORDER", "TOP",
    "LATERAL", "VIEW", "LIMIT", "OFFSET", "FETCH", "UNION", "EXCEPT", "INTERSECT", "CLUSTER",
    "DISTRIBUTE", "RETURNING", "FROM", "INTO", "END"]

/-- The keywords that name a part of a time. -/
def timeFields : List String := [
    "YEAR", "MONTH", "WEEK", "DAY", "DAYOFWEEK", "DAYOFYEAR", "DATE", "DATETIME", "HOUR",
    "MINUTE", "SECOND", "CENTURY", "DECADE", "DOW", "DOY", "EPOCH", "ISODOW", "ISOYEAR",
    "ISOWEEK", "JULIAN", "MICROSECOND", "MICROSECONDS", "MILLENIUM", "MILLENNIUM", "MILLISECOND",
    "MILLISECONDS", "NANOSECOND", "NANOSECONDS", "QUARTER", "TIME", "TIMEZONE", "TIMEZONE_ABBR",
    "TIMEZONE_HOUR", "TIMEZONE_MINUTE", "TIMEZONE_REGION"]

/-- The keywords among them that may follow the value of an interval as its unit. -/
def intervalUnits : List String := [
    "YEAR", "MONTH", "WEEK", "DAY", "HOUR", "MINUTE", "SECOND", "CENTURY", "DECADE", "DOW", "DOY",
    "EPOCH", "ISODOW", "ISOYEAR", "JULIAN", "MICROSECOND", "MICROSECONDS", "MILLENIUM",
    "MILLENNIUM", "MILLISECOND", "MILLISECONDS", "NANOSECOND", "NANOSECONDS", "QUARTER",
    "TIMEZONE", "TIMEZONE_HOUR", "TIMEZONE_MINUTE"]

end BranchDistance.Sql
