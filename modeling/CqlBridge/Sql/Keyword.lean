/-!
# `CqlBridge.Sql.Keyword` — the words of the query language, and when a name needs quotes

The query language reserves some words outright and gives others a special meaning in some
places only. Either way, a name that is one of these words is written between double quotes
when an expression is turned back into text, and so is a name with a character other than an
ASCII letter, a digit or `_`, or one that starts with a digit.
-/

namespace CqlBridge.Sql

/-- The words with a meaning of their own in the query language, in lower case. -/
def keywords : List String :=
  ["abort", "absolute", "access", "action", "add", "admin", "after", "aggregate", "all", "also",
   "alter", "always", "analyse", "analyze", "and", "anti", "any", "array", "as", "asc",
   "asof", "assertion", "assignment", "asymmetric", "at", "attach", "attribute",
   "authorization", "backward", "before", "begin", "between", "bigint", "binary", "bit",
   "boolean", "both", "by", "cache", "call", "called", "cascade", "cascaded", "case", "cast",
   "catalog", "centuries", "century", "chain", "char", "character", "characteristics", "check",
   "checkpoint", "class", "close", "cluster", "coalesce", "collate", "collation", "column",
   "columns", "comment", "comments", "commit", "committed", "compression", "concurrently",
   "configuration", "conflict", "connection", "constraint", "constraints", "content",
   "continue", "conversion", "copy", "cost", "create", "cross", "csv", "cube", "current",
   "cursor", "cycle", "data", "database", "day", "days", "deallocate", "dec", "decade",
   "decades", "decimal", "declare", "default", "defaults", "deferrable", "deferred", "definer",
   "delete", "delimiter", "delimiters", "depends", "desc", "describe", "detach", "dictionary",
   "disable", "discard", "distinct", "do", "document", "domain", "double", "drop", "each",
   "else", "enable", "encoding", "encrypted", "end", "enum", "error", "escape", "event",
   "except", "exclude", "excluding", "exclusive", "execute", "exists", "explain", "export",
   "export_state", "extension", "extensions", "external", "extract", "false", "family", "fetch",
   "filter", "first", "float", "following", "for", "force", "foreign", "forward", "freeze",
   "from", "full", "function", "functions", "generated", "glob", "global", "grant", "granted",
   "group", "grouping", "grouping_id", "groups", "handler", "having", "header", "hold", "hour",
   "hours", "identity", "if", "ignore", "ilike", "immediate", "immutable", "implicit", "import",
   "in", "include", "including", "increment", "index", "indexes", "inherit", "inherits",
   "initially", "inline", "inner", "inout", "input", "insensitive", "insert", "install",
   "instead", "int", "integer", "intersect", "interval", "into", "invoker", "is", "isnull",
   "isolation", "join", "json", "key", "label", "lambda", "language", "large", "last",
   "lateral", "leading", "leakproof", "left", "level", "like", "limit", "listen", "load",
   "local", "location", "lock", "locked", "logged", "macro", "map", "mapping", "match",
   "matched", "materialized", "maxvalue", "merge", "method", "microsecond", "microseconds",
   "millennia", "millennium", "millisecond", "milliseconds", "minute", "minutes", "minvalue",
   "mode", "month", "months", "move", "name", "names", "national", "natural", "nchar", "new",
   "next", "no", "none", "not", "nothing", "notify", "notnull", "nowait", "null", "nullif",
   "nulls", "numeric", "object", "of", "off", "offset", "oids", "old", "on", "only", "operator",
   "option", "options", "or", "order", "ordinality", "others", "out", "outer", "over",
   "overlaps", "overlay", "overriding", "owned", "owner", "parallel", "parser", "partial",
   "partition", "partitioned", "passing", "password", "percent", "persistent", "pivot",
   "pivot_longer", "pivot_wider", "placing", "plans", "policy", "position", "positional",
   "pragma", "preceding", "precision", "prepare", "prepared", "preserve", "primary", "prior",
   "privileges", "procedural", "procedure", "program", "publication", "qualify", "quarter",
   "quarters", "quote", "range", "read", "real", "reassign", "recheck", "recursive", "ref",
   "references", "referencing", "refresh", "reindex", "relative", "release", "rename",
   "repeatable", "replace", "replica", "reset", "respect", "restart", "restrict", "returning",
   "returns", "revoke", "right", "role", "rollback", "rollup", "row", "rows", "rule", "sample",
   "savepoint", "schema", "schemas", "scope", "scroll", "search", "second", "seconds",
   "secret", "security", "select", "semi", "sequence", "sequences", "serializable", "server",
   "session", "set", "setof", "sets", "share", "show", "similar", "simple", "skip",
   "smallint", "snapshot", "some", "sql", "stable", "standalone", "start", "statement",
   "statistics", "stdin", "stdout", "storage", "stored", "strict", "strip", "struct",
   "subscription", "substring", "summarize", "symmetric", "sysid", "system", "table", "tables",
   "tablesample", "tablespace", "target", "temp", "template", "temporary", "text", "then",
   "time", "timestamp", "to", "trailing", "transaction", "transform", "treat", "trigger",
   "trim", "true", "truncate", "trusted", "try_cast", "type", "types", "unbounded",
   "uncommitted", "unencrypted", "union", "unique", "unknown", "unlisten", "unlogged",
   "unpivot", "until", "update", "use", "user", "using", "vacuum", "valid", "validate",
   "validator", "value", "values", "varchar", "variable", "variadic", "varying", "verbose",
   "version", "view", "views", "virtual", "volatile", "week", "weeks", "when", "where",
   "whitespace", "window", "with", "within", "without", "work", "wrapper", "write", "xml",
   "xmlattributes", "xmlconcat", "xmlelement", "xmlexists", "xmlforest", "xmlnamespaces",
   "xmlparse", "xmlpi", "xmlroot", "xmlserialize", "xmltable", "year", "years", "yes", "zone"]

/-- The words that may not stand as a column's name without quotes, in lower case. -/
def reservedWords : List String :=
  ["all", "analyse", "analyze", "and", "any", "array", "as", "asc", "asymmetric", "both",
   "case", "cast", "check", "collate", "column", "constraint", "create", "default",
   "deferrable", "desc", "describe", "distinct", "do", "else", "end", "except", "false",
   "fetch", "for", "foreign", "from", "grant", "group", "having", "in", "initially",
   "intersect", "into", "lambda", "lateral", "leading", "limit", "not", "null", "offset", "on",
   "only", "or", "order", "pivot", "pivot_longer", "pivot_wider", "placing", "primary",
   "qualify", "references", "returning", "select", "show", "some", "summarize", "symmetric",
   "table", "then", "to", "trailing", "true", "union", "unique", "unpivot", "using",
   "variadic", "when", "where", "window", "with"]

/-- ASCII lower case of a word. -/
def lowerAscii (s : String) : String := s.map Char.toLower

/-- Whether a word, in any case, is a word of the language. -/
def isKeyword (s : String) : Bool := keywords.contains (lowerAscii s)

/-- Whether a word, in any case, is reserved. -/
def isReserved (s : String) : Bool := reservedWords.contains (lowerAscii s)

/-- Whether a character may stand in an unquoted name at position `i`. -/
def plainNameChar (i : Nat) (c : Char) : Bool :=
  (c ≥ 'a' && c ≤ 'z') || (c ≥ 'A' && c ≤ 'Z') || c == '_' || (i > 0 && c ≥ '0' && c ≤ '9')

/-- Whether a name must be quoted to read back as itself. -/
def needsQuotes (name : String) : Bool :=
  !(name.toList.zipIdx.all fun (c, i) => plainNameChar i c) || isKeyword name

/-- A name between double quotes, each `"` in it doubled. -/
def quoteName (name : String) : String :=
  "\"" ++ String.ofList (name.toList.flatMap fun c => if c == '"' then ['"', '"'] else [c]) ++
    "\""

/-- A name as expression text writes it: quoted only when it must be. -/
def nameText (name : String) : String :=
  if needsQuotes name then quoteName name else name

example : nameText "label" = "\"label\"" := by decide +kernel
example : nameText "payload" = "payload" := by decide +kernel
example : nameText "t8" = "t8" := by decide +kernel

end CqlBridge.Sql
