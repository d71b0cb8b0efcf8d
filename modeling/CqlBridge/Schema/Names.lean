import CqlBridge.Fault

/-!
# `CqlBridge.Schema.Names` — keyspace and table names

A keyspace name is any non-empty text. A table name is a keyspace and a table; read from text
it is split at the first `.`, and both parts must be non-empty (`a.b.c` is table `b.c` of
keyspace `a`). A name goes into a statement double-quoted, with each `"` in it doubled, so the
quoted form reads back as exactly the name whatever characters it holds.
-/

namespace CqlBridge

/-- A name between double quotes, each `"` in it doubled. -/
def quoteIdent (name : String) : String :=
  "\"" ++ String.ofList (name.toList.flatMap fun c => if c == '"' then ['"', '"'] else [c]) ++
    "\""

/-- The name of a keyspace: never empty. -/
structure KeyspaceName where
  name : String
  nonempty : name ≠ ""
  deriving DecidableEq

namespace KeyspaceName

/-- A keyspace name; the empty text is refused. -/
def make (name : String) : Except ConfigFault KeyspaceName :=
  if h : name = "" then .error .emptyKeyspace else .ok ⟨name, h⟩

/-- The keyspace every cluster has. -/
def system : KeyspaceName := ⟨"system", by decide⟩

instance : LT KeyspaceName := ⟨fun a b => a.name < b.name⟩

instance (a b : KeyspaceName) : Decidable (a < b) :=
  inferInstanceAs (Decidable (a.name < b.name))

end KeyspaceName

/-- A table of a keyspace. -/
structure TableName where
  keyspace : String
  table : String
  deriving DecidableEq, Repr

namespace TableName

/-- The name as written in text, `keyspace.table`. -/
def qualified (t : TableName) : String := t.keyspace ++ "." ++ t.table

/-- The name as it goes into a statement, both parts quoted. -/
def cqlName (t : TableName) : String := quoteIdent t.keyspace ++ "." ++ quoteIdent t.table

/-- Reads `keyspace.table`, split at the first `.`; both parts must be non-empty. -/
def parse (qualified : String) : Except ConfigFault TableName :=
  match qualified.toList.span (· != '.') with
  | (k@(_ :: _), '.' :: t@(_ :: _)) => .ok ⟨String.ofList k, String.ofList t⟩
  | _ => .error (.badTableName qualified)

end TableName

end CqlBridge
