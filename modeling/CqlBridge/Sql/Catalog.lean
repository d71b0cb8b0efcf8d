import CqlBridge.Sql.Plan
import CqlBridge.Sql.Suggest

/-!
# `CqlBridge.Sql.Catalog` — what a statement can name: stored tables, views, table functions

A database holds the tables and views that statements created. Names are compared without
regard to ASCII case.

Table functions come from a *host*: a record of functions over the host's own state `σ` that
binds a call (fixing its columns) and later scans what it bound (of type `β`). The engine asks
the host to bind every call of a statement before it scans any of them.

A name that is not found is reported with the closest name the engine knows
(`Suggest.closest`): the database's own tables and views, then the built-in views of the main
schema, then those of `pg_catalog`. The views of `information_schema` are suggested, qualified,
only when they fit clearly better.
-/

namespace CqlBridge.Sql

/-- A table function: its name, the types of its positional parameters and its named
parameters. -/
structure TableFn where
  name : String
  params : List Ty
  named : List (String × Ty)

/-- A host of table functions over state `σ`, whose bound calls are of type `β`. -/
structure Host (σ β : Type) where
  functions : List TableFn
  /-- Binds a call by its function's name, positional values and named values (in the order
  given), fixing its columns. -/
  bind : String → List Val → List (String × Val) → σ → σ × Except SqlError (List Column × β)
  /-- Reads all rows of a bound call. -/
  scan : β → σ → σ × Except SqlError (List Row)

/-- A stored table. -/
structure StoredTable where
  name : String
  columns : List Column
  rows : List Row

/-- A stored view: its query, and the names of its columns when it was created. -/
structure StoredView where
  name : String
  query : Query
  columns : List String

/-- The tables and views of a database. -/
structure Database where
  tables : List StoredTable := []
  views : List StoredView := []

namespace Database

/-- Whether two names are the same name. -/
def sameName (a b : String) : Bool := lowerAscii a == lowerAscii b

/-- The table called `name`. -/
def table? (db : Database) (name : String) : Option StoredTable :=
  db.tables.find? (sameName ·.name name)

/-- The view called `name`. -/
def view? (db : Database) (name : String) : Option StoredView :=
  db.views.find? (sameName ·.name name)

/-- Whether a table or view is called `name`. -/
def holds (db : Database) (name : String) : Bool := (db.table? name).isSome || (db.view? name).isSome

/-- The names of the tables and views, in alphabetical order. -/
def names (db : Database) : List String :=
  ((db.tables.map (·.name)) ++ (db.views.map (·.name))).mergeSort
    (fun a b => decide (lowerAscii a ≤ lowerAscii b))

/-- Adds or replaces a table. -/
def putTable (db : Database) (t : StoredTable) : Database :=
  { db with tables := db.tables.filter (!sameName ·.name t.name) ++ [t] }

/-- Adds or replaces a view. -/
def putView (db : Database) (v : StoredView) : Database :=
  { db with views := db.views.filter (!sameName ·.name v.name) ++ [v] }

/-- Drops a table or view. -/
def drop (db : Database) (name : String) : Database :=
  { tables := db.tables.filter (!sameName ·.name name),
    views := db.views.filter (!sameName ·.name name) }

end Database

/-- The built-in views of the main schema. -/
def mainViews : List String :=
  ["duckdb_columns", "duckdb_constraints", "duckdb_databases", "duckdb_indexes",
   "duckdb_schemas", "duckdb_tables", "duckdb_types", "duckdb_views", "pragma_database_list",
   "sqlite_master", "sqlite_schema", "sqlite_temp_master", "sqlite_temp_schema"]

/-- The built-in views of `pg_catalog`. -/
def pgViews : List String :=
  ["pg_am", "pg_attrdef", "pg_attribute", "pg_class", "pg_constraint", "pg_database",
   "pg_depend", "pg_description", "pg_enum", "pg_index", "pg_indexes", "pg_namespace",
   "pg_prepared_statements", "pg_proc", "pg_sequence", "pg_sequences", "pg_settings",
   "pg_tables", "pg_tablespace", "pg_type", "pg_views"]

/-- The views of `information_schema`, which is not searched by default. -/
def infoViews : List String :=
  ["character_sets", "check_constraints", "columns", "constraint_column_usage",
   "constraint_table_usage", "key_column_usage", "referential_constraints", "schemata",
   "table_constraints", "tables", "views"]

/-- The best of several candidates, the earlier one among equals. -/
def better (a b : Option (String × Score)) : Option (String × Score) :=
  match a, b with
  | some (_, x), some (_, y) => if y.gt x then b else a
  | none, _ => b
  | _, none => a

/-- The suggestion for a missing table or view, as it is shown. -/
def suggestTable (db : Database) (name : String) : Option String :=
  let seen := better (better (closest name db.names) (closest name mainViews))
    (closest name pgViews)
  let unseen := closest name infoViews
  match seen, unseen with
  | some (s, sc), some (u, usc) =>
    if usc.isOne || usc.gtByFifth sc then some ("information_schema." ++ u) else some s
  | some (s, _), none => some s
  | none, some (u, _) => some ("information_schema." ++ u)
  | none, none => none

/-- The error for a missing table or view at `span`. -/
def missingTable (db : Database) (name : String) (span : Span) : SqlError :=
  ⟨.catalog, "Table with name " ++ name ++ " does not exist!" ++
    (match suggestTable db name with
      | some s => "\nDid you mean \"" ++ s ++ "\"?"
      | none => ""), some span⟩

example : suggestTable {} "copy" = some "pg_type" := by decide +kernel

end CqlBridge.Sql
