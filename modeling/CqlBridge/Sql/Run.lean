import CqlBridge.Sql.Bind
import CqlBridge.Sql.Exec
import CqlBridge.Sql.Parse

/-!
# `CqlBridge.Sql.Run` — running the statements of a text on a connection

A connection holds the host's state and a database. Running a text:

1. reads every statement first, so a syntax error anywhere stops the text before anything
   runs; a text with no statement at all is an error of its own;
2. runs every statement but the last, each bound once and then executed;
3. runs the last one, whose result is the text's result. It is prepared and then executed,
   and each of those binds it, so its table functions are bound twice before any is scanned.

`CREATE TABLE … AS` stores the rows of its query and answers their count in a column `Count`;
`CREATE TABLE (…)`, `CREATE VIEW` and `DROP` answer that column with no row. A view stores its
query, which is bound again (with its table functions) each time it is read.

The modules under `CqlBridge.Sql` are the engine that hosts the table functions, not part of the
bridge: they model the fragment of its language that statements around the table functions
use, with its error texts, so that such statements run here as they do there.
-/

namespace CqlBridge.Sql

/-- A connection: the host's state and the database. -/
structure Session (σ : Type) where
  ext : σ
  db : Database := {}

namespace Run

variable {σ β : Type}

/-- The fuel for the syntax of a text: every level of nesting takes at least one token. -/
def fuelFor (text : String) : Nat := 4 * text.length + 64

/-- Runs a step on the host's state of a connection. -/
def onExt {α : Type} (m : EStateM SqlError σ α) : EStateM SqlError (Session σ) α := fun s =>
  match m s.ext with
  | .ok a e => .ok a { s with ext := e }
  | .error err e => .error err { s with ext := e }

/-- Binds a query once against a database. -/
def bindOnce (host : Host σ β) (db : Database) (fuel : Nat) (q : Query) :
    EStateM SqlError σ (Bound β) := fun s =>
  match Bind.block ⟨host, db⟩ fuel q ⟨s, [], []⟩ with
  | .ok b st => .ok b st.ext
  | .error e st => .error e st.ext

/-- Binds a query `times` times (at least once), keeping the last plan. -/
def bindTimes (host : Host σ β) (db : Database) (fuel : Nat) (q : Query) :
    Nat → EStateM SqlError σ (Bound β)
  | 0 | 1 => bindOnce host db fuel q
  | n + 1 => do
    let _ ← bindOnce host db fuel q
    bindTimes host db fuel q n

/-- Binds a query and runs it. -/
def query (host : Host σ β) (binds fuel : Nat) (q : Query) :
    EStateM SqlError (Session σ) Relation := do
  let db := (← get).db
  let b ← onExt (bindTimes host db fuel q binds)
  let rows ← onExt (Exec.run host [] b.plan)
  return ⟨b.columns, rows⟩

/-- The column that statements changing the database answer with. -/
def countColumns : List Column := [⟨"Count", .bigint⟩]

/-- A row converted to a table's column types, by position. -/
def convertRow (source target : List Column) (row : Row) : Except SqlError Row :=
  ((source.zip target).zip row).mapM fun ((f, t), v) =>
    (castVal f.ty t.ty v).mapError fun m => ⟨.conversion, m, none⟩

/-- Runs one statement, binding it `binds` times. -/
def stmt (host : Host σ β) (binds fuel : Nat) : Stmt → EStateM SqlError (Session σ) Relation
  | .query q => query host binds fuel q
  | .createTableAs name q orReplace ifNotExists => do
    let db := (← get).db
    if db.holds name && !orReplace then
      if ifNotExists then return ⟨countColumns, []⟩
      throw ⟨.catalog, "Table with name " ++ name ++ " already exists!", none⟩
    let r ← query host binds fuel q
    modify fun s => { s with db := s.db.putTable ⟨name, r.columns, r.rows⟩ }
    return ⟨countColumns, [[.int r.rows.length]]⟩
  | .createTable name cols orReplace ifNotExists => do
    let db := (← get).db
    if db.holds name && !orReplace then
      if ifNotExists then return ⟨countColumns, []⟩
      throw ⟨.catalog, "Table with name " ++ name ++ " already exists!", none⟩
    modify fun s => { s with db := s.db.putTable ⟨name, cols.map (fun c => ⟨c.name, c.ty⟩), []⟩ }
    return ⟨countColumns, []⟩
  | .createView name q orReplace => do
    let db := (← get).db
    if db.holds name && !orReplace then
      throw ⟨.catalog, "View with name " ++ name ++ " already exists!", none⟩
    let b ← onExt (bindOnce host db fuel q)
    modify fun s => { s with db := s.db.putView ⟨name, q, b.columns.map (·.name)⟩ }
    return ⟨countColumns, []⟩
  | .insert name cols q span => do
    let db := (← get).db
    match db.table? name with
    | none => throw (missingTable db name span)
    | some t =>
      let r ← query host binds fuel q
      let target := match cols with
        | some names => names.filterMap fun n => t.columns.find? (Database.sameName ·.name n)
        | none => t.columns
      if target.length != r.columns.length then
        throw ⟨.binder, "table " ++ t.name ++ " has " ++ toString target.length ++
          " columns but " ++ toString r.columns.length ++ " values were supplied", none⟩
      let converted ← match r.rows.mapM (convertRow r.columns target) with
        | .ok rows => pure rows
        | .error e => throw e
      let placed := converted.map fun row => t.columns.map fun c =>
        match target.findIdx? (Database.sameName ·.name c.name) with
        | some i => row.getD i .null
        | none => .null
      modify fun s => { s with db := s.db.putTable { t with rows := t.rows ++ placed } }
      return ⟨countColumns, [[.int placed.length]]⟩
  | .drop _ name ifExists span => do
    let db := (← get).db
    if !db.holds name && !ifExists then throw (missingTable db name span)
    modify fun s => { s with db := s.db.drop name }
    return ⟨countColumns, []⟩

/-- Runs statements that come before the last one, each bound once. -/
def leading (host : Host σ β) (fuel : Nat) : List Stmt → EStateM SqlError (Session σ) Unit
  | [] => pure ()
  | s :: ss => do
    let _ ← stmt host 1 fuel s
    leading host fuel ss

end Run

/-- Runs the statements of a text; the result of the last one is the answer. -/
def runText {σ β : Type} (host : Host σ β) (text : String) :
    EStateM SqlError (Session σ) Relation := do
  let stmts ← match parseStatements text with
    | .ok ss => pure ss
    | .error e => throw e
  let fuel := Run.fuelFor text
  match stmts.getLast? with
  | none => throw ⟨.empty, "", none⟩
  | some last =>
    Run.leading host fuel stmts.dropLast
    Run.stmt host 2 fuel last

end CqlBridge.Sql
