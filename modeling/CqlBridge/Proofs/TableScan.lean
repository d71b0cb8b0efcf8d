import CqlBridge.Proofs.Describe
import CqlBridge.Proofs.ScanRun
import CqlBridge.Proofs.ScanStatement
import CqlBridge.TableFunction.Bind

/-!
# `CqlBridge.Proofs.TableScan` — a bound table, scanned to its end

Binding a table of an in-memory cluster and pulling batches until one comes back empty goes
through four parts of the library, each with its own lemma:

| step | what happens | lemma |
|---|---|---|
| bind | the table is described through the schema tables | `describeTable_stored` |
| first pull | the statement selects the bound columns by their quoted names | `read_tableStatement` |
| | the cluster answers it from the same table, cell by cell | `answer_scanStatement` |
| every pull | the executor hands the rows out batch by batch | `Scan.run_tracks` |

Put together (`bindTable_scan_rows`): the bound columns are the declared ones, each once, in
the described order, with the relational types of their declared types; the batches carry the
table's rows in insertion order, each row's cells at the bound columns' places, and once a pull
has found no row, all of them, each once. Such a pull comes at the latest after one pull more
than there are rows.

The table is the first of its keyspace and name: a later table of the same keyspace and name is
never read, neither by the description nor by the scan.
-/

namespace CqlBridge

open Text

/-! ## Tables built column by column, then filled

Declaring columns changes nothing but the columns, which come after those already there with
their names, types and roles, so a built table's columns are the declarations in order; adding
rows keeps their numbering. -/

namespace StoredTable

/-- The table built by declaring columns in order and then adding rows. -/
def build (keyspace name : String) (decls : List (String × StoreType × ColumnRole))
    (rows : List Row) : StoredTable :=
  (({ keyspace := keyspace, name := name } : StoredTable).declare decls).addRows rows

/-- The rows of a table as a scan of its described columns reads them: each row's cells at the
columns' places, in the described order, a missing cell null. -/
def describedRows (t : StoredTable) : List Row :=
  t.rows.map fun row => t.describedOrder.map fun p => (row[p.2]?).join

theorem declare_fields (t : StoredTable) (decls : List (String × StoreType × ColumnRole)) :
    (t.declare decls).keyspace = t.keyspace ∧ (t.declare decls).name = t.name ∧
      (t.declare decls).rows = t.rows := by
  induction decls generalizing t with
  | nil => exact ⟨rfl, rfl, rfl⟩
  | cons d decls ih => exact ih (t.addColumn d.1 d.2.1 d.2.2)

theorem declare_columns (t : StoredTable) (decls : List (String × StoreType × ColumnRole)) :
    (t.declare decls).columns.map (fun col => (col.name, col.type, col.role)) =
      t.columns.map (fun col => (col.name, col.type, col.role)) ++ decls := by
  induction decls generalizing t with
  | nil => simp [declare]
  | cons d decls ih =>
      rw [show t.declare (d :: decls) = (t.addColumn d.1 d.2.1 d.2.2).declare decls from rfl, ih,
        addColumn_columns]
      simp

theorem Numbered.addRows {t : StoredTable} (h : t.Numbered) (rows : List Row) :
    (t.addRows rows).Numbered :=
  ⟨h.keys, h.others⟩

section Build

variable (keyspace name : String) (decls : List (String × StoreType × ColumnRole)) (rows : List Row)

@[simp] theorem build_keyspace : (build keyspace name decls rows).keyspace = keyspace :=
  (declare_fields _ decls).1

@[simp] theorem build_name : (build keyspace name decls rows).name = name :=
  (declare_fields _ decls).2.1

@[simp] theorem build_rows : (build keyspace name decls rows).rows = rows := by
  simp [build, addRows, (declare_fields _ decls).2.2]

@[simp] theorem build_columns :
    (build keyspace name decls rows).columns.map (fun col => (col.name, col.type, col.role)) =
      decls := by
  simpa [build, addRows] using declare_columns { keyspace := keyspace, name := name } decls

theorem numbered_build : (build keyspace name decls rows).Numbered :=
  ((numbered_of_columns_nil (t := { keyspace := keyspace, name := name }) rfl).declare
    decls).addRows rows

end Build

end StoredTable

/-! ## The statement of a table scan, answered

A table scan's statement selects quoted names, so its eighth character is a double quote and it
is none of the schema statements. In a table with distinct column names the first column of a
column's name is itself, so columns picked with their places are found by name, each at its own
place. -/

theorem toCql_table_quote (t : TableName) {cols : List ScanColumn} (h : cols ≠ []) :
    ((ScanSource.table t none).toCql cols).toList[7]? = some '"' := by
  obtain ⟨col, cols, rfl⟩ := List.exists_cons_of_ne_nil h
  rw [toCql_table_toList t _ h]
  cases cols <;> simp [List.intercalate]

theorem toCql_table_ne_schema (t : TableName) {cols : List ScanColumn} (h : cols ≠ []) :
    ((ScanSource.table t none).toCql cols == SchemaQuery.keyspaces) = false ∧
      ((ScanSource.table t none).toCql cols == SchemaQuery.tables) = false ∧
      ((ScanSource.table t none).toCql cols == SchemaQuery.columns) = false := by
  have hq := toCql_table_quote t h
  refine ⟨?_, ?_, ?_⟩ <;> rw [beq_eq_false_iff_ne] <;> intro heq <;> rw [heq] at hq <;>
    revert hq <;> decide

theorem findIdx?_name {cols : List StoredColumn} (hnames : (cols.map (·.name)).Nodup) {i : Nat}
    {col : StoredColumn} (h : cols[i]? = some col) : cols.findIdx? (·.name == col.name) = some i := by
  obtain ⟨hi, rfl⟩ := List.getElem?_eq_some_iff.1 h
  rw [List.findIdx?_eq_some_iff_getElem]
  refine ⟨hi, by simp, fun j hj heq => ?_⟩
  have hj' : j < (cols.map (·.name)).length := by simp; omega
  have hi' : i < (cols.map (·.name)).length := by simpa using hi
  have hname : (cols.map (·.name))[j] = (cols.map (·.name))[i] := by simpa using heq
  have := (hnames.getElem_inj_iff).1 hname
  omega

namespace Cluster

theorem resolve_picks {t : StoredTable} (hnames : (t.columns.map (·.name)).Nodup) (cql : String) :
    ∀ picks : List (StoredColumn × Nat), (∀ p ∈ picks, p ∈ t.columns.zipIdx) →
      resolve cql t (picks.map (·.1.name)) = .ok (picks.map fun p => (p.2, p.1))
  | [], _ => rfl
  | p :: picks, h => by
      have hget : t.columns[p.2]? = some p.1 := List.mem_zipIdx_iff_getElem?.1 (h p List.mem_cons_self)
      have hrest := resolve_picks hnames cql picks fun q hq => h q (List.mem_cons_of_mem _ hq)
      simp [resolve, findIdx?_name hnames hget, hget, hrest]

end Cluster

/-- **The cluster answers a table scan's statement from the table.** With no failure patterns,
fixed answers or refused schema reads, the statement that selects some of a table's columns by
their quoted names is answered with those columns and, for each stored row in order, its cells
at their places. -/
theorem answer_scanStatement {c : Cluster} {T : StoredTable} (hfail : c.failing = [])
    (hcanned : c.canned = []) (hopen : c.restricted = false)
    (hfind : c.findTable? T.keyspace T.name = some T) (hnames : (T.columns.map (·.name)).Nodup)
    {picks : List (StoredColumn × Nat)} (hpicks : ∀ p ∈ picks, p ∈ T.columns.zipIdx)
    (hne : picks ≠ []) (hplain : ∀ p ∈ picks, ',' ∉ p.1.name.toList ∧ Avoids p.1.name " FROM ")
    (hkeyspace : Avoids T.keyspace " WHERE " ∧ Avoids T.keyspace " LIMIT ")
    (htable : Avoids T.name " WHERE " ∧ Avoids T.name " LIMIT ") :
    c.answer ((ScanSource.table ⟨T.keyspace, T.name⟩ none).toCql
        (picks.map fun p => ⟨p.1.name, SqlType.ofStoreType p.1.type⟩)) [] =
      .ok ⟨picks.map (fun p => ⟨p.1.name, p.1.type⟩),
        T.rows.map fun row => picks.map fun p => (row[p.2]?).join⟩ := by
  have hcols : (picks.map fun p => (⟨p.1.name, SqlType.ofStoreType p.1.type⟩ : ScanColumn)) ≠ [] := by
    simpa using hne
  have hread := read_tableStatement ⟨T.keyspace, T.name⟩ _ hcols
    (fun col hcol => by
      obtain ⟨p, hp, rfl⟩ := List.mem_map.1 hcol
      exact hplain p hp) hkeyspace htable
  obtain ⟨hkeyspaces, htables, hcolumns⟩ := toCql_table_ne_schema ⟨T.keyspace, T.name⟩ hcols
  simp only [Cluster.answer, hfail, hcanned, hopen, List.find?_nil, Bool.false_and, hkeyspaces,
    htables, hcolumns]
  simp only [List.map_map, Function.comp_def] at hread
  simp [Cluster.select, hread, hfind, Cluster.resolve_picks hnames _ picks hpicks]

/-! ## Binding a stored table

Binding a stored table describes it and scans it through an owned handle, with each column's
name and the relational type of its declared type, in the described order. -/

theorem described_toScanColumn (t : StoredTable) :
    t.described.map ColumnSpec.toScanColumn =
      t.describedOrder.map fun p => ⟨p.1.name, SqlType.ofStoreType p.1.type⟩ := by
  have hdrop : ∀ l : List StoredColumn,
      l.zipIdx.map (fun q => (q.1.describe q.2).toScanColumn) =
        l.map fun col => ⟨col.name, SqlType.ofStoreType col.type⟩ := by
    intro l
    conv => rhs; rw [← List.zipIdx_map_fst 0 l, List.map_map]
    rfl
  simp only [StoredTable.described, List.map_map]
  refine (hdrop _).trans ?_
  rw [List.map_map]
  rfl

theorem bindTable_stored {c : Cluster} {T : StoredTable} (hfail : c.failing = [])
    (hcanned : c.canned = []) (hopen : c.restricted = false)
    (hfind : c.findTable? T.keyspace T.name = some T) (hnum : T.Numbered)
    (hnames : (T.columns.map (·.name)).Nodup) (htypes : ∀ col ∈ T.columns, col.type.Readable)
    (hne : T.columns ≠ []) (hsize : T.columns.length < 2 ^ 31) :
    bindTable c ⟨T.keyspace, T.name⟩ none =
      ({ c with executed := c.executed ++ [SchemaQuery.columns] },
        .ok ⟨T.describedOrder.map fun p => ⟨p.1.name, SqlType.ofStoreType p.1.type⟩,
          .table ⟨T.keyspace, T.name⟩ none, .cluster .owned⟩) := by
  simp only [bindTable,
    Discovery.describeTable_stored hfail hcanned hopen hfind hnum hnames htypes hne hsize,
    described_toScanColumn]

/-! ## Scanning a bound table to its end -/

/-- **Pulling a fresh scan until a pull finds no row.** A fresh scan through an owned handle,
whose statement the cluster answers with `r`, pulled by any sizes, answers the contract's
batches of consecutive parts of `r`'s rows; once a part is empty the parts are all the rows,
and an empty part comes within one pull more than there are rows. -/
theorem Scan.run_pulls {c : Cluster} {s : Scan} {r : ResultSet}
    (hq : c.answer (s.source.toCql s.columns) [] = .ok r) (hs : s.state = .unstarted)
    (hold : s.hold = .owned) (live : Bool) (sizes : List Nat) :
    ∃ chunks : List (List Row),
      (s.run live c (sizes.map .pull)).2.2 =
        chunks.map (fun part => .ok (s.expectedBatch (min r.columns.length s.columns.length) part)) ∧
      chunks.flatten <+: r.rows ∧
      ([] ∈ chunks → chunks.flatten = r.rows) ∧
      (r.rows.length < sizes.length → [] ∈ chunks) := by
  have htracks : Scan.Tracks c (s.source.toCql s.columns) r.columns .fresh s c :=
    ⟨hs, (Cluster.afterScan_false_false _ _).symm⟩
  have hpulls : ∀ call ∈ sizes.map ScanCall.pull, call.isPull = true := by
    simp
  refine ⟨(Stage.fresh.run r.rows (sizes.map .pull)).2, ?_, ?_, ?_, ?_⟩
  · rw [Scan.run_tracks (sizes.map .pull) .fresh s c hq (.inl hold) htracks]
  · exact (List.prefix_append _ _).trans (Stage.run_flatten_prefix _ _ .fresh)
  · intro hnil
    have hall := Stage.run_flatten_of_pulls r.rows _ hpulls .fresh
    rwa [Stage.remaining_run_of_nil_mem _ hnil, List.append_nil] at hall
  · intro hlen
    exact Stage.nil_mem_run_of_pulls _ hpulls (by simpa using hlen)

/-- **Scanning a stored table's described columns to the end.** On a cluster with no failure
patterns, fixed answers or refused schema reads, a fresh scan through an owned handle of the
described columns of a table, found first under its keyspace and name, hands out the table's
rows in order, each with its cells at the columns' places, batch by batch, until a pull finds
none. -/
theorem Scan.run_describedOrder {c : Cluster} {T : StoredTable} (hfail : c.failing = [])
    (hcanned : c.canned = []) (hopen : c.restricted = false)
    (hfind : c.findTable? T.keyspace T.name = some T) (hnames : (T.columns.map (·.name)).Nodup)
    (hne : T.columns ≠ [])
    (hplain : ∀ col ∈ T.columns, ',' ∉ col.name.toList ∧ Avoids col.name " FROM ")
    (hkeyspace : Avoids T.keyspace " WHERE " ∧ Avoids T.keyspace " LIMIT ")
    (htable : Avoids T.name " WHERE " ∧ Avoids T.name " LIMIT ") (live : Bool) (sizes : List Nat) :
    let s : Scan := ⟨.owned, .table ⟨T.keyspace, T.name⟩ none,
      T.describedOrder.map fun p => ⟨p.1.name, SqlType.ofStoreType p.1.type⟩, .unstarted, 0⟩
    ∃ chunks : List (List Row),
      (s.run live c (sizes.map .pull)).2.2 =
        chunks.map (fun part => .ok (s.expectedBatch T.describedOrder.length part)) ∧
      chunks.flatten <+: T.describedRows ∧
      ([] ∈ chunks → chunks.flatten = T.describedRows) ∧
      (T.rows.length < sizes.length → [] ∈ chunks) := by
  intro s
  have horder : ∀ p ∈ T.describedOrder, p ∈ T.columns.zipIdx := fun p hp =>
    (StoredTable.describedOrder_perm T).mem_iff.1 hp
  have hne_order : T.describedOrder ≠ [] := fun h => by
    have hlen := (StoredTable.describedOrder_perm T).length_eq
    rw [h, List.length_zipIdx] at hlen
    exact hne (List.eq_nil_of_length_eq_zero hlen.symm)
  have hq : c.answer (s.source.toCql s.columns) [] =
      .ok ⟨T.describedOrder.map fun p => ⟨p.1.name, p.1.type⟩, T.describedRows⟩ :=
    answer_scanStatement hfail hcanned hopen hfind hnames horder hne_order
      (fun p hp => hplain p.1 (List.fst_mem_of_mem_zipIdx (horder p hp))) hkeyspace htable
  obtain ⟨chunks, hanswers, hprefix, hall, hend⟩ := Scan.run_pulls hq rfl rfl live sizes
  refine ⟨chunks, ?_, hprefix, hall,
    fun hlen => hend (by simpa [StoredTable.describedRows] using hlen)⟩
  simpa [s] using hanswers

/-- **A bound table, scanned to its end, gives its rows.** Take a cluster with no failure
patterns, fixed answers or refused schema reads, and a table built from declared columns and
rows that is the first of its keyspace and name. Its column names are distinct and hold no comma
and no ` FROM `, its keyspace and name hold no ` WHERE ` and no ` LIMIT ` (in any case), its
types are readable, and it has at least one and fewer than `2 ^ 31` columns. Binding it
succeeds; the bound columns are the declared ones, each once, in the described order, each with
the relational type of its declared type. Pull batches of any sizes: each pull answers the
contract's batch of the next rows; the rows handed out begin the table's rows in insertion
order, each with its cells at the bound columns' places; once a pull has found no row they are
all of them, each once; and such a pull comes within one pull more than there are rows. -/
theorem bindTable_scan_rows (c : Cluster) (keyspace table : String)
    (decls : List (String × StoreType × ColumnRole)) (rows : List Row)
    (hfail : c.failing = []) (hcanned : c.canned = []) (hopen : c.restricted = false)
    (hfind : c.findTable? keyspace table = some (StoredTable.build keyspace table decls rows))
    (hne : decls ≠ []) (hdistinct : (decls.map (·.1)).Nodup)
    (hnames : ∀ d ∈ decls, ',' ∉ d.1.toList ∧ Avoids d.1 " FROM ")
    (hkeyspace : Avoids keyspace " WHERE " ∧ Avoids keyspace " LIMIT ")
    (htable : Avoids table " WHERE " ∧ Avoids table " LIMIT ")
    (htypes : ∀ d ∈ decls, d.2.1.Readable) (hsize : decls.length < 2 ^ 31)
    (live : Bool) (sizes : List Nat) :
    let T := StoredTable.build keyspace table decls rows
    ∃ c' b, bindTable c ⟨keyspace, table⟩ none = (c', .ok b) ∧
      (T.describedOrder.map fun p => (p.1.name, p.1.type, p.1.role)).Perm decls ∧
      b.columns = T.describedOrder.map (fun p => ⟨p.1.name, SqlType.ofStoreType p.1.type⟩) ∧
      ∃ chunks : List (List Row),
        (b.scan.run live c' (sizes.map .pull)).2.2 =
          chunks.map (fun part => .ok (b.scan.expectedBatch T.describedOrder.length part)) ∧
        chunks.flatten <+: T.describedRows ∧
        ([] ∈ chunks → chunks.flatten = T.describedRows) ∧
        (rows.length < sizes.length → [] ∈ chunks) := by
  intro T
  -- the table as its builder leaves it: the declared columns, numbered, and the rows
  have hdecl : ∀ col ∈ T.columns, (col.name, col.type, col.role) ∈ decls := fun col hcol =>
    StoredTable.build_columns keyspace table decls rows ▸ List.mem_map_of_mem hcol
  have hnodup : (T.columns.map (·.name)).Nodup := by
    have hmap : T.columns.map (·.name) = decls.map (·.1) := by
      rw [← StoredTable.build_columns keyspace table decls rows, List.map_map]
      rfl
    rwa [hmap]
  have hne' : T.columns ≠ [] := fun h => by
    have hbuilt := StoredTable.build_columns keyspace table decls rows
    rw [show (StoredTable.build keyspace table decls rows).columns = [] from h] at hbuilt
    exact hne hbuilt.symm
  have hsize' : T.columns.length < 2 ^ 31 := by
    rw [← List.length_map (fun col => (col.name, col.type, col.role)),
      StoredTable.build_columns]
    exact hsize
  have hfind' : c.findTable? T.keyspace T.name = some T := by simpa [T] using hfind
  have hT : (⟨keyspace, table⟩ : TableName) = ⟨T.keyspace, T.name⟩ := by simp [T]
  rw [hT, bindTable_stored hfail hcanned hopen hfind' (StoredTable.numbered_build ..) hnodup
    (fun col hcol => htypes _ (hdecl col hcol)) hne' hsize']
  refine ⟨_, _, rfl, ?columns, rfl, ?run⟩
  case columns =>
    have hperm := (StoredTable.describedOrder_perm T).map fun p => (p.1.name, p.1.type, p.1.role)
    rw [← StoredTable.build_columns keyspace table decls rows, ← List.zipIdx_map_fst 0 T.columns,
      List.map_map]
    exact hperm
  case run =>
    obtain ⟨chunks, hanswers, hprefix, hall, hend⟩ :=
      Scan.run_describedOrder (c := { c with executed := c.executed ++ [SchemaQuery.columns] })
        hfail hcanned hopen hfind' hnodup hne' (fun col hcol => hnames _ (hdecl col hcol))
        (by simpa [T] using hkeyspace) (by simpa [T] using htable) live sizes
    exact ⟨chunks, hanswers, hprefix, hall, fun hlen => hend (by simpa [T] using hlen)⟩

/-- A table declared out of order (a regular column, the clustering key, another regular
column, then the partition key) on a cluster of its own, pulled one row at a time. -/
theorem bindTable_scan_rows_out_of_order :
    let decls : List (String × StoreType × ColumnRole) :=
      [("v", .scalar .text, .regular), ("ck", .scalar .int, .clusteringKey),
        ("a", .scalar .text, .regular), ("pk", .scalar .int, .partitionKey)]
    let rows : List Row := [[some (.text "x"), some (.int 2), some (.text "y"), some (.int 1)]]
    let T := StoredTable.build "ks" "t" decls rows
    ∃ c' b, bindTable (({} : Cluster).addTable T) ⟨"ks", "t"⟩ none = (c', .ok b) ∧
      (T.describedOrder.map fun p => (p.1.name, p.1.type, p.1.role)).Perm decls ∧
      b.columns = T.describedOrder.map (fun p => ⟨p.1.name, SqlType.ofStoreType p.1.type⟩) ∧
      ∃ chunks : List (List Row),
        (b.scan.run false c' ([1, 1].map .pull)).2.2 =
          chunks.map (fun part => .ok (b.scan.expectedBatch T.describedOrder.length part)) ∧
        chunks.flatten <+: T.describedRows ∧
        ([] ∈ chunks → chunks.flatten = T.describedRows) ∧
        (rows.length < [1, 1].length → [] ∈ chunks) :=
  bindTable_scan_rows _ "ks" "t" _ _ rfl rfl rfl rfl (by simp) (by decide)
    (by simp only [Avoids]; decide) (by simp only [Avoids]; decide) (by simp only [Avoids]; decide)
    (by
      intro d hd
      simp only [List.mem_cons, List.not_mem_nil, or_false] at hd
      rcases hd with rfl | rfl | rfl | rfl <;> exact .scalar _)
    (by decide) false [1, 1]

/-- Of two tables registered under one keyspace and name, binding the name reads the first
alone: a pull hands out its one row and the next pull none, though the second table, also
registered, holds two rows. -/
theorem bindTable_reads_first_of_same_name :
    let first := StoredTable.build "ks" "t" [("a", .scalar .int, .partitionKey)] [[some (.int 1)]]
    let second := StoredTable.build "ks" "t" [("a", .scalar .int, .partitionKey)]
      [[some (.int 2)], [some (.int 3)]]
    let c := (({} : Cluster).addTable first).addTable second
    second ∈ c.tables ∧ ∃ c' b, bindTable c ⟨"ks", "t"⟩ none = (c', .ok b) ∧
      (b.scan.run false c' [.pull 10, .pull 10]).2.2.map (fun r => r.map (·.rows)) = [.ok 1, .ok 0] :=
by
  intro first second c
  have hfind : c.findTable? first.keyspace first.name = some first := rfl
  have hnum : first.Numbered :=
    ((StoredTable.numbered_of_columns_nil (t := { keyspace := "ks", name := "t" }) rfl).declare
      _).addRows _
  have htypes : ∀ col ∈ first.columns, col.type.Readable := by
    intro col hcol
    rw [show first.columns = [⟨"a", .scalar .int, .partitionKey, 0⟩] from rfl,
      List.mem_singleton] at hcol
    subst hcol
    exact .scalar _
  refine ⟨by simp [c, Cluster.addTable], _, _,
    bindTable_stored rfl rfl rfl hfind hnum (by decide) htypes (by decide) (by decide), ?_⟩
  -- the scan's statement is answered from the first table, whose one row the pulls hand out
  have horder : ∀ p ∈ first.describedOrder, p ∈ first.columns.zipIdx := fun p hp =>
    (StoredTable.describedOrder_perm first).mem_iff.1 hp
  have hcolumn : ∀ p ∈ first.describedOrder, p.1 = ⟨"a", .scalar .int, .partitionKey, 0⟩ :=
    fun p hp => by
      have hmem := List.fst_mem_of_mem_zipIdx (horder p hp)
      rwa [show first.columns = [⟨"a", .scalar .int, .partitionKey, 0⟩] from rfl,
        List.mem_singleton] at hmem
  have hne : first.describedOrder ≠ [] := fun h => by
    have hlen := (StoredTable.describedOrder_perm first).length_eq
    rw [h] at hlen
    cases hlen
  have hq := answer_scanStatement (c := { c with executed := c.executed ++ [SchemaQuery.columns] })
    rfl rfl rfl hfind (by decide) horder hne
    (fun p hp => by rw [hcolumn p hp]; simp only [Avoids]; decide)
    (by simp only [Avoids]; decide) (by simp only [Avoids]; decide)
  have hrows : first.rows = [[some (.int 1)]] := rfl
  rw [Scan.run_tracks [.pull 10, .pull 10] .fresh _ _ hq (.inl rfl)
    ⟨rfl, (Cluster.afterScan_false_false _ _).symm⟩]
  simp [Stage.run, Stage.pull, Scan.expectedBatch, clampRows, hrows, Except.map]

end CqlBridge
