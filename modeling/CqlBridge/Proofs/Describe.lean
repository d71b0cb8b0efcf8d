import Mathlib.Data.List.Nodup
import Mathlib.Data.Prod.Lex
import Mathlib.Data.String.Basic
import CqlBridge.Discovery
import CqlBridge.Proofs.TypeText

/-!
# `CqlBridge.Proofs.Describe` — describing a stored table through the schema tables

A cluster answers the columns statement of the schema tables with one row per declared column,
in declaration order: its name, its type written out, its kind and its position. Describing the
table reads these rows back, sorts them by (rank, position, name) and numbers them from 0.

For a table built column by column (`StoredTable.declare`), with distinct column names, the
sort has one outcome, `StoredTable.describedOrder`:

| columns | order |
|---|---|
| partition key columns | as declared |
| clustering columns | as declared |
| static, regular and unknown columns | by name |

When every declared type is `Readable`, reading its written form gives it back, so each
described column has the relational type of its declared type (`describeTable_stored`).
-/

namespace CqlBridge

open Discovery

/-! ## Tables built column by column

One more column keeps the numbering, a key column getting the count of its role so far; so
every table declared column by column is numbered, its positions lie between `-1` and its
column count, and within a key role they grow in declaration order. -/

namespace StoredTable

/-- Declares columns in order, as a table is built column by column. -/
def declare (t : StoredTable) (decls : List (String × StoreType × ColumnRole)) : StoredTable :=
  decls.foldl (fun t d => t.addColumn d.1 d.2.1 d.2.2) t

/-- The numbering `addColumn` gives: the key columns of each role carry `0, 1, …` in
declaration order, and the other columns `-1`. -/
structure Numbered (t : StoredTable) : Prop where
  keys : ∀ r : ColumnRole, r.isKey = true →
    (t.columns.filter (·.role == r)).map (·.position) =
      (List.range (t.countRole r)).map fun k : Nat => (k : Int)
  others : ∀ col ∈ t.columns, col.role.isKey = false → col.position = -1

theorem numbered_of_columns_nil {t : StoredTable} (h : t.columns = []) : t.Numbered :=
  ⟨fun r _ => by simp [countRole, h], fun col hcol => by simp [h] at hcol⟩

theorem addColumn_columns (t : StoredTable) (name : String) (type : StoreType) (role : ColumnRole) :
    (t.addColumn name type role).columns =
      t.columns ++ [⟨name, type, role, if role.isKey then (t.countRole role : Int) else -1⟩] := by
  cases role <;> rfl

theorem Numbered.addColumn {t : StoredTable} (h : t.Numbered) (name : String) (type : StoreType)
    (role : ColumnRole) : (t.addColumn name type role).Numbered := by
  constructor
  · intro r hr
    by_cases hrole : role = r
    · subst hrole
      have hcount : (t.addColumn name type role).countRole role = t.countRole role + 1 := by
        simp [countRole, addColumn_columns, List.filter_append]
      rw [hcount, addColumn_columns, List.filter_append, List.map_append, h.keys role hr,
        List.range_succ]
      simp [hr]
    · have hne : (role == r) = false := by simpa using hrole
      have hcount : (t.addColumn name type role).countRole r = t.countRole r := by
        simp [countRole, addColumn_columns, List.filter_append, hne]
      rw [hcount, addColumn_columns, List.filter_append, List.map_append, h.keys r hr]
      simp [hne]
  · intro col hcol hkey
    rw [addColumn_columns, List.mem_append, List.mem_singleton] at hcol
    rcases hcol with hcol | rfl
    · exact h.others col hcol hkey
    · simp only at hkey
      simp [hkey]

theorem Numbered.declare {t : StoredTable} (h : t.Numbered)
    (decls : List (String × StoreType × ColumnRole)) : (t.declare decls).Numbered := by
  induction decls generalizing t with
  | nil => exact h
  | cons d decls ih => exact ih (h.addColumn d.1 d.2.1 d.2.2)

theorem Numbered.position_bounds {t : StoredTable} (h : t.Numbered) {col : StoredColumn}
    (hcol : col ∈ t.columns) : -1 ≤ col.position ∧ col.position < t.columns.length := by
  have hlen : 0 < t.columns.length := List.length_pos_of_mem hcol
  cases hkey : col.role.isKey with
  | false =>
      rw [h.others col hcol hkey]
      omega
  | true =>
      have hmem : col.position ∈ (t.columns.filter (·.role == col.role)).map (·.position) :=
        List.mem_map_of_mem (List.mem_filter.2 ⟨hcol, by simp⟩)
      rw [h.keys col.role hkey] at hmem
      obtain ⟨k, hk, hpos⟩ := List.mem_map.1 hmem
      have hcount : t.countRole col.role ≤ t.columns.length := List.length_filter_le _ _
      rw [List.mem_range] at hk
      omega

theorem Numbered.pairwise_position {t : StoredTable} (h : t.Numbered) {r : ColumnRole}
    (hr : r.isKey = true) :
    (t.columns.filter (·.role == r)).Pairwise fun a b => a.position < b.position := by
  have hrange : ((List.range (t.countRole r)).map fun k : Nat => (k : Int)).Pairwise (· < ·) :=
    List.pairwise_map.2 (List.pairwise_lt_range.imp fun hab => by omega)
  rw [← h.keys r hr] at hrange
  exact List.pairwise_map.1 hrange

end StoredTable

/-! ## The order of metadata rows -/

/-- The metadata row the schema answer gives for a column. -/
def StoredColumn.metaRow (col : StoredColumn) : MetaRow :=
  ⟨col.name, col.type.render, col.role, col.position⟩

namespace Discovery.MetaRow

/-- The sort key of a metadata row: its rank, then its position, then its name. -/
def key (a : MetaRow) : Lex (Nat × Lex (Int × String)) :=
  toLex (a.role.rank, toLex (a.position, a.name))

theorem le_iff_key (a b : MetaRow) : a.le b = true ↔ a.key ≤ b.key := by
  simp only [MetaRow.le, key, Prod.Lex.le_iff, ofLex_toLex, Bool.or_eq_true, Bool.and_eq_true,
    decide_eq_true_eq, beq_iff_eq, Bool.not_eq_true', decide_eq_false_iff_not, not_lt]

theorem le_of_le_of_le {a b c : MetaRow} (hab : a.le b = true) (hbc : b.le c = true) :
    a.le c = true :=
  (le_iff_key a c).2 (le_trans ((le_iff_key a b).1 hab) ((le_iff_key b c).1 hbc))

theorem le_or_le (a b : MetaRow) : (a.le b || b.le a) = true := by
  rcases le_total a.key b.key with h | h
  · simp [(le_iff_key a b).2 h]
  · simp [(le_iff_key b a).2 h]

theorem name_eq_of_le {a b : MetaRow} (hab : a.le b = true) (hba : b.le a = true) :
    a.name = b.name := by
  have hkey : a.key = b.key := le_antisymm ((le_iff_key a b).1 hab) ((le_iff_key b a).1 hba)
  simpa [key] using congrArg (fun k => (ofLex (ofLex k).2).2) hkey

end Discovery.MetaRow

namespace StoredColumn

theorem metaRow_le_of_rank_lt {a b : StoredColumn} (h : a.role.rank < b.role.rank) :
    a.metaRow.le b.metaRow = true := by
  simp [metaRow, MetaRow.le, h]

theorem metaRow_le_of_position_lt {a b : StoredColumn} (hrole : a.role = b.role)
    (h : a.position < b.position) : a.metaRow.le b.metaRow = true := by
  simp [metaRow, MetaRow.le, hrole, h]

theorem metaRow_le_of_name_le {a b : StoredColumn} (hrole : a.role.rank = b.role.rank)
    (hpos : a.position = b.position) (h : a.name ≤ b.name) : a.metaRow.le b.metaRow = true := by
  simp [metaRow, MetaRow.le, hrole, hpos, not_lt.2 h]

end StoredColumn

/-! ## The described order

The described order lists every column once and is sorted by the order of metadata rows. -/

namespace StoredTable

/-- A table's columns with their places, in the order a description lists them: partition key
columns, then clustering columns, each as declared, then the other columns by name. -/
def describedOrder (t : StoredTable) : List (StoredColumn × Nat) :=
  t.columns.zipIdx.filter (·.1.role == .partitionKey) ++
    t.columns.zipIdx.filter (·.1.role == .clusteringKey) ++
      (t.columns.zipIdx.filter (!·.1.role.isKey)).mergeSort fun a b => decide (a.1.name ≤ b.1.name)

theorem describedOrder_perm (t : StoredTable) : t.describedOrder.Perm t.columns.zipIdx := by
  -- split off the partition keys, then split the rest into clustering keys and the others
  have hrest : ∀ l : List (StoredColumn × Nat),
      (l.filter (·.1.role == .clusteringKey) ++ l.filter (!·.1.role.isKey)).Perm
        (l.filter fun a => !(a.1.role == .partitionKey)) := by
    intro l
    have hsplit := List.filter_append_perm (fun a : StoredColumn × Nat => a.1.role == .clusteringKey)
      (l.filter fun a => !(a.1.role == .partitionKey))
    rw [List.filter_filter, List.filter_filter] at hsplit
    have hkeys : l.filter (fun a => (a.1.role == .clusteringKey) && !(a.1.role == .partitionKey)) =
        l.filter (·.1.role == .clusteringKey) :=
      List.filter_congr fun a _ => by cases a.1.role <;> rfl
    have hothers : l.filter (fun a => !(a.1.role == .clusteringKey) && !(a.1.role == .partitionKey)) =
        l.filter (!·.1.role.isKey) :=
      List.filter_congr fun a _ => by cases a.1.role <;> rfl
    rwa [hkeys, hothers] at hsplit
  unfold describedOrder
  rw [List.append_assoc]
  refine ((List.Perm.append_left _ ?_).trans (List.filter_append_perm _ _))
  exact (List.Perm.append_left _ (List.mergeSort_perm _ _)).trans (hrest _)

theorem map_fst_filter_zipIdx (t : StoredTable) (p : ColumnRole → Bool) :
    (t.columns.zipIdx.filter fun a => p a.1.role).map Prod.fst = t.columns.filter fun col => p col.role := by
  rw [show (fun a : StoredColumn × Nat => p a.1.role) = (fun col => p col.role) ∘ Prod.fst from rfl,
    ← List.filter_map, List.zipIdx_map_fst]

theorem pairwise_key_part {t : StoredTable} (h : t.Numbered) {r : ColumnRole} (hr : r.isKey = true) :
    (t.columns.zipIdx.filter (·.1.role == r)).Pairwise fun a b => a.1.metaRow.le b.1.metaRow = true := by
  have hpos := h.pairwise_position hr
  rw [← map_fst_filter_zipIdx t (· == r)] at hpos
  refine (List.pairwise_map.1 hpos).imp_of_mem fun ha hb hab => ?_
  have hra := (List.mem_filter.1 ha).2
  have hrb := (List.mem_filter.1 hb).2
  simp only [beq_iff_eq] at hra hrb
  exact StoredColumn.metaRow_le_of_position_lt (hra.trans hrb.symm) hab

theorem pairwise_describedOrder {t : StoredTable} (h : t.Numbered) :
    t.describedOrder.Pairwise fun a b => a.1.metaRow.le b.1.metaRow = true := by
  have hrank : ∀ a ∈ t.columns.zipIdx.filter (!·.1.role.isKey), a.1.role.rank = 2 ∧ a.1.position = -1 := by
    intro a ha
    obtain ⟨hmem, hkey⟩ := List.mem_filter.1 ha
    have hkey : a.1.role.isKey = false := by simpa using hkey
    refine ⟨by cases hrole : a.1.role <;> simp_all [ColumnRole.isKey, ColumnRole.rank], ?_⟩
    exact h.others a.1 (List.fst_mem_of_mem_zipIdx hmem) hkey
  have hothers : ((t.columns.zipIdx.filter (!·.1.role.isKey)).mergeSort
      fun a b => decide (a.1.name ≤ b.1.name)).Pairwise
        fun a b => a.1.metaRow.le b.1.metaRow = true := by
    refine (List.pairwise_mergeSort (fun a b c hab hbc => ?_) (fun a b => ?_) _).imp_of_mem
      fun ha hb hab => ?_
    · simp only [decide_eq_true_eq] at hab hbc ⊢
      exact le_trans hab hbc
    · simpa using le_total a.1.name b.1.name
    · obtain ⟨hra, hpa⟩ := hrank _ ((List.mergeSort_perm _ _).mem_iff.1 ha)
      obtain ⟨hrb, hpb⟩ := hrank _ ((List.mergeSort_perm _ _).mem_iff.1 hb)
      exact StoredColumn.metaRow_le_of_name_le (hra.trans hrb.symm) (hpa.trans hpb.symm)
        (by simpa using hab)
  unfold describedOrder
  refine List.pairwise_append.2 ⟨List.pairwise_append.2 ⟨pairwise_key_part h rfl,
    pairwise_key_part h rfl, ?_⟩, hothers, ?_⟩
  · intro a ha b hb
    have hra := (List.mem_filter.1 ha).2
    have hrb := (List.mem_filter.1 hb).2
    simp only [beq_iff_eq] at hra hrb
    exact StoredColumn.metaRow_le_of_rank_lt (by simp [hra, hrb, ColumnRole.rank])
  · intro a ha b hb
    obtain ⟨hrb, -⟩ := hrank _ ((List.mergeSort_perm _ _).mem_iff.1 hb)
    refine StoredColumn.metaRow_le_of_rank_lt ?_
    rw [hrb]
    rcases List.mem_append.1 ha with ha | ha <;>
      · have hra := (List.mem_filter.1 ha).2
        simp only [beq_iff_eq] at hra
        simp [hra, ColumnRole.rank]

/-- **Sorting the metadata rows gives the described order.** The rows are a permutation of the
described order and both are sorted; rows that sort both ways round share a name, and names are
distinct, so the two sorted lists are one. -/
theorem mergeSort_metaRows {t : StoredTable} (h : t.Numbered) (hnames : (t.columns.map (·.name)).Nodup) :
    (t.columns.map StoredColumn.metaRow).mergeSort MetaRow.le =
      t.describedOrder.map (·.1.metaRow) := by
  have hperm : (t.describedOrder.map (·.1.metaRow)).Perm (t.columns.map StoredColumn.metaRow) := by
    have := (describedOrder_perm t).map (·.1.metaRow)
    rw [← List.zipIdx_map_fst 0 t.columns, List.map_map]
    exact this
  have hsorted : (t.describedOrder.map (·.1.metaRow)).Pairwise fun a b => a.le b = true :=
    List.pairwise_map.2 (pairwise_describedOrder h)
  have hmerged : ((t.columns.map StoredColumn.metaRow).mergeSort MetaRow.le).Pairwise
      fun a b => a.le b = true :=
    @List.pairwise_mergeSort _ MetaRow.le (fun _ _ _ => MetaRow.le_of_le_of_le) MetaRow.le_or_le _
  refine List.Perm.eq_of_pairwise (fun a b ha hb hab hba => ?_) hmerged hsorted
    ((List.mergeSort_perm _ _).trans hperm.symm)
  obtain ⟨ca, hca, rfl⟩ := List.mem_map.1 ((List.mergeSort_perm _ _).mem_iff.1 ha)
  obtain ⟨cb, hcb, rfl⟩ := List.mem_map.1 (hperm.mem_iff.1 hb)
  rw [List.inj_on_of_nodup_map hnames hca hcb (MetaRow.name_eq_of_le hab hba)]

end StoredTable

/-! ## The schema answer, read back

Without failure patterns, fixed answers or refused schema reads, the columns statement is
answered from the tables, and numbering its rows never faults, since each written type reads
back. -/

/-- A stored column as a description lists it at place `j`. -/
def StoredColumn.describe (col : StoredColumn) (j : Nat) : ColumnSpec :=
  ⟨col.name, col.type.render, col.role, j, SqlType.ofStoreType col.type⟩

/-- The columns a description of the table lists, numbered in the described order. -/
def StoredTable.described (t : StoredTable) : List ColumnSpec :=
  (t.describedOrder.map Prod.fst).zipIdx.map fun (col, j) => col.describe j

theorem ColumnRole.ofKind_kindText (r : ColumnRole) : ColumnRole.ofKind r.kindText = r := by
  cases r <;> rfl

namespace Cluster

variable {c : Cluster}

theorem answer_columns (hfail : c.failing = []) (hcanned : c.canned = [])
    (hopen : c.restricted = false) (keyspace table : String) :
    c.answer SchemaQuery.columns [keyspace, table] = .ok (c.columnsResult keyspace table) := by
  have hkeyspaces : (SchemaQuery.columns == SchemaQuery.keyspaces) = false := by decide
  have htables : (SchemaQuery.columns == SchemaQuery.tables) = false := by decide
  simp only [answer, hfail, hcanned, hopen, List.find?_nil, Bool.false_and, hkeyspaces, htables,
    beq_self_eq_true]
  rfl

theorem execute_columns (hfail : c.failing = []) (hcanned : c.canned = [])
    (hopen : c.restricted = false) (keyspace table : String) :
    c.execute SchemaQuery.columns [keyspace, table] =
      ({ c with executed := c.executed ++ [SchemaQuery.columns] },
        .ok (c.columnsResult keyspace table)) := by
  simp only [execute]
  rw [answer_columns (c := { c with executed := c.executed ++ [SchemaQuery.columns] })
    hfail hcanned hopen]
  rfl

end Cluster

namespace Discovery

theorem numberRows_metaRows {cols : List StoredColumn} (htypes : ∀ col ∈ cols, col.type.Readable)
    (i : Nat) :
    numberRows i (cols.map StoredColumn.metaRow) = .ok ((cols.zipIdx i).map fun (col, j) => col.describe j) := by
  induction cols generalizing i with
  | nil => rfl
  | cons col cols ih =>
      have hty : sqlTypeOfText col.type.render = .ok (SqlType.ofStoreType col.type) := by
        simp [sqlTypeOfText, StoreType.read?_render (htypes col (.head _))]
      have hrest := ih (fun d hd => htypes d (.tail _ hd)) (i + 1)
      simp only [List.map_cons, numberRows, StoredColumn.metaRow, hty, hrest]
      rfl

theorem fromMetadata_stored {c : Cluster} {T : StoredTable} (hfail : c.failing = [])
    (hcanned : c.canned = []) (hopen : c.restricted = false)
    (hfind : c.findTable? T.keyspace T.name = some T) (hnum : T.Numbered)
    (hnames : (T.columns.map (·.name)).Nodup) (htypes : ∀ col ∈ T.columns, col.type.Readable)
    (hne : T.columns ≠ []) (hsize : T.columns.length < 2 ^ 31) :
    fromMetadata c ⟨T.keyspace, T.name⟩ =
      ({ c with executed := c.executed ++ [SchemaQuery.columns] }, .ok T.described) := by
  have hcolumn : metaIndex (c.columnsResult T.keyspace T.name) "column_name" = .ok 0 := rfl
  have htype : metaIndex (c.columnsResult T.keyspace T.name) "type" = .ok 1 := rfl
  have hkind : metaIndex (c.columnsResult T.keyspace T.name) "kind" = .ok 2 := rfl
  have hposition : metaIndex (c.columnsResult T.keyspace T.name) "position" = .ok 3 := rfl
  -- every position fits in 32 bits, so each row of the answer reads back as its column's
  -- metadata row
  have hread : ∀ col ∈ T.columns, -1 ≤ col.position ∧ col.position < 2 ^ 31 := fun col hcol => by
    have := hnum.position_bounds hcol
    omega
  have hsorted : (T.columns.map StoredColumn.metaRow).mergeSort MetaRow.le =
      (T.describedOrder.map Prod.fst).map StoredColumn.metaRow := by
    rw [StoredTable.mergeSort_metaRows hnum hnames, List.map_map]
    rfl
  have hdescribed : ∀ col ∈ T.describedOrder.map Prod.fst, col.type.Readable := fun col hcol => by
    rw [((StoredTable.describedOrder_perm T).map Prod.fst).mem_iff, List.zipIdx_map_fst] at hcol
    exact htypes col hcol
  have hempty : (T.columns.map StoredColumn.metaRow).isEmpty = false := by simpa using hne
  simp only [fromMetadata, Cluster.execute_columns hfail hcanned hopen, hcolumn, htype, hkind,
    hposition, bind, Except.bind]
  simp only [Cluster.columnsResult, hfind]
  rw [List.filterMap_map,
    (List.filterMap_eq_map_iff_forall_eq_some (g := StoredColumn.metaRow)).2 ?_]
  · rw [hempty, hsorted, numberRows_metaRows hdescribed]
    rfl
  · intro col hcol
    obtain ⟨hlow, hhigh⟩ := hread col hcol
    simp [textAt, intAt, StoredColumn.metaRow, ColumnRole.ofKind_kindText,
      Int32.toInt_ofInt_of_le (by omega) hhigh]

/-- **Describing a stored table.** On a cluster with no failure patterns, fixed answers or
refused schema reads, a table built column by column, found first under its name, with distinct
column names, readable types and fewer than `2 ^ 31` columns, is described from the schema
tables: in the described order, each column with its written type and the relational type of
its declared type. -/
theorem describeTable_stored {c : Cluster} {T : StoredTable} (hfail : c.failing = [])
    (hcanned : c.canned = []) (hopen : c.restricted = false)
    (hfind : c.findTable? T.keyspace T.name = some T) (hnum : T.Numbered)
    (hnames : (T.columns.map (·.name)).Nodup) (htypes : ∀ col ∈ T.columns, col.type.Readable)
    (hne : T.columns ≠ []) (hsize : T.columns.length < 2 ^ 31) :
    describeTable c ⟨T.keyspace, T.name⟩ .auto =
      ({ c with executed := c.executed ++ [SchemaQuery.columns] }, .ok T.described) := by
  simp only [describeTable,
    fromMetadata_stored hfail hcanned hopen hfind hnum hnames htypes hne hsize]

end Discovery

end CqlBridge
