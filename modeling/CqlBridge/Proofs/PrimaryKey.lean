import CqlBridge.Catalog.Basic
import CqlBridge.Proofs.DescribeAnswer

/-!
# `CqlBridge.Proofs.PrimaryKey` — the order of a table's primary key

`primaryKey` sorts the key columns by (rank, position) with a stable sort. Read role by role,
that is: the partition key columns by position, then the clustering columns by position,
columns of one position in the order they came in (`SortedByPosition`), and no other column
(`primaryKey_order`).

A table of a catalog is described on lookup and keeps the primary key of its columns. Which
path described it decides the key:

| described through | columns | primary key |
|---|---|---|
| the schema tables | metadata rows by (rank, position, name), numbered from 0 | partition key rows, then clustering rows, each by (reported position, name) |
| a probe | result columns, role unknown | empty |

On the first path the key columns are already in key order, so the second sort changes
nothing, and the order is the one the metadata sort chose (`primaryKey_order`).
-/

namespace CqlBridge

open Discovery

/-! ## The order of key columns -/

namespace ColumnSpec

/-- The sort key of a key column: its rank, then its position. -/
def keyOrder (a : ColumnSpec) : Lex (Nat × Nat) := toLex (a.role.rank, a.position)

theorem keyLE_iff (a b : ColumnSpec) : a.keyLE b = true ↔ a.keyOrder ≤ b.keyOrder := by
  simp only [keyLE, keyOrder, Prod.Lex.le_iff, ofLex_toLex, Bool.or_eq_true, Bool.and_eq_true,
    decide_eq_true_eq, beq_iff_eq]

theorem keyLE_trans (a b c : ColumnSpec) (hab : a.keyLE b = true) (hbc : b.keyLE c = true) :
    a.keyLE c = true :=
  (keyLE_iff a c).2 (le_trans ((keyLE_iff a b).1 hab) ((keyLE_iff b c).1 hbc))

theorem keyLE_total (a b : ColumnSpec) : (a.keyLE b || b.keyLE a) = true := by
  rcases le_total a.keyOrder b.keyOrder with h | h
  · simp [(keyLE_iff a b).2 h]
  · simp [(keyLE_iff b a).2 h]

theorem rank_le_of_keyLE {a b : ColumnSpec} (h : a.keyLE b = true) : a.role.rank ≤ b.role.rank := by
  simp only [keyLE, Bool.or_eq_true, Bool.and_eq_true, decide_eq_true_eq, beq_iff_eq] at h
  omega

theorem position_le_of_keyLE {a b : ColumnSpec} (h : a.keyLE b = true)
    (hrank : a.role.rank = b.role.rank) : a.position ≤ b.position := by
  simp only [keyLE, Bool.or_eq_true, Bool.and_eq_true, decide_eq_true_eq, beq_iff_eq] at h
  omega

end ColumnSpec

theorem eq_partition_append_clustering {l : List ColumnSpec}
    (hkey : ∀ c ∈ l, c.role.isKey = true)
    (hsorted : l.Pairwise fun a b => a.role.rank ≤ b.role.rank) :
    l = l.filter (·.role == .partitionKey) ++ l.filter (·.role == .clusteringKey) := by
  induction l with
  | nil => rfl
  | cons a t ih =>
      obtain ⟨hafter, ht⟩ := List.pairwise_cons.1 hsorted
      have htkey : ∀ c ∈ t, c.role.isKey = true := fun c hc => hkey c (List.mem_cons_of_mem a hc)
      cases ha : a.role with
      | partitionKey =>
          simp only [List.filter_cons, ha, beq_self_eq_true, ite_true, reduceCtorEq, beq_iff_eq,
            ite_false, List.cons_append]
          exact congrArg (a :: ·) (ih htkey ht)
      | clusteringKey =>
          -- every later column has rank at least 1, so it is a clustering column too
          have hlater : ∀ c ∈ t, c.role = .clusteringKey := by
            intro c hc
            have hrank := hafter c hc
            have hck := htkey c hc
            rw [ha] at hrank
            cases hr : c.role with
            | partitionKey => rw [hr] at hrank; exact absurd hrank (by decide)
            | clusteringKey => rfl
            | regular | static | unknown => rw [hr] at hck; exact absurd hck (by decide)
          have hnone : t.filter (·.role == .partitionKey) = [] :=
            List.filter_eq_nil_iff.2 fun c hc => by simp [hlater c hc]
          have hall : t.filter (·.role == .clusteringKey) = t :=
            List.filter_eq_self.2 fun c hc => by simp [hlater c hc]
          rw [List.filter_cons_of_neg (by simp [ha]), List.filter_cons_of_pos (by simp [ha]), hnone,
            hall]
          rfl
      | regular | static | unknown =>
          have := hkey a List.mem_cons_self
          simp [ha, ColumnRole.isKey] at this

/-! ## Sorting by position, stably

Key columns sorted by rank hold the partition key columns first, then the clustering columns,
and the merge sort by key keeps the order of the columns a predicate picks when those all have
one key; so, read for one key role, the sorted key columns are that role's columns by position,
stably. -/

/-- `out` holds the columns of `l` by position, and columns of one position in the order of
`l`. -/
structure SortedByPosition (l out : List ColumnSpec) : Prop where
  perm : out.Perm l
  sorted : out.Pairwise fun a b => a.position ≤ b.position
  stable : ∀ p, out.filter (·.position == p) = l.filter (·.position == p)

theorem filter_mergeSort_of_ties {l : List ColumnSpec} {q : ColumnSpec → Bool}
    (hq : ∀ a ∈ l, ∀ b ∈ l, q a = true → q b = true → a.keyLE b = true) :
    (l.mergeSort ColumnSpec.keyLE).filter q = l.filter q := by
  have hpair : (l.filter q).Pairwise fun a b => a.keyLE b = true := by
    refine List.pairwise_of_forall_mem_list fun a ha b hb => ?_
    rw [List.mem_filter] at ha hb
    exact hq a ha.1 b hb.1 ha.2 hb.2
  -- the picked columns stay a sublist of the sorted list, of the same length
  have hsub : List.Sublist (l.filter q) (l.mergeSort ColumnSpec.keyLE) :=
    List.sublist_mergeSort ColumnSpec.keyLE_trans ColumnSpec.keyLE_total hpair
      (List.filter_sublist)
  have hsub' : List.Sublist (l.filter q) ((l.mergeSort ColumnSpec.keyLE).filter q) := by
    simpa [List.filter_filter] using hsub.filter q
  have hlen : ((l.mergeSort ColumnSpec.keyLE).filter q).length = (l.filter q).length :=
    ((List.mergeSort_perm l _).filter q).length_eq
  exact (hsub'.eq_of_length hlen.symm).symm

section KeySort

variable (cols : List ColumnSpec)

/-- The key columns in the order `primaryKey` gives them. -/
def keyColumns : List ColumnSpec :=
  (cols.filter (·.role.isKey)).mergeSort ColumnSpec.keyLE

theorem primaryKey_eq_map_keyColumns : primaryKey cols = (keyColumns cols).map (·.name) := rfl

theorem pairwise_keyColumns : (keyColumns cols).Pairwise fun a b => a.keyLE b = true :=
  List.pairwise_mergeSort ColumnSpec.keyLE_trans ColumnSpec.keyLE_total _

theorem isKey_of_mem_keyColumns {c : ColumnSpec} (h : c ∈ keyColumns cols) : c.role.isKey = true := by
  rw [keyColumns, List.mem_mergeSort, List.mem_filter] at h
  exact h.2

theorem sortedByPosition_keyColumns {r : ColumnRole} (hr : r.isKey = true) :
    SortedByPosition (cols.filter (·.role == r)) ((keyColumns cols).filter (·.role == r)) := by
  have hrole : ∀ c : ColumnSpec, (c.role == r && c.role.isKey) = (c.role == r) := by
    intro c
    cases h : (c.role == r) with
    | false => simp
    | true => simp only [beq_iff_eq] at h; simp [h, hr]
  refine ⟨?_, ?_, fun p => ?_⟩
  · have := (List.mergeSort_perm (cols.filter (·.role.isKey)) ColumnSpec.keyLE).filter (·.role == r)
    simpa [keyColumns, List.filter_filter, hrole] using this
  · refine ((pairwise_keyColumns cols).filter _).imp_of_mem ?_
    intro a b ha hb hab
    have hra := (List.mem_filter.1 ha).2
    have hrb := (List.mem_filter.1 hb).2
    simp only [beq_iff_eq] at hra hrb
    exact ColumnSpec.position_le_of_keyLE hab (by rw [hra, hrb])
  · -- columns of role `r` at position `p` all have one key, so the sort keeps their order
    have hties := filter_mergeSort_of_ties (l := cols.filter (·.role.isKey))
      (q := fun c => c.position == p && c.role == r) (by
        intro a _ b _ ha hb
        simp only [Bool.and_eq_true, beq_iff_eq] at ha hb
        simp [ColumnSpec.keyLE, ha.1, hb.1, ha.2, hb.2])
    simpa [keyColumns, List.filter_filter, Bool.and_assoc, hrole] using hties

end KeySort

/-! ## Key columns already in key order

When the key columns come in key order, the primary key lists them as they come: the partition
key columns, then the clustering columns. -/

/-- When the key columns come in key order, the primary key lists them as they come: the
partition key columns, then the clustering columns. -/
theorem primaryKey_of_pairwise {cols : List ColumnSpec}
    (h : (cols.filter (·.role.isKey)).Pairwise fun a b => a.keyLE b = true) :
    primaryKey cols = (cols.filter (·.role == .partitionKey)).map (·.name) ++
      (cols.filter (·.role == .clusteringKey)).map (·.name) := by
  have hkeys : keyColumns cols = cols.filter (·.role.isKey) := List.mergeSort_of_pairwise h
  have hsplit := eq_partition_append_clustering (l := cols.filter (·.role.isKey))
    (fun c hc => (List.mem_filter.1 hc).2) (h.imp ColumnSpec.rank_le_of_keyLE)
  have hpart : (cols.filter (·.role.isKey)).filter (·.role == .partitionKey) =
      cols.filter (·.role == .partitionKey) := by
    rw [List.filter_filter]
    congr 1
    funext c
    cases c.role <;> rfl
  have hclust : (cols.filter (·.role.isKey)).filter (·.role == .clusteringKey) =
      cols.filter (·.role == .clusteringKey) := by
    rw [List.filter_filter]
    congr 1
    funext c
    cases c.role <;> rfl
  rw [primaryKey_eq_map_keyColumns, hkeys, hsplit, hpart, hclust, List.map_append]

theorem Discovery.Listing.pairwise_keyLE {cols : List ColumnSpec} (h : Listing cols) :
    (cols.filter (·.role.isKey)).Pairwise fun a b => a.keyLE b = true := by
  have hpos : cols.Pairwise fun a b => a.position < b.position := by
    have := List.pairwise_lt_range (n := cols.length)
    rw [← h.positions, List.pairwise_map] at this
    exact this
  have hrank : cols.Pairwise fun a b => a.role.rank ≤ b.role.rank := List.pairwise_map.1 h.ranks
  refine ((hpos.and hrank).imp ?_).filter _
  rintro a b ⟨hab, hr⟩
  simp only [ColumnSpec.keyLE, Bool.or_eq_true, Bool.and_eq_true, decide_eq_true_eq, beq_iff_eq]
  omega

/-! ## Described through the schema tables

A listing has its key columns in key order, ranks never falling and positions rising: the
columns of one role listed from the metadata answer are that role's metadata rows in (position,
name) order. -/

/-- `out` holds the metadata rows `l` by reported position, then name. -/
structure SortedByPositionName (l out : List MetaRow) : Prop where
  perm : out.Perm l
  sorted : out.Pairwise fun a b => toLex (a.position, a.name) ≤ toLex (b.position, b.name)

theorem MetaRow.posName_le_of_le {a b : MetaRow} (h : a.le b = true)
    (hrank : a.role.rank = b.role.rank) :
    toLex (a.position, a.name) ≤ toLex (b.position, b.name) := by
  have hkey := (MetaRow.le_iff_key a b).1 h
  simp only [MetaRow.key, Prod.Lex.le_iff, ofLex_toLex, hrank, lt_self_iff_false, true_and,
    false_or] at hkey
  simpa only [Prod.Lex.le_iff, ofLex_toLex] using hkey

theorem Discovery.MetadataListing.role_rows {r : ResultSet} {cols : List ColumnSpec} (h : MetadataListing r cols)
    (role : ColumnRole) :
    ∃ rows ps, metaRows? r = some rows ∧
      (cols.filter (·.role == role)).map (·.name) = ps.map (·.name) ∧
      SortedByPositionName (rows.filter (·.role == role)) ps := by
  obtain ⟨rows, sorted, hrows, hperm, hpair, hentry⟩ := h.rows
  refine ⟨rows, sorted.filter (·.role == role), hrows, ?_, hperm.filter _, ?_⟩
  · -- filtering by role reads only the role, which the entries carry
    have := congrArg (fun l => (l.filter (·.2.2 == role)).map (·.1)) hentry
    simpa [List.filter_map, List.map_map, Function.comp_def, ColumnSpec.entry,
      MetaRow.entry] using this
  · refine (hpair.filter _).imp_of_mem ?_
    intro a b ha hb hab
    have hra := (List.mem_filter.1 ha).2
    have hrb := (List.mem_filter.1 hb).2
    simp only [beq_iff_eq] at hra hrb
    exact MetaRow.posName_le_of_le hab (by rw [hra, hrb])

/-! ## Described by a probe

Columns found by a probe have no key columns, so no primary key. -/

theorem Discovery.ProbeListing.primaryKey_eq_nil {r : ResultSet} {cols : List ColumnSpec}
    (h : ProbeListing r cols) : primaryKey cols = [] := by
  have hroles : ∀ c ∈ cols, c.role = .unknown := by
    intro c hc
    have hmem : (c.name, c.sourceType, c.role, c.sqlType) ∈
        r.columns.map fun d => (d.name, d.type.render, ColumnRole.unknown, SqlType.ofStoreType d.type) := by
      rw [← h]
      exact List.mem_map_of_mem hc
    obtain ⟨d, -, hd⟩ := List.mem_map.1 hmem
    simp only [Prod.mk.injEq] at hd
    exact hd.2.2.1.symm
  have hnone : cols.filter (·.role.isKey) = [] :=
    List.filter_eq_nil_iff.2 fun c hc => by simp [hroles c hc, ColumnRole.isKey]
  simp [primaryKey, hnone]

/-! ## Describing and looking up a table

The columns a description answers come from the metadata answer, listed, or from the answer to
the probe, and a looked-up table holds the columns of its description and their primary key. -/

theorem describeTable_eq_ok {c c' : Cluster} {t : TableName} {strategy : Strategy}
    {cols : List ColumnSpec} (h : describeTable c t strategy = (c', .ok cols)) :
    (Listing cols ∧ ∃ r, c.answer SchemaQuery.columns [t.keyspace, t.table] = .ok r ∧
        MetadataListing r cols) ∨
      ∃ r, c.answer (probeQuery t) [] = .ok r ∧ ProbeListing r cols := by
  have hres : (describeTable c t strategy).2 = .ok cols := by rw [h]
  cases strategy with
  | metadata => exact .inl ((fromMetadata_answer c t).2.1 cols hres)
  | probe => exact .inr ((byProbe_answer c t).2.1 cols hres).2
  | auto =>
      rcases hm : fromMetadata c t with ⟨c₁, res⟩
      by_cases hd : ∃ d, res = .error (.fault (.discovery d))
      · -- after a discovery fault the probe runs on a cluster that answers as the first
        obtain ⟨d, rfl⟩ := hd
        have hc₁ : c₁ = { c with executed := c.executed ++ [SchemaQuery.columns] } := by
          rw [← fromMetadata_cluster c t, hm]
        have hprobe : (byProbe c₁ t).2 = .ok cols := by
          simpa only [describeTable, hm] using hres
        obtain ⟨-, r, hq, hlist⟩ := (byProbe_answer c₁ t).2.1 cols hprobe
        rw [hc₁, Cluster.answer_log] at hq
        exact .inr ⟨r, hq, hlist⟩
      · have hmeta : (fromMetadata c t).2 = .ok cols := by
          rw [hm]
          simp only [describeTable, hm] at hres
          split at hres
          · rename_i d heq
            exact absurd ⟨d, (Prod.mk.inj heq).2⟩ hd
          · exact hres
        exact .inl ((fromMetadata_answer c t).2.1 cols hmeta)

theorem SchemaEntry.lookupTable_eq_ok {s : SchemaEntry} {c c' : Cluster} {name : String}
    {e : TableEntry} (h : s.lookupTable c name = (c', .ok e)) :
    describeTable c ⟨s.keyspace.name, name⟩ .auto = (c', .ok e.columns) ∧
      e.primaryKey = primaryKey e.columns := by
  unfold SchemaEntry.lookupTable at h
  simp only at h
  split at h
  · rename_i c₁ cols hd
    cases h
    exact ⟨hd, rfl⟩
  · cases h

/-! ## The primary key -/

/-- **The primary key's order.** For every list of columns, the primary key is the names of
the partition key columns by position, then those of the clustering columns by position,
columns of one position in their given order, and no other names. For a table looked up in a
catalog, described through the schema tables, the key lists the partition key rows of the
metadata answer by (reported position, name) and then its clustering rows the same way; for a
table described by a probe, the key is empty. -/
theorem primaryKey_order :
    (∀ cols : List ColumnSpec, ∃ ps cs, primaryKey cols = ps.map (·.name) ++ cs.map (·.name) ∧
      SortedByPosition (cols.filter (·.role == .partitionKey)) ps ∧
      SortedByPosition (cols.filter (·.role == .clusteringKey)) cs) ∧
    ∀ (s : SchemaEntry) (c c' : Cluster) (name : String) (e : TableEntry),
      s.lookupTable c name = (c', .ok e) →
      (∃ r rows, c.answer SchemaQuery.columns [s.keyspace.name, name] = .ok r ∧
          metaRows? r = some rows ∧ MetadataListing r e.columns ∧
          ∃ ps cs, e.primaryKey = ps.map (·.name) ++ cs.map (·.name) ∧
            SortedByPositionName (rows.filter (·.role == .partitionKey)) ps ∧
            SortedByPositionName (rows.filter (·.role == .clusteringKey)) cs) ∨
        ∃ r, c.answer (probeQuery ⟨s.keyspace.name, name⟩) [] = .ok r ∧ ProbeListing r e.columns ∧
          e.primaryKey = [] := by
  refine ⟨fun cols => ?_, fun s c c' name e h => ?_⟩
  · -- the sorted key columns split by rank into the partition part and the clustering part
    have hsplit := eq_partition_append_clustering (fun c hc => isKey_of_mem_keyColumns cols hc)
      ((pairwise_keyColumns cols).imp ColumnSpec.rank_le_of_keyLE)
    refine ⟨_, _, ?_, sortedByPosition_keyColumns cols rfl, sortedByPosition_keyColumns cols rfl⟩
    rw [primaryKey_eq_map_keyColumns, ← List.map_append, ← hsplit]
  · obtain ⟨hdescribe, hkey⟩ := SchemaEntry.lookupTable_eq_ok h
    rcases describeTable_eq_ok hdescribe with ⟨hlisting, r, hq, hmeta⟩ | ⟨r, hq, hprobe⟩
    · obtain ⟨rows, ps, hrows, hps, hsorted_ps⟩ := hmeta.role_rows .partitionKey
      obtain ⟨rows', cs, hrows', hcs, hsorted_cs⟩ := hmeta.role_rows .clusteringKey
      obtain rfl : rows = rows' := Option.some.inj (hrows.symm.trans hrows')
      refine .inl ⟨r, rows, hq, hrows, hmeta, ps, cs, ?_, hsorted_ps, hsorted_cs⟩
      rw [hkey, primaryKey_of_pairwise hlisting.pairwise_keyLE, hps, hcs]
    · exact .inr ⟨r, hq, hprobe, hkey.trans hprobe.primaryKey_eq_nil⟩

end CqlBridge
