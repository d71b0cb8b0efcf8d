import CqlBridge.Proofs.Describe

/-!
# `CqlBridge.Proofs.DescribeAnswer` — what describing a table may answer

Describing a table answers a discovery fault, a listing (`Discovery.Listing`: some columns,
numbered `0, 1, …` in order, partition keys first, then clustering keys, then the rest), or a
crash, whatever the cluster answers to the two statements it may run.

| path | discovery fault | not found | listing | crash |
|---|---|---|---|---|
| metadata | the statement failed, or its answer lacks a metadata column | no metadata row | the metadata rows by rank, position and name (`MetadataListing`) | a type text the reader faults on |
| probe | the statement failed | no result column | the result's columns (`ProbeListing`) | the cluster crashes on the probe |

The `auto` strategy probes exactly when the metadata path gives a discovery fault, so a table
that is not found is not probed (`describeTable_answer`).

The crash on the metadata path is real: the reader faults on a quoted name left open after a
character that is not ASCII, so a metadata answer with the type text `"é` makes describing
crash (`describeTable_open_quoted_type`).
-/

namespace CqlBridge

/-- The name, type text and role of a column. -/
def ColumnSpec.entry (col : ColumnSpec) : String × String × ColumnRole :=
  (col.name, col.sourceType, col.role)

namespace Cluster

@[simp] theorem answer_log (c : Cluster) (log : List String) (cql : String) (params : List String) :
    ({ c with executed := log } : Cluster).answer cql params = c.answer cql params := rfl

@[simp] theorem execute_eq (c : Cluster) (cql : String) (params : List String) :
    c.execute cql params = ({ c with executed := c.executed ++ [cql] }, c.answer cql params) := rfl

theorem answer_columns_ne_crash (c : Cluster) (keyspace table : String) :
    c.answer SchemaQuery.columns [keyspace, table] ≠ .error .crash := by
  have hkeyspaces : (SchemaQuery.columns == SchemaQuery.keyspaces) = false := by decide
  have htables : (SchemaQuery.columns == SchemaQuery.tables) = false := by decide
  unfold answer
  simp only [hkeyspaces, htables, beq_self_eq_true]
  -- a failure pattern, refused schema reads, a fixed answer, and the schema answer
  split
  · nofun
  · split
    · nofun
    · split
      · nofun
      · nofun

end Cluster

namespace Discovery

/-! ## Metadata rows -/

/-- The name, type text and role of a metadata row. -/
def MetaRow.entry (m : MetaRow) : String × String × ColumnRole := (m.name, m.sourceType, m.role)

/-- The metadata row of a row of the columns answer, read at the cells of name, type, kind and
position: none unless name and type are text; a kind that is not text reads as no kind, and a
position that is not a 32-bit integer as `-1`. -/
def MetaRow.ofRow? (ni ti ki pi : Nat) (row : Row) : Option MetaRow := do
  let name ← textAt row ni
  let sourceType ← textAt row ti
  return ⟨name, sourceType, ColumnRole.ofKind ((textAt row ki).getD ""), (intAt row pi).getD (-1)⟩

/-- The metadata rows of a columns answer, when it has the four metadata columns. -/
def metaRows? (r : ResultSet) : Option (List MetaRow) := do
  let ni ← r.columnIndex? "column_name"
  let ti ← r.columnIndex? "type"
  let ki ← r.columnIndex? "kind"
  let pi ← r.columnIndex? "position"
  return r.rows.filterMap (MetaRow.ofRow? ni ti ki pi)

theorem MetaRow.rank_le_of_le {a b : MetaRow} (h : a.le b = true) : a.role.rank ≤ b.role.rank := by
  simp only [MetaRow.le, Bool.or_eq_true, Bool.and_eq_true, decide_eq_true_eq, beq_iff_eq] at h
  omega

/-! ## Listings -/

/-- What a description lists: some columns, numbered `0, 1, …` in order, with the partition
keys first, then the clustering keys, then the other columns. -/
structure Listing (cols : List ColumnSpec) : Prop where
  ne_nil : cols ≠ []
  positions : cols.map (·.position) = List.range cols.length
  ranks : (cols.map (·.role.rank)).Pairwise (· ≤ ·)

/-- The columns listed from the metadata answer `r`: its metadata rows in the order `MetaRow.le`
(rank, reported position, name), each with the relational type of the type its text reads as. -/
structure MetadataListing (r : ResultSet) (cols : List ColumnSpec) : Prop where
  rows : ∃ (rows sorted : List MetaRow), metaRows? r = some rows ∧ sorted.Perm rows ∧
    sorted.Pairwise (fun a b => a.le b = true) ∧ cols.map ColumnSpec.entry = sorted.map MetaRow.entry
  types : ∀ col ∈ cols, (StoreType.read? col.sourceType).map SqlType.ofStoreType = some col.sqlType

/-- The columns listed by a probe with the answer `r`: the result's columns in order, each with
its type written out, role unknown, and the relational type of its store type. -/
def ProbeListing (r : ResultSet) (cols : List ColumnSpec) : Prop :=
  cols.map (fun col => (col.name, col.sourceType, col.role, col.sqlType)) =
    r.columns.map fun d => (d.name, d.type.render, .unknown, SqlType.ofStoreType d.type)

/-! ## Numbering the metadata rows

Numbered rows keep their names, type texts and roles, take the places `i, i + 1, …`, and carry
the relational types their texts read as; numbering fails only by a crash, on a row whose type
text the reader faults on. Metadata rows sorted and numbered from 0 make a listing. -/

theorem sqlTypeOfText_eq_ok {text : String} {ty : SqlType} (h : sqlTypeOfText text = .ok ty) :
    (StoreType.read? text).map SqlType.ofStoreType = some ty := by
  unfold sqlTypeOfText at h
  split at h <;> simp_all

theorem sqlTypeOfText_eq_error {text : String} {e : Stop} (h : sqlTypeOfText text = .error e) :
    e = .crash ∧ StoreType.read? text = none := by
  unfold sqlTypeOfText at h
  split at h <;> simp_all

@[simp] theorem numberRows_cons (i : Nat) (m : MetaRow) (ms : List MetaRow) :
    numberRows i (m :: ms) = (sqlTypeOfText m.sourceType).bind fun ty =>
      (numberRows (i + 1) ms).map (⟨m.name, m.sourceType, m.role, i, ty⟩ :: ·) := by
  simp only [numberRows, bind, pure]
  cases sqlTypeOfText m.sourceType <;> cases numberRows (i + 1) ms <;> rfl

theorem numberRows_eq_ok {i : Nat} {ms : List MetaRow} {cols : List ColumnSpec}
    (h : numberRows i ms = .ok cols) :
    cols.map ColumnSpec.entry = ms.map MetaRow.entry ∧
      cols.map (·.position) = List.range' i ms.length ∧
      ∀ col ∈ cols, (StoreType.read? col.sourceType).map SqlType.ofStoreType = some col.sqlType := by
  induction ms generalizing i cols with
  | nil =>
      simp only [numberRows, Except.ok.injEq] at h
      simp [← h]
  | cons m ms ih =>
      rw [numberRows_cons] at h
      rcases hty : sqlTypeOfText m.sourceType with e | ty
      · simp [hty, Except.bind] at h
      rcases hrest : numberRows (i + 1) ms with e | rest
      · simp [hty, hrest, Except.bind, Except.map] at h
      simp only [hty, hrest, Except.bind, Except.map, Except.ok.injEq] at h
      subst h
      obtain ⟨hentry, hpos, htypes⟩ := ih hrest
      refine ⟨by simp [hentry, ColumnSpec.entry, MetaRow.entry], by simp [hpos, List.range'_succ], ?_⟩
      intro col hcol
      rcases List.mem_cons.1 hcol with rfl | hcol
      · exact sqlTypeOfText_eq_ok hty
      · exact htypes col hcol

theorem numberRows_eq_error {i : Nat} {ms : List MetaRow} {e : Stop}
    (h : numberRows i ms = .error e) :
    e = .crash ∧ ∃ m ∈ ms, StoreType.read? m.sourceType = none := by
  induction ms generalizing i with
  | nil => simp [numberRows] at h
  | cons m ms ih =>
      rw [numberRows_cons] at h
      rcases hty : sqlTypeOfText m.sourceType with e' | ty
      · simp only [hty, Except.bind, Except.error.injEq] at h
        subst h
        obtain ⟨rfl, hread⟩ := sqlTypeOfText_eq_error hty
        exact ⟨rfl, m, List.mem_cons_self, hread⟩
      rcases hrest : numberRows (i + 1) ms with e' | rest
      · simp only [hty, hrest, Except.bind, Except.map, Except.error.injEq] at h
        subst h
        obtain ⟨rfl, m', hm', hread⟩ := ih hrest
        exact ⟨rfl, m', List.mem_cons_of_mem m hm', hread⟩
      · simp [hty, hrest, Except.bind, Except.map] at h

theorem listing_of_numberRows {r : ResultSet} {rows : List MetaRow} {cols : List ColumnSpec}
    (hrows : metaRows? r = some rows) (hne : rows ≠ [])
    (h : numberRows 0 (rows.mergeSort MetaRow.le) = .ok cols) :
    Listing cols ∧ MetadataListing r cols := by
  obtain ⟨hentry, hpos, htypes⟩ := numberRows_eq_ok h
  have hsorted : (rows.mergeSort MetaRow.le).Pairwise fun a b => a.le b = true :=
    @List.pairwise_mergeSort _ MetaRow.le (fun _ _ _ => MetaRow.le_of_le_of_le) MetaRow.le_or_le rows
  have hlen : cols.length = rows.length := by
    simpa using congrArg List.length hentry
  -- the ranks are read off the roles, which numbering keeps
  have hrank : cols.map (·.role.rank) = (rows.mergeSort MetaRow.le).map (·.role.rank) := by
    have := congrArg (List.map fun e => e.2.2.rank) hentry
    simpa [Function.comp_def, ColumnSpec.entry, MetaRow.entry] using this
  refine ⟨⟨?_, ?_, ?_⟩, ⟨rows, _, hrows, List.mergeSort_perm _ _, hsorted, hentry⟩, htypes⟩
  · intro hnil
    rw [hnil, List.length_nil] at hlen
    exact hne (List.length_eq_zero_iff.1 hlen.symm)
  · rw [hpos, List.length_mergeSort, hlen, List.range_eq_range']
  · rw [hrank, List.pairwise_map]
    exact hsorted.imp MetaRow.rank_le_of_le

theorem listing_ofResultColumns {r : ResultSet} (hne : r.columns ≠ []) :
    Listing (ofResultColumns r.columns) ∧ ProbeListing r (ofResultColumns r.columns) := by
  -- every column found by a probe has role unknown, so all ranks are equal
  have hrank : (ofResultColumns r.columns).map (·.role.rank) =
      List.replicate r.columns.length 2 := by
    simp [ofResultColumns, Function.comp_def, ColumnRole.rank]
  refine ⟨⟨by simpa [ofResultColumns] using hne, ?_, ?_⟩, ?_⟩
  · simp [ofResultColumns, Function.comp_def, List.zipIdx_map_snd, List.range_eq_range']
  · rw [hrank, List.pairwise_replicate]
    exact .inr (Nat.le_refl 2)
  · simp only [ProbeListing, ofResultColumns, List.map_map]
    rw [← List.zipIdx_map_fst 0 r.columns, List.map_map, List.zipIdx_map_fst]
    rfl

/-! ## The metadata path

The columns statement, with both its values bound, is a schema statement: it never reaches the
statement reader and never crashes, and answering it reads neither the log nor the cursor count.
Over an answer with the four metadata columns, the path answers not found without metadata
rows, and the rows sorted and numbered otherwise. -/

theorem fromMetadata_cluster (c : Cluster) (t : TableName) :
    (fromMetadata c t).1 = { c with executed := c.executed ++ [SchemaQuery.columns] } := by
  unfold fromMetadata Cluster.execute
  split <;> simp_all

theorem fromMetadata_of_answer {c : Cluster} {t : TableName} {r : ResultSet} {ni ti ki pi : Nat}
    (hq : c.answer SchemaQuery.columns [t.keyspace, t.table] = .ok r)
    (hn : r.columnIndex? "column_name" = some ni) (ht : r.columnIndex? "type" = some ti)
    (hk : r.columnIndex? "kind" = some ki) (hp : r.columnIndex? "position" = some pi) :
    (fromMetadata c t).2 =
      if (r.rows.filterMap (MetaRow.ofRow? ni ti ki pi)).isEmpty then
        .error (.fault (.notFound ("table " ++ t.qualified ++ " does not exist")))
      else numberRows 0 ((r.rows.filterMap (MetaRow.ofRow? ni ti ki pi)).mergeSort MetaRow.le) := by
  simp only [fromMetadata, Cluster.execute_eq, hq, metaIndex, hn, ht, hk, hp]
  rfl

/-- **Where the metadata path ends**: a discovery fault, or an answer with metadata rows that
are none (not found) or are sorted and numbered. -/
theorem fromMetadata_cases (c : Cluster) (t : TableName) :
    (∃ d, (fromMetadata c t).2 = .error (.fault (.discovery d))) ∨
    ∃ r rows, c.answer SchemaQuery.columns [t.keyspace, t.table] = .ok r ∧ metaRows? r = some rows ∧
      ((rows = [] ∧ ∃ w, (fromMetadata c t).2 = .error (.fault (.notFound w))) ∨
        (rows ≠ [] ∧ (fromMetadata c t).2 = numberRows 0 (rows.mergeSort MetaRow.le))) := by
  rcases hq : c.answer SchemaQuery.columns [t.keyspace, t.table] with e | r
  · cases e with
    | fault f =>
        exact .inl ⟨_, by simp only [fromMetadata, Cluster.execute_eq, hq]; rfl⟩
    | crash => exact absurd hq (Cluster.answer_columns_ne_crash c _ _)
  -- the answer names the four metadata columns, or the path faults
  rcases hn : r.columnIndex? "column_name" with _ | ni
  · exact .inl ⟨_, by
      simp only [fromMetadata, Cluster.execute_eq, hq, metaIndex, hn]; rfl⟩
  rcases ht : r.columnIndex? "type" with _ | ti
  · exact .inl ⟨_, by
      simp only [fromMetadata, Cluster.execute_eq, hq, metaIndex, hn, ht]; rfl⟩
  rcases hk : r.columnIndex? "kind" with _ | ki
  · exact .inl ⟨_, by
      simp only [fromMetadata, Cluster.execute_eq, hq, metaIndex, hn, ht, hk]; rfl⟩
  rcases hp : r.columnIndex? "position" with _ | pi
  · exact .inl ⟨_, by
      simp only [fromMetadata, Cluster.execute_eq, hq, metaIndex, hn, ht, hk, hp]
      rfl⟩
  refine .inr ⟨r, r.rows.filterMap (MetaRow.ofRow? ni ti ki pi), rfl,
    by simp [metaRows?, hn, ht, hk, hp], ?_⟩
  rw [fromMetadata_of_answer hq hn ht hk hp]
  by_cases hrows : r.rows.filterMap (MetaRow.ofRow? ni ti ki pi) = []
  · exact .inl ⟨hrows, _, by rw [hrows]; rfl⟩
  · exact .inr ⟨hrows, by simp [hrows]⟩

theorem fromMetadata_answer (c : Cluster) (t : TableName) :
    (∀ f, (fromMetadata c t).2 = .error (.fault f) → f.isDiscovery = true) ∧
    (∀ cols, (fromMetadata c t).2 = .ok cols → Listing cols ∧
      ∃ r, c.answer SchemaQuery.columns [t.keyspace, t.table] = .ok r ∧ MetadataListing r cols) ∧
    ((fromMetadata c t).2 = .error .crash →
      ∃ r rows, c.answer SchemaQuery.columns [t.keyspace, t.table] = .ok r ∧
        metaRows? r = some rows ∧ ∃ m ∈ rows, StoreType.read? m.sourceType = none) := by
  rcases fromMetadata_cases c t with ⟨d, hd⟩ | ⟨r, rows, hq, hrows, ⟨rfl, w, hw⟩ | ⟨hne, hnum⟩⟩
  · rw [hd]
    refine ⟨fun f hf => ?_, nofun, nofun⟩
    cases hf
    rfl
  · rw [hw]
    refine ⟨fun f hf => ?_, nofun, nofun⟩
    cases hf
    rfl
  · rw [hnum]
    refine ⟨fun f hf => ?_, fun cols hcols => ?_, fun hcrash => ?_⟩
    · nomatch (numberRows_eq_error hf).1
    · obtain ⟨hlisting, hmeta⟩ := listing_of_numberRows hrows hne hcols
      exact ⟨hlisting, r, hq, hmeta⟩
    · -- the row the reader faults on is one of the sorted rows, so one of the metadata rows
      obtain ⟨-, m, hm, hread⟩ := numberRows_eq_error hcrash
      exact ⟨r, rows, hq, hrows, m, (List.mergeSort_perm _ _).mem_iff.1 hm, hread⟩

/-! ## The probe path

The columns of a non-empty result make a listing of the probe. -/

theorem byProbe_cluster (c : Cluster) (t : TableName) :
    (byProbe c t).1 = { c with executed := c.executed ++ [probeQuery t] } := by
  unfold byProbe Cluster.execute
  split <;> (try split) <;> simp_all

/-- **Where the probe path ends**: a discovery fault, the cluster's crash, or an answer whose
columns are none (not found) or are listed. -/
theorem byProbe_cases (c : Cluster) (t : TableName) :
    (∃ d, (byProbe c t).2 = .error (.fault (.discovery d))) ∨
    (c.answer (probeQuery t) [] = .error .crash ∧ (byProbe c t).2 = .error .crash) ∨
    ∃ r, c.answer (probeQuery t) [] = .ok r ∧
      ((r.columns = [] ∧ ∃ w, (byProbe c t).2 = .error (.fault (.notFound w))) ∨
        (r.columns ≠ [] ∧ (byProbe c t).2 = .ok (ofResultColumns r.columns))) := by
  rcases hq : c.answer (probeQuery t) [] with e | r
  · cases e with
    | fault f => exact .inl ⟨_, by simp only [byProbe, Cluster.execute_eq, hq]; rfl⟩
    | crash =>
        exact .inr (.inl ⟨rfl, by simp only [byProbe, Cluster.execute_eq, hq]⟩)
  refine .inr (.inr ⟨r, rfl, ?_⟩)
  by_cases hcols : r.columns = []
  · exact .inl ⟨hcols, _, by
      simp only [byProbe, Cluster.execute_eq, hq, hcols, List.isEmpty_nil, ite_true]
      rfl⟩
  · exact .inr ⟨hcols, by simp [byProbe, Cluster.execute, hq, hcols]⟩

theorem byProbe_answer (c : Cluster) (t : TableName) :
    (∀ f, (byProbe c t).2 = .error (.fault f) → f.isDiscovery = true) ∧
    (∀ cols, (byProbe c t).2 = .ok cols → Listing cols ∧
      ∃ r, c.answer (probeQuery t) [] = .ok r ∧ ProbeListing r cols) ∧
    ((byProbe c t).2 = .error .crash → c.answer (probeQuery t) [] = .error .crash) := by
  rcases byProbe_cases c t with ⟨d, hd⟩ | ⟨hq, hcrash⟩ | ⟨r, hq, ⟨-, w, hw⟩ | ⟨hne, hok⟩⟩
  · rw [hd]
    refine ⟨fun f hf => ?_, nofun, nofun⟩
    cases hf
    rfl
  · rw [hcrash]
    exact ⟨nofun, nofun, fun _ => hq⟩
  · rw [hw]
    refine ⟨fun f hf => ?_, nofun, nofun⟩
    cases hf
    rfl
  · rw [hok]
    refine ⟨nofun, fun cols hcols => ?_, nofun⟩
    cases hcols
    exact ⟨(listing_ofResultColumns hne).1, r, hq, (listing_ofResultColumns hne).2⟩

/-! ## Describing a table -/

/-- **What describing a table answers**, for every cluster, table and strategy:

* a fault only of discovery: a discovery fault or a table not found;
* a listing: from the metadata answer when the strategy reads the schema tables, or from the
  probe's answer when the strategy is `probe`, or `auto` after a discovery fault of the
  metadata path;
* a crash only on a metadata row whose type text the reader faults on, or when the cluster
  crashes on the probe. -/
theorem describeTable_answer (c : Cluster) (t : TableName) (strategy : Strategy) :
    (∀ f, (describeTable c t strategy).2 = .error (.fault f) → f.isDiscovery = true) ∧
    (∀ cols, (describeTable c t strategy).2 = .ok cols → Listing cols ∧
      ((strategy ≠ .probe ∧ ∃ r, c.answer SchemaQuery.columns [t.keyspace, t.table] = .ok r ∧
          MetadataListing r cols) ∨
        ((strategy = .probe ∨
            strategy = .auto ∧ ∃ d, (fromMetadata c t).2 = .error (.fault (.discovery d))) ∧
          ∃ r, c.answer (probeQuery t) [] = .ok r ∧ ProbeListing r cols))) ∧
    ((describeTable c t strategy).2 = .error .crash →
      (strategy ≠ .probe ∧ ∃ r rows, c.answer SchemaQuery.columns [t.keyspace, t.table] = .ok r ∧
          metaRows? r = some rows ∧ ∃ m ∈ rows, StoreType.read? m.sourceType = none) ∨
        (strategy ≠ .metadata ∧ c.answer (probeQuery t) [] = .error .crash)) := by
  obtain ⟨mFault, mList, mCrash⟩ := fromMetadata_answer c t
  cases strategy with
  | metadata =>
      exact ⟨mFault, fun cols h => ⟨(mList cols h).1, .inl ⟨(by decide), (mList cols h).2⟩⟩,
        fun h => .inl ⟨(by decide), mCrash h⟩⟩
  | probe =>
      obtain ⟨pFault, pList, pCrash⟩ := byProbe_answer c t
      exact ⟨pFault, fun cols h => ⟨(pList cols h).1, .inr ⟨.inl rfl, (pList cols h).2⟩⟩,
        fun h => .inr ⟨(by decide), pCrash h⟩⟩
  | auto =>
      rcases hm : fromMetadata c t with ⟨c', res⟩
      by_cases hd : ∃ d, res = .error (.fault (.discovery d))
      · -- a discovery fault of the metadata path: the probe runs on the cluster it leaves,
        -- which answers as the first one
        obtain ⟨d, rfl⟩ := hd
        have hc' : c' = { c with executed := c.executed ++ [SchemaQuery.columns] } := by
          rw [← fromMetadata_cluster c t, hm]
        have hdescribe : describeTable c t .auto = byProbe c' t := by
          simp only [describeTable, hm]
        subst hc'
        obtain ⟨pFault, pList, pCrash⟩ :=
          byProbe_answer { c with executed := c.executed ++ [SchemaQuery.columns] } t
        simp only [Cluster.answer_log] at pList pCrash
        rw [hdescribe]
        exact ⟨pFault, fun cols h => ⟨(pList cols h).1, .inr ⟨.inr ⟨rfl, d, rfl⟩,
          (pList cols h).2⟩⟩, fun h => .inr ⟨(by decide), pCrash h⟩⟩
      · -- any other answer of the metadata path is the answer
        have hdescribe : describeTable c t .auto = (c', res) := by
          simp only [describeTable, hm]
          split
          · rename_i d heq
            exact absurd ⟨d, (Prod.mk.inj heq).2⟩ hd
          · rfl
        rw [hm] at mFault mList mCrash
        rw [hdescribe]
        exact ⟨mFault, fun cols h => ⟨(mList cols h).1, .inl ⟨(by decide), (mList cols h).2⟩⟩,
          fun h => .inl ⟨(by decide), mCrash h⟩⟩

/-- A metadata answer whose one row has the type text `"é`, a quoted name left open after a
character that is not ASCII: describing the table by the default strategy crashes. -/
theorem describeTable_open_quoted_type :
    (describeTable
      { canned := [(SchemaQuery.columns,
          ⟨[⟨"column_name", .scalar .text⟩, ⟨"type", .scalar .text⟩, ⟨"kind", .scalar .text⟩,
              ⟨"position", .scalar .int⟩],
            [[some (.text "a"), some (.text "\"é"), some (.text "regular"), some (.int (-1))]]⟩)] }
      ⟨"ks", "t"⟩ .auto).2 = .error .crash := by
  cbv

end Discovery

end CqlBridge
