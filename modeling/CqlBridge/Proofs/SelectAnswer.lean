import Mathlib.Data.List.Forall2
import CqlBridge.Proofs.SelectRead

/-!
# `CqlBridge.Proofs.SelectAnswer` — what the cluster answers to a statement of the grammar

A cluster with no failure patterns, no fixed answers and open schema tables answers a statement
by reading it and evaluating it against its tables, unless the statement is one of the three
schema statements, which it answers from its own catalogue. For a readable statement of the
grammar of `CqlBridge.Proofs.SelectRead` that is not one of those three, the answer is decided
by the table and the selected names alone (`execute_selectText`):

| the table `keyspace.table` | the names | answer |
|---|---|---|
| not stored | any | fails: `unconfigured table keyspace.table` |
| stored | one has no declared column | fails at the first such name: `undefined column name n` |
| stored | each has one | the first declared column of each name (every column for `*`), and the stored rows in order, up to the limit, with the cells at those places, null where a row is short |

So no such statement crashes the cluster, and every failure is a failure of the statement. The
schema statements are an exception: `SELECT keyspace_name FROM system_schema.keyspaces` is of
the grammar, names a table no cluster stores, and is answered all the same
(`execute_keyspaces_and_keyword_clashes`).
-/

namespace CqlBridge

/-! ## What a statement picks and which rows it answers -/

namespace StoredTable

/-- `p` is the place and the declaration of the first column of `t` named `n`. -/
def FirstNamed (t : StoredTable) (n : String) (p : Nat × StoredColumn) : Prop :=
  t.columns[p.1]? = some p.2 ∧ p.2.name = n ∧ ∀ j < p.1, ∀ col ∈ t.columns[j]?, col.name ≠ n

end StoredTable

namespace Selection

/-- The columns a selection picks from a table, each with its place: every column in order for
`*`, and the first column of each name for a list of names. -/
def Picks (t : StoredTable) : Selection → List (Nat × StoredColumn) → Prop
  | .star, picks => ∀ k : Nat, picks[k]? = (t.columns[k]?).map fun col => (k, col)
  | .names ns, picks => List.Forall₂ (fun n p => t.FirstNamed n.name p) ns picks

end Selection

/-- The rows answered from stored rows: below the limit, the `k`-th is the `k`-th stored row's
cells at the picked places, null where the row is short; past the limit or the rows, none. -/
def RowsAnswer (rows : List Row) (limit : Option Nat) (picks : List (Nat × StoredColumn))
    (out : List Row) : Prop :=
  ∀ k : Nat, out[k]? =
    if limit.all (k < ·) then (rows[k]?).map (fun row => picks.map fun p => (row[p.1]?).join)
    else none

theorem rowsAnswer_take (rows : List Row) (limit : Option Nat) (picks : List (Nat × StoredColumn)) :
    RowsAnswer rows limit picks ((match limit with
      | some n => rows.take n
      | none => rows).map fun (row : Row) => picks.map fun (p : Nat × StoredColumn) =>
        (row[p.1]?).join) := by
  intro k
  cases limit with
  | none => simp
  | some n =>
      by_cases hk : k < n <;> simp [hk]

namespace Cluster

/-! ## Finding the named columns

The place `findIdx?` gives for a name is that of the first column of the name, and a name some
declared column has is found. Names that each have a declared column resolve to the first column
of each; resolving fails at the first name with no declared column, naming it. -/

theorem firstNamed_of_findIdx? {t : StoredTable} {n : String} {i : Nat}
    (h : t.columns.findIdx? (·.name == n) = some i) :
    ∃ col, t.columns[i]? = some col ∧ t.FirstNamed n (i, col) := by
  obtain ⟨hi, hname, hbefore⟩ := List.findIdx?_eq_some_iff_getElem.1 h
  refine ⟨t.columns[i], List.getElem?_eq_getElem hi, List.getElem?_eq_getElem hi,
    by simpa using hname, fun j hj col hcol => ?_⟩
  obtain ⟨hj', rfl⟩ := List.getElem?_eq_some_iff.1 hcol
  simpa using hbefore j hj

theorem exists_findIdx?_of_named {t : StoredTable} {n : String}
    (h : ∃ col ∈ t.columns, col.name = n) : ∃ i, t.columns.findIdx? (·.name == n) = some i := by
  obtain ⟨col, hcol, hname⟩ := h
  exact Option.ne_none_iff_exists'.1 fun hnone =>
    by simpa [hname] using List.findIdx?_eq_none_iff.1 hnone col hcol

theorem resolve_ok {t : StoredTable} (cql : String) :
    ∀ names : List String, (∀ n ∈ names, ∃ col ∈ t.columns, col.name = n) →
      ∃ picks, resolve cql t names = .ok picks ∧
        List.Forall₂ (fun n p => t.FirstNamed n p) names picks
  | [], _ => ⟨[], rfl, .nil⟩
  | n :: names, h => by
      obtain ⟨i, hi⟩ := exists_findIdx?_of_named (h n List.mem_cons_self)
      obtain ⟨col, hcol, hfirst⟩ := firstNamed_of_findIdx? hi
      obtain ⟨picks, hres, hall⟩ := resolve_ok cql names fun m hm => h m (List.mem_cons_of_mem n hm)
      refine ⟨(i, col) :: picks, ?_, .cons hfirst hall⟩
      simp [resolve, hi, hcol, hres]

theorem resolve_undefined {t : StoredTable} (cql : String) (n : String) (post : List String) :
    ∀ pre : List String, (∀ m ∈ pre, ∃ col ∈ t.columns, col.name = m) →
      (∀ col ∈ t.columns, col.name ≠ n) →
      resolve cql t (pre ++ n :: post) =
        .error (.fault (.queryFailed cql ("undefined column name " ++ n)))
  | [], _, hn => by
      have hnone : t.columns.findIdx? (·.name == n) = none :=
        List.findIdx?_eq_none_iff.2 fun col hcol => by simpa using hn col hcol
      simp [resolve, hnone]
  | m :: pre, hpre, hn => by
      obtain ⟨i, hi⟩ := exists_findIdx?_of_named (hpre m List.mem_cons_self)
      have hrest := resolve_undefined cql n post pre
        (fun m' hm' => hpre m' (List.mem_cons_of_mem m hm')) hn
      simp [resolve, hi, hrest]

/-! ## Evaluating a statement that reads

With no failure patterns, no fixed answers and open schema tables, a statement other than the
three schema statements is answered by evaluating it, and running it logs it, which changes no
table. `*` picks every column at its own place, and written names pick the first columns of
their names. -/

theorem answer_eq_select {c : Cluster} {cql : String} (hfail : c.failing = [])
    (hcanned : c.canned = []) (hopen : c.restricted = false)
    (hschema : cql ∉ [SchemaQuery.keyspaces, SchemaQuery.tables, SchemaQuery.columns])
    (params : List String) : c.answer cql params = c.select cql := by
  simp only [List.mem_cons, List.not_mem_nil, or_false, not_or] at hschema
  obtain ⟨hkeyspaces, htables, hcolumns⟩ := hschema
  simp [answer, hfail, hcanned, hopen, hkeyspaces, htables, hcolumns]

theorem execute_eq_select {c : Cluster} {cql : String} (hfail : c.failing = [])
    (hcanned : c.canned = []) (hopen : c.restricted = false)
    (hschema : cql ∉ [SchemaQuery.keyspaces, SchemaQuery.tables, SchemaQuery.columns])
    (params : List String) : (c.execute cql params).2 = c.select cql :=
  answer_eq_select (c := { c with executed := c.executed ++ [cql] }) hfail hcanned hopen hschema
    params

theorem select_unconfigured {c : Cluster} {cql : String} {s : SelectStmt}
    (hread : SelectStmt.read cql = .ok s) (hfind : c.findTable? s.keyspace s.table = none) :
    c.select cql =
      .error (.fault (.queryFailed cql ("unconfigured table " ++ s.keyspace ++ "." ++ s.table))) := by
  simp [select, hread, hfind]
  rfl

theorem select_undefined {c : Cluster} {cql : String} {s : SelectStmt} {t : StoredTable}
    (hread : SelectStmt.read cql = .ok s) (hfind : c.findTable? s.keyspace s.table = some t)
    {pre post : List String} {n : String} (hproj : s.projection = some (pre ++ n :: post))
    (hpre : ∀ m ∈ pre, ∃ col ∈ t.columns, col.name = m) (hn : ∀ col ∈ t.columns, col.name ≠ n) :
    c.select cql = .error (.fault (.queryFailed cql ("undefined column name " ++ n))) := by
  simp [select, hread, hfind, hproj, resolve_undefined cql n post pre hpre hn]

/-- A statement of a stored table answers the picked columns and, for each stored row up to the
limit, its cells at the picked places. -/
theorem select_picked {c : Cluster} {cql : String} {s : SelectStmt} {t : StoredTable}
    (hread : SelectStmt.read cql = .ok s) (hfind : c.findTable? s.keyspace s.table = some t)
    {picks : List (Nat × StoredColumn)}
    (hpicks : (match s.projection with
      | none => pure (t.columns.zipIdx.map fun (col, i) => (i, col))
      | some names => resolve cql t names : Except Stop (List (Nat × StoredColumn))) = .ok picks) :
    c.select cql = .ok ⟨picks.map (fun p => ⟨p.2.name, p.2.type⟩),
      (match s.limit with
        | some n => t.rows.take n
        | none => t.rows).map fun (row : Row) => picks.map fun (p : Nat × StoredColumn) =>
          (row[p.1]?).join⟩ := by
  cases hp : s.projection with
  | none =>
      rw [hp] at hpicks
      obtain rfl := Except.ok.inj hpicks
      simp only [select, hread, pure_bind, hfind, hp]
      rfl
  | some names =>
      rw [hp] at hpicks
      have hresolve : resolve cql t names = pure picks := hpicks
      simp only [select, hread, pure_bind, hfind, hp, hresolve]
      rfl

end Cluster

namespace Selection

theorem picks_star (t : StoredTable) :
    Selection.star.Picks t (t.columns.zipIdx.map fun (col, i) => (i, col)) := by
  intro k
  simp [List.getElem?_zipIdx, Function.comp_def]

theorem picks_names {t : StoredTable} {ns : List WrittenName} {picks : List (Nat × StoredColumn)}
    (h : List.Forall₂ (fun n p => t.FirstNamed n p) (ns.map WrittenName.name) picks) :
    (Selection.names ns).Picks t picks :=
  List.forall₂_map_left_iff.1 h

end Selection

/-- **The cluster answers a statement of the grammar by its table and names.** With no failure
patterns, no fixed answers and open schema tables, a readable statement that is not one of the
three schema statements fails, as a failure of that statement, with `unconfigured table` when
its table is not stored, and with `undefined column name` at the first selected name that no
column of the table has; otherwise it answers the columns it picks (every column for `*`, the
first column of each name otherwise) and, for each stored row in order up to its limit, the
cells at the picked places. -/
theorem execute_selectText {c : Cluster} {q : SelectText} (hq : q.Readable)
    (hfail : c.failing = []) (hcanned : c.canned = []) (hopen : c.restricted = false)
    (hschema : q.render ∉ [SchemaQuery.keyspaces, SchemaQuery.tables, SchemaQuery.columns])
    (params : List String) :
    (c.findTable? q.keyspace.name q.table.name = none →
      (c.execute q.render params).2 = .error (.fault (.queryFailed q.render
        ("unconfigured table " ++ q.keyspace.name ++ "." ++ q.table.name)))) ∧
    (∀ t ∈ c.findTable? q.keyspace.name q.table.name, ∀ pre n post,
      q.selection.names? = some (pre ++ n :: post) →
      (∀ m ∈ pre, ∃ col ∈ t.columns, col.name = m) → (∀ col ∈ t.columns, col.name ≠ n) →
      (c.execute q.render params).2 =
        .error (.fault (.queryFailed q.render ("undefined column name " ++ n)))) ∧
    (∀ t ∈ c.findTable? q.keyspace.name q.table.name,
      (∀ n ∈ q.selection.names?.getD [], ∃ col ∈ t.columns, col.name = n) →
      ∃ picks r, q.selection.Picks t picks ∧ (c.execute q.render params).2 = .ok r ∧
        r.columns = picks.map (fun p => ⟨p.2.name, p.2.type⟩) ∧
        RowsAnswer t.rows (q.limit.map Text.digitsValue) picks r.rows) := by
  have hexec := Cluster.execute_eq_select hfail hcanned hopen hschema params
  have hread := SelectText.read_render hq
  refine ⟨fun hfind => ?_, fun t ht pre n post hnames hpre hn => ?_, fun t ht hall => ?_⟩
  · rw [hexec]
    exact Cluster.select_unconfigured (s := q.stmt) hread hfind
  · rw [hexec]
    exact Cluster.select_undefined (s := q.stmt) hread ht hnames hpre hn
  · -- the picks are all columns for `*`, and the resolved names otherwise
    obtain ⟨picks, hpicks, hres⟩ : ∃ picks, q.selection.Picks t picks ∧
        (match q.stmt.projection with
          | none => pure (t.columns.zipIdx.map fun (col, i) => (i, col))
          | some names => Cluster.resolve q.render t names :
            Except Stop (List (Nat × StoredColumn))) = .ok picks := by
      cases hs : q.selection with
      | star =>
          refine ⟨_, Selection.picks_star t, ?_⟩
          simp only [SelectText.stmt, hs, Selection.names?]
          rfl
      | names ns =>
          have hall' : ∀ n ∈ ns.map WrittenName.name, ∃ col ∈ t.columns, col.name = n := by
            simpa [hs, Selection.names?] using hall
          obtain ⟨picks, hres, hforall⟩ := Cluster.resolve_ok q.render _ hall'
          refine ⟨picks, Selection.picks_names hforall, ?_⟩
          simpa only [SelectText.stmt, hs, Selection.names?] using hres
    refine ⟨picks, _, hpicks, by rw [hexec, Cluster.select_picked hread ht hres], rfl, ?_⟩
    exact rowsAnswer_take t.rows (q.limit.map Text.digitsValue) picks

/-- `select "a", b FROM ks.t WHERE a > 0 LIMIT 1;` against a table `ks.t` of two columns. -/
theorem execute_selectText_filtered_limit :
    let q : SelectText := ⟨[], "select ".toList, .names [.quoted "a", .bare "b"], [' '],
      .bare "ks", .bare "t", some "a > 0".toList, some ['1'], 1⟩
    let c : Cluster := ({} : Cluster).addTable ⟨"ks", "t",
      [⟨"a", .scalar .int, .partitionKey, 0⟩, ⟨"b", .scalar .text, .regular, -1⟩],
      [[some (.int 1), some (.text "x")], [some (.int 2)]]⟩
    q.Readable ∧ c.failing = [] ∧ c.canned = [] ∧ c.restricted = false ∧
    q.render ∉ [SchemaQuery.keyspaces, SchemaQuery.tables, SchemaQuery.columns] ∧
    ((c.findTable? q.keyspace.name q.table.name = none →
      (c.execute q.render []).2 = .error (.fault (.queryFailed q.render
        ("unconfigured table " ++ q.keyspace.name ++ "." ++ q.table.name)))) ∧
    (∀ t ∈ c.findTable? q.keyspace.name q.table.name, ∀ pre n post,
      q.selection.names? = some (pre ++ n :: post) →
      (∀ m ∈ pre, ∃ col ∈ t.columns, col.name = m) → (∀ col ∈ t.columns, col.name ≠ n) →
      (c.execute q.render []).2 =
        .error (.fault (.queryFailed q.render ("undefined column name " ++ n)))) ∧
    (∀ t ∈ c.findTable? q.keyspace.name q.table.name,
      (∀ n ∈ q.selection.names?.getD [], ∃ col ∈ t.columns, col.name = n) →
      ∃ picks r, q.selection.Picks t picks ∧ (c.execute q.render []).2 = .ok r ∧
        r.columns = picks.map (fun p => ⟨p.2.name, p.2.type⟩) ∧
        RowsAnswer t.rows (q.limit.map Text.digitsValue) picks r.rows)) := by
  intro q c
  have hq : q.Readable := {
    lead_blank := by simp [q]
    select_word := rfl
    gap_blank := by
      simp only [q, List.mem_singleton, forall_eq]
      decide
    selection := by
      refine ⟨by simp, fun n hn => ?_, by simp⟩
      simp only [List.mem_cons, List.not_mem_nil, or_false] at hn
      rcases hn with rfl | rfl
      · exact ⟨trivial, by decide⟩
      · exact ⟨⟨by decide, fun c hc => by cases hc; decide, fun c hc => by cases hc; decide⟩,
          by decide⟩
    selection_from := by decide
    keyspace_plain := ⟨by decide, fun c hc => by cases hc; decide, fun c hc => by cases hc; decide⟩
    keyspace_dot := by
      intro n hn
      cases hn
      decide
    table_plain := ⟨by decide, fun c hc => by cases hc; decide, fun c hc => by cases hc; decide⟩
    table_semicolon := by
      intro n hn
      cases hn
      decide
    keyspace_where := by decide
    keyspace_limit := by decide
    table_where := by decide
    table_limit := by decide
    filter_limit := by
      intro w hw
      cases hw
      decide
    limit_digits := by
      intro ds hds
      cases hds
      exact ⟨by simp, by simp only [List.mem_singleton, forall_eq]; decide, by decide⟩ }
  have hschema : q.render ∉ [SchemaQuery.keyspaces, SchemaQuery.tables, SchemaQuery.columns] := by
    decide
  exact ⟨hq, rfl, rfl, rfl, hschema, execute_selectText hq rfl rfl rfl hschema []⟩

/-- Where the grammar and the cluster part ways. The keyspaces statement is of the grammar and
names a table no cluster stores, yet an empty cluster answers it from its catalogue. A bare
first name `FROM` puts ` FROM ` right after `SELECT`, and the reader's cuts cross: the cluster
crashes. A filter that starts with `LIMIT` completes ` LIMIT ` with the blank of ` WHERE `, and
is read as the limit. -/
theorem execute_keyspaces_and_keyword_clashes :
    SelectStmt.read SchemaQuery.keyspaces =
      .ok ⟨some ["keyspace_name"], "system_schema", "keyspaces", none⟩ ∧
    ({} : Cluster).findTable? "system_schema" "keyspaces" = none ∧
    (({} : Cluster).execute SchemaQuery.keyspaces []).2 =
      .ok ⟨[⟨"keyspace_name", .scalar .text⟩], []⟩ ∧
    ((({} : Cluster).addTable ⟨"ks", "t", [⟨"FROM", .scalar .int, .partitionKey, 0⟩],
        [[some (.int 1)]]⟩).execute "SELECT FROM FROM ks.t" []).2 = .error .crash ∧
    ((({} : Cluster).addTable ⟨"ks", "t", [⟨"a", .scalar .int, .partitionKey, 0⟩],
        [[some (.int 1)], [some (.int 2)]]⟩).execute "SELECT * FROM ks.t WHERE LIMIT 1" []).2 =
      .ok ⟨[⟨"a", .scalar .int⟩], [[some (.int 1)]]⟩ :=
  ⟨by decide +kernel, rfl, rfl, rfl, rfl⟩

end CqlBridge
