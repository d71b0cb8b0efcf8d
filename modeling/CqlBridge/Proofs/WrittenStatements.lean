import CqlBridge.Proofs.SelectRead

/-!
# `CqlBridge.Proofs.WrittenStatements` — the reader takes back what a scan and a probe write

A table scan writes `SELECT "a", "b" FROM "ks"."t" WHERE <predicate>`, with `*` when no column is
bound, and a probe writes `SELECT * FROM "ks"."t" LIMIT 1`. Both are statements of the grammar
of `CqlBridge.Proofs.SelectRead` (`SelectText.ofScan`, `SelectText.probe`), and readable ones
when no name holds what the reader cuts at (`read_scan_and_probe_statements`).

The predicate is the one part that is not quoted. `WHERE ` leaves a blank before it, so a
predicate that starts with `LIMIT ` makes ` LIMIT ` with that blank and is read as the limit
clause (`read_scanStatement_filter_limit`): the condition is on the predicate after that blank.
-/

namespace CqlBridge

namespace Text

/-! ## Quoted names hold no keyword

A quoted name holds a pattern without quotes only if the name does, also with a text after it,
and quoted names joined by a separator between blanks hold none that no name and not the
separator holds; a clause keyword, alone or before a blank, likewise. -/

theorem avoidsChars_nil {pat : String} (hp : pat.toList ≠ []) : AvoidsChars [] pat := by
  unfold AvoidsChars
  obtain ⟨c, cs, hcs⟩ := List.exists_cons_of_ne_nil hp
  rw [hcs]
  rfl

theorem avoidsChars_quoted_append {pat : String} (hq : '"' ∉ pat.toList) (hp : pat.toList ≠ [])
    (k : String) (Y : List Char) :
    AvoidsChars ((WrittenName.quoted k).text ++ Y) pat ↔ Avoids k pat ∧ AvoidsChars Y pat := by
  have hquote : ('"' : Char).toUpper = '"' := rfl
  have hcut : (WrittenName.quoted k).text ++ Y = [] ++ '"' :: (doubled k.toList ++ '"' :: Y) := by
    simp [WrittenName.text]
  have hdoubled : AvoidsChars (doubled k.toList) pat ↔ Avoids k pat := by
    unfold AvoidsChars Avoids
    rw [map_toUpper_doubled, find?_doubled hq]
  rw [hcut, avoidsChars_append_cons (hquote ▸ hq), avoidsChars_append_cons (hquote ▸ hq),
    hdoubled]
  exact ⟨fun h => h.2, fun h => ⟨avoidsChars_nil hp, h⟩⟩

theorem avoidsChars_quoted {pat : String} (hq : '"' ∉ pat.toList) (hp : pat.toList ≠ [])
    {k : String} (hk : Avoids k pat) : AvoidsChars (WrittenName.quoted k).text pat := by
  simpa using (avoidsChars_quoted_append hq hp k []).2 ⟨hk, avoidsChars_nil hp⟩

theorem avoidsChars_blank_quoted_names {pat : String} (hq : '"' ∉ pat.toList)
    (hsep : AvoidsChars ", ".toList pat) (hblank : AvoidsChars [' '] pat) (ns : List String)
    (hne : ns ≠ []) (hns : ∀ n ∈ ns, Avoids n pat) :
    AvoidsChars (' ' :: ((',' :: [' ']).intercalate
      (ns.map fun n => (WrittenName.quoted n).text) ++ [' '])) pat := by
  have hquote : ('"' : Char).toUpper = '"' := rfl
  -- upper-cased, the names are still quoted names joined by the separator
  have hupper : ((',' :: [' ']).intercalate (ns.map fun n => (WrittenName.quoted n).text)).map
      Char.toUpper = ", ".toList.intercalate
        ((ns.map fun n => doubled (n.toList.map Char.toUpper)).map fun m => '"' :: (m ++ ['"'])) := by
    rw [map_intercalate, List.map_map, List.map_map]
    simp [WrittenName.text, map_toUpper_doubled, Function.comp_def]
  have hjoined : find? pat.toList (", ".toList.intercalate
      ((ns.map fun n => doubled (n.toList.map Char.toUpper)).map
        fun m => '"' :: (m ++ ['"']))) = none := by
    refine find?_intercalate_quoted hq hsep _ (by simpa using hne) fun m hm => ?_
    obtain ⟨n, hn, rfl⟩ := List.mem_map.1 hm
    rw [find?_doubled hq]
    exact hns n hn
  obtain ⟨M, hM⟩ := intercalate_quoted_shape ", ".toList
    (ns.map fun n => doubled (n.toList.map Char.toUpper)) (by simpa using hne)
  rw [hM, ← List.nil_append ('"' :: _), find?_append_cons_eq_none hq,
    find?_append_cons_eq_none hq] at hjoined
  have hb : find? pat.toList [' '] = none := hblank
  unfold AvoidsChars
  have hsp : (' ' : Char).toUpper = ' ' := rfl
  rw [List.map_cons, List.map_append, hupper, hM]
  simp only [List.map_cons, List.map_nil, hsp, List.cons_append, List.append_assoc]
  show find? pat.toList ([' '] ++ '"' :: (M ++ '"' :: [' '])) = none
  rw [find?_append_cons_eq_none hq, find?_append_cons_eq_none hq]
  exact ⟨hb, hjoined.2.1, hb⟩

end Text

namespace SelectText

open Text

/-! ## The two statements in the grammar -/

/-- A table scan's statement in the grammar: the bound columns' quoted names joined by `, `,
or `*` when none is bound; the quoted keyspace and table; the predicate, trimmed, unless it is
blank. -/
def ofScan (t : TableName) (filter : Option String) (cols : List ScanColumn) : SelectText where
  lead := []
  select := "SELECT ".toList
  selection := if cols.isEmpty then .star else .names (cols.map fun c => .quoted c.name)
  gap := [' ']
  keyspace := .quoted t.keyspace
  table := .quoted t.table
  filter := (ScanSource.predicate? filter).map String.toList
  limit := none
  semicolons := 0

/-- The statement that probes a table for one row, in the grammar. -/
def probe (t : TableName) : SelectText where
  lead := []
  select := "SELECT ".toList
  selection := .star
  gap := []
  keyspace := .quoted t.keyspace
  table := .quoted t.table
  filter := none
  limit := some ['1']
  semicolons := 0

theorem render_ofScan (t : TableName) (filter : Option String) (cols : List ScanColumn) :
    (ofScan t filter cols).render = (ScanSource.table t filter).toCql cols := by
  have hchars : (ofScan t filter cols).chars = ((ScanSource.table t filter).toCql cols).toList := by
    cases hp : ScanSource.predicate? filter <;> cases hc : cols.isEmpty <;>
      simp [chars, ofScan, rest, target, whereText, limitText, Selection.text, WrittenName.text, ScanSource.toCql, hp, hc, TableName.cqlName, String.toList_intercalate, List.map_map, Function.comp_def]
  rw [render, hchars, String.ofList_toList]

theorem render_probe (t : TableName) : (probe t).render = Discovery.probeQuery t := by
  have hchars : (probe t).chars = (Discovery.probeQuery t).toList := by
    simp [chars, probe, rest, target, whereText, limitText, Selection.text, WrittenName.text, Discovery.probeQuery, TableName.cqlName]
  rw [render, hchars, String.ofList_toList]

theorem predicate?_eq_some {filter : Option String} {p : String}
    (h : ScanSource.predicate? filter = some p) : ∃ f, filter = some f ∧ p = trim f := by
  cases filter with
  | none => simp [ScanSource.predicate?] at h
  | some f =>
      simp only [ScanSource.predicate?, Option.map_some] at h
      split at h
      · cases h
      · exact ⟨f, rfl, (Option.some.inj h).symm⟩

theorem avoidsChars_quoted_clause {pat : String} (hq : '"' ∉ pat.toList) (hp : pat.toList ≠ [])
    (hblank : AvoidsChars [' '] pat) {k : String} (hk : Avoids k pat) {Y : List Char}
    (hY : Y = [] ∨ Y = [' ']) : AvoidsChars ((WrittenName.quoted k).text ++ Y) pat := by
  refine (avoidsChars_quoted_append hq hp k Y).2 ⟨hk, ?_⟩
  rcases hY with rfl | rfl
  · exact avoidsChars_nil hp
  · exact hblank

/-- A table scan's statement is one the reader takes, under the conditions on names and filter
that keep the keywords where the scan puts them. -/
theorem readable_ofScan {t : TableName} {filter : Option String} {cols : List ScanColumn}
    (hnames : ∀ c ∈ cols, ',' ∉ c.name.toList ∧ Avoids c.name " FROM ")
    (hkeyspace : Avoids t.keyspace " WHERE " ∧ Avoids t.keyspace " LIMIT ")
    (htable : Avoids t.table " WHERE " ∧ Avoids t.table " LIMIT ")
    (hfilter : ∀ f ∈ filter, Avoids (" " ++ trim f) " LIMIT ") :
    (ofScan t filter cols).Readable where
  lead_blank := by simp [ofScan]
  select_word := rfl
  gap_blank := by simp [ofScan, isBlank, blankRanges]
  selection := by
    by_cases hc : cols.isEmpty
    · simp only [ofScan, hc, if_true]
      trivial
    · simp only [ofScan, hc, Bool.false_eq_true, if_false]
      refine ⟨by simpa using hc, fun n hn => ?_, fun h => ?_⟩
      · obtain ⟨c, hc', rfl⟩ := List.mem_map.1 hn
        refine ⟨trivial, ?_⟩
        simp [WrittenName.text, mem_doubled (show ',' ≠ '"' by decide), (hnames c hc').1]
      · cases cols with
        | nil => simp at hc
        | cons c cs => simp at h
  selection_from := by
    by_cases hc : cols.isEmpty
    · simp only [ofScan, hc, if_true, Selection.text]
      decide
    · simp only [ofScan, hc, Bool.false_eq_true, if_false, Selection.text]
      have h : AvoidsChars (' ' :: ((',' :: [' ']).intercalate
          ((cols.map (·.name)).map fun n => (WrittenName.quoted n).text) ++ [' '])) " FROM " :=
        avoidsChars_blank_quoted_names (by decide) (by decide) (by decide)
        (cols.map (·.name)) (by simpa using hc) fun n hn => by
          obtain ⟨c, hc', rfl⟩ := List.mem_map.1 hn
          exact (hnames c hc').2
      simpa [List.map_map, Function.comp_def] using h
  keyspace_plain := trivial
  keyspace_dot := by simp [ofScan]
  table_plain := trivial
  table_semicolon := by simp [ofScan]
  keyspace_where := avoidsChars_quoted (by decide) (by decide) hkeyspace.1
  keyspace_limit := avoidsChars_quoted (by decide) (by decide) hkeyspace.2
  table_where := avoidsChars_quoted_clause (by decide) (by decide) (by decide) htable.1
    (by unfold afterTable; split <;> simp)
  table_limit := avoidsChars_quoted_clause (by decide) (by decide) (by decide) htable.2
    (by unfold afterTable; split <;> simp)
  filter_limit := by
    intro w hw
    obtain ⟨p, hp, rfl⟩ := Option.map_eq_some_iff.1 hw
    obtain ⟨f, rfl, rfl⟩ := predicate?_eq_some hp
    have h := hfilter f rfl
    unfold Avoids at h
    simpa [AvoidsChars, afterFilter, ofScan] using h
  limit_digits := by simp [ofScan]

theorem readable_probe {t : TableName}
    (hkeyspace : Avoids t.keyspace " WHERE " ∧ Avoids t.keyspace " LIMIT ")
    (htable : Avoids t.table " WHERE " ∧ Avoids t.table " LIMIT ") : (probe t).Readable where
  lead_blank := by simp [probe]
  select_word := rfl
  gap_blank := by simp [probe]
  selection := trivial
  selection_from := by
    show AvoidsChars (' ' :: (['*'] ++ [' '])) " FROM "
    decide
  keyspace_plain := trivial
  keyspace_dot := by simp [probe]
  table_plain := trivial
  table_semicolon := by simp [probe]
  keyspace_where := avoidsChars_quoted (by decide) (by decide) hkeyspace.1
  keyspace_limit := avoidsChars_quoted (by decide) (by decide) hkeyspace.2
  table_where := avoidsChars_quoted_clause (by decide) (by decide) (by decide) htable.1 (.inr rfl)
  table_limit := avoidsChars_quoted_clause (by decide) (by decide) (by decide) htable.2 (.inr rfl)
  filter_limit := by simp [probe]
  limit_digits := by
    intro ds hds
    cases hds
    exact ⟨by simp, by simp only [List.mem_singleton, forall_eq]; decide, by decide⟩

end SelectText

open Text in
/-- **The reader reads back the statements a scan and a probe write.** For a table whose
keyspace and name hold neither ` WHERE ` nor ` LIMIT `, bound columns whose names hold neither a
comma nor ` FROM `, and a filter that, trimmed and after the blank `WHERE ` leaves before it,
holds no ` LIMIT ` (all in any ASCII case), the reader takes the scan's statement for the bound
names in order, or every column when none is bound, from that keyspace and table, with no limit;
and the probe's statement for every column of that table, with limit 1. -/
theorem read_scan_and_probe_statements (t : TableName) (filter : Option String)
    (cols : List ScanColumn)
    (hnames : ∀ c ∈ cols, ',' ∉ c.name.toList ∧ Avoids c.name " FROM ")
    (hkeyspace : Avoids t.keyspace " WHERE " ∧ Avoids t.keyspace " LIMIT ")
    (htable : Avoids t.table " WHERE " ∧ Avoids t.table " LIMIT ")
    (hfilter : ∀ f ∈ filter, Avoids (" " ++ trim f) " LIMIT ") :
    SelectStmt.read ((ScanSource.table t filter).toCql cols) =
      .ok ⟨if cols = [] then none else some (cols.map (·.name)), t.keyspace, t.table, none⟩ ∧
    SelectStmt.read (Discovery.probeQuery t) = .ok ⟨none, t.keyspace, t.table, some 1⟩ := by
  constructor
  · rw [← SelectText.render_ofScan,
      SelectText.read_render (SelectText.readable_ofScan hnames hkeyspace htable hfilter)]
    cases cols <;> simp [SelectText.stmt, SelectText.ofScan, Selection.names?, WrittenName.name]
  · rw [← SelectText.render_probe, SelectText.read_render (SelectText.readable_probe hkeyspace htable)]
    rfl

open Text in
/-- A filtered scan of two columns, one named with a quote and a dot. -/
theorem read_scan_and_probe_statements_filtered :
    (∀ c ∈ [ScanColumn.mk "a" .integer, ⟨"b\".c", .varchar⟩],
      ',' ∉ c.name.toList ∧ Avoids c.name " FROM ") ∧
    (Avoids "ks" " WHERE " ∧ Avoids "ks" " LIMIT ") ∧
    (Avoids "t" " WHERE " ∧ Avoids "t" " LIMIT ") ∧
    (∀ f ∈ some "a > 0", Avoids (" " ++ trim f) " LIMIT ") ∧
    (SelectStmt.read ((ScanSource.table ⟨"ks", "t"⟩ (some "a > 0")).toCql
        [⟨"a", .integer⟩, ⟨"b\".c", .varchar⟩]) =
      .ok ⟨if [ScanColumn.mk "a" .integer, ⟨"b\".c", .varchar⟩] = [] then none
        else some ([ScanColumn.mk "a" .integer, ⟨"b\".c", .varchar⟩].map (·.name)),
        "ks", "t", none⟩ ∧
    SelectStmt.read (Discovery.probeQuery ⟨"ks", "t"⟩) = .ok ⟨none, "ks", "t", some 1⟩) := by
  have hnames : ∀ c ∈ [ScanColumn.mk "a" .integer, ⟨"b\".c", .varchar⟩],
      ',' ∉ c.name.toList ∧ Avoids c.name " FROM " := by
    intro c hc
    simp only [List.mem_cons, List.not_mem_nil, or_false] at hc
    rcases hc with rfl | rfl <;> exact ⟨by decide, by decide⟩
  have hkeyspace : Avoids "ks" " WHERE " ∧ Avoids "ks" " LIMIT " := ⟨by decide, by decide⟩
  have htable : Avoids "t" " WHERE " ∧ Avoids "t" " LIMIT " := ⟨by decide, by decide⟩
  have hfilter : ∀ f ∈ some "a > 0", Avoids (" " ++ trim f) " LIMIT " := by
    intro f hf
    cases hf
    decide
  exact ⟨hnames, hkeyspace, htable, hfilter,
    read_scan_and_probe_statements ⟨"ks", "t"⟩ (some "a > 0") _ hnames hkeyspace htable hfilter⟩

open Text in
/-- A filter that starts with `LIMIT` holds no ` LIMIT `, yet after the blank of `WHERE ` it
reads as the `LIMIT` clause: the scan of `ks.t` filtered by `LIMIT 1` is read with limit 1. -/
theorem read_scanStatement_filter_limit :
    Avoids "LIMIT 1" " LIMIT " ∧
    SelectStmt.read ((ScanSource.table ⟨"ks", "t"⟩ (some "LIMIT 1")).toCql []) =
      .ok ⟨none, "ks", "t", some 1⟩ :=
  ⟨by decide, by decide +kernel⟩

end CqlBridge
