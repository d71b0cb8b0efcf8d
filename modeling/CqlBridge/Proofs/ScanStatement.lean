import CqlBridge.Proofs.Text
import CqlBridge.Scan.Source

/-!
# `CqlBridge.Proofs.ScanStatement` — the cluster reads back the statement of a table scan

A scan of a table runs `SELECT "a", "b" FROM "ks"."t"`, every name quoted with its quotes
doubled. The in-memory cluster reads that text with its own reader (`SelectStmt.read`), which
cuts the text at the first ` FROM `, at ` WHERE ` and ` LIMIT `, at commas and at the first `.`
outside quotes. The cuts fall where the scan put them as long as no name holds what the reader
cuts at:

| name | must not hold (in any ASCII case) |
|---|---|
| a column | `,` and ` FROM ` |
| the keyspace and the table | ` WHERE ` and ` LIMIT ` |

Quotes, dots, semicolons and blanks in names are harmless: quoting keeps them inside one
name. The reader then answers exactly the bound names, in order, the table's keyspace and
name, and no limit (`read_tableStatement`).

The lemmas follow the cuts: quoted pieces joined by a separator open and close with a quote and
hide no pattern that lacks the quote and occurs neither in the separator nor inside a piece;
splitting them at commas and unquoting gives the names back, and a quoted keyspace and table
split at the dot between them.
-/

namespace CqlBridge

namespace Text

/-- The text holds the pattern `pat`, written in upper case, in no ASCII case. -/
def Avoids (s pat : String) : Prop := find? pat.toList (s.toList.map Char.toUpper) = none

theorem map_intercalate (f : Char → Char) (sep : List Char) (ls : List (List Char)) :
    (sep.intercalate ls).map f = (sep.map f).intercalate (ls.map (·.map f)) := by
  induction ls with
  | nil => rfl
  | cons l ls ih =>
      cases ls with
      | nil => simp
      | cons l' ls => simp_all [List.intercalate_cons_cons]

theorem find?_intercalate_quoted {pat sep : List Char} (hq : '"' ∉ pat)
    (hsep : find? pat sep = none) :
    ∀ ms : List (List Char), ms ≠ [] → (∀ m ∈ ms, find? pat m = none) →
      find? pat (sep.intercalate (ms.map fun m => '"' :: (m ++ ['"']))) = none
  | [], hne, _ => absurd rfl hne
  | [m], _, hms => by
      have hm := hms m List.mem_cons_self
      rw [List.map_singleton, List.intercalate_singleton, ← List.nil_append ('"' :: _),
        find?_append_cons_eq_none hq, find?_append_cons_eq_none hq]
      exact ⟨find?_nil_eq_none hm, hm, find?_nil_eq_none hm⟩
  | m :: m' :: ms, _, hms => by
      have hm := hms m List.mem_cons_self
      have hrest := find?_intercalate_quoted hq hsep (m' :: ms) (List.cons_ne_nil _ _)
        fun x hx => hms x (List.mem_cons_of_mem _ hx)
      -- the rest opens with a quote, which cuts it off from the separator
      obtain ⟨R, hR⟩ : ∃ R, sep.intercalate ((m' :: ms).map fun m => '"' :: (m ++ ['"'])) =
          '"' :: R := ⟨_, by rw [List.map_cons, List.intercalate_cons_cons_left]⟩
      rw [hR, ← List.nil_append ('"' :: R), find?_append_cons_eq_none hq] at hrest
      rw [List.map_cons, List.intercalate_cons_of_ne_nil (by simp), hR,
        show '"' :: (m ++ ['"']) ++ sep ++ '"' :: R = [] ++ '"' :: (m ++ '"' :: (sep ++ '"' :: R))
          by simp,
        find?_append_cons_eq_none hq, find?_append_cons_eq_none hq, find?_append_cons_eq_none hq]
      exact ⟨find?_nil_eq_none hm, hm, hsep, hrest.2⟩

theorem intercalate_quoted_shape (sep : List Char) :
    ∀ ms : List (List Char), ms ≠ [] →
      ∃ M, sep.intercalate (ms.map fun m => '"' :: (m ++ ['"'])) = '"' :: (M ++ ['"'])
  | [], hne => absurd rfl hne
  | [m], _ => ⟨m, by simp⟩
  | m :: m' :: ms, _ => by
      obtain ⟨M, hM⟩ := intercalate_quoted_shape sep (m' :: ms) (List.cons_ne_nil _ _)
      refine ⟨m ++ '"' :: (sep ++ '"' :: M), ?_⟩
      rw [List.map_cons, List.intercalate_cons_of_ne_nil (by simp), hM]
      simp

theorem find?_qualified_quoted {pat k t : List Char} (hq : '"' ∉ pat) (hdot : '.' ∉ pat)
    (hk : find? pat k = none) (ht : find? pat t = none) :
    find? pat ('"' :: (doubled k ++ '"' :: '.' :: '"' :: (doubled t ++ ['"']))) = none := by
  have hnil : find? pat [] = none := find?_nil_eq_none hk
  rw [← List.nil_append ('"' :: _), find?_append_cons_eq_none hq, find?_append_cons_eq_none hq,
    ← List.nil_append ('.' :: _), find?_append_cons_eq_none hdot,
    ← List.nil_append ('"' :: _), find?_append_cons_eq_none hq, find?_append_cons_eq_none hq,
    find?_doubled hq, find?_doubled hq]
  exact ⟨hnil, hk, hnil, hnil, ht, hnil⟩

end Text

namespace SelectStmt

open Text

theorem unquote_splitOn_quoted :
    ∀ (ns : List (List Char)) (B : List Char), (∀ b ∈ B, isBlank b = true) → ns ≠ [] →
      (∀ n ∈ ns, ',' ∉ n) →
      (splitOn ',' (B ++ ", ".toList.intercalate
        (ns.map fun n => '"' :: (doubled n ++ ['"'])))).map unquoteName = ns.map String.ofList
  | [], _, _, hne, _ => absurd rfl hne
  | [n], B, hB, _, hns => by
      have hcomma : ',' ∉ B ++ '"' :: (doubled n ++ ['"']) := by
        have hn := hns n List.mem_cons_self
        have hBc : ',' ∉ B := fun h => by simpa [isBlank, blankRanges] using hB ',' h
        simp [hBc, mem_doubled (show ',' ≠ '"' by decide), hn]
      rw [List.map_singleton, List.intercalate_singleton, splitOn_of_not_mem hcomma]
      simp [unquoteName_quoted hB]
  | n :: n' :: ns, B, hB, _, hns => by
      have hn := hns n List.mem_cons_self
      have hpiece : ',' ∉ B ++ '"' :: (doubled n ++ ['"']) := by
        have hBc : ',' ∉ B := fun h => by simpa [isBlank, blankRanges] using hB ',' h
        simp [hBc, mem_doubled (show ',' ≠ '"' by decide), hn]
      have hrest := unquote_splitOn_quoted (n' :: ns) [' '] (by simp [isBlank, blankRanges])
        (List.cons_ne_nil _ _) fun x hx => hns x (List.mem_cons_of_mem _ hx)
      rw [List.map_cons, List.intercalate_cons_of_ne_nil (by simp),
        show B ++ ('"' :: (doubled n ++ ['"']) ++ ", ".toList ++
            ", ".toList.intercalate ((n' :: ns).map fun n => '"' :: (doubled n ++ ['"']))) =
          (B ++ '"' :: (doubled n ++ ['"'])) ++ ',' :: ([' '] ++
            ", ".toList.intercalate ((n' :: ns).map fun n => '"' :: (doubled n ++ ['"'])))
          by simp,
        splitOn_append_cons _ hpiece, List.map_cons, hrest, unquoteName_quoted hB]
      rfl

theorem splitQualified_quoted (k t : List Char) :
    splitQualified ('"' :: (doubled k ++ '"' :: '.' :: '"' :: (doubled t ++ ['"']))) =
      some (String.ofList k, String.ofList t) := by
  have hsplit : splitAt false [] ('"' :: (doubled k ++ '"' :: '.' :: '"' :: (doubled t ++ ['"']))) =
      some ('"' :: (doubled k ++ ['"']), '"' :: (doubled t ++ ['"'])) := by
    -- the opening quote starts the quoted part, which the doubled keyspace does not close
    have hopen : splitAt false [] ('"' :: (doubled k ++ '"' :: '.' :: '"' :: (doubled t ++ ['"']))) =
        splitAt true ['"'] (doubled k ++ '"' :: '.' :: '"' :: (doubled t ++ ['"'])) := by
      simp [splitAt]
    rw [hopen, splitAt_doubled]
    simp [splitAt]
  have hk := unquoteName_quoted (B := []) (by simp) k
  have ht := unquoteName_quoted (B := []) (by simp) t
  simp only [List.nil_append] at hk ht
  simp [splitQualified, hsplit, hk, ht]

end SelectStmt

theorem toCql_table_toList (t : TableName) (cols : List ScanColumn) (h : cols ≠ []) :
    ((ScanSource.table t none).toCql cols).toList =
      "SELECT ".toList ++
        ", ".toList.intercalate (cols.map fun c => '"' :: (Text.doubled c.name.toList ++ ['"'])) ++
        " FROM ".toList ++
        '"' :: (Text.doubled t.keyspace.toList ++ '"' :: '.' :: '"' ::
          (Text.doubled t.table.toList ++ ['"'])) := by
  have hne : cols.isEmpty = false := by simpa using h
  simp [ScanSource.toCql, ScanSource.predicate?, hne, TableName.cqlName, String.toList_intercalate, List.map_map, Function.comp_def]

open Text in
/-- **The reader reads back a table scan's statement.** For a table whose keyspace and name
hold neither ` WHERE ` nor ` LIMIT `, and bound columns, at least one, whose names hold neither
a comma nor ` FROM ` (all in any ASCII case), the cluster's reader takes the scan's statement
for a selection of exactly the bound names, in order, from that keyspace and table, with no
limit. -/
theorem read_tableStatement (t : TableName) (cols : List ScanColumn) (hcols : cols ≠ [])
    (hnames : ∀ c ∈ cols, ',' ∉ c.name.toList ∧ Avoids c.name " FROM ")
    (hkeyspace : Avoids t.keyspace " WHERE " ∧ Avoids t.keyspace " LIMIT ")
    (htable : Avoids t.table " WHERE " ∧ Avoids t.table " LIMIT ") :
    SelectStmt.read ((ScanSource.table t none).toCql cols) =
      .ok ⟨some (cols.map (·.name)), t.keyspace, t.table, none⟩ := by
  -- the projection `P` and the target `Q` of the statement
  obtain ⟨P, hP⟩ : ∃ P, P =
      ", ".toList.intercalate (cols.map fun c => '"' :: (doubled c.name.toList ++ ['"'])) :=
    ⟨_, rfl⟩
  obtain ⟨Q, hQ⟩ : ∃ Q, Q = '"' :: (doubled t.keyspace.toList ++ '"' :: '.' :: '"' ::
      (doubled t.table.toList ++ ['"'])) := ⟨_, rfl⟩
  have hcs := toCql_table_toList t cols hcols
  rw [← hP, ← hQ] at hcs
  obtain ⟨M, hM⟩ : ∃ M, P = '"' :: (M ++ ['"']) := by
    obtain ⟨M, hM⟩ := intercalate_quoted_shape ", ".toList (cols.map fun c => doubled c.name.toList)
      (by simpa using hcols)
    exact ⟨M, by rw [hP, ← hM, List.map_map]; rfl⟩
  -- the statement upper-cased, piece by piece
  have hupQ : Q.map Char.toUpper = '"' :: (doubled (t.keyspace.toList.map Char.toUpper) ++
      '"' :: '.' :: '"' :: (doubled (t.table.toList.map Char.toUpper) ++ ['"'])) := by
    simp [hQ, map_toUpper_doubled]
  have hupper : ("SELECT ".toList ++ P ++ " FROM ".toList ++ Q).map Char.toUpper =
      "SELECT ".toList ++ P.map Char.toUpper ++ " FROM ".toList ++ Q.map Char.toUpper := by
    simp only [List.map_append]
    rfl
  have hPup : find? " FROM ".toList (P.map Char.toUpper) = none := by
    rw [hP, map_intercalate, List.map_map,
      show (", ".toList.map Char.toUpper) = ", ".toList by decide,
      show cols.map (List.map Char.toUpper ∘ fun c => '"' :: (doubled c.name.toList ++ ['"'])) =
          (cols.map fun c => doubled (c.name.toList.map Char.toUpper)).map
            fun m => '"' :: (m ++ ['"']) by
        simp [map_toUpper_doubled]]
    apply find?_intercalate_quoted (by decide) (by decide) _ (by simpa using hcols)
    intro m hm
    obtain ⟨c, hc, rfl⟩ := List.mem_map.1 hm
    rw [find?_doubled (by decide)]
    exact (hnames c hc).2
  -- the first ` FROM ` is the one after the projection
  have hfrom : find? " FROM ".toList
      ("SELECT ".toList ++ P.map Char.toUpper ++ " FROM ".toList ++ Q.map Char.toUpper) =
        some (7 + P.length) := by
    have hA : find? " FROM ".toList ("SELECT ".toList ++ P.map Char.toUpper) = none := by
      rw [hM] at hPup ⊢
      rw [List.map_cons, ← List.nil_append ('"'.toUpper :: _),
        find?_append_cons_eq_none (by decide)] at hPup
      rw [List.map_cons, find?_append_cons_eq_none (by decide)]
      exact ⟨by decide, hPup.2⟩
    have hlast : ∀ c ∈ ("SELECT ".toList ++ P.map Char.toUpper).getLast?, c ∉ " FROM ".toList := by
      have hend : ("SELECT ".toList ++ P.map Char.toUpper).getLast? = some '"' := by
        rw [hM]
        simp only [List.map_cons, List.map_append, List.map_nil, List.getLast?_append]
        rw [← List.cons_append, List.getLast?_concat]
        rfl
      intro c hc
      rw [hend, Option.mem_def, Option.some.injEq] at hc
      subst hc
      decide
    have h := find?_append_of_prefix hA hlast (List.prefix_append " FROM ".toList (Q.map Char.toUpper))
    rw [List.length_append, List.length_map, show "SELECT ".toList.length = 7 by decide] at h
    rw [← h]
    simp only [List.append_assoc]
  have hlead : ("SELECT ".toList ++ P.map Char.toUpper ++ " FROM ".toList ++ Q.map Char.toUpper).length -
      (trimStartChars ("SELECT ".toList ++ P.map Char.toUpper ++ " FROM ".toList ++
        Q.map Char.toUpper)).length = 0 := by
    simp [trimStartChars, isBlank, blankRanges]
  have hsel : "SELECT ".toList.isPrefixOf (List.drop 0
      ("SELECT ".toList ++ P.map Char.toUpper ++ " FROM ".toList ++ Q.map Char.toUpper)) = true := by
    simp [List.append_assoc]
  have hcross : ¬ 7 + P.length < 0 + 7 := by omega
  -- what follows ` FROM `, as written and upper-cased
  have hdrop : List.drop (7 + P.length + 6) ("SELECT ".toList ++ P ++ " FROM ".toList ++ Q) = Q :=
    List.drop_left' (by simp; omega)
  have hdropU : List.drop (7 + P.length + 6)
      ("SELECT ".toList ++ P.map Char.toUpper ++ " FROM ".toList ++ Q.map Char.toUpper) =
        Q.map Char.toUpper :=
    List.drop_left' (by simp; omega)
  have hwhere : find? " WHERE ".toList (Q.map Char.toUpper) = none := by
    rw [hupQ]
    exact find?_qualified_quoted (by decide) (by decide) hkeyspace.1 htable.1
  have hlimit : find? " LIMIT ".toList (Q.map Char.toUpper) = none := by
    rw [hupQ]
    exact find?_qualified_quoted (by decide) (by decide) hkeyspace.2 htable.2
  unfold SelectStmt.read
  simp only [hcs, hupper, hlead, hfrom, hsel, hcross, ite_true, ite_false, hdrop, hdropU, hwhere,
    hlimit]
  -- the projection is the quoted names, and they split back into the names
  have hproj : trimChars (List.take (7 + P.length - (0 + 7))
      (List.drop (0 + 7) ("SELECT ".toList ++ P ++ " FROM ".toList ++ Q))) = P := by
    rw [show 7 + P.length - (0 + 7) = P.length by omega,
      show 0 + 7 = "SELECT ".toList.length by decide]
    simp only [List.append_assoc, List.drop_left, List.take_left]
    have h := trimChars_blank_append (B := []) (M := M) (c := '"') (d := '"') (by simp)
      (by decide) (by decide)
    rw [hM]
    simpa using h
  have hstar : (P == ['*']) = false := by
    rw [hM]
    simp
  have hsplitP : (splitOn ',' P).map SelectStmt.unquoteName = cols.map (·.name) := by
    have h := SelectStmt.unquote_splitOn_quoted (cols.map (·.name.toList)) [] (by simp)
      (by simpa using hcols) (by
        intro n hn
        obtain ⟨c, hc, rfl⟩ := List.mem_map.1 hn
        exact (hnames c hc).1)
    rw [hP]
    simpa [Function.comp_def] using h
  -- the target is the quoted keyspace and table
  have htarget : SelectStmt.dropSemicolons
      (trimChars (List.take ((SelectStmt.firstOf none none).getD Q.length) Q)) = Q := by
    have hshape : Q = '"' :: ((doubled t.keyspace.toList ++ '"' :: '.' :: '"' ::
        doubled t.table.toList) ++ ['"']) := by
      simp [hQ]
    have htrim := trimChars_blank_append (B := []) (M := doubled t.keyspace.toList ++
      '"' :: '.' :: '"' :: doubled t.table.toList) (c := '"') (d := '"') (by simp) (by decide)
      (by decide)
    simp only [SelectStmt.firstOf, Option.getD_none, List.take_length]
    rw [hshape]
    simp only [List.nil_append] at htrim
    rw [htrim, ← List.cons_append, SelectStmt.dropSemicolons_of_last (by decide)]
  have hsplitQ : SelectStmt.splitQualified Q = some (t.keyspace, t.table) := by
    rw [hQ, SelectStmt.splitQualified_quoted]
    simp
  simp only [htarget, hsplitQ, hproj, hstar, hsplitP]
  rfl

end CqlBridge
