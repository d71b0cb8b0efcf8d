import CqlBridge.Proofs.SelectAnswer
import CqlBridge.Proofs.DescribeAnswer

/-!
# `CqlBridge.Proofs.ClusterCrash` — an in-memory cluster fails with query faults, or crashes on one shape

Running a statement, opening a cursor over it and describing it all end in the answer of the
cluster (`Cluster.answer`). That answer is a result, a query failure naming the statement, or a
crash; it crashes exactly when the statement reaches the statement reader (`Cluster.ToReader`)
and, after its leading blanks, starts with `SELECT FROM ` in any ASCII case (`CrossesCut`):

    SELECT FROM ks.t

The reader cuts the projection from the end of `SELECT ` to the first ` FROM `. Here that
` FROM ` begins at the blank `SELECT ` ends with, one character before the projection starts,
and the two cut points cross. No later ` FROM ` can be the first: the text before the blank
holds no `F`.

| outcome | when |
|---|---|
| a query failure | a failure pattern, a refused schema read, a missing bound value, a statement the reader refuses, an unknown table, an unknown column |
| a crash | `ToReader` and `CrossesCut` (`Cluster.crash_iff_crossesCut`) |
| a result | otherwise |
-/

namespace CqlBridge

open Text

/-! ## Where the reader's cut points cross -/

/-- After its leading blanks, the statement starts with `SELECT FROM ` in any ASCII case. -/
def CrossesCut (cql : String) : Prop :=
  "SELECT FROM ".toList <+: trimStartChars (cql.toList.map Char.toUpper)

theorem find?_from_skip {A : List Char} (hA : 'F' ∉ A) (R : List Char) :
    find? " FROM ".toList (A ++ ' ' :: R) = (find? " FROM ".toList (' ' :: R)).map (· + A.length) := by
  induction A with
  | nil => simp
  | cons a A ih =>
      have hA' : 'F' ∉ A := fun h => hA (List.mem_cons_of_mem a h)
      -- ` FROM ` would need an `F` right after `a`
      have hnot : ¬ " FROM ".toList <+: a :: (A ++ ' ' :: R) := by
        intro h
        cases A with
        | nil => simp [List.cons_prefix_cons] at h
        | cons b B =>
            have hb : b = 'F' := by simp [List.cons_prefix_cons] at h; exact h.2.1.symm
            exact hA (hb ▸ List.mem_cons_of_mem a List.mem_cons_self)
      rw [List.cons_append, find?, if_neg (mt List.isPrefixOf_iff_prefix.1 hnot), ih hA',
        Option.map_map]
      -- shifting by `A.length`, then by one, is shifting by `(a :: A).length`
      rfl

theorem find?_from_lt_iff {W T : List Char} (hW : ∀ b ∈ W, isBlank b = true)
    (hT : "SELECT ".toList <+: T) :
    (∃ k, find? " FROM ".toList (W ++ T) = some k ∧ k < W.length + 7) ↔ "SELECT FROM ".toList <+: T := by
  obtain ⟨R, rfl⟩ := hT
  have hF : 'F' ∉ W ++ "SELECT".toList := by
    intro h
    rcases List.mem_append.1 h with h | h
    · exact absurd (hW 'F' h) (by decide)
    · exact absurd h (by decide)
  have htext : W ++ ("SELECT ".toList ++ R) = (W ++ "SELECT".toList) ++ ' ' :: R := by simp
  have hlen : (W ++ "SELECT".toList).length = W.length + 6 := by simp
  rw [htext, find?_from_skip hF, hlen]
  constructor
  · rintro ⟨k, hk, hlt⟩
    obtain ⟨j, hj, rfl⟩ := Option.map_eq_some_iff.1 hk
    -- only a match at the blank itself is found before the projection
    have hj0 : j = 0 := by omega
    subst hj0
    have hpre : " FROM ".toList <+: ' ' :: R := by
      simp only [find?, List.isPrefixOf_iff_prefix] at hj
      split at hj
      · assumption
      · obtain ⟨i, -, hi⟩ := Option.map_eq_some_iff.1 hj
        omega
    have hR : "FROM ".toList <+: R := (List.cons_prefix_cons.1 hpre).2
    exact (List.prefix_append_right_inj "SELECT ".toList).2 hR
  · intro h
    have hR : "FROM ".toList <+: R := (List.prefix_append_right_inj "SELECT ".toList).1 h
    have hR' : " FROM ".toList <+: ' ' :: R := List.cons_prefix_cons.2 ⟨rfl, hR⟩
    refine ⟨W.length + 6, ?_, by omega⟩
    rw [find?, if_pos (List.isPrefixOf_iff_prefix.2 hR')]
    simp

theorem SelectStmt.read_eq_crossed (cql : String) :
    SelectStmt.read cql = .error .crossed ↔
      "SELECT ".toList.isPrefixOf ((cql.toList.map Char.toUpper).drop
        ((cql.toList.map Char.toUpper).length - (trimStartChars (cql.toList.map Char.toUpper)).length)) = true ∧
      ∃ k, find? " FROM ".toList (cql.toList.map Char.toUpper) = some k ∧
        k < (cql.toList.map Char.toUpper).length -
          (trimStartChars (cql.toList.map Char.toUpper)).length + 7 := by
  unfold SelectStmt.read
  simp only
  by_cases hp : "SELECT ".toList.isPrefixOf ((cql.toList.map Char.toUpper).drop
      ((cql.toList.map Char.toUpper).length - (trimStartChars (cql.toList.map Char.toUpper)).length)) = true
  · rw [if_pos hp]
    cases hf : find? " FROM ".toList (cql.toList.map Char.toUpper) with
    | none =>
        constructor
        · intro h
          cases h
        · rintro ⟨_, k, hk, _⟩
          cases hk
    | some k =>
        simp only [hp, true_and, Option.some.injEq, exists_eq_left']
        by_cases hk : k < (cql.toList.map Char.toUpper).length -
            (trimStartChars (cql.toList.map Char.toUpper)).length + 7
        · rw [if_pos hk]
          exact ⟨fun _ => hk, fun _ => rfl⟩
        · rw [if_neg hk]
          refine ⟨fun h => ?_, fun h => absurd h hk⟩
          -- past the cut only `unsupported` is thrown: the limit, then the target
          split at h
          · split at h
            · split at h <;> cases h
            · cases h
          · split at h <;> cases h
  · rw [if_neg hp]
    constructor
    · intro h
      cases h
    · exact fun h => absurd h.1 hp

theorem crossed_checks_iff (U : List Char) :
    ("SELECT ".toList.isPrefixOf (U.drop (U.length - (trimStartChars U).length)) = true ∧
      ∃ k, find? " FROM ".toList U = some k ∧ k < U.length - (trimStartChars U).length + 7) ↔
      "SELECT FROM ".toList <+: trimStartChars U := by
  -- the text is its leading blanks, then the rest
  obtain ⟨W, hW, hU⟩ : ∃ W, (∀ b ∈ W, isBlank b = true) ∧ U = W ++ trimStartChars U :=
    ⟨U.takeWhile isBlank, fun b hb => List.mem_takeWhile_imp hb,
      List.takeWhile_append_dropWhile.symm⟩
  generalize trimStartChars U = T at hU ⊢
  subst hU
  have hlead : (W ++ T).length - T.length = W.length := by simp
  rw [hlead, List.drop_left, List.isPrefixOf_iff_prefix]
  constructor
  · rintro ⟨hsel, hk⟩
    exact (find?_from_lt_iff hW hsel).1 hk
  · intro h
    have hsel : "SELECT ".toList <+: T :=
      (show "SELECT ".toList <+: "SELECT FROM ".toList by decide).trans h
    exact ⟨hsel, (find?_from_lt_iff hW hsel).2 h⟩

/-- **The reader crashes on `SELECT FROM ` only.** -/
theorem SelectStmt.read_eq_crossed_iff (cql : String) :
    SelectStmt.read cql = .error .crossed ↔ CrossesCut cql := by
  rw [SelectStmt.read_eq_crossed, crossed_checks_iff]
  rfl

namespace Cluster

/-! ## The faults of an evaluation

A bind fails with a query failure when each of its two steps can only fail so; from that,
evaluating a statement fails with a query failure, or crashes where the reader does. -/

/-- A query failure of the statement itself. -/
def QueryFault (cql : String) (e : Stop) : Prop := ∃ m, e = .fault (.queryFailed cql m)

theorem bind_eq_error {α β : Type} {cql : String} {x : Except Stop α} {f : α → Except Stop β}
    {e : Stop} (hx : ∀ e, x = .error e → QueryFault cql e)
    (hf : ∀ a e, f a = .error e → QueryFault cql e) (h : (x >>= f) = .error e) :
    QueryFault cql e := by
  cases hx' : x with
  | error e' =>
      rw [hx'] at h
      exact Except.error.inj h ▸ hx e' hx'
  | ok a =>
      rw [hx'] at h
      exact hf a e h

theorem param_eq_error {cql : String} {params : List String} {i : Nat} {e : Stop}
    (h : param cql params i = .error e) : QueryFault cql e := by
  unfold param at h
  split at h
  · cases h
  · exact ⟨_, (Except.error.inj h).symm⟩

theorem resolve_eq_error {cql : String} {t : StoredTable} :
    ∀ {names : List String} {e : Stop}, resolve cql t names = .error e → QueryFault cql e
  | [], _, h => nomatch h
  | name :: names, e, h => by
      unfold resolve at h
      split at h
      · exact ⟨_, (Except.error.inj h).symm⟩
      · -- the rest of the names is resolved, then the column put in front
        exact bind_eq_error (fun _ hr => resolve_eq_error hr) (fun _ _ h => by cases h) h

theorem select_eq_error {c : Cluster} {cql : String} {e : Stop} (h : c.select cql = .error e) :
    QueryFault cql e ∨ (e = .crash ∧ SelectStmt.read cql = .error .crossed) := by
  unfold select at h
  cases hr : SelectStmt.read cql with
  | error r =>
      cases r with
      | unsupported =>
          simp only [hr] at h
          exact .inl ⟨_, (Except.error.inj h).symm⟩
      | crossed =>
          simp only [hr] at h
          exact .inr ⟨(Except.error.inj h).symm, rfl⟩
  | ok s =>
      simp only [hr, pure_bind] at h
      cases ht : c.findTable? s.keyspace s.table with
      | none =>
          simp only [ht] at h
          exact .inl ⟨_, (Except.error.inj h).symm⟩
      | some t =>
          -- past the table only resolving the projection can fail
          cases hp : s.projection with
          | none =>
              simp only [ht, hp] at h
              cases h
          | some names =>
              simp only [ht, hp] at h
              exact .inl (bind_eq_error (fun _ => resolve_eq_error) (fun _ _ h => by cases h) h)

theorem select_crash_iff (c : Cluster) (cql : String) :
    c.select cql = .error .crash ↔ SelectStmt.read cql = .error .crossed := by
  constructor
  · intro h
    rcases select_eq_error h with ⟨m, hm⟩ | ⟨-, hr⟩
    · cases hm
    · exact hr
  · intro h
    simp [select, h]
    rfl

/-! ## The answer of a cluster

A statement that stops at a rule before the reader is answered or fails with a query failure,
and never crashes; one that goes to the reader is answered by evaluating it. -/

/-- The statement passes the failure patterns, the schema-read switch, the fixed answers and
the schema statements, and goes to the statement reader. -/
def ToReader (c : Cluster) (cql : String) : Prop :=
  (∀ p ∈ c.failing, containsText cql p = false) ∧
    ¬ (c.restricted = true ∧ containsText cql "system_schema" = true) ∧
    (∀ e ∈ c.canned, e.1 ≠ cql) ∧
    cql ∉ [SchemaQuery.keyspaces, SchemaQuery.tables, SchemaQuery.columns]

theorem answer_of_toReader {c : Cluster} {cql : String} (h : c.ToReader cql) (params : List String) :
    c.answer cql params = c.select cql := by
  obtain ⟨hfail, hopen, hcanned, hschema⟩ := h
  have hf : c.failing.find? (containsText cql ·) = none := List.find?_eq_none.2 (by simpa using hfail)
  have hc : c.canned.find? (·.1 == cql) = none := List.find?_eq_none.2 (by simpa using hcanned)
  have hr : (c.restricted && containsText cql "system_schema") = false := by
    cases hres : c.restricted <;> simp_all
  simp only [List.mem_cons, List.not_mem_nil, or_false, not_or] at hschema
  obtain ⟨hkeyspaces, htables, hcolumns⟩ := hschema
  simp [answer, hf, hc, hr, hkeyspaces, htables, hcolumns]

theorem answer_eq_error_of_not_toReader {c : Cluster} {cql : String} (h : ¬ c.ToReader cql)
    {params : List String} {e : Stop} (he : c.answer cql params = .error e) : QueryFault cql e := by
  cases hf : c.failing.find? (containsText cql ·) with
  | some p =>
      simp only [answer, hf] at he
      exact ⟨_, (Except.error.inj he).symm⟩
  | none =>
  cases hr : (c.restricted && containsText cql "system_schema") with
  | true =>
      simp only [answer, hf, hr] at he
      exact ⟨_, (Except.error.inj he).symm⟩
  | false =>
  cases hc : c.canned.find? (·.1 == cql) with
  | some q =>
      simp only [answer, hf, hr, hc] at he
      cases he
  | none =>
  by_cases hk : cql = SchemaQuery.keyspaces
  · have hk' : (cql == SchemaQuery.keyspaces) = true := by simp [hk]
    simp only [answer, hf, hr, hc, hk', if_true] at he
    cases he
  have hk' : (cql == SchemaQuery.keyspaces) = false := by simpa using hk
  by_cases ht : cql = SchemaQuery.tables
  · -- the tables statement fails only for want of its bound value
    have ht' : (cql == SchemaQuery.tables) = true := by simp [ht]
    simp only [answer, hf, hr, hc, hk', ht', if_true] at he
    exact bind_eq_error (fun _ => param_eq_error) (fun _ _ h => by cases h) he
  have ht' : (cql == SchemaQuery.tables) = false := by simpa using ht
  by_cases hcol : cql = SchemaQuery.columns
  · -- the columns statement fails only for want of one of its two bound values
    have hcol' : (cql == SchemaQuery.columns) = true := by simp [hcol]
    simp only [answer, hf, hr, hc, hk', ht', hcol', if_true] at he
    have htable : ∀ k e, (do let t ← param cql params 1; pure (c.columnsResult k t)) =
        (Except.error e : Except Stop ResultSet) → QueryFault cql e :=
      fun _ _ h => bind_eq_error (fun _ => param_eq_error) (fun _ _ h => by cases h) h
    exact bind_eq_error (fun _ => param_eq_error) htable he
  -- otherwise every rule before the reader was passed
  refine absurd ⟨fun p hp => ?_, fun ho => ?_, fun q hq hq' => ?_, by simp [hk, ht, hcol]⟩ h
  · simpa using List.find?_eq_none.1 hf p hp
  · simp [ho.1, ho.2] at hr
  · simpa [hq'] using List.find?_eq_none.1 hc q hq

theorem answer_eq_error {c : Cluster} {cql : String} {params : List String} {e : Stop}
    (he : c.answer cql params = .error e) :
    QueryFault cql e ∨ (e = .crash ∧ c.ToReader cql ∧ CrossesCut cql) := by
  by_cases h : c.ToReader cql
  · rw [answer_of_toReader h] at he
    rcases select_eq_error he with hq | ⟨hcrash, hr⟩
    · exact .inl hq
    · exact .inr ⟨hcrash, h, (SelectStmt.read_eq_crossed_iff cql).1 hr⟩
  · exact .inl (answer_eq_error_of_not_toReader h he)

theorem answer_eq_crash {c : Cluster} {cql : String} (h : c.ToReader cql) (hcut : CrossesCut cql)
    (params : List String) : c.answer cql params = .error .crash := by
  rw [answer_of_toReader h, select_crash_iff, SelectStmt.read_eq_crossed_iff]
  exact hcut

/-! ## Running, opening a cursor and describing

Opening a cursor fails exactly as running the statement does, and so does describing it,
whether the cluster prepares the statement or opens a cursor over it: answering reads neither
the log of executed statements nor that of prepared ones. -/

theorem openCursor_eq_error_iff (c : Cluster) (cql : String) (e : Stop) :
    (c.openCursor cql).2 = .error e ↔ c.answer cql [] = .error e := by
  simp only [openCursor, execute_eq]
  cases c.answer cql [] <;> simp

@[simp] theorem answer_prepared (c : Cluster) (log : List String) (cql : String) (params : List String) :
    ({ c with prepared := log } : Cluster).answer cql params = c.answer cql params := rfl

theorem describe_eq_error_iff (c : Cluster) (cql : String) (e : Stop) :
    (c.describe cql).2 = .error e ↔ c.answer cql [] = .error e := by
  unfold describe
  split
  · simp only [answer_prepared]
    cases c.answer cql [] <;> simp [Except.map]
  · -- without preparing, a cursor is opened and released
    rw [← openCursor_eq_error_iff]
    cases c.openCursor cql with
    | mk c' r => cases r <;> simp

/-- The answer crashes exactly on a statement of the crossing shape that reaches the reader. -/
theorem answer_crash_iff (c : Cluster) (cql : String) (params : List String) :
    c.answer cql params = .error .crash ↔ c.ToReader cql ∧ CrossesCut cql := by
  constructor
  · intro h
    rcases answer_eq_error h with ⟨m, hm⟩ | ⟨-, hto, hcut⟩
    · cases hm
    · exact ⟨hto, hcut⟩
  · rintro ⟨hto, hcut⟩
    exact answer_eq_crash hto hcut params

/-- **A cluster crashes on one shape of statement only.** Running a statement, opening a cursor
over it and describing it each fail with a query failure naming the statement, or crash; each
crashes exactly when the statement passes the rules before the reader and starts, after its
blanks, with `SELECT FROM ` in any ASCII case. -/
theorem crash_iff_crossesCut (c : Cluster) (cql : String) (params : List String) :
    (∀ e, ((c.execute cql params).2 = .error e ∨ (c.openCursor cql).2 = .error e ∨
        (c.describe cql).2 = .error e) → QueryFault cql e ∨ e = .crash) ∧
    ((c.execute cql params).2 = .error .crash ↔ c.ToReader cql ∧ CrossesCut cql) ∧
    ((c.openCursor cql).2 = .error .crash ↔ c.ToReader cql ∧ CrossesCut cql) ∧
    ((c.describe cql).2 = .error .crash ↔ c.ToReader cql ∧ CrossesCut cql) := by
  have hexec : (c.execute cql params).2 = c.answer cql params := answer_log c _ cql params
  refine ⟨fun e he => ?_, ?_, ?_, ?_⟩
  · -- all three fail as the answer does
    have hans : ∃ ps, c.answer cql ps = .error e := by
      rcases he with he | he | he
      · exact ⟨params, hexec ▸ he⟩
      · exact ⟨[], (openCursor_eq_error_iff c cql e).1 he⟩
      · exact ⟨[], (describe_eq_error_iff c cql e).1 he⟩
    obtain ⟨ps, hps⟩ := hans
    rcases answer_eq_error hps with hq | ⟨hcrash, -⟩
    · exact .inl hq
    · exact .inr hcrash
  · rw [hexec, answer_crash_iff]
  · rw [openCursor_eq_error_iff, answer_crash_iff]
  · rw [describe_eq_error_iff, answer_crash_iff]

/-- With no table at all, `SELECT FROM ks.t` crashes the cluster when run, when a cursor is opened
over it and when it is described, where a refusal was due. -/
theorem execute_select_from_crashes :
    (({} : Cluster).execute "SELECT FROM ks.t" []).2 = .error .crash ∧
    (({} : Cluster).openCursor "SELECT FROM ks.t").2 = .error .crash ∧
    (({} : Cluster).describe "SELECT FROM ks.t").2 = .error .crash :=
  ⟨rfl, rfl, rfl⟩

end Cluster

end CqlBridge
