import CqlBridge.Proofs.ScanStatement
import CqlBridge.Proofs.TypeName
import CqlBridge.Discovery

/-!
# `CqlBridge.Proofs.SelectRead` — the statements the cluster's reader takes

The in-memory cluster reads a `SELECT` statement by searching an upper-cased copy for ` FROM `,
` WHERE ` and ` LIMIT ` and cutting the text itself at the first place of each. A statement of
the grammar `SelectText` is read as what it says (`SelectText.read_render`) when no part of it
holds a keyword where the search would find that keyword first (`SelectText.Readable`):

| part | written as | must not hold (in any ASCII case) |
|---|---|---|
| start | blanks, then `SELECT ` in any case | |
| selection | `*`, or names joined by a comma and blanks | ` FROM `, with the blanks around it; a comma inside a name |
| keyspace, table | bare: no quote, no blank at either end, the keyspace no dot, the table no final `;`; or quoted, each quote doubled | ` WHERE ` and ` LIMIT `; the table also not with the blank before a clause |
| filter | any text after ` WHERE ` | ` LIMIT `, with the blanks around it |
| limit | digits below `2 ^ 64` after ` LIMIT ` | |
| end | semicolons | |

Every stage of the reader has its lemma: where ` FROM ` is found (`find?_from`, from
`Text.find?_append_keyword`: a keyword whose only overlap with itself is its blank is found right
after a text that does not hold it), where the clauses start (`find?_where`, `find?_limit`), and
what each cut gives (`take_selection`, `selection_names`, `target_cut`, `splitQualified_target`,
`limit_cut`).
-/

namespace CqlBridge

namespace Text

/-! ## Finding a keyword where it stands -/

/-- The first place of a keyword that stands right after a text, for a keyword whose only
overlap with itself is its first and last character (a blank, for ` FROM `, ` WHERE ` and
` LIMIT `): it is found there exactly when it is nowhere in the text followed by that
character. An earlier match would either lie in that text or make the keyword overlap
itself elsewhere. -/
theorem find?_append_keyword {p A R : List Char} (hp : p ≠ [])
    (hborder : ∀ k, k < p.length → 0 < k → p.drop k <+: p → k + 1 = p.length)
    (hA : find? p (A ++ p.take 1) = none) : find? p (A ++ (p ++ R)) = some A.length := by
  induction A with
  | nil =>
      obtain ⟨c, cs, rfl⟩ := List.exists_cons_of_ne_nil hp
      simp [find?, List.isPrefixOf_iff_prefix]
  | cons a A ih =>
      rw [find?_eq_none_iff] at hA
      have hA' : find? p (A ++ p.take 1) = none :=
        (find?_eq_none_iff _ _).2 fun h => hA (h.trans (List.infix_cons (List.infix_refl _)))
      have hnot : ¬ p <+: a :: (A ++ (p ++ R)) := by
        intro hpre
        by_cases hlen : p.length ≤ (a :: A).length
        · -- a match inside the text
          have hin : p <+: a :: A :=
            List.prefix_of_prefix_length_le hpre (List.prefix_append (a :: A) (p ++ R)) hlen
          exact hA (hin.isInfix.trans (List.infix_append_left ..))
        · -- a match that reaches into the keyword overlaps the keyword with itself
          obtain ⟨S, hS⟩ : a :: A <+: p :=
            List.prefix_of_prefix_length_le (List.prefix_append _ _) hpre (by omega)
          have hSpre : S <+: p ++ R := by
            have h : (a :: A) ++ S <+: (a :: A) ++ (p ++ R) := by rw [hS]; exact hpre
            exact (List.prefix_append_right_inj (a :: A)).1 h
          have hSp : S <+: p :=
            List.prefix_of_prefix_length_le hSpre (List.prefix_append p R)
              (by rw [← hS, List.length_append]; omega)
          have hdrop : p.drop (a :: A).length = S := by rw [← hS, List.drop_left]
          have hk := hborder (a :: A).length (by omega) (by simp) (hdrop ▸ hSp)
          -- so the overlap is one character, the keyword's first
          obtain ⟨s, rfl⟩ : ∃ s, S = [s] := by
            have hlen' : S.length = 1 := by rw [← hS, List.length_append] at hk; omega
            exact List.length_eq_one_iff.1 hlen'
          have htake : p.take 1 = [s] := by
            obtain ⟨T, hT⟩ := hSp
            rw [← hT]
            rfl
          have hwhole : p = (a :: A) ++ p.take 1 := by rw [htake, hS]
          exact hA (Eq.subst (motive := fun Y => p <:+: Y) hwhole (List.infix_refl p))
      have hrest := ih hA'
      simp only [List.cons_append, find?, List.isPrefixOf_iff_prefix]
      rw [if_neg hnot, hrest]
      rfl

/-- A keyword whose only overlap with itself is its first and last character. -/
def OverlapsAtEnds (p : List Char) : Prop :=
  ∀ k, k < p.length → 0 < k → p.drop k <+: p → k + 1 = p.length

theorem overlapsAtEnds_from : OverlapsAtEnds " FROM ".toList := by
  unfold OverlapsAtEnds
  decide

theorem overlapsAtEnds_where : OverlapsAtEnds " WHERE ".toList := by
  unfold OverlapsAtEnds
  decide

theorem overlapsAtEnds_limit : OverlapsAtEnds " LIMIT ".toList := by
  unfold OverlapsAtEnds
  decide

/-! ## Texts that hold no keyword

A text without some character of the pattern does not hold it. Upper-casing changes only the
letters `a` to `z`, and digits and semicolons are no letters, so characters whose upper case the
pattern lacks add no match, and no match crosses them. -/

/-- The characters hold the pattern `pat`, written in upper case, in no ASCII case. -/
def AvoidsChars (cs : List Char) (pat : String) : Prop :=
  find? pat.toList (cs.map Char.toUpper) = none

instance (cs : List Char) (pat : String) : Decidable (AvoidsChars cs pat) :=
  inferInstanceAs (Decidable (_ = none))

instance (s pat : String) : Decidable (Avoids s pat) :=
  inferInstanceAs (Decidable (_ = none))

theorem find?_eq_none_of_not_mem {pat X : List Char} {c : Char} (hc : c ∈ pat) (hX : c ∉ X) :
    find? pat X = none :=
  (find?_eq_none_iff _ _).2 fun h => hX (h.subset hc)

theorem find?_append_eq_none {pat X Y : List Char} (hpat : pat ≠ []) (hX : find? pat X = none)
    (hY : ∀ c ∈ Y, c ∉ pat) : find? pat (X ++ Y) = none := by
  cases Y with
  | nil => simpa using hX
  | cons y Y =>
      rw [find?_append_cons_eq_none (hY y List.mem_cons_self)]
      refine ⟨hX, ?_⟩
      obtain ⟨c, hc⟩ := List.exists_mem_of_ne_nil pat hpat
      exact find?_eq_none_of_not_mem hc fun h => hY c (List.mem_cons_of_mem y h) hc

theorem toUpper_eq_self {c : Char} (h : c.toNat < 97 ∨ 122 < c.toNat) : c.toUpper = c := by
  unfold Char.toUpper
  rw [dif_neg]
  intro hc
  simp only [UInt32.le_iff_toNat_le] at hc
  have hlo : 97 ≤ c.toNat := hc.1
  have hhi : c.toNat ≤ 122 := hc.2
  omega

theorem toUpper_of_isBlank {c : Char} (h : isBlank c = true) : c.toUpper = c := by
  simp only [isBlank, blankRanges, List.any_cons, List.any_nil, Bool.or_false, Bool.or_eq_true,
    Bool.and_eq_true, decide_eq_true_eq] at h
  exact toUpper_eq_self (by omega)

theorem toUpper_digit_not_mem {c : Char} (hc : c.isDigit = true) {pat : String}
    (hpat : pat.toList.all (fun d => !d.isDigit) = true) : c.toUpper ∉ pat.toList := by
  have hrange : c.toNat ≤ 57 := by
    simp only [Char.isDigit, Bool.and_eq_true, decide_eq_true_eq] at hc
    exact hc.2
  rw [toUpper_eq_self (by omega)]
  intro hmem
  have := List.all_eq_true.1 hpat c hmem
  simp [hc] at this

theorem toUpper_semicolon_not_mem {c : Char} {m : Nat} (hc : c ∈ List.replicate m ';')
    {pat : String} (hpat : ';' ∉ pat.toList) : c.toUpper ∉ pat.toList := by
  rw [List.eq_of_mem_replicate hc]
  exact hpat

theorem map_toUpper_of_blank {B : List Char} (h : ∀ c ∈ B, isBlank c = true) :
    B.map Char.toUpper = B := by
  calc B.map Char.toUpper = B.map id := List.map_congr_left fun c hc => toUpper_of_isBlank (h c hc)
    _ = B := List.map_id B

theorem avoidsChars_append_cons {X Y : List Char} {d : Char} {pat : String}
    (hd : d.toUpper ∉ pat.toList) :
    AvoidsChars (X ++ d :: Y) pat ↔ AvoidsChars X pat ∧ AvoidsChars Y pat := by
  simp only [AvoidsChars, List.map_append, List.map_cons]
  exact find?_append_cons_eq_none hd

theorem AvoidsChars.append {X Y : List Char} {pat : String} (hpat : pat.toList ≠ [])
    (hX : AvoidsChars X pat) (hY : ∀ c ∈ Y, c.toUpper ∉ pat.toList) :
    AvoidsChars (X ++ Y) pat := by
  unfold AvoidsChars
  rw [List.map_append]
  refine find?_append_eq_none hpat hX fun c hc => ?_
  obtain ⟨d, hd, rfl⟩ := List.mem_map.1 hc
  exact hY d hd

theorem find?_clause {X Y : List Char} {pat : String} (hp : pat.toList ≠ [])
    (hborder : OverlapsAtEnds pat.toList) (hfirst : pat.toList.take 1 = [' '])
    (hX : AvoidsChars (X ++ [' ']) pat) :
    find? pat.toList (X.map Char.toUpper ++ (pat.toList ++ Y)) = some X.length := by
  have hA : find? pat.toList (X.map Char.toUpper ++ pat.toList.take 1) = none := by
    have hblank : (' ' : Char).toUpper = ' ' := rfl
    rw [hfirst]
    simpa only [AvoidsChars, List.map_append, List.map_cons, List.map_nil, hblank] using hX
  simpa using find?_append_keyword hp hborder hA

theorem trimStartChars_blank_append {B Y : List Char} {c : Char} (hB : ∀ b ∈ B, isBlank b = true)
    (hc : isBlank c = false) : trimStartChars (B ++ c :: Y) = c :: Y := by
  unfold trimStartChars
  rw [List.dropWhile_append_of_pos hB, List.dropWhile_cons_of_neg (by simp [hc])]

/-! ## Trimming and splitting

Trimming the start of a text after blanks starts at its first character that is no blank, and a
text that starts and ends unblank keeps its trailing semicolons through trimming. Text without
the separator, put before or after a text, joins its first or last piece; trimming a list of
names changes no name read from it. A bare keyspace ends at the first dot, a quoted one at the
dot after its closing quote. -/

theorem trimChars_blank_append_eq {B p : List Char} (hB : ∀ b ∈ B, isBlank b = true) :
    trimChars (B ++ p) = trimChars p := by
  unfold trimChars
  rw [List.dropWhile_append_of_pos hB]

theorem trimChars_append_blank_eq {p B : List Char} (hB : ∀ b ∈ B, isBlank b = true) :
    trimChars (p ++ B) = trimChars p := by
  unfold trimChars
  rw [List.dropWhile_append]
  split
  · rename_i hp
    rw [List.dropWhile_eq_nil_iff.2 hB, List.isEmpty_iff.1 hp]
  · rw [List.reverse_append,
      List.dropWhile_append_of_pos fun b hb => hB b (List.mem_reverse.1 hb)]

theorem trimChars_append_semicolons {X : List Char} (hne : X ≠ [])
    (hhead : ∀ c ∈ X.head?, isBlank c = false) (hlast : ∀ c ∈ X.getLast?, isBlank c = false)
    (m : Nat) : trimChars (X ++ List.replicate m ';') = X ++ List.replicate m ';' := by
  apply trimChars_eq_self
  · obtain ⟨d, ds, rfl⟩ := List.exists_cons_of_ne_nil hne
    exact hhead
  · rw [List.getLast?_append]
    intro c hc
    cases m with
    | zero =>
        simp only [List.replicate_zero, List.getLast?_nil, Option.none_or] at hc
        exact hlast c hc
    | succ m =>
        simp only [List.getLast?_replicate, Option.some_or, Option.mem_def,
          Option.some.injEq, Nat.add_one_ne_zero, if_false] at hc
        exact hc ▸ rfl

theorem comma_not_mem_of_blank {B : List Char} (hB : ∀ b ∈ B, isBlank b = true) : ',' ∉ B :=
  fun h => by simpa [isBlank, blankRanges] using hB ',' h

theorem splitOn_ne_nil (sep : Char) (cs : List Char) : splitOn sep cs ≠ [] := by
  cases cs with
  | nil => simp [splitOn]
  | cons c cs =>
      simp only [splitOn]
      split
      · simp
      · split <;> simp

theorem splitOn_prefix {sep : Char} {B : List Char} (hB : sep ∉ B) (Y : List Char) :
    ∃ p ps, splitOn sep Y = p :: ps ∧ splitOn sep (B ++ Y) = (B ++ p) :: ps := by
  induction B with
  | nil =>
      obtain ⟨p, ps, h⟩ := List.exists_cons_of_ne_nil (splitOn_ne_nil sep Y)
      exact ⟨p, ps, h, by simp [h]⟩
  | cons b B ih =>
      obtain ⟨p, ps, hY, hBY⟩ := ih fun h => hB (List.mem_cons_of_mem b h)
      have hb : (b == sep) = false := by
        simpa using fun h : b = sep => hB (h ▸ List.mem_cons_self)
      exact ⟨p, ps, hY, by simp only [List.cons_append, splitOn, hBY, hb]; rfl⟩

theorem splitOn_suffix {sep : Char} {B : List Char} (hB : sep ∉ B) (Y : List Char) :
    ∃ ps p, splitOn sep Y = ps ++ [p] ∧ splitOn sep (Y ++ B) = ps ++ [p ++ B] := by
  induction Y with
  | nil => exact ⟨[], [], rfl, by simp [splitOn_of_not_mem hB]⟩
  | cons c Y ih =>
      obtain ⟨ps, p, hY, hYB⟩ := ih
      by_cases hc : c = sep
      · exact ⟨[] :: ps, p, by simp [splitOn, hY, hc], by simp [splitOn, hYB, hc]⟩
      · cases ps with
        | nil => exact ⟨[], c :: p, by simp [splitOn, hY, hc], by simp [splitOn, hYB, hc]⟩
        | cons r rs =>
            exact ⟨(c :: r) :: rs, p, by simp [splitOn, hY, hc], by simp [splitOn, hYB, hc]⟩

theorem readBelow?_digits {ds : List Char} (hne : ds ≠ []) (hd : ∀ c ∈ ds, c.isDigit = true)
    {b : Nat} (hlt : digitsValue ds < b) : readBelow? b ds = some (digitsValue ds) := by
  obtain ⟨d, ds', rfl⟩ := List.exists_cons_of_ne_nil hne
  have hplus : d ≠ '+' := fun h => absurd (hd d List.mem_cons_self) (by rw [h]; decide)
  have hall : (d :: ds').all Char.isDigit = true := List.all_eq_true.2 hd
  unfold readBelow?
  simp [hplus, hall, hlt]

end Text

namespace SelectStmt

open Text

theorem dropSemicolons_append_replicate {X : List Char} (hX : X.getLast? ≠ some ';') (m : Nat) :
    dropSemicolons (X ++ List.replicate m ';') = X := by
  unfold dropSemicolons
  rw [List.reverse_append, List.reverse_replicate, List.dropWhile_append_of_pos (by simp)]
  cases hr : X.reverse with
  | nil => simp [List.reverse_eq_nil_iff.1 hr]
  | cons c cs =>
      have hc : c ≠ ';' := fun h => hX (by rw [← List.head?_reverse, hr, h]; rfl)
      rw [List.dropWhile_cons_of_neg (by simpa using hc), ← hr, List.reverse_reverse]

theorem unquoteName_blank_around {L p R : List Char} (hL : ∀ b ∈ L, isBlank b = true)
    (hR : ∀ b ∈ R, isBlank b = true) : unquoteName (L ++ (p ++ R)) = unquoteName p := by
  unfold unquoteName
  rw [trimChars_blank_append_eq hL, trimChars_append_blank_eq hR]

theorem unquote_splitOn_trimChars (X : List Char) :
    (splitOn ',' (trimChars X)).map unquoteName = (splitOn ',' X).map unquoteName := by
  obtain ⟨B₁, B₂, h₁, h₂, hX⟩ := trimChars_decompose X
  obtain ⟨ps, p, hM, hMB⟩ := splitOn_suffix (comma_not_mem_of_blank h₂) (trimChars X)
  obtain ⟨p', ps', hMB', hall⟩ := splitOn_prefix (comma_not_mem_of_blank h₁) (trimChars X ++ B₂)
  conv => rhs; rw [hX, List.append_assoc, hall]
  rw [hM]
  rw [hMB] at hMB'
  cases ps with
  | nil =>
      -- one piece, which takes the blanks at both ends
      obtain ⟨rfl, rfl⟩ : p ++ B₂ = p' ∧ [] = ps' := by simpa using hMB'
      simp [unquoteName_blank_around h₁ h₂]
  | cons r rs =>
      obtain ⟨rfl, rfl⟩ : r = p' ∧ rs ++ [p ++ B₂] = ps' := by simpa using hMB'
      have hfirst := unquoteName_blank_around (p := r) h₁ (R := []) (by simp)
      have hlast := unquoteName_blank_around (p := p) (L := []) (by simp) h₂
      simp only [List.append_nil, List.nil_append] at hfirst hlast
      simp [hfirst, hlast]

theorem splitAt_plain {X : List Char} (hX : ∀ c ∈ X, c ≠ '"' ∧ c ≠ '.') (acc Y : List Char) :
    splitAt false acc (X ++ '.' :: Y) = some (acc.reverse ++ X, Y) := by
  induction X generalizing acc with
  | nil => simp [splitAt]
  | cons c X ih =>
      obtain ⟨hq, hd⟩ := hX c List.mem_cons_self
      rw [List.cons_append, splitAt, if_neg (by simpa using hq), if_neg (by simp [hd]),
        ih (fun d hd => hX d (List.mem_cons_of_mem c hd))]
      simp

theorem splitAt_quoted (k acc Y : List Char) :
    splitAt false acc ('"' :: (doubled k ++ ['"']) ++ '.' :: Y) =
      some (acc.reverse ++ '"' :: (doubled k ++ ['"']), Y) := by
  have hopen : splitAt false acc ('"' :: (doubled k ++ ['"']) ++ '.' :: Y) =
      splitAt true ('"' :: acc) (doubled k ++ '"' :: '.' :: Y) := by
    simp [splitAt]
  rw [hopen, splitAt_doubled]
  simp [splitAt]

end SelectStmt

/-! ## The statements -/

/-- A name as a statement writes it: bare, or in double quotes with each quote doubled. -/
inductive WrittenName where
  | bare (name : String)
  | quoted (name : String)

namespace WrittenName

/-- The name written. -/
def name : WrittenName → String
  | .bare n | .quoted n => n

/-- The name as it stands in the statement. -/
def text : WrittenName → List Char
  | .bare n => n.toList
  | .quoted n => '"' :: (Text.doubled n.toList ++ ['"'])

/-- A bare name holds no double quote, and starts and ends with a character that is no blank;
a quoted name may hold anything. -/
def Plain : WrittenName → Prop
  | .bare n => '"' ∉ n.toList ∧ (∀ c ∈ n.toList.head?, Text.isBlank c = false) ∧
      ∀ c ∈ n.toList.getLast?, Text.isBlank c = false
  | .quoted _ => True

open Text SelectStmt

theorem unquoteName_text {B : List Char} (hB : ∀ b ∈ B, isBlank b = true) {n : WrittenName}
    (hn : n.Plain) : unquoteName (B ++ n.text) = n.name := by
  cases n with
  | bare k =>
      obtain ⟨hq, hhead, hlast⟩ := hn
      have htrim : trimChars (B ++ k.toList) = k.toList := by
        simpa using @trimChars_surround B k.toList [] hB (by simp) hhead hlast
      unfold unquoteName
      rw [text, htrim]
      split
      · rename_i inner _ heq
        exact absurd (heq ▸ List.mem_cons_self) hq
      · exact String.ofList_toList
  | quoted k => simpa [text, name] using unquoteName_quoted hB k.toList

theorem splitAt_text {n : WrittenName} (hn : n.Plain) (hdot : ∀ k, n = .bare k → '.' ∉ k.toList)
    (Y : List Char) : splitAt false [] (n.text ++ '.' :: Y) = some (n.text, Y) := by
  cases n with
  | bare k =>
      have hX : ∀ c ∈ k.toList, c ≠ '"' ∧ c ≠ '.' := fun c hc =>
        ⟨fun h => hn.1 (h ▸ hc), fun h => hdot k rfl (h ▸ hc)⟩
      simpa [text] using splitAt_plain hX [] Y
  | quoted k => simpa [text] using splitAt_quoted k.toList [] Y

theorem head_text {n : WrittenName} (hn : n.Plain) : ∀ c ∈ n.text.head?, isBlank c = false := by
  cases n with
  | bare k => exact hn.2.1
  | quoted k =>
      intro c hc
      simp only [text, List.head?_cons, Option.mem_def, Option.some.injEq] at hc
      subst hc
      decide

theorem getLast?_text_quoted (k : String) : (WrittenName.quoted k).text.getLast? = some '"' := by
  rw [text, ← List.cons_append, List.getLast?_concat]

end WrittenName

/-- What a statement selects: every column, or names. -/
inductive Selection where
  | star
  | names (ns : List WrittenName)

namespace Selection

/-- The selection as written, with the blanks `gap` after each comma. -/
def text (gap : List Char) : Selection → List Char
  | .star => ['*']
  | .names ns => (',' :: gap).intercalate (ns.map WrittenName.text)

/-- The names selected; `none` for every column. -/
def names? : Selection → Option (List String)
  | .star => none
  | .names ns => some (ns.map WrittenName.name)

/-- The names are at least one, each plain and without a comma, and not a lone bare `*`, which
reads as every column. -/
def Readable : Selection → Prop
  | .star => True
  | .names ns => ns ≠ [] ∧ (∀ n ∈ ns, n.Plain ∧ ',' ∉ n.text) ∧ ns ≠ [.bare "*"]

end Selection

/-- A `SELECT` statement of the grammar the cluster reads: blanks, the word `SELECT ` in any
case, the selection, ` FROM `, the keyspace, `.`, the table, then maybe ` WHERE ` and a
filter, maybe ` LIMIT ` and digits, and semicolons. -/
structure SelectText where
  lead : List Char
  select : List Char
  selection : Selection
  gap : List Char
  keyspace : WrittenName
  table : WrittenName
  filter : Option (List Char)
  limit : Option (List Char)
  semicolons : Nat

namespace SelectText

/-- The keyspace and table as written. -/
def target (q : SelectText) : List Char := q.keyspace.text ++ '.' :: q.table.text

/-- The `WHERE` clause, with the blank before it. -/
def whereText (q : SelectText) : List Char := (q.filter.map (" WHERE ".toList ++ ·)).getD []

/-- The `LIMIT` clause, with the blank before it. -/
def limitText (q : SelectText) : List Char := (q.limit.map (" LIMIT ".toList ++ ·)).getD []

/-- The text after ` FROM `. -/
def rest (q : SelectText) : List Char :=
  q.target ++ (q.whereText ++ (q.limitText ++ List.replicate q.semicolons ';'))

/-- The statement's characters. -/
def chars (q : SelectText) : List Char :=
  q.lead ++ (q.select ++ (q.selection.text q.gap ++ (" FROM ".toList ++ q.rest)))

/-- The statement. -/
def render (q : SelectText) : String := String.ofList q.chars

/-- The statement the text says: the names selected, the keyspace and table, and the limit. -/
def stmt (q : SelectText) : SelectStmt :=
  ⟨q.selection.names?, q.keyspace.name, q.table.name, q.limit.map Text.digitsValue⟩

/-- The blank that follows the table when a clause does. -/
def afterTable (q : SelectText) : List Char :=
  if q.filter.isSome || q.limit.isSome then [' '] else []

/-- The blank that follows the filter when a `LIMIT` clause does. -/
def afterFilter (q : SelectText) : List Char := if q.limit.isSome then [' '] else []

/-- What the reader needs of a statement. Each keyword is found by the first place it stands
in the upper-cased text, so no part may hold it where it would be found first, the blanks
around the part included: the selection no ` FROM `, the keyspace and table no ` WHERE ` or
` LIMIT `, the filter no ` LIMIT `. -/
structure Readable (q : SelectText) : Prop where
  lead_blank : ∀ c ∈ q.lead, Text.isBlank c = true
  select_word : q.select.map Char.toUpper = "SELECT ".toList
  gap_blank : ∀ c ∈ q.gap, Text.isBlank c = true
  selection : q.selection.Readable
  selection_from : Text.AvoidsChars (' ' :: (q.selection.text q.gap ++ [' '])) " FROM "
  keyspace_plain : q.keyspace.Plain
  keyspace_dot : ∀ n, q.keyspace = .bare n → '.' ∉ n.toList
  table_plain : q.table.Plain
  table_semicolon : ∀ n, q.table = .bare n → n.toList.getLast? ≠ some ';'
  keyspace_where : Text.AvoidsChars q.keyspace.text " WHERE "
  keyspace_limit : Text.AvoidsChars q.keyspace.text " LIMIT "
  table_where : Text.AvoidsChars (q.table.text ++ q.afterTable) " WHERE "
  table_limit : Text.AvoidsChars (q.table.text ++ q.afterTable) " LIMIT "
  filter_limit : ∀ w, q.filter = some w → Text.AvoidsChars (' ' :: (w ++ q.afterFilter)) " LIMIT "
  limit_digits : ∀ ds, q.limit = some ds →
    ds ≠ [] ∧ (∀ c ∈ ds, c.isDigit = true) ∧ Text.digitsValue ds < 2 ^ 64

open Text

variable {q : SelectText}

/-! ### Up to ` FROM `

The blanks before `SELECT` are the ones trimmed; the first ` FROM ` is the one after the
selection, and the text between `SELECT ` and it is the selection. -/

theorem length_select (h : q.Readable) : q.select.length = 7 := by
  rw [← List.length_map (f := Char.toUpper), h.select_word]
  rfl

theorem map_toUpper_chars (h : q.Readable) :
    q.chars.map Char.toUpper = q.lead ++ ("SELECT ".toList ++
      ((q.selection.text q.gap).map Char.toUpper ++ (" FROM ".toList ++
        q.rest.map Char.toUpper))) := by
  simp only [chars, List.map_append, map_toUpper_of_blank h.lead_blank, h.select_word]
  rfl

theorem lead_length (h : q.Readable) :
    (q.chars.map Char.toUpper).length - (trimStartChars (q.chars.map Char.toUpper)).length =
      q.lead.length := by
  rw [map_toUpper_chars h, show "SELECT ".toList = 'S' :: "ELECT ".toList from rfl,
    List.cons_append, trimStartChars_blank_append h.lead_blank (by decide)]
  simp

theorem select_prefix (h : q.Readable) :
    "SELECT ".toList.isPrefixOf ((q.chars.map Char.toUpper).drop q.lead.length) = true := by
  rw [map_toUpper_chars h, List.drop_left, List.isPrefixOf_iff_prefix]
  exact List.prefix_append _ _

theorem find?_from (h : q.Readable) :
    find? " FROM ".toList (q.chars.map Char.toUpper) =
      some (q.lead.length + 7 + (q.selection.text q.gap).length) := by
  have hA : find? " FROM ".toList ((q.lead ++ ("SELECT ".toList ++
      (q.selection.text q.gap).map Char.toUpper)) ++ " FROM ".toList.take 1) = none := by
    -- cut at the `T` of `SELECT`: blanks and `SELEC` hold no `F`, the rest is the selection
    have hcut : (q.lead ++ ("SELECT ".toList ++ (q.selection.text q.gap).map Char.toUpper)) ++
        " FROM ".toList.take 1 = (q.lead ++ "SELEC".toList) ++ 'T' ::
          (' ' :: ((q.selection.text q.gap) ++ [' '])).map Char.toUpper := by
      simp only [List.map_cons, List.map_append, List.append_assoc]
      rfl
    rw [hcut, find?_append_cons_eq_none (by decide)]
    refine ⟨find?_eq_none_of_not_mem (c := 'F') (by decide) fun hF => ?_, h.selection_from⟩
    rcases List.mem_append.1 hF with hF | hF
    · exact absurd (h.lead_blank 'F' hF) (by decide)
    · exact absurd hF (by decide)
  have hfound := find?_append_keyword (R := q.rest.map Char.toUpper) (by decide)
    overlapsAtEnds_from hA
  rw [map_toUpper_chars h]
  simp only [List.append_assoc, List.length_append, List.length_map] at hfound
  rw [hfound, show "SELECT ".toList.length = 7 from rfl, Nat.add_assoc]

theorem drop_from (h : q.Readable) :
    q.chars.drop (q.lead.length + 7 + (q.selection.text q.gap).length + 6) = q.rest ∧
      (q.chars.map Char.toUpper).drop (q.lead.length + 7 + (q.selection.text q.gap).length + 6) =
        q.rest.map Char.toUpper := by
  have hsel := length_select h
  constructor
  · simp only [chars, ← List.append_assoc]
    exact List.drop_left' (by simp [hsel]; omega)
  · rw [map_toUpper_chars h]
    simp only [← List.append_assoc]
    exact List.drop_left' (by simp; omega)

theorem take_selection (h : q.Readable) :
    (q.chars.drop (q.lead.length + 7)).take
      (q.lead.length + 7 + (q.selection.text q.gap).length - (q.lead.length + 7)) =
        q.selection.text q.gap := by
  have hsel := length_select h
  rw [Nat.add_sub_cancel_left, show q.lead.length + 7 = (q.lead ++ q.select).length by simp [hsel]]
  simp only [chars, ← List.append_assoc]
  simp

/-! ### After ` FROM `

Semicolons and digits after a text that does not hold a clause keyword add no match. The first
` WHERE ` after ` FROM ` starts the `WHERE` clause, if there is one, and so does the first
` LIMIT ` the `LIMIT` clause. -/

theorem map_toUpper_where : " WHERE ".toList.map Char.toUpper = " WHERE ".toList := rfl

theorem map_toUpper_limit : " LIMIT ".toList.map Char.toUpper = " LIMIT ".toList := rfl

theorem avoidsChars_numeral {X D : List Char} {m : Nat} {pat : String} (hpat : pat.toList ≠ [])
    (hdigit : pat.toList.all (fun d => !d.isDigit) = true) (hsemi : ';' ∉ pat.toList)
    (hX : AvoidsChars X pat) (hD : ∀ c ∈ D, c.isDigit = true) :
    AvoidsChars (X ++ (D ++ List.replicate m ';')) pat := by
  refine AvoidsChars.append hpat hX fun c hc => ?_
  rcases List.mem_append.1 hc with hc | hc
  · exact toUpper_digit_not_mem (hD c hc) hdigit
  · exact toUpper_semicolon_not_mem hc hsemi

theorem avoidsChars_append_semicolons {X : List Char} {pat : String} (hpat : pat.toList ≠ [])
    (hsemi : ';' ∉ pat.toList) (hX : AvoidsChars X pat) (m : Nat) :
    AvoidsChars (X ++ List.replicate m ';') pat :=
  AvoidsChars.append hpat hX fun _ hc => toUpper_semicolon_not_mem hc hsemi

/-- After ` WHERE `: the keyword's own letters hold no ` LIMIT `, so a ` LIMIT ` in the clause
is one in the filter, with the blank before it. -/
theorem avoidsChars_limit_where {B w Z : List Char} (hB : AvoidsChars (B ++ [' ']) " LIMIT ")
    (hw : AvoidsChars (' ' :: (w ++ Z)) " LIMIT ") :
    AvoidsChars (B ++ (" WHERE ".toList ++ (w ++ Z))) " LIMIT " := by
  have hcut : B ++ (" WHERE ".toList ++ (w ++ Z)) =
      (B ++ [' ']) ++ 'W' :: ("HER".toList ++ 'E' :: ' ' :: (w ++ Z)) := by
    simp only [List.append_assoc]
    rfl
  rw [hcut, avoidsChars_append_cons (X := B ++ [' ']) (d := 'W') (by decide),
    avoidsChars_append_cons (X := "HER".toList) (d := 'E') (by decide)]
  exact ⟨hB, by decide, hw⟩

theorem avoidsChars_target {Y : List Char} {pat : String} (hdot : '.' ∉ pat.toList) :
    AvoidsChars (q.target ++ Y) pat ↔
      AvoidsChars q.keyspace.text pat ∧ AvoidsChars (q.table.text ++ Y) pat := by
  rw [target, List.append_assoc, List.cons_append]
  exact avoidsChars_append_cons hdot

theorem find?_where (h : q.Readable) :
    find? " WHERE ".toList (q.rest.map Char.toUpper) = q.filter.map fun _ => q.target.length := by
  cases hf : q.filter with
  | some w =>
      have hX : AvoidsChars (q.target ++ [' ']) " WHERE " := by
        rw [avoidsChars_target (by decide)]
        exact ⟨h.keyspace_where, by simpa [afterTable, hf] using h.table_where⟩
      have hrest : q.rest.map Char.toUpper = q.target.map Char.toUpper ++
          (" WHERE ".toList ++ (w ++ (q.limitText ++ List.replicate q.semicolons ';')).map
            Char.toUpper) := by
        simp only [rest, whereText, hf, Option.map_some, Option.getD_some, List.map_append,
          map_toUpper_where, List.append_assoc]
      rw [hrest, find?_clause (by decide) overlapsAtEnds_where rfl hX]
      rfl
  | none =>
      -- no clause: after the table come maybe a `LIMIT` clause, then semicolons
      have hafter : AvoidsChars (q.table.text ++ (q.limitText ++ List.replicate q.semicolons ';'))
          " WHERE " := by
        cases hl : q.limit with
        | some ds =>
            have hB : AvoidsChars (q.table.text ++ [' ']) " WHERE " := by
              simpa [afterTable, hl] using h.table_where
            have hcut : q.table.text ++ (q.limitText ++ List.replicate q.semicolons ';') =
                (q.table.text ++ [' ']) ++ 'L' ::
                  ("IMIT ".toList ++ (ds ++ List.replicate q.semicolons ';')) := by
              simp only [limitText, hl, Option.map_some, Option.getD_some, List.append_assoc]
              rfl
            rw [hcut, avoidsChars_append_cons (X := q.table.text ++ [' ']) (d := 'L') (by decide)]
            exact ⟨hB, avoidsChars_numeral (by decide) (by decide) (by decide) (by decide)
              (h.limit_digits ds hl).2.1⟩
        | none =>
            have hB : AvoidsChars q.table.text " WHERE " := by
              simpa [afterTable, hf, hl] using h.table_where
            simpa [limitText, hl] using
              avoidsChars_append_semicolons (by decide) (by decide) hB q.semicolons
      have hrest : AvoidsChars q.rest " WHERE " := by
        rw [rest, whereText, hf, Option.map_none, Option.getD_none, List.nil_append]
        exact (avoidsChars_target (by decide)).2 ⟨h.keyspace_where, hafter⟩
      exact hrest

theorem find?_limit (h : q.Readable) :
    find? " LIMIT ".toList (q.rest.map Char.toUpper) =
      q.limit.map fun _ => q.target.length + q.whereText.length := by
  cases hl : q.limit with
  | some ds =>
      have hB : AvoidsChars (q.table.text ++ [' ']) " LIMIT " := by
        simpa [afterTable, hl] using h.table_limit
      have hX : AvoidsChars (q.target ++ q.whereText ++ [' ']) " LIMIT " := by
        rw [List.append_assoc, avoidsChars_target (by decide)]
        refine ⟨h.keyspace_limit, ?_⟩
        cases hf : q.filter with
        | none => simpa [whereText, hf] using hB
        | some w =>
            have hw : AvoidsChars (' ' :: (w ++ [' '])) " LIMIT " := by
              simpa [afterFilter, hl] using h.filter_limit w hf
            simpa [whereText, hf] using avoidsChars_limit_where hB hw
      have hrest : q.rest.map Char.toUpper = (q.target ++ q.whereText).map Char.toUpper ++
          (" LIMIT ".toList ++ (ds ++ List.replicate q.semicolons ';').map Char.toUpper) := by
        simp only [rest, limitText, hl, Option.map_some, Option.getD_some, List.map_append,
          map_toUpper_limit, List.append_assoc]
      rw [hrest, find?_clause (by decide) overlapsAtEnds_limit rfl hX, List.length_append]
      rfl
  | none =>
      -- no clause: after the table come maybe a `WHERE` clause, then semicolons
      have hafter : AvoidsChars (q.table.text ++ (q.whereText ++ List.replicate q.semicolons ';'))
          " LIMIT " := by
        cases hf : q.filter with
        | none =>
            have hB : AvoidsChars q.table.text " LIMIT " := by
              simpa [afterTable, hf, hl] using h.table_limit
            simpa [whereText, hf] using
              avoidsChars_append_semicolons (by decide) (by decide) hB q.semicolons
        | some w =>
            have hB : AvoidsChars (q.table.text ++ [' ']) " LIMIT " := by
              simpa [afterTable, hf] using h.table_limit
            have hw₀ : AvoidsChars (' ' :: w) " LIMIT " := by
              simpa [afterFilter, hl] using h.filter_limit w hf
            have hw : AvoidsChars (' ' :: (w ++ List.replicate q.semicolons ';')) " LIMIT " := by
              simpa using avoidsChars_append_semicolons (by decide) (by decide) hw₀ q.semicolons
            simpa [whereText, hf] using avoidsChars_limit_where hB hw
      have hrest : AvoidsChars q.rest " LIMIT " := by
        rw [rest, limitText, hl, Option.map_none, Option.getD_none, List.nil_append]
        exact (avoidsChars_target (by decide)).2 ⟨h.keyspace_limit, hafter⟩
      exact hrest

/-! ### The target and the limit

The target ends with the table's last character or the dot, no blank and no semicolon; after
` LIMIT `, trimmed and without semicolons, stand the digits. -/

theorem target_head (h : q.Readable) : ∀ c ∈ q.target.head?, isBlank c = false := by
  intro c hc
  rw [target, List.head?_append] at hc
  cases hk : q.keyspace.text.head? with
  | some d =>
      rw [hk, Option.some_or, Option.mem_def, Option.some.injEq] at hc
      exact hc ▸ WrittenName.head_text h.keyspace_plain d hk
  | none =>
      rw [hk, Option.none_or, List.head?_cons, Option.mem_def, Option.some.injEq] at hc
      exact hc ▸ rfl

theorem target_last (h : q.Readable) :
    ∀ c ∈ q.target.getLast?, isBlank c = false ∧ c ≠ ';' := by
  have hend : q.target.getLast? = some (q.table.text.getLast?.getD '.') := by
    rw [target, List.getLast?_append, List.getLast?_cons, Option.some_or]
  intro c hc
  rw [hend, Option.mem_def, Option.some.injEq] at hc
  subst hc
  cases ht : q.table with
  | bare k =>
      have hplain := h.table_plain
      rw [ht] at hplain
      cases hk : k.toList.getLast? with
      | none => simp only [WrittenName.text, hk, Option.getD_none]; decide
      | some d =>
          simp only [WrittenName.text, hk, Option.getD_some]
          exact ⟨hplain.2.2 d hk, fun hd => h.table_semicolon k ht (hd ▸ hk)⟩
  | quoted k =>
      rw [WrittenName.getLast?_text_quoted, Option.getD_some]
      decide

theorem isBlank_of_isDigit {c : Char} (hc : c.isDigit = true) : isBlank c = false := by
  have hrange : 48 ≤ c.toNat ∧ c.toNat ≤ 57 := by
    simp only [Char.isDigit, Bool.and_eq_true, decide_eq_true_eq] at hc
    exact ⟨hc.1, hc.2⟩
  simp only [isBlank, blankRanges, List.any_cons, List.any_nil, Bool.or_false, Bool.or_eq_false_iff,
    Bool.and_eq_false_iff, decide_eq_false_iff_not]
  omega

/-- Between ` FROM ` and the first clause, trimmed and without semicolons, stands the target. -/
theorem target_cut (h : q.Readable) :
    SelectStmt.dropSemicolons (trimChars (q.rest.take
      ((SelectStmt.firstOf (q.filter.map fun _ => q.target.length)
        (q.limit.map fun _ => q.target.length + q.whereText.length)).getD q.rest.length))) =
      q.target := by
  have hsemi : q.target.getLast? ≠ some ';' := fun hl => (target_last h ';' hl).2 rfl
  have hdrop := SelectStmt.dropSemicolons_append_replicate hsemi
  have htrim : trimChars q.target = q.target :=
    trimChars_eq_self (target_head h) fun c hc => (target_last h c hc).1
  -- with a clause the cut is at the target's end, without one at the text's
  have hcut : ∀ n, n = q.target.length →
      SelectStmt.dropSemicolons (trimChars (q.rest.take n)) = q.target := by
    rintro n rfl
    rw [rest, List.take_left, htrim]
    simpa using hdrop 0
  cases hf : q.filter <;> cases hl : q.limit
  · have hrest : q.rest = q.target ++ List.replicate q.semicolons ';' := by
      simp [rest, whereText, limitText, hf, hl]
    have htrim' : trimChars q.rest = q.rest := by
      rw [hrest]
      exact trimChars_append_semicolons (by simp [target]) (target_head h)
        (fun c hc => (target_last h c hc).1) q.semicolons
    simp only [SelectStmt.firstOf, Option.map_none, Option.getD_none, List.take_length]
    rw [htrim', hrest, hdrop]
  all_goals
    apply hcut
    simp [SelectStmt.firstOf, whereText, hf]

theorem limit_cut (h : q.Readable) {ds : List Char} (hl : q.limit = some ds) :
    trimChars (SelectStmt.dropSemicolons
      (trimChars (q.rest.drop (q.target.length + q.whereText.length + 7)))) = ds := by
  obtain ⟨hne, hdigits, -⟩ := h.limit_digits ds hl
  have hdrop : q.rest.drop (q.target.length + q.whereText.length + 7) =
      ds ++ List.replicate q.semicolons ';' := by
    have hsplit : q.rest = (q.target ++ q.whereText ++ " LIMIT ".toList) ++
        (ds ++ List.replicate q.semicolons ';') := by
      simp [rest, limitText, hl]
    rw [hsplit]
    exact List.drop_left' (by simp; rfl)
  have hlast : ∀ c ∈ ds.getLast?, isBlank c = false ∧ c ≠ ';' := fun c hc => by
    have hd := hdigits c (List.mem_of_getLast? hc)
    exact ⟨isBlank_of_isDigit hd, fun h' => absurd (h' ▸ hd) (by decide)⟩
  have hhead : ∀ c ∈ ds.head?, isBlank c = false := fun c hc =>
    isBlank_of_isDigit (hdigits c (List.mem_of_head? hc))
  have htrim := trimChars_append_semicolons hne hhead (fun c hc => (hlast c hc).1) q.semicolons
  rw [hdrop, htrim, SelectStmt.dropSemicolons_append_replicate fun h' => (hlast ';' h').2 rfl]
  exact trimChars_eq_self hhead fun c hc => (hlast c hc).1

/-! ### The selection -/

theorem unquote_splitOn_names : ∀ (ns : List WrittenName) (B gap : List Char),
    (∀ b ∈ B, isBlank b = true) → (∀ b ∈ gap, isBlank b = true) → ns ≠ [] →
    (∀ n ∈ ns, n.Plain ∧ ',' ∉ n.text) →
    (splitOn ',' (B ++ (',' :: gap).intercalate (ns.map WrittenName.text))).map
      SelectStmt.unquoteName = ns.map WrittenName.name
  | [], _, _, _, _, hne, _ => absurd rfl hne
  | [n], B, _, hB, _, _, hns => by
      have hn := hns n List.mem_cons_self
      have hcomma : ',' ∉ B ++ n.text := by simp [comma_not_mem_of_blank hB, hn.2]
      rw [List.map_singleton, List.intercalate_singleton, splitOn_of_not_mem hcomma]
      simp [WrittenName.unquoteName_text hB hn.1]
  | n :: n' :: ns, B, gap, hB, hgap, _, hns => by
      have hn := hns n List.mem_cons_self
      have hpiece : ',' ∉ B ++ n.text := by simp [comma_not_mem_of_blank hB, hn.2]
      have hrest := unquote_splitOn_names (n' :: ns) gap gap hgap hgap (List.cons_ne_nil _ _)
        fun x hx => hns x (List.mem_cons_of_mem _ hx)
      rw [List.map_cons, List.intercalate_cons_of_ne_nil (by simp),
        show B ++ (n.text ++ (',' :: gap) ++
            (',' :: gap).intercalate ((n' :: ns).map WrittenName.text)) =
          (B ++ n.text) ++ ',' :: (gap ++
            (',' :: gap).intercalate ((n' :: ns).map WrittenName.text)) by simp,
        splitOn_append_cons _ hpiece, List.map_cons, hrest, WrittenName.unquoteName_text hB hn.1]
      rfl

/-- The selection, trimmed, reads as the names selected, or as every column for `*`. -/
theorem selection_names (h : q.Readable) :
    (if trimChars (q.selection.text q.gap) == ['*'] then none
      else some ((splitOn ',' (trimChars (q.selection.text q.gap))).map SelectStmt.unquoteName)) =
      q.selection.names? := by
  have hsel := h.selection
  cases hs : q.selection with
  | star => rfl
  | names ns =>
      rw [hs] at hsel
      obtain ⟨hne, hns, hstar⟩ := hsel
      have hsplit : (splitOn ',' (trimChars ((Selection.names ns).text q.gap))).map
          SelectStmt.unquoteName = ns.map WrittenName.name := by
        rw [SelectStmt.unquote_splitOn_trimChars]
        simpa [Selection.text] using unquote_splitOn_names ns [] q.gap (by simp) h.gap_blank hne hns
      -- a lone `*` reads as the one name `*`, which only a bare `*` is written as
      have hnotstar : trimChars ((Selection.names ns).text q.gap) ≠ ['*'] := by
        intro htrim
        have hname : SelectStmt.unquoteName ['*'] = "*" := by decide
        rw [htrim] at hsplit
        match ns, hsplit with
        | [.bare k], hk =>
            have : k = "*" := by
              simpa [WrittenName.name, hname] using (List.singleton_inj.1 hk).symm
            exact hstar (by rw [this])
        | [.quoted k], hk =>
            have : k = "*" := by
              simpa [WrittenName.name, hname] using (List.singleton_inj.1 hk).symm
            subst this
            simp only [Selection.text, List.map_singleton, List.intercalate_singleton] at htrim
            revert htrim
            decide
      simp [Selection.names?, hnotstar, hsplit]

/-! ### The whole statement -/

theorem splitQualified_target (h : q.Readable) :
    SelectStmt.splitQualified q.target = some (q.keyspace.name, q.table.name) := by
  have hk := WrittenName.unquoteName_text (B := []) (by simp) h.keyspace_plain
  have ht := WrittenName.unquoteName_text (B := []) (by simp) h.table_plain
  rw [List.nil_append] at hk ht
  rw [SelectStmt.splitQualified, target,
    WrittenName.splitAt_text h.keyspace_plain h.keyspace_dot]
  simp [hk, ht]

theorem read_render (h : q.Readable) : SelectStmt.read q.render = .ok q.stmt := by
  obtain ⟨hdrop, hdropU⟩ := drop_from h
  have hcross : ¬ q.lead.length + 7 + (q.selection.text q.gap).length < q.lead.length + 7 := by
    omega
  unfold SelectStmt.read
  simp only [render, String.toList_ofList, lead_length h, select_prefix h, find?_from h, hcross,
    hdrop, hdropU, find?_where h, find?_limit h, take_selection h, target_cut h, if_true, if_false,
    splitQualified_target h, selection_names h]
  cases hl : q.limit with
  | none =>
      simp only [Option.map_none, stmt, hl]
      rfl
  | some ds =>
      obtain ⟨hne, hdigits, hlt⟩ := h.limit_digits ds hl
      simp only [Option.map_some, limit_cut h hl,
        readBelow?_digits hne hdigits (b := Nat.pow 2 64) hlt, stmt, hl]
      rfl

end SelectText

end CqlBridge
