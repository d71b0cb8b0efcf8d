import CqlBridge.Cluster.Select
import CqlBridge.Schema.Names

/-!
# `CqlBridge.Proofs.Text` — searching, splitting and trimming quoted text

The facts the statement reader needs about the text helpers:

* `Text.find?` finds nothing exactly when the pattern is no infix (`find?_eq_none_iff`), and a
  character the pattern lacks cuts every search in two (`find?_append_cons_eq_none`);
* doubling the quotes of a name hides no pattern without quotes (`find?_doubled`), and
  upper-casing commutes with it;
* splitting at a separator, trimming blanks and unquoting take a list of quoted names apart
  again.
-/

namespace CqlBridge.Text

/-- A text with each double quote written twice, as a quoted name holds it. -/
def doubled (cs : List Char) : List Char :=
  cs.flatMap fun c => if c == '"' then ['"', '"'] else [c]

@[simp] theorem doubled_nil : doubled [] = [] := rfl

@[simp] theorem doubled_cons (c : Char) (cs : List Char) :
    doubled (c :: cs) = if c = '"' then '"' :: '"' :: doubled cs else c :: doubled cs := by
  by_cases h : c = '"' <;> simp [doubled, h]

theorem mem_doubled {d : Char} {cs : List Char} (hd : d ≠ '"') : d ∈ doubled cs ↔ d ∈ cs := by
  induction cs with
  | nil => simp
  | cons c cs ih =>
      rw [doubled_cons]
      split
      · rename_i hc
        subst hc
        simp [hd, ih]
      · simp [ih]

@[simp] theorem quoteIdent_toList (name : String) :
    (quoteIdent name).toList = '"' :: doubled name.toList ++ ['"'] := by
  simp [quoteIdent, doubled]

/-! ## Finding a pattern

No text has a place before its first character. A character the pattern lacks cuts the text in
two, the pattern occurring on one side, so a pattern that starts right after a text where it
does not occur, and whose last character that text lacks, is found there first. -/

theorem find?_eq_none_iff (pat cs : List Char) : find? pat cs = none ↔ ¬ pat <:+: cs := by
  induction cs with
  | nil => cases pat <;> simp [find?]
  | cons c cs ih =>
      simp only [find?, List.isPrefixOf_iff_prefix, List.infix_cons_iff, not_or]
      split
      · rename_i h
        simp [h]
      · rename_i h
        simp [h, ih]

theorem prefix_of_prefix_append_cons {pat X Y : List Char} {d : Char} (hd : d ∉ pat)
    (h : pat <+: X ++ d :: Y) : pat <+: X := by
  rw [List.prefix_iff_eq_take] at h
  by_cases hlen : pat.length ≤ X.length
  · rw [List.take_append_of_le_length hlen] at h
    rw [h]
    exact List.take_prefix _ _
  · -- a longer prefix reaches `d`, which the pattern lacks
    have hmem : d ∈ (X ++ d :: Y).take pat.length := by
      rw [List.take_append, List.take_of_length_le (by omega)]
      obtain ⟨k, hk⟩ : ∃ k, pat.length - X.length = k + 1 := ⟨pat.length - X.length - 1, by omega⟩
      simp [hk]
    rw [← h] at hmem
    exact absurd hmem hd

theorem infix_append_cons_iff {pat X Y : List Char} {d : Char} (hd : d ∉ pat) :
    pat <:+: X ++ d :: Y ↔ pat <:+: X ∨ pat <:+: Y := by
  induction X with
  | nil =>
      simp only [List.nil_append, List.infix_cons_iff]
      constructor
      · rintro (h | h)
        · have hnil : pat = [] := List.prefix_nil.1 (prefix_of_prefix_append_cons (X := []) hd h)
          subst hnil
          exact .inl List.nil_infix
        · exact .inr h
      · rintro (h | h)
        · rw [List.infix_nil] at h
          subst h
          exact .inr List.nil_infix
        · exact .inr h
  | cons x X ih =>
      simp only [List.cons_append, List.infix_cons_iff]
      constructor
      · rintro (h | h)
        · exact .inl (.inl (prefix_of_prefix_append_cons hd h))
        · rcases ih.1 h with h | h
          · exact .inl (.inr h)
          · exact .inr h
      · rintro ((h | h) | h)
        · exact .inl (h.trans (List.prefix_append _ _))
        · exact .inr (ih.2 (.inl h))
        · exact .inr (ih.2 (.inr h))

theorem find?_append_cons_eq_none {pat X Y : List Char} {d : Char} (hd : d ∉ pat) :
    find? pat (X ++ d :: Y) = none ↔ find? pat X = none ∧ find? pat Y = none := by
  simp only [find?_eq_none_iff, infix_append_cons_iff hd, not_or]

theorem find?_append_of_prefix {pat A B : List Char} (hA : find? pat A = none)
    (hlast : ∀ c ∈ A.getLast?, c ∉ pat) (hB : pat <+: B) : find? pat (A ++ B) = some A.length := by
  induction A with
  | nil =>
      cases B with
      | nil =>
          rw [List.prefix_nil] at hB
          subst hB
          rfl
      | cons b B => simp [find?, List.isPrefixOf_iff_prefix.2 hB]
  | cons a A ih =>
      rw [find?_eq_none_iff, List.infix_cons_iff, not_or] at hA
      obtain ⟨hfront, hrest⟩ := hA
      -- a match at the front lies inside the text or covers its last character
      have hnot : ¬ pat <+: a :: (A ++ B) := by
        intro h
        by_cases hlen : pat.length ≤ (a :: A).length
        · exact hfront (List.prefix_of_prefix_length_le h (List.prefix_append (a :: A) B) hlen)
        · have hA : a :: A <+: pat :=
            List.prefix_of_prefix_length_le (List.prefix_append (a :: A) B) h (by omega)
          have hmem : (a :: A).getLast (List.cons_ne_nil a A) ∈ pat :=
            hA.subset (List.getLast_mem _)
          exact hlast _ (by simp [List.getLast?_eq_some_getLast]) hmem
      have htail : find? pat (A ++ B) = some A.length := by
        apply ih ((find?_eq_none_iff _ _).2 hrest)
        intro c hc
        apply hlast c
        simp only [Option.mem_def] at hc
        simp [List.getLast?_cons, hc]
      simp only [List.cons_append, find?, List.isPrefixOf_iff_prefix]
      rw [if_neg hnot, htail]
      rfl

theorem find?_nil_eq_none {pat X : List Char} (h : find? pat X = none) : find? pat [] = none := by
  rw [find?_eq_none_iff] at h ⊢
  intro hnil
  rw [List.infix_nil] at hnil
  subst hnil
  exact h List.nil_infix

/-! ## Doubled quotes

A quoted name is the name with its quotes doubled, between two quotes; upper-casing makes a
quote only of a quote. -/

theorem eq_quote_of_toUpper {c : Char} (h : c.toUpper = '"') : c = '"' := by
  unfold Char.toUpper at h
  split at h
  · rename_i hc
    have hv := congrArg (fun ch => ch.val.toNat) h
    simp only at hv
    simp only [UInt32.le_iff_toNat_le] at hc
    rw [UInt32.toNat_add] at hv
    simp at hv hc
    omega
  · exact h

theorem map_toUpper_doubled (cs : List Char) :
    (doubled cs).map Char.toUpper = doubled (cs.map Char.toUpper) := by
  induction cs with
  | nil => rfl
  | cons c cs ih =>
      by_cases hc : c = '"'
      · subst hc
        simp [ih]
      · have hup : c.toUpper ≠ '"' := fun h => hc (eq_quote_of_toUpper h)
        simp [hc, hup, ih]

/-- Doubling quotes hides no pattern without quotes: the pattern occurs after any text `X`
followed by the doubled text exactly when it occurs after `X` followed by the text. The
induction runs over the text, with the part before it generalized. -/
theorem find?_append_doubled {pat : List Char} (hq : '"' ∉ pat) (cs : List Char) :
    ∀ X : List Char, find? pat (X ++ doubled cs) = none ↔ find? pat (X ++ cs) = none := by
  induction cs with
  | nil => intro X; simp
  | cons c cs ih =>
      intro X
      rw [doubled_cons]
      split
      · rename_i hc
        subst hc
        have hdoubled : find? pat ('"' :: doubled cs) = none ↔
            find? pat [] = none ∧ find? pat cs = none := by
          rw [← List.nil_append ('"' :: doubled cs), find?_append_cons_eq_none hq,
            ← List.nil_append (doubled cs), ih [], List.nil_append]
        rw [find?_append_cons_eq_none hq, find?_append_cons_eq_none hq, hdoubled]
        constructor
        · rintro ⟨hX, -, hcs⟩
          exact ⟨hX, hcs⟩
        · rintro ⟨hX, hcs⟩
          exact ⟨hX, find?_nil_eq_none hX, hcs⟩
      · have h := ih (X ++ [c])
        simp only [List.append_assoc, List.singleton_append] at h
        exact h

theorem find?_doubled {pat : List Char} (hq : '"' ∉ pat) (cs : List Char) :
    find? pat (doubled cs) = none ↔ find? pat cs = none :=
  find?_append_doubled hq cs []

/-! ## Splitting and trimming

Trimming drops leading blanks and stops at characters that are not blank at both ends, so a
text that neither starts nor ends with a blank is its own trimming. Inside quotes a doubled text
is read through, no `.` in it splitting, and a quoted name after any blanks unquotes to the
name. -/

theorem splitOn_of_not_mem {sep : Char} {X : List Char} (h : sep ∉ X) : splitOn sep X = [X] := by
  induction X with
  | nil => rfl
  | cons c X ih =>
      have hc : c ≠ sep := fun hc => h (hc ▸ List.mem_cons_self)
      have hX : sep ∉ X := fun hx => h (List.mem_cons_of_mem _ hx)
      simp [splitOn, ih hX, hc]

theorem splitOn_append_cons {sep : Char} {X : List Char} (Y : List Char) (h : sep ∉ X) :
    splitOn sep (X ++ sep :: Y) = X :: splitOn sep Y := by
  induction X with
  | nil => simp [splitOn]
  | cons c X ih =>
      have hc : c ≠ sep := fun hc => h (hc ▸ List.mem_cons_self)
      have hX : sep ∉ X := fun hx => h (List.mem_cons_of_mem _ hx)
      simp [splitOn, ih hX, hc]

theorem trimChars_eq_self {cs : List Char} (hhead : ∀ c ∈ cs.head?, isBlank c = false)
    (hlast : ∀ c ∈ cs.getLast?, isBlank c = false) : trimChars cs = cs := by
  cases cs with
  | nil => rfl
  | cons c cs =>
      have hc : isBlank c = false := hhead c rfl
      unfold trimChars
      rw [List.dropWhile_cons_of_neg (by simp [hc])]
      obtain ⟨M, d, hMd⟩ : ∃ M d, c :: cs = M ++ [d] :=
        ⟨(c :: cs).dropLast, (c :: cs).getLast (List.cons_ne_nil c cs),
          (List.dropLast_concat_getLast (List.cons_ne_nil c cs)).symm⟩
      have hd : isBlank d = false := hlast d (by rw [hMd]; simp)
      rw [hMd, List.reverse_append, List.reverse_singleton, List.singleton_append,
        List.dropWhile_cons_of_neg (by simp [hd])]
      simp

theorem trimChars_blank_append {B M : List Char} {c d : Char} (hB : ∀ b ∈ B, isBlank b = true)
    (hc : isBlank c = false) (hd : isBlank d = false) :
    trimChars (B ++ c :: (M ++ [d])) = c :: (M ++ [d]) := by
  unfold trimChars
  rw [List.dropWhile_append_of_pos hB, List.dropWhile_cons_of_neg (by simp [hc])]
  rw [show (c :: (M ++ [d])).reverse = d :: (c :: M).reverse by simp]
  rw [List.dropWhile_cons_of_neg (by simp [hd])]
  simp

end CqlBridge.Text

namespace CqlBridge.SelectStmt

open Text

@[simp] theorem undouble_doubled (cs : List Char) : undouble (doubled cs) = cs := by
  induction cs with
  | nil => rfl
  | cons c cs ih =>
      rw [doubled_cons]
      split
      · rename_i hc
        subst hc
        simp [undouble, ih]
      · rename_i hc
        cases hd : doubled cs with
        | nil => simp_all [undouble]
        | cons e es =>
            rw [← hd]
            simp [undouble, hc, ih]

theorem splitAt_doubled (cs rest acc : List Char) :
    splitAt true acc (doubled cs ++ rest) = splitAt true ((doubled cs).reverse ++ acc) rest := by
  induction cs generalizing acc with
  | nil => rfl
  | cons c cs ih =>
      rw [doubled_cons]
      split
      · rename_i hc
        subst hc
        simp [splitAt, ih]
      · rename_i hc
        have hc' : (c == '"') = false := by simpa using hc
        simp [splitAt, hc', ih]

theorem unquoteName_quoted {B : List Char} (hB : ∀ b ∈ B, isBlank b = true) (cs : List Char) :
    unquoteName (B ++ '"' :: (doubled cs ++ ['"'])) = String.ofList cs := by
  unfold unquoteName
  rw [trimChars_blank_append hB (by decide) (by decide)]
  obtain ⟨x, xs, hx⟩ : ∃ x xs, doubled cs ++ ['"'] = x :: xs := by
    cases hd : doubled cs with
    | nil => exact ⟨'"', [], rfl⟩
    | cons e es => exact ⟨e, es ++ ['"'], rfl⟩
  rw [hx]
  simp only
  rw [← hx]
  simp

theorem dropSemicolons_of_last {X : List Char} {d : Char} (hd : d ≠ ';') :
    dropSemicolons (X ++ [d]) = X ++ [d] := by
  unfold dropSemicolons
  simp [List.dropWhile_cons_of_neg, hd]

end CqlBridge.SelectStmt
