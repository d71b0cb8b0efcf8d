import Mathlib.Data.List.TakeWhile
import CqlBridge.Schema.Mapping
import CqlBridge.Proofs.TypeText

/-!
# `CqlBridge.Proofs.TypeName` — the name table and the type reader

A type name gets its relational type in two ways: by its stem in the name table
(`SqlType.ofTypeName?`), or by reading the name as a store type and taking the relational type
of its code (`SqlType.ofStoreType`). The two agree (`SqlType.ofTypeName?_eq_read?_map`) on

* a bare name with no `<`: a scalar's name, or `frozen`, a container's name or `udt` alone,
  which the reader takes as a scalar or as a user-defined type of that name;
* a name whose stem the table lacks, which both routes read: a quoted or bare user-defined
  type, a custom class, or text that reads as neither;
* a name with arguments that reads as a collection, a tuple or a user-defined type.

They can part where a name with arguments has its stem in the table but reads as a scalar or a
custom class: `frozen<int>` is `JSON` by its stem and `INTEGER` read, `int<text>` is `INTEGER`
and `VARCHAR`, and `udt<a>`, `list<int, int>` or `list<int> x` are `JSON` and `VARCHAR`; where
the stem's type is the read one, as for `text<a>` and the other stems of `VARCHAR`, they agree
there too. They part also on text that reads as the nameless user-defined type, the empty name
first.

Everything rests on what the stem of a readable text is (`SqlType.stem_cases_of_read?`): the
stem of a quoted name starts with the quote, the stem of a bare name is the name, and the stem
of an applied name that makes no custom class is `frozen` or a container's name.
-/

namespace CqlBridge

namespace Text

/-! ## Trimming

Trimming takes off blanks at both ends and nothing else: blank text around a middle that starts
and ends with no blank trims to the middle. -/

theorem trimChars_decompose (cs : List Char) :
    ∃ B₁ B₂, (∀ b ∈ B₁, isBlank b = true) ∧ (∀ b ∈ B₂, isBlank b = true) ∧
      cs = B₁ ++ trimChars cs ++ B₂ := by
  -- the leading blanks, then the rest; of the rest reversed, the trailing blanks, then the text
  have hfront := @List.takeWhile_append_dropWhile _ isBlank cs
  have hback := @List.takeWhile_append_dropWhile _ isBlank (cs.dropWhile isBlank).reverse
  refine ⟨cs.takeWhile isBlank, ((cs.dropWhile isBlank).reverse.takeWhile isBlank).reverse,
    fun b hb => List.mem_takeWhile_imp hb,
    fun b hb => List.mem_takeWhile_imp (List.mem_reverse.1 hb), ?_⟩
  have hrest : cs.dropWhile isBlank =
      trimChars cs ++ ((cs.dropWhile isBlank).reverse.takeWhile isBlank).reverse := by
    conv => lhs; rw [← List.reverse_reverse (cs.dropWhile isBlank), ← hback, List.reverse_append]
    rfl
  rw [List.append_assoc, ← hrest, hfront]

theorem trimChars_surround {B₁ M B₂ : List Char} (h₁ : ∀ b ∈ B₁, isBlank b = true)
    (h₂ : ∀ b ∈ B₂, isBlank b = true) (hhead : ∀ c ∈ M.head?, isBlank c = false)
    (hlast : ∀ c ∈ M.getLast?, isBlank c = false) : trimChars (B₁ ++ M ++ B₂) = M := by
  unfold trimChars
  rw [List.append_assoc, List.dropWhile_append_of_pos h₁]
  cases M with
  | nil =>
      rw [List.nil_append, List.dropWhile_eq_nil_iff.2 (fun b hb => h₂ b hb)]
      rfl
  | cons c M' =>
      rw [List.cons_append, List.dropWhile_cons_of_neg (by simp [hhead c rfl]), ← List.cons_append,
        List.reverse_append,
        List.dropWhile_append_of_pos (fun b hb => h₂ b (List.mem_reverse.1 hb))]
      obtain ⟨N, d, hNd⟩ : ∃ N d, c :: M' = N ++ [d] :=
        ⟨(c :: M').dropLast, (c :: M').getLast (List.cons_ne_nil c M'),
          (List.dropLast_concat_getLast (List.cons_ne_nil c M')).symm⟩
      have hd : isBlank d = false := hlast d (by rw [hNd]; simp)
      rw [hNd, List.reverse_append, List.reverse_singleton, List.singleton_append,
        List.dropWhile_cons_of_neg (by simp [hd])]
      simp

theorem trimChars_blank_cons {P : List Char} {c : Char} (hP : ∀ b ∈ P, isBlank b = true)
    (hc : isBlank c = false) (Y : List Char) : ∃ Z, trimChars (P ++ c :: Y) = c :: Z := by
  unfold trimChars
  rw [List.dropWhile_append_of_pos hP, List.dropWhile_cons_of_neg (by simp [hc]),
    List.reverse_cons, List.dropWhile_append]
  split
  · rw [List.dropWhile_cons_of_neg (by simp [hc])]
    exact ⟨[], rfl⟩
  · exact ⟨(Y.reverse.dropWhile isBlank).reverse, by simp⟩

theorem bne_of_isBlank {c d : Char} (hc : isBlank c = true) (hd : isBlank d = false) :
    (c != d) = true :=
  bne_iff_ne.2 (by rintro rfl; rw [hc] at hd; cases hd)

theorem isAlnum_of_isLower_toLower {c : Char} (h : c.toLower.isLower = true) :
    isAlnum c = true := by
  have hletter : 65 ≤ c.val.toNat ∧ c.val.toNat ≤ 90 ∨ 97 ≤ c.val.toNat ∧ c.val.toNat ≤ 122 := by
    unfold Char.toLower at h
    split at h
    · rename_i hc
      exact .inl (by simpa [UInt32.le_iff_toNat_le] using hc)
    · exact .inr (by simpa [Char.isLower, UInt32.le_iff_toNat_le] using h)
  have hascii : c.toNat < 0x80 := by
    show c.val.toNat < 0x80
    omega
  unfold isAlnum
  rw [if_pos hascii]
  simp only [Char.isAlphanum, Char.isAlpha, Char.isUpper, Char.isLower, Bool.or_eq_true,
    Bool.and_eq_true, decide_eq_true_eq, UInt32.le_iff_toNat_le]
  have hA : 'A'.val.toNat = 65 := rfl
  have hZ : 'Z'.val.toNat = 90 := rfl
  have ha : 'a'.val.toNat = 97 := rfl
  have hz : 'z'.val.toNat = 122 := rfl
  rw [hA, hZ, ha, hz]
  exact .inl hletter

end Text

namespace StoreType

/-! ## One type read at the front

An applied name makes a type other than a custom class only when it names `frozen`, a collection
or a tuple, in any case. Eating a character skips the blanks before it, so a text that reads as
anything but a custom class reads so at the front of its trimming, with nothing but blanks
after. -/

/-- What one type read at the front of a text is: a custom class, a user-defined type, or a bare
name standing alone or applied to arguments after a `<`. -/
theorem readType_succ_cases {f : Nat} {cs rest : List Char} {t : StoreType}
    (h : readType (f + 1) cs = some (t, rest)) :
    (∃ cls, t = .custom cls) ∨ (∃ n after, skipBlank cs = '"' :: after ∧ t = .udt n) ∨
      (eat '<' ((skipBlank cs).dropWhile isNameChar) = none ∧
        t = ofSimpleName ((skipBlank cs).takeWhile isNameChar) ∧
        rest = (skipBlank cs).dropWhile isNameChar) ∨
      ∃ inside args, eat '<' ((skipBlank cs).dropWhile isNameChar) = some inside ∧
        t = ofApplied ((skipBlank cs).takeWhile isNameChar) args := by
  unfold readType at h
  split at h
  · -- a class between single quotes
    exact .inl ⟨_, (Prod.mk.inj (Option.some.inj h)).1.symm⟩
  · -- a quoted name
    rename_i after hq
    obtain ⟨n, -, hn⟩ := Option.map_eq_some_iff.1 h
    exact .inr (.inl ⟨n, after, hq, (Prod.mk.inj hn).1.symm⟩)
  · -- a bare name: with a `.` a custom class, else standing alone or applied
    simp only at h
    split at h
    · exact .inl ⟨_, (Prod.mk.inj (Option.some.inj h)).1.symm⟩
    split at h
    · rename_i heat
      obtain ⟨rfl, rfl⟩ := Prod.mk.inj (Option.some.inj h)
      exact .inr (.inr (.inl ⟨heat, rfl, rfl⟩))
    · rename_i inside heat
      obtain ⟨⟨first, r⟩, -, h⟩ := Option.bind_eq_some_iff.1 h
      obtain ⟨⟨more, r'⟩, -, h⟩ := Option.bind_eq_some_iff.1 h
      exact .inr (.inr (.inr
        ⟨inside, first :: more, heat, (Prod.mk.inj (Option.some.inj h)).1.symm⟩))

theorem lower_mem_of_ofApplied {name : List Char} {args : List StoreType}
    (h : ∀ cls, ofApplied name args ≠ .custom cls) :
    String.ofList (name.map Char.toLower) ∈ ["frozen", "list", "set", "map", "tuple"] := by
  unfold ofApplied at h
  split at h <;> simp_all

theorem isBlank_of_isNameChar {c : Char} (h : isNameChar c = true) : Text.isBlank c = false := by
  simp only [isNameChar, Bool.or_eq_true, beq_iff_eq] at h
  rcases h with (h | rfl) | rfl
  · exact Text.isBlank_of_isAlnum h
  · decide
  · decide

theorem eat_eq_some {c : Char} {cs rest : List Char} (h : eat c cs = some rest) :
    skipBlank cs = c :: rest := by
  unfold eat at h
  split at h
  · rename_i d ds hds
    split at h
    · rename_i hd
      rw [hds, show d = c by simpa using hd, Option.some.inj h]
    · cases h
  · cases h

theorem blank_before_of_eat {D inside : List Char} (heat : eat '<' D = some inside)
    (B : List Char) : ∀ b ∈ (D ++ B).takeWhile (· != '<'), Text.isBlank b = true := by
  have hD : D ++ B = D.takeWhile Text.isBlank ++ ('<' :: (inside ++ B)) := by
    rw [← List.cons_append, ← eat_eq_some heat, skipBlank, ← List.append_assoc,
      List.takeWhile_append_dropWhile]
  have hlt : ∀ c ∈ D.takeWhile Text.isBlank, (c != '<') = true :=
    fun c hc => Text.bne_of_isBlank (List.mem_takeWhile_imp hc) (by decide)
  rw [hD, List.takeWhile_append_of_pos hlt, List.takeWhile_cons_of_neg (by decide),
    List.append_nil]
  exact fun b hb => List.mem_takeWhile_imp hb

theorem readType_of_read? {s : String} {t : StoreType} (h : read? s = some t)
    (hcustom : ∀ cls, t ≠ .custom cls) :
    ∃ rest, readType (2 * (Text.trimChars s.toList).length + 1 + 1) (Text.trimChars s.toList) =
      some (t, rest) ∧ skipBlank rest = [] := by
  unfold read? at h
  simp only at h
  split at h
  · cases h
  · rename_i t₀ rest hr
    split at h
    · rename_i hempty
      exact ⟨rest, by rw [← Option.some.inj h]; exact hr, by simpa using hempty⟩
    · exact absurd (Option.some.inj h).symm (hcustom _)

theorem toList_eq_skipBlank_trimChars (s : String) :
    ∃ P B, (∀ b ∈ P, Text.isBlank b = true) ∧ (∀ b ∈ B, Text.isBlank b = true) ∧
      s.toList = P ++ skipBlank (Text.trimChars s.toList) ++ B := by
  obtain ⟨B₁, B₂, hB₁, hB₂, hcs⟩ := Text.trimChars_decompose s.toList
  refine ⟨B₁ ++ (Text.trimChars s.toList).takeWhile Text.isBlank, B₂, fun b hb => ?_, hB₂, ?_⟩
  · rcases List.mem_append.1 hb with hb | hb
    · exact hB₁ b hb
    · exact List.mem_takeWhile_imp hb
  · rw [List.append_assoc B₁, skipBlank, List.takeWhile_append_dropWhile]
    exact hcs

end StoreType

namespace SqlType

open StoreType Text

/-! ## The stem of a readable text

Every name of the name table is written in lower-case ASCII letters, and `frozen` and the names
of the collections and tuples map to `JSON`. A quoted text has a stem the table lacks; a text
read as a scalar or a container has one the table holds; a text with a `<` that reads as a
collection, a tuple or a user-defined type has one the table lacks or maps to `JSON`; and the
stem of a text with no `<` is the whole text, trimmed, in lower case. -/

theorem isLower_of_ofStemName? {w : String} {ty : SqlType} (h : ofStemName? w = some ty) :
    w.toList.all Char.isLower = true := by
  unfold ofStemName? at h
  split at h
  · rename_i sc hsc
    have hname : sc.name = w := by simpa using List.find?_some hsc
    rw [← hname]
    cases sc <;> decide
  · split at h
    · rename_i hmem
      simp only [List.contains_iff_mem, List.mem_cons, List.not_mem_nil, or_false] at hmem
      rcases hmem with rfl | rfl | rfl | rfl | rfl | rfl <;> decide
    · cases h

theorem stem_eq_of_split {s : String} {P name R : List Char} (hs : s.toList = P ++ name ++ R)
    (hP : ∀ b ∈ P, isBlank b = true) (hname : ∀ c ∈ name, isNameChar c = true)
    (hR : ∀ b ∈ R.takeWhile (· != '<'), isBlank b = true) :
    stem s = String.ofList (name.map Char.toLower) := by
  have hnot : ∀ c ∈ P ++ name, (c != '<') = true := by
    intro c hc
    rcases List.mem_append.1 hc with hc | hc
    · exact bne_of_isBlank (hP c hc) (by decide)
    · exact bne_iff_ne.2 (by rintro rfl; exact absurd (hname _ hc) (by decide))
  have hends : ∀ c ∈ name, isBlank c = false := fun c hc => isBlank_of_isNameChar (hname c hc)
  unfold stem
  rw [hs, List.takeWhile_append_of_pos hnot,
    trimChars_surround hP hR (fun c hc => hends c (List.mem_of_mem_head? hc))
      (fun c hc => hends c (List.mem_of_mem_getLast? hc))]

theorem ofStemName?_eq_none_of_mem {w : String} {c : Char} (hc : c ∈ w.toList)
    (hlow : c.isLower = false) : ofStemName? w = none := by
  rcases h : ofStemName? w with _ | ty
  · rfl
  · have hc' := List.all_eq_true.1 (isLower_of_ofStemName? h) c hc
    rw [hlow] at hc'
    cases hc'

theorem ofStemName?_container {w : String} (h : w ∈ ["frozen", "list", "set", "map", "tuple"]) :
    ofStemName? w = some .json := by
  simp only [List.mem_cons, List.not_mem_nil, or_false] at h
  rcases h with rfl | rfl | rfl | rfl | rfl <;> decide

theorem ofStemName?_stem_quoted {s : String} {P X : List Char} (hP : ∀ b ∈ P, isBlank b = true)
    (hs : s.toList = P ++ '"' :: X) : ofStemName? (stem s) = none := by
  obtain ⟨Z, hZ⟩ := @trimChars_blank_cons _ '"' hP (by decide) (X.takeWhile (· != '<'))
  have hstem : '"' ∈ (stem s).toList := by
    unfold stem
    rw [hs, List.takeWhile_append_of_pos fun c hc => bne_of_isBlank (hP c hc) (by decide),
      List.takeWhile_cons_of_pos (by decide), hZ]
    simp
  exact ofStemName?_eq_none_of_mem hstem (by decide)

/-- **What the stem of a readable text is.** A text that reads as anything but a custom class
is a quoted name, whose stem starts with the quote and is not in the name table; a bare name
alone, whose stem is the name and which has no `<`; or `frozen`, a collection's or a tuple's
name applied to arguments, which is then its stem. -/
theorem stem_cases_of_read? {s : String} {t : StoreType} (h : read? s = some t)
    (hcustom : ∀ cls, t ≠ .custom cls) :
    ((∃ n, t = .udt n) ∧ ofStemName? (stem s) = none) ∨
      (∃ name, t = ofSimpleName name ∧ stem s = String.ofList (name.map Char.toLower) ∧
        '<' ∉ s.toList) ∨
      stem s ∈ ["frozen", "list", "set", "map", "tuple"] := by
  obtain ⟨rest, hread, hrest⟩ := readType_of_read? h hcustom
  obtain ⟨P, B, hP, hB, hs⟩ := toList_eq_skipBlank_trimChars s
  have hcases := readType_succ_cases hread
  generalize skipBlank (trimChars s.toList) = front at hcases hs
  -- after the blanks: the name at the front, and what follows it
  have hsplit :
      s.toList = P ++ front.takeWhile isNameChar ++ (front.dropWhile isNameChar ++ B) := by
    have hfront : front = front.takeWhile isNameChar ++ front.dropWhile isNameChar :=
      List.takeWhile_append_dropWhile.symm
    rw [hs]
    conv => lhs; rw [hfront]
    simp only [List.append_assoc]
  have hname : ∀ c ∈ front.takeWhile isNameChar, isNameChar c = true :=
    fun c hc => List.mem_takeWhile_imp hc
  rcases hcases with ⟨cls, rfl⟩ | ⟨n, after, hq, rfl⟩ | ⟨-, rfl, rfl⟩ | ⟨inside, args, heat, rfl⟩
  · exact absurd rfl (hcustom cls)
  · -- a quoted name
    exact .inl ⟨⟨n, rfl⟩, @ofStemName?_stem_quoted s P (after ++ B) hP
      (by rw [hs, hq, List.append_assoc, List.cons_append])⟩
  · -- a name standing alone, followed by blanks only
    have hafter := List.dropWhile_eq_nil_iff.1 hrest
    have hR : ∀ b ∈ front.dropWhile isNameChar ++ B, isBlank b = true := by
      intro b hb
      rcases List.mem_append.1 hb with hb | hb
      · simpa using hafter b hb
      · exact hB b hb
    refine .inr (.inl ⟨_, rfl,
      stem_eq_of_split hsplit hP hname fun b hb => hR b (List.takeWhile_subset _ hb), ?_⟩)
    rw [hsplit]
    intro hmem
    rcases List.mem_append.1 hmem with hmem | hmem
    · rcases List.mem_append.1 hmem with hmem | hmem
      · exact absurd (hP _ hmem) (by decide)
      · exact absurd (hname _ hmem) (by decide)
    · exact absurd (hR _ hmem) (by decide)
  · -- a name applied to arguments: blanks and the `<` follow the name
    rw [stem_eq_of_split hsplit hP hname (blank_before_of_eat heat B)]
    exact .inr (.inr (lower_mem_of_ofApplied hcustom))

theorem ofStemName?_stem_ne_none {s : String} {t : StoreType} (h : read? s = some t)
    (hudt : ∀ n, t ≠ .udt n) (hcustom : ∀ cls, t ≠ .custom cls) : ofStemName? (stem s) ≠ none := by
  rcases stem_cases_of_read? h hcustom with ⟨⟨n, rfl⟩, -⟩ | ⟨name, rfl, hstem, -⟩ | hword
  · exact absurd rfl (hudt n)
  · -- a scalar's name standing alone
    unfold ofSimpleName at hudt
    split at hudt
    · rename_i sc hsc
      simp [hstem, ofStemName?, hsc]
    · exact absurd rfl (hudt _)
  · simp [ofStemName?_container hword]

theorem ofStemName?_stem_of_isCollection {s : String} {t : StoreType} (h : read? s = some t)
    (hcoll : t.isCollection = true) (hlt : '<' ∈ s.toList) :
    ofStemName? (stem s) = none ∨ ofStemName? (stem s) = some .json := by
  have hcustom : ∀ cls, t ≠ .custom cls := by
    rintro cls rfl
    cases hcoll
  rcases stem_cases_of_read? h hcustom with ⟨-, hnone⟩ | ⟨-, -, -, hno⟩ | hword
  · exact .inl hnone
  · exact absurd hlt hno
  · exact .inr (ofStemName?_container hword)

theorem ofStoreType_of_isCollection {t : StoreType} (h : t.isCollection = true) :
    ofStoreType t = .json := by
  cases t with
  | scalar _ | custom _ => cases h
  | _ => simp only [ofStoreType, StoreType.code]; decide

theorem stem_of_not_mem {s : String} (h : '<' ∉ s.toList) :
    stem s = String.ofList ((trimChars s.toList).map Char.toLower) := by
  unfold stem
  rw [List.takeWhile_eq_self_iff.2 fun c hc => bne_iff_ne.2 (by rintro rfl; exact h hc)]

/-- A text with no `<` whose stem is in the name table is a bare name of ASCII letters; it reads
without a fault as that name, and the two tables agree on it. -/
theorem read?_map_of_ofStemName? {s : String} {ty : SqlType} (h : ofStemName? (stem s) = some ty)
    (hlt : '<' ∉ s.toList) : (read? s).map ofStoreType = some ty := by
  rw [stem_of_not_mem hlt] at h
  set input := trimChars s.toList with hinput
  have hlower := isLower_of_ofStemName? h
  have hchars : ∀ c ∈ input,
      (isNameChar c = true ∧ c ≠ '.') ∧ isBlank c = false ∧ c ≠ '\'' ∧ c ≠ '"' := by
    intro c hc
    have hlow : c.toLower.isLower = true := by
      rw [String.toList_ofList, List.all_eq_true] at hlower
      exact hlower _ (List.mem_map_of_mem hc)
    exact udtChar (.inl (isAlnum_of_isLower_toLower hlow))
  have hread := @readType_name input [] (2 * input.length + 1) (fun c hc => (hchars c hc).1)
    (fun c hc => (hchars c (List.mem_of_mem_head? hc)).2) (by simp [Follows])
  rw [List.append_nil] at hread
  have hs : read? s = some (ofSimpleName input) := by
    simp [read?, ← hinput, hread, skipBlank]
  rw [hs, Option.map_some]
  unfold ofSimpleName
  unfold ofStemName? at h
  rcases hsc : Scalar.ofName? (String.ofList (input.map Char.toLower)) with _ | sc
  · simp only [hsc] at h
    split at h
    · rw [← Option.some.inj h]
      rfl
    · cases h
  · simp only [hsc, Option.some.injEq] at h
    rw [← h]
    rfl

/-- **The name table and the reader agree** on a type name that does not read as the nameless
user-defined type, when the name has no `<`, or its stem is not in the name table, or it reads
as a collection, a tuple or a user-defined type. -/
theorem ofTypeName?_eq_read?_map {s : String} (hudt : read? s ≠ some (.udt ""))
    (hwell : '<' ∈ s.toList → ofStemName? (stem s) ≠ none →
      ∃ t, read? s = some t ∧ t.isCollection = true) :
    ofTypeName? s = (read? s).map ofStoreType := by
  rcases hst : ofStemName? (stem s) with _ | ty
  · -- a stem outside the name table: both routes read the text
    unfold ofTypeName?
    rw [hst]
    rcases hr : read? s with _ | t
    · rfl
    · simp only [Option.map_some, Option.some.injEq]
      -- a scalar or a container would have its stem in the table
      have hne : (∀ n, t ≠ .udt n) → (∀ cls, t ≠ .custom cls) → False :=
        fun hu hc => absurd hst (ofStemName?_stem_ne_none hr hu hc)
      cases t with
      | udt n =>
          have hn : n ≠ "" := fun e => hudt (by rw [hr, e])
          simp [hn]
      | custom cls => rfl
      | scalar sc => exact (hne nofun nofun).elim
      | list u => exact (hne nofun nofun).elim
      | set u => exact (hne nofun nofun).elim
      | map k v => exact (hne nofun nofun).elim
      | tuple us => exact (hne nofun nofun).elim
  · by_cases hlt : '<' ∈ s.toList
    · -- a name with arguments, read as a collection: `JSON` both ways
      obtain ⟨t, hr, hcoll⟩ := hwell hlt (by simp [hst])
      have hjson : ty = .json := by
        rcases ofStemName?_stem_of_isCollection hr hcoll hlt with h | h <;> rw [hst] at h
        · cases h
        · exact Option.some.inj h
      rw [hr, Option.map_some, ofStoreType_of_isCollection hcoll, ← hjson]
      simp [ofTypeName?, hst]
    · -- a bare name in the table
      rw [read?_map_of_ofStemName? hst hlt]
      simp [ofTypeName?, hst]

theorem ofTypeName?_eq_read?_map_nested :
    let s := "map<text, frozen<list<int>>>"
    read? s = some (.map (.scalar .text) (.list (.scalar .int))) ∧
      ofTypeName? s = (read? s).map ofStoreType := by
  intro s
  have hr : read? s = some (.map (.scalar .text) (.list (.scalar .int))) := by cbv
  exact ⟨hr, ofTypeName?_eq_read?_map (by rw [hr]; simp) fun _ _ => ⟨_, hr, rfl⟩⟩

/-- A frozen scalar: the name table maps the stem `frozen` to `JSON`, while the reader unwraps
`frozen` to the scalar, which maps to `INTEGER`. -/
theorem ofTypeName?_frozen_scalar :
    ofTypeName? "frozen<int>" = some .json ∧
      (read? "frozen<int>").map ofStoreType = some .integer :=
  ⟨by decide +kernel, by decide +kernel⟩

end SqlType

end CqlBridge
