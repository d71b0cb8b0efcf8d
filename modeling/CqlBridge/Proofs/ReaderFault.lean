import CqlBridge.Proofs.QuotedName
import CqlBridge.Proofs.TypeName

/-!
# `CqlBridge.Proofs.ReaderFault` — the type reader always ends, and faults on one shape only

The type reader descends into the arguments of an applied name and, within them, from one
argument to the next. Each descent eats a `<` or a `,`, so it never needs more nested reads than
the text has characters: with fuel above the text's length its answer no longer depends on the
fuel (`reader_fuel`), and `read?` gives it more than that.

Where reading comes to a type is said by `ReachesType`: the text itself after its blanks, or a
place in an argument list of a name applied with `<` (`Opens`), every argument before it read
whole. The reader faults exactly when it comes to a double-quoted name that is still open at the
end of the text (`OpenQuoted`), and the text's last character is not ASCII: cutting the last byte
off such a name falls inside that character (`read?_eq_none_iff`).

| part | lemma |
|---|---|
| one step of the reader, by the shape of the text | `readType_quote`, `readType_opens`, `readArgs_of_eat` |
| what is left after a read is a suffix | `reader_suffix` |
| fuel above the length is enough | `reader_fuel` |
| a fault needs a reached open name | `reaches_of_eq_none` |
| a reached open name faults | `readType_eq_none_of_reaches` |
-/

namespace CqlBridge.StoreType

open Text

/-! ## One step of the reader

Where a read is no applied name, the fuel does not matter; a read that fails with fuel left met
a quoted name that does not unquote, or a name applied to arguments. -/

/-- After the blanks of `cs`, a bare name with no `.`, then `<`, and `inside` after it: a name
applied to arguments. -/
def Opens (cs inside : List Char) : Prop :=
  '.' ∉ (skipBlank cs).takeWhile isNameChar ∧
    eat '<' ((skipBlank cs).dropWhile isNameChar) = some inside

/-- The text after an opening double quote never closes the name: each quote in it is one of a
doubled pair. -/
def OpenQuoted (r : List Char) : Prop := ∃ n, r = doubled n

/-- The reader with fuel enough for `cs`: one unit more than `cs` is long. -/
def readAt (cs : List Char) : Option (StoreType × List Char) := readType (cs.length + 1) cs

theorem readType_quote {cs rest : List Char} (h : skipBlank cs = '"' :: rest) (f : Nat) :
    readType (f + 1) cs =
      (unquote (quotedRaw rest).1).map fun n => (.udt n, (quotedRaw rest).2) := by
  rw [readType.eq_2, h]
  rfl

theorem readType_opens {cs inside : List Char} (h : Opens cs inside) (f : Nat) :
    readType (f + 1) cs = (readType f inside).bind fun p => (readArgs f p.2).bind fun q =>
      some (ofApplied ((skipBlank cs).takeWhile isNameChar) (p.1 :: q.1), (eat '>' q.2).getD q.2) := by
  obtain ⟨hdot, heat⟩ := h
  have hname : ((skipBlank cs).takeWhile isNameChar).contains '.' = false := by simpa using hdot
  rw [readType.eq_2]
  split
  -- a text that starts with a quote is no bare name, so no `<` follows one
  · rename_i rest hq
    rw [hq] at heat
    simp [eat, skipBlank, show isNameChar '\'' = false by decide,
      show isBlank '\'' = false by decide] at heat
  · rename_i rest hq
    rw [hq] at heat
    simp [eat, skipBlank, show isNameChar '"' = false by decide,
      show isBlank '"' = false by decide] at heat
  · simp only [hname, heat, Bool.false_eq_true, if_false]
    rfl

theorem readType_succ_of_not_opens {cs : List Char} (h : ∀ inside, ¬ Opens cs inside)
    (f g : Nat) : readType (f + 1) cs = readType (g + 1) cs := by
  rw [readType.eq_2, readType.eq_2]
  split
  · rfl
  · rfl
  · simp only
    split
    · rfl
    · rename_i hdot
      split
      · rfl
      · rename_i inside heat
        exact absurd ⟨by simpa using hdot, heat⟩ (h inside)

theorem readArgs_of_eat {cs r : List Char} (h : eat ',' cs = some r) (f : Nat) :
    readArgs (f + 1) cs = (readType f r).bind fun p => (readArgs f p.2).bind fun q =>
      some (p.1 :: q.1, q.2) := by
  simp only [readArgs, h]
  rfl

theorem readArgs_of_eat_none {cs : List Char} (h : eat ',' cs = none) (f : Nat) :
    readArgs (f + 1) cs = some ([], cs) := by
  simp [readArgs, h]

theorem readType_succ_eq_none {f : Nat} {cs : List Char} (h : readType (f + 1) cs = none) :
    (∃ rest, skipBlank cs = '"' :: rest ∧ unquote (quotedRaw rest).1 = none) ∨
      ∃ inside, Opens cs inside := by
  rw [readType.eq_2] at h
  split at h
  · cases h
  · rename_i rest hq
    exact .inl ⟨rest, hq, by simpa using h⟩
  · simp only at h
    split at h
    · cases h
    · rename_i hdot
      split at h
      · cases h
      · rename_i inside heat
        exact .inr ⟨inside, by simpa using hdot, heat⟩

/-! ## What is left after a read

What is left after reading a type, or further arguments, is a suffix of the text read; a name
applied with `<` has its arguments strictly inside the text. -/

theorem skipBlank_suffix (cs : List Char) : skipBlank cs <:+ cs := List.dropWhile_suffix _

theorem eat_suffix {c : Char} {cs r : List Char} (h : eat c cs = some r) : (c :: r) <:+ cs :=
  eat_eq_some h ▸ skipBlank_suffix cs

theorem getD_eat_suffix (c : Char) (cs : List Char) : (eat c cs).getD cs <:+ cs := by
  cases h : eat c cs with
  | none => exact List.suffix_refl cs
  | some r => exact (List.suffix_cons c r).trans (eat_suffix h)

theorem Opens.suffix {cs inside : List Char} (h : Opens cs inside) : ('<' :: inside) <:+ cs :=
  (eat_suffix h.2).trans ((List.dropWhile_suffix _).trans (skipBlank_suffix cs))

theorem quotedRaw_suffix (rest : List Char) : (quotedRaw rest).2 <:+ rest := by
  rcases quotedRaw_cases rest with ⟨n, rfl⟩ | ⟨n, after, rfl, hafter⟩
  · rw [quotedRaw_open]
    exact List.nil_suffix
  · rw [quotedRaw_closed n hafter]
    exact (List.suffix_cons _ _).trans (List.suffix_append _ _)

theorem reader_suffix (f : Nat) :
    (∀ cs t r, readType f cs = some (t, r) → r <:+ cs) ∧
      (∀ cs ts r, readArgs f cs = some (ts, r) → r <:+ cs) := by
  -- on the fuel; the applied case chains the suffixes its argument reads leave
  induction f with
  | zero =>
      refine ⟨fun cs t r h => ?_, fun cs ts r h => ?_⟩ <;>
        simp only [readType, readArgs, Option.some.injEq, Prod.mk.injEq] at h <;>
        exact h.2 ▸ List.suffix_refl cs
  | succ f ih =>
      refine ⟨fun cs t r h => ?_, fun cs ts r h => ?_⟩
      · rw [readType.eq_2] at h
        split at h
        · -- a custom class between single quotes
          rename_i rest hq
          obtain ⟨-, rfl⟩ := Prod.mk.inj (Option.some.inj h)
          refine (getD_eat_suffix _ _).trans ((List.dropWhile_suffix _).trans ?_)
          exact (List.suffix_cons _ _).trans (hq ▸ skipBlank_suffix cs)
        · -- a quoted name
          rename_i rest hq
          obtain ⟨n, -, hn⟩ := Option.map_eq_some_iff.1 h
          rw [← (Prod.mk.inj hn).2]
          exact (quotedRaw_suffix rest).trans ((List.suffix_cons _ _).trans (hq ▸ skipBlank_suffix cs))
        · simp only at h
          have hname : (skipBlank cs).dropWhile isNameChar <:+ cs :=
            (List.dropWhile_suffix _).trans (skipBlank_suffix cs)
          split at h
          · exact (Prod.mk.inj (Option.some.inj h)).2 ▸ hname
          split at h
          · exact (Prod.mk.inj (Option.some.inj h)).2 ▸ hname
          · -- an applied name: past the arguments and the closing `>`
            rename_i inside heat
            obtain ⟨⟨first, r₁⟩, h₁, h⟩ := Option.bind_eq_some_iff.1 h
            obtain ⟨⟨more, r₂⟩, h₂, h⟩ := Option.bind_eq_some_iff.1 h
            obtain ⟨-, rfl⟩ := Prod.mk.inj (Option.some.inj h)
            exact (getD_eat_suffix _ _).trans ((ih.2 _ _ _ h₂).trans ((ih.1 _ _ _ h₁).trans
              ((List.suffix_cons _ _).trans ((eat_suffix heat).trans hname))))
      · cases he : eat ',' cs with
        | none =>
            rw [readArgs_of_eat_none he] at h
            exact (Prod.mk.inj (Option.some.inj h)).2 ▸ List.suffix_refl cs
        | some r₀ =>
            rw [readArgs_of_eat he] at h
            obtain ⟨⟨t, r₁⟩, h₁, h⟩ := Option.bind_eq_some_iff.1 h
            obtain ⟨⟨more, r₂⟩, h₂, h⟩ := Option.bind_eq_some_iff.1 h
            obtain ⟨-, rfl⟩ := Prod.mk.inj (Option.some.inj h)
            exact (ih.2 _ _ _ h₂).trans ((ih.1 _ _ _ h₁).trans
              ((List.suffix_cons _ _).trans (eat_suffix he)))

theorem readType_suffix {f : Nat} {cs r : List Char} {t : StoreType}
    (h : readType f cs = some (t, r)) : r <:+ cs :=
  (reader_suffix f).1 cs t r h

/-! ## Enough fuel -/

/-- With fuel above the text's length the reader's answer does not depend on the fuel: every
descent into an argument eats a `<` or a `,`, so the text runs out before the fuel does. The
induction is on the fuel; both readers at one level rest on both one level down. -/
theorem reader_fuel (f : Nat) :
    (∀ g cs, cs.length < f → cs.length < g → readType f cs = readType g cs) ∧
      (∀ g cs, cs.length < f → cs.length < g → readArgs f cs = readArgs g cs) := by
  induction f with
  | zero => exact ⟨fun _ _ h => absurd h (Nat.not_lt_zero _),
      fun _ _ h => absurd h (Nat.not_lt_zero _)⟩
  | succ f ih =>
      refine ⟨fun g cs hf hg => ?_, fun g cs hf hg => ?_⟩ <;>
        obtain ⟨g, rfl⟩ : ∃ g', g = g' + 1 := ⟨g - 1, by omega⟩
      · by_cases ho : ∃ inside, Opens cs inside
        · obtain ⟨inside, ho⟩ := ho
          have hin := ho.suffix.length_le
          simp only [List.length_cons] at hin
          rw [readType_opens ho, readType_opens ho, ih.1 g inside (by omega) (by omega)]
          cases hp : readType g inside with
          | none => rfl
          | some p =>
              have hr := (readType_suffix hp).length_le
              simp only [Option.bind_some]
              rw [ih.2 g p.2 (by omega) (by omega)]
        · exact readType_succ_of_not_opens (fun inside h => ho ⟨inside, h⟩) f g
      · cases he : eat ',' cs with
        | none => rw [readArgs_of_eat_none he, readArgs_of_eat_none he]
        | some r =>
            have hr := (eat_suffix he).length_le
            simp only [List.length_cons] at hr
            rw [readArgs_of_eat he, readArgs_of_eat he, ih.1 g r (by omega) (by omega)]
            cases hp : readType g r with
            | none => rfl
            | some p =>
                have hp' := (readType_suffix hp).length_le
                simp only [Option.bind_some]
                rw [ih.2 g p.2 (by omega) (by omega)]

theorem readType_eq_readAt {f : Nat} {cs : List Char} (h : cs.length < f) :
    readType f cs = readAt cs :=
  (reader_fuel f).1 _ cs h (by omega)

/-! ## Where reading comes to a type -/

mutual

/-- Reading a type from `cs` comes to read a type at `s`, `s` after its blanks. -/
inductive ReachesType : List Char → List Char → Prop
  /-- the type itself, after the blanks before it -/
  | here (cs : List Char) : ReachesType cs (skipBlank cs)
  /-- a type in the first argument of a name applied with `<` -/
  | first {cs inside s : List Char} : Opens cs inside → ReachesType inside s → ReachesType cs s
  /-- a type in a further argument, the first read whole -/
  | more {cs inside r s : List Char} {t : StoreType} : Opens cs inside →
      readAt inside = some (t, r) → ReachesArgs r s → ReachesType cs s

/-- Reading further arguments from `cs` comes to read a type at `s`. -/
inductive ReachesArgs : List Char → List Char → Prop
  /-- the argument after the next comma -/
  | next {cs r s : List Char} : eat ',' cs = some r → ReachesType r s → ReachesArgs cs s
  /-- an argument after a later comma, the one after the next read whole -/
  | later {cs r r' s : List Char} {t : StoreType} : eat ',' cs = some r →
      readAt r = some (t, r') → ReachesArgs r' s → ReachesArgs cs s

end

mutual

theorem ReachesType.suffix : ∀ {cs s : List Char}, ReachesType cs s → s <:+ cs
  | _, _, .here cs => skipBlank_suffix cs
  | _, _, .first ho hr => hr.suffix.trans ((List.suffix_cons _ _).trans ho.suffix)
  | _, _, .more ho hp ha =>
      ha.suffix.trans ((readType_suffix hp).trans ((List.suffix_cons _ _).trans ho.suffix))

theorem ReachesArgs.suffix : ∀ {cs s : List Char}, ReachesArgs cs s → s <:+ cs
  | _, _, .next he hr => hr.suffix.trans ((List.suffix_cons _ _).trans (eat_suffix he))
  | _, _, .later he hp ha =>
      ha.suffix.trans ((readType_suffix hp).trans ((List.suffix_cons _ _).trans (eat_suffix he)))

end

/-! ## The one fault

A quoted name's raw text fails to unquote exactly when its last character is not ASCII: a closed
name ends in its closing quote, so one that fails is open to the end. Coming to such a name
makes the read fail, whatever fuel above the length it has. -/

theorem unquote_eq_none_iff (raw : List Char) :
    unquote raw = none ↔ ∃ c, raw.getLast? = some c ∧ 0x80 ≤ c.toNat := by
  unfold unquote
  cases raw.getLast? with
  | none => simp
  | some c =>
      by_cases hc : c.toNat < 0x80
      · simp [hc]
      · simp [hc]
        omega

/-- `s` is a double-quoted name open to the end, whose last character is not ASCII. -/
def Faults (s : List Char) : Prop :=
  ∃ r, s = '"' :: r ∧ OpenQuoted r ∧ ∃ c, r.getLast? = some c ∧ 0x80 ≤ c.toNat

theorem faults_of_unquote {rest : List Char} (h : unquote (quotedRaw rest).1 = none) :
    Faults ('"' :: rest) := by
  rcases quotedRaw_cases rest with ⟨n, rfl⟩ | ⟨n, after, rfl, hafter⟩
  · rw [quotedRaw_open] at h
    exact ⟨_, rfl, ⟨n, rfl⟩, (unquote_eq_none_iff _).1 h⟩
  · rw [quotedRaw_closed n hafter, unquote_closed] at h
    cases h

theorem unquote_of_faults {rest : List Char} (h : Faults ('"' :: rest)) :
    unquote (quotedRaw rest).1 = none := by
  obtain ⟨r, hr, ⟨n, rfl⟩, hlast⟩ := h
  obtain rfl : rest = doubled n := (List.cons.inj hr).2
  rw [quotedRaw_open]
  exact (unquote_eq_none_iff _).2 hlast

/-- A read with enough fuel fails only where it comes to an open quoted name ending in a
character that is not ASCII. By induction on the fuel: a failure of an applied name is a failure
in its first argument, or in a later one after the first was read whole. -/
theorem reaches_of_eq_none (f : Nat) :
    (∀ cs, cs.length < f → readType f cs = none → ∃ s, ReachesType cs s ∧ Faults s) ∧
      (∀ cs, cs.length < f → readArgs f cs = none → ∃ s, ReachesArgs cs s ∧ Faults s) := by
  induction f with
  | zero => exact ⟨fun _ h => absurd h (Nat.not_lt_zero _), fun _ h => absurd h (Nat.not_lt_zero _)⟩
  | succ f ih =>
      refine ⟨fun cs hf h => ?_, fun cs hf h => ?_⟩
      · rcases readType_succ_eq_none h with ⟨rest, hq, hu⟩ | ⟨inside, ho⟩
        · exact ⟨_, hq ▸ .here cs, faults_of_unquote hu⟩
        · have hin := ho.suffix.length_le
          simp only [List.length_cons] at hin
          rw [readType_opens ho] at h
          cases hp : readType f inside with
          | none =>
              obtain ⟨s, hr, hs⟩ := ih.1 inside (by omega) hp
              exact ⟨s, .first ho hr, hs⟩
          | some p =>
              obtain ⟨t, r⟩ := p
              rw [hp, Option.bind_some, Option.bind_eq_none_iff] at h
              have hlen := (readType_suffix hp).length_le
              have hat : readAt inside = some (t, r) := by
                rw [← readType_eq_readAt (show inside.length < f by omega), hp]
              cases ha : readArgs f r with
              | none =>
                  obtain ⟨s, hs, hfs⟩ := ih.2 r (by omega) ha
                  exact ⟨s, .more ho hat hs, hfs⟩
              | some q => cases h q ha
      · cases he : eat ',' cs with
        | none => rw [readArgs_of_eat_none he] at h; cases h
        | some r =>
            have hr := (eat_suffix he).length_le
            simp only [List.length_cons] at hr
            rw [readArgs_of_eat he] at h
            cases hp : readType f r with
            | none =>
                obtain ⟨s, hs, hfs⟩ := ih.1 r (by omega) hp
                exact ⟨s, .next he hs, hfs⟩
            | some p =>
                obtain ⟨t, r'⟩ := p
                rw [hp, Option.bind_some, Option.bind_eq_none_iff] at h
                have hlen := (readType_suffix hp).length_le
                have hat : readAt r = some (t, r') := by
                  rw [← readType_eq_readAt (show r.length < f by omega), hp]
                cases ha : readArgs f r' with
                | none =>
                    obtain ⟨s, hs, hfs⟩ := ih.2 r' (by omega) ha
                    exact ⟨s, .later he hat hs, hfs⟩
                | some q => cases h q ha

mutual

theorem readType_eq_none_of_reaches : ∀ {cs s : List Char}, ReachesType cs s → Faults s →
    ∀ f, cs.length < f → readType f cs = none
  | _, _, .here cs, hs, f, hf => by
      obtain ⟨f, rfl⟩ : ∃ g, f = g + 1 := ⟨f - 1, by omega⟩
      rcases hs with ⟨r, hr, hopen, hlast⟩
      rw [readType_quote hr, unquote_of_faults ⟨r, rfl, hopen, hlast⟩]
      rfl
  | cs, _, .first ho hr, hs, f, hf => by
      have hin := ho.suffix.length_le
      simp only [List.length_cons] at hin
      obtain ⟨f, rfl⟩ : ∃ g, f = g + 1 := ⟨f - 1, by omega⟩
      rw [readType_opens ho, readType_eq_none_of_reaches hr hs f (by omega)]
      rfl
  | cs, _, .more ho hp ha, hs, f, hf => by
      have hin := ho.suffix.length_le
      have hlen := (readType_suffix hp).length_le
      simp only [List.length_cons] at hin
      obtain ⟨f, rfl⟩ : ∃ g, f = g + 1 := ⟨f - 1, by omega⟩
      rw [readType_opens ho, readType_eq_readAt (by omega), hp, Option.bind_some,
        readArgs_eq_none_of_reaches ha hs f (by omega)]
      rfl

theorem readArgs_eq_none_of_reaches : ∀ {cs s : List Char}, ReachesArgs cs s → Faults s →
    ∀ f, cs.length < f → readArgs f cs = none
  | cs, _, .next he hr, hs, f, hf => by
      have hlen := (eat_suffix he).length_le
      simp only [List.length_cons] at hlen
      obtain ⟨f, rfl⟩ : ∃ g, f = g + 1 := ⟨f - 1, by omega⟩
      rw [readArgs_of_eat he, readType_eq_none_of_reaches hr hs f (by omega)]
      rfl
  | cs, _, .later he hp ha, hs, f, hf => by
      have hlen := (eat_suffix he).length_le
      have hlen' := (readType_suffix hp).length_le
      simp only [List.length_cons] at hlen
      obtain ⟨f, rfl⟩ : ∃ g, f = g + 1 := ⟨f - 1, by omega⟩
      rw [readArgs_of_eat he, readType_eq_readAt (by omega), hp, Option.bind_some,
        readArgs_eq_none_of_reaches ha hs f (by omega)]
      rfl

end

/-! ## Reading a whole text

`read?` fails exactly when reading its trimmed text, with the fuel it gives, fails; for a quoted
name that runs to the end of the text, the name and the text end in the same character. -/

theorem read?_eq_none_iff_readType (text : String) :
    read? text = none ↔
      readType (2 * (trimChars text.toList).length + 2) (trimChars text.toList) = none := by
  unfold read?
  simp only
  split
  · simp_all
  · rename_i h
    simp only [h, reduceCtorEq, iff_false]
    split <;> simp

theorem getLast?_of_quote_suffix {r cs : List Char} (h : ('"' :: r) <:+ cs) :
    cs.getLast? = some (r.getLast?.getD '"') := by
  obtain ⟨pre, rfl⟩ := h
  simp [List.getLast?_append, List.getLast?_cons]

theorem nonAscii_last_iff {r cs : List Char} (h : ('"' :: r) <:+ cs) :
    (∃ c, r.getLast? = some c ∧ 0x80 ≤ c.toNat) ↔ ∃ c, cs.getLast? = some c ∧ 0x80 ≤ c.toNat := by
  rw [getLast?_of_quote_suffix h]
  cases r.getLast? with
  | none => simp [show ('"' : Char).toNat = 34 from rfl]
  | some c => simp

/-- **The type reader ends, and faults on one shape only.** For every text, with `input` its
trimmed characters: the reader's answer is the same for every fuel above the length of `input`,
so the recursion ends within that many nested reads; and `read?` faults exactly when reading
comes, at a type position (the whole text, or an argument of a name applied with `<`), to a
double-quoted name that is not closed before the end, and `input` ends with a character that is
not ASCII. Every other text reads as a store type. -/
theorem read?_eq_none_iff (text : String) :
    let input := trimChars text.toList
    (∀ f, input.length < f → readType f input = readAt input) ∧
    (read? text = none ↔
      (∃ r, ReachesType input ('"' :: r) ∧ OpenQuoted r) ∧
        ∃ c, input.getLast? = some c ∧ 0x80 ≤ c.toNat) := by
  intro input
  -- `read?` reads `input` with twice its length and two more units of fuel
  have hfuel : input.length < 2 * (trimChars text.toList).length + 2 := by
    show input.length < 2 * input.length + 2
    omega
  refine ⟨fun f hf => readType_eq_readAt hf, ?_⟩
  rw [read?_eq_none_iff_readType]
  constructor
  · intro h
    obtain ⟨s, hr, r, rfl, hopen, hlast⟩ := (reaches_of_eq_none _).1 input hfuel h
    exact ⟨⟨r, hr, hopen⟩, (nonAscii_last_iff hr.suffix).1 hlast⟩
  · rintro ⟨⟨r, hr, hopen⟩, hlast⟩
    exact readType_eq_none_of_reaches hr ⟨r, rfl, hopen, (nonAscii_last_iff hr.suffix).2 hlast⟩ _
      hfuel

/-- `list<"é` faults: its argument is a quoted name open to the end, and `é` is not ASCII. -/
theorem read?_eq_none_iff_open_accent :
    read? "list<\"é" = none ∧
      ∃ r, ReachesType (trimChars "list<\"é".toList) ('"' :: r) ∧ OpenQuoted r := by
  have hnone : read? "list<\"é" = none := by rfl
  exact ⟨hnone, ((read?_eq_none_iff "list<\"é").2.1 hnone).1⟩

end CqlBridge.StoreType
