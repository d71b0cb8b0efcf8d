import Mathlib.Algebra.Order.Field.Rat
import Mathlib.Tactic.FieldSimp
import Mathlib.Tactic.Linarith
import Mathlib.Tactic.Positivity
import Mathlib.Tactic.Ring
import CqlBridge.Proofs.Decode

/-!
# `CqlBridge.Proofs.DecimalText` — the text of a decimal is its exact value

A store decimal is a big-endian two's complement integer `x` of 1 to 16 bytes with a scale `s`
of at most 4096 either way; a varint is the same with scale 0. In a text column it shows the
canonical decimal numeral of `x · 10^(-s)`:

| part | rule |
|---|---|
| sign | `-` exactly when `x < 0` |
| whole part | decimal digits without leading zeros, `0` when the value is below 1 in magnitude |
| fraction | for `s > 0`, `.` and exactly `s` digits; none for `s ≤ 0` |

and the numeral denotes `x · 10^(-s)` exactly, `x = -2^127` included. Any other byte string or
scale shows the placeholder of its type instead.

A numeral is described by its parts (`Numeral`), so its value is read off the parts
(`Numeral.value`) and not through the text. `scaledNumeral` names the parts `scaledText` lays
out, one case per layout; every property is proved on the parts.
-/

namespace CqlBridge

/-! ## Digits and their value

A leading digit counts `10 ^ (length of the rest)` times over; `k` digits denote less than
`10 ^ k`, and digits that start with another digit than `0` denote a positive number. -/

theorem toNat_of_isDigit {c : Char} (h : c.isDigit = true) : 48 ≤ c.toNat ∧ c.toNat ≤ 57 := by
  simp only [Char.isDigit, Bool.and_eq_true, decide_eq_true_eq] at h
  exact ⟨h.1, h.2⟩

theorem ofDigitChars_append_zero (a b : List Char) :
    Nat.ofDigitChars 10 (a ++ b) 0 =
      10 ^ b.length * Nat.ofDigitChars 10 a 0 + Nat.ofDigitChars 10 b 0 := by
  rw [Nat.ofDigitChars_append, Nat.ofDigitChars_eq_ofDigitChars_zero]

theorem ofDigitChars_cons_zero (c : Char) (cs : List Char) :
    Nat.ofDigitChars 10 (c :: cs) 0 =
      10 ^ cs.length * (c.toNat - 48) + Nat.ofDigitChars 10 cs 0 := by
  rw [Nat.ofDigitChars_cons, Nat.ofDigitChars_eq_ofDigitChars_zero, Nat.mul_zero, Nat.zero_add]
  rfl

theorem ofDigitChars_lt {ds : List Char} (h : ∀ c ∈ ds, c.isDigit = true) :
    Nat.ofDigitChars 10 ds 0 < 10 ^ ds.length := by
  induction ds with
  | nil => simp
  | cons c cs ih =>
      have hc := toNat_of_isDigit (h c List.mem_cons_self)
      have hcs := ih fun d hd => h d (List.mem_cons_of_mem c hd)
      rw [ofDigitChars_cons_zero, List.length_cons, Nat.pow_succ]
      calc 10 ^ cs.length * (c.toNat - 48) + Nat.ofDigitChars 10 cs 0
          < 10 ^ cs.length * (c.toNat - 48) + 10 ^ cs.length := by omega
        _ = 10 ^ cs.length * (c.toNat - 48 + 1) := by rw [Nat.mul_succ]
        _ ≤ 10 ^ cs.length * 10 := Nat.mul_le_mul_left _ (by omega)

theorem ofDigitChars_pos {c : Char} {cs : List Char} (hc : c.isDigit = true) (h0 : c ≠ '0') :
    0 < Nat.ofDigitChars 10 (c :: cs) 0 := by
  have hc' := toNat_of_isDigit hc
  have hne : c.toNat ≠ 48 := fun h => h0 (Char.toNat_inj.1 h)
  have hpow : 0 < 10 ^ cs.length := Nat.pow_pos (by decide)
  rw [ofDigitChars_cons_zero]
  have := Nat.mul_pos hpow (show 0 < c.toNat - 48 by omega)
  omega

/-- A decimal numeral by its parts: a sign, the digits of the whole part and of the fraction. -/
structure Numeral where
  negative : Bool
  whole : List Char
  fraction : List Char

namespace Numeral

/-- `-` for a negative numeral, the whole digits, and `.` with the fraction digits when there
are any. -/
def text (n : Numeral) : String :=
  String.ofList ((if n.negative then ['-'] else []) ++ n.whole ++
    (if n.fraction = [] then [] else '.' :: n.fraction))

/-- The number a numeral denotes. -/
def value (n : Numeral) : ℚ :=
  (if n.negative then -1 else 1) *
    ((Nat.ofDigitChars 10 n.whole 0 : ℚ) +
      (Nat.ofDigitChars 10 n.fraction 0 : ℚ) / 10 ^ n.fraction.length)

/-- A canonical numeral: decimal digits only, and a whole part that is `0` or does not start
with `0`. -/
structure Canonical (n : Numeral) : Prop where
  whole_ne_nil : n.whole ≠ []
  isDigit : ∀ c ∈ n.whole ++ n.fraction, c.isDigit = true
  no_leading_zero : n.whole.head? = some '0' → n.whole = ['0']

/-! ## The value of a numeral

A numeral denotes its digits, whole part and fraction together, over `10 ^ (fraction length)`.
A canonical numeral has the whole part `0` exactly when it is below 1 in magnitude: the fraction
alone stays below 1, and whole digits not starting with `0` count at least 1. -/

theorem value_eq (n : Numeral) :
    n.value = (if n.negative then -1 else 1) *
      ((Nat.ofDigitChars 10 (n.whole ++ n.fraction) 0 : ℚ) / 10 ^ n.fraction.length) := by
  rw [value, ofDigitChars_append_zero]
  push_cast
  field_simp

theorem abs_value (n : Numeral) :
    |n.value| = (Nat.ofDigitChars 10 n.whole 0 : ℚ) +
      (Nat.ofDigitChars 10 n.fraction 0 : ℚ) / 10 ^ n.fraction.length := by
  have hnonneg : (0 : ℚ) ≤ (Nat.ofDigitChars 10 n.whole 0 : ℚ) +
      (Nat.ofDigitChars 10 n.fraction 0 : ℚ) / 10 ^ n.fraction.length := by positivity
  cases hn : n.negative
  · rw [value, hn, if_neg Bool.false_ne_true, one_mul, abs_of_nonneg hnonneg]
  · rw [value, hn, if_pos rfl, neg_one_mul, abs_neg, abs_of_nonneg hnonneg]

theorem Canonical.whole_eq_zero_iff {n : Numeral} (h : n.Canonical) :
    n.whole = ['0'] ↔ |n.value| < 1 := by
  have hF : (Nat.ofDigitChars 10 n.fraction 0 : ℚ) / 10 ^ n.fraction.length < 1 := by
    rw [div_lt_one (by positivity)]
    exact_mod_cast ofDigitChars_lt fun c hc => h.isDigit c (List.mem_append_right _ hc)
  have hF0 : (0 : ℚ) ≤ (Nat.ofDigitChars 10 n.fraction 0 : ℚ) / 10 ^ n.fraction.length := by
    positivity
  rw [abs_value]
  constructor
  · intro hw
    rw [hw]
    simpa [Nat.ofDigitChars_cons] using hF
  · intro hlt
    have hW : Nat.ofDigitChars 10 n.whole 0 = 0 := by
      by_contra hne
      have : (1 : ℚ) ≤ Nat.ofDigitChars 10 n.whole 0 := by
        exact_mod_cast Nat.one_le_iff_ne_zero.2 hne
      linarith
    obtain ⟨c, cs, hcs⟩ := List.exists_cons_of_ne_nil h.whole_ne_nil
    by_cases hc0 : c = '0'
    · exact h.no_leading_zero (by simp [hcs, hc0])
    · have hc : c.isDigit = true := h.isDigit c (by simp [hcs])
      rw [hcs] at hW
      exact absurd hW (ofDigitChars_pos hc hc0).ne'

end Numeral

/-! ## The layouts of `scaledText`

The fraction has `s` digits for a positive scale and none otherwise, and the laid-out numeral
denotes `x · 10^(-s)`. -/

theorem head?_toDigits_ne_zero {n : Nat} (hn : n ≠ 0) :
    (Nat.toDigits 10 n).head? ≠ some '0' := by
  induction n using Nat.strong_induction_on with
  | _ n ih =>
      rw [Nat.toDigits_eq_if (by decide)]
      split
      · simp [hn]
      · -- the leading digit is that of `n / 10`
        have hq := ih (n / 10) (by omega) (by omega)
        obtain ⟨c, cs, hcs⟩ :=
          List.exists_cons_of_ne_nil (Nat.toDigits_ne_nil (b := 10) (n := n / 10))
        rw [hcs] at hq ⊢
        simpa using hq

theorem isDigit_of_mem_toDigits {n : Nat} {c : Char} (h : c ∈ Nat.toDigits 10 n) :
    c.isDigit = true :=
  Nat.isDigit_of_mem_toDigits (by decide) (by decide) h

/-- The parts `scaledText` lays out for `x · 10^(-s)`: for `s ≤ 0` the digits of `|x|` followed
by `-s` zeros (just `0` for zero); for `s > 0` the digits of `|x|` cut `s` from the right, or
`0` and the digits padded with zeros to `s` when there are not more than `s` of them. -/
def scaledNumeral (x s : Int) : Numeral :=
  let D := Nat.toDigits 10 x.natAbs
  if s ≤ 0 then
    ⟨decide (x < 0), if x = 0 then ['0'] else D ++ List.replicate s.natAbs '0', []⟩
  else if s.toNat < D.length then
    ⟨decide (x < 0), D.take (D.length - s.toNat), D.drop (D.length - s.toNat)⟩
  else ⟨decide (x < 0), ['0'], List.replicate (s.toNat - D.length) '0' ++ D⟩

theorem text_scaledNumeral (x s : Int) : (scaledNumeral x s).text = Number.scaledText x s := by
  apply String.toList_inj.1
  unfold scaledNumeral Numeral.text Number.scaledText Number.scaledText.zeros
  by_cases hs : s ≤ 0
  · by_cases hx : x = 0
    · subst hx
      simp [hs]
    · have hxb : (x == 0) = false := by simpa using hx
      by_cases hneg : x < 0 <;> simp [hs, hx, hxb, hneg]
  · have hlen : x.natAbs.repr.length = (Nat.toDigits 10 x.natAbs).length := by
      rw [← String.length_toList, Nat.toList_repr]
    by_cases hk : s.toNat < (Nat.toDigits 10 x.natAbs).length
    · -- the point falls inside the digits, so the fraction is not empty
      have hcut : ¬ (Nat.toDigits 10 x.natAbs).length ≤
          (Nat.toDigits 10 x.natAbs).length - s.toNat := by omega
      by_cases hneg : x < 0 <;> simp [hs, hk, hneg, hlen, hcut]
    · by_cases hneg : x < 0 <;> simp [hs, hk, hneg, hlen]

theorem negative_scaledNumeral (x s : Int) : (scaledNumeral x s).negative = decide (x < 0) := by
  simp only [scaledNumeral]
  split_ifs <;> rfl

theorem fraction_length_scaledNumeral (x s : Int) :
    (scaledNumeral x s).fraction.length = s.toNat := by
  simp only [scaledNumeral]
  by_cases hs : s ≤ 0
  · simp [hs, Int.toNat_eq_zero.2 hs]
  · rw [if_neg hs]
    split
    · rw [List.length_drop]
      omega
    · rw [List.length_append, List.length_replicate]
      omega

theorem canonical_scaledNumeral (x s : Int) : (scaledNumeral x s).Canonical := by
  have hD : Nat.toDigits 10 x.natAbs ≠ [] := Nat.toDigits_ne_nil
  have hdig : ∀ c ∈ Nat.toDigits 10 x.natAbs, c.isDigit = true := fun c hc =>
    isDigit_of_mem_toDigits hc
  simp only [scaledNumeral]
  split_ifs with hs hx hk
  · exact ⟨by simp, by simp, fun _ => rfl⟩
  · -- the digits of `|x| ≠ 0`, then zeros
    refine ⟨by simp [hD], fun c hc => ?_, fun h0 => ?_⟩
    · simp only [List.append_nil, List.mem_append, List.mem_replicate] at hc
      rcases hc with hc | ⟨-, rfl⟩
      · exact hdig c hc
      · rfl
    · rw [List.head?_append_of_ne_nil _ hD] at h0
      exact absurd h0 (head?_toDigits_ne_zero (by omega))
  · -- the digits cut `s` from the right; there are more than `s ≥ 1`, so `x ≠ 0`
    have hx : x.natAbs ≠ 0 := by
      intro h0
      rw [h0, Nat.toDigits_zero] at hk
      simp at hk
      omega
    have hcut : 0 < (Nat.toDigits 10 x.natAbs).length - s.toNat := by omega
    refine ⟨by simp [hD]; omega, fun c hc => ?_, fun h0 => ?_⟩
    · rw [List.take_append_drop] at hc
      exact hdig c hc
    · rw [List.head?_take, if_neg (by omega)] at h0
      exact absurd h0 (head?_toDigits_ne_zero hx)
  · refine ⟨by simp, fun c hc => ?_, by simp⟩
    simp only [List.cons_append, List.nil_append, List.mem_cons, List.mem_append,
      List.mem_replicate] at hc
    rcases hc with rfl | ⟨-, rfl⟩ | hc
    · rfl
    · rfl
    · exact hdig c hc

theorem sign_mul_natAbs (x : Int) :
    (if decide (x < 0) = true then (-1 : ℚ) else 1) * (x.natAbs : ℚ) = x := by
  rw [Nat.cast_natAbs]
  by_cases hx : x < 0
  · have hq : (x : ℚ) < 0 := by exact_mod_cast hx
    simp [hx, abs_of_neg hq]
  · have hq : (0 : ℚ) ≤ x := by exact_mod_cast not_lt.1 hx
    simp [hx, abs_of_nonneg hq]

theorem value_scaledNumeral (x s : Int) : (scaledNumeral x s).value = x * 10 ^ (-s) := by
  have hD : Nat.ofDigitChars 10 (Nat.toDigits 10 x.natAbs) 0 = x.natAbs :=
    Nat.ofDigitChars_ten_toDigits
  have hsign := sign_mul_natAbs x
  simp only [scaledNumeral]
  by_cases hs : s ≤ 0
  · rw [if_pos hs]
    split
    · rename_i hx
      subst hx
      simp [Numeral.value, Nat.ofDigitChars_cons]
    · -- the digits of `|x|` and `-s` zeros after them
      rw [Numeral.value_eq, show -s = ((s.natAbs : Nat) : Int) by omega, zpow_natCast]
      simp only [List.append_nil, ofDigitChars_append_zero, Nat.ofDigitChars_replicate_zero,
        List.length_replicate, hD, List.length_nil, pow_zero, div_one, Nat.mul_zero,
        Nat.add_zero]
      push_cast
      rw [← hsign]
      ring
  · rw [if_neg hs, show -s = -((s.toNat : Nat) : Int) by omega, zpow_neg, zpow_natCast]
    split
    · -- the digits cut `s` from the right
      rename_i hk
      rw [Numeral.value_eq, List.take_append_drop, hD, List.length_drop,
        show (Nat.toDigits 10 x.natAbs).length - ((Nat.toDigits 10 x.natAbs).length - s.toNat) =
          s.toNat by omega, ← hsign]
      ring
    · -- `0.`, zeros, then the digits
      rename_i hk
      have hzero : Nat.ofDigitChars 10 ['0'] 0 = 0 := rfl
      rw [Numeral.value_eq]
      simp only [ofDigitChars_append_zero, Nat.ofDigitChars_replicate_zero, hD, hzero,
        List.length_append, List.length_replicate, Nat.mul_zero, Nat.zero_add,
        show s.toNat - (Nat.toDigits 10 x.natAbs).length + (Nat.toDigits 10 x.natAbs).length =
          s.toNat by omega]
      rw [← hsign]
      ring

/-! ## The text of a decimal

A numeral starts with `-` or a digit, never with `<` as a placeholder does, so the text of a
byte string and scale is the placeholder exactly when there is none. -/

/-- `t` is the canonical decimal numeral of `x · 10^(-s)`: a numeral of decimal digits whose
whole part has no leading zero and is `0` exactly below 1 in magnitude, negative exactly when
`x` is, with `s` fraction digits for `s > 0` and none otherwise, written `0` for zero when
`s ≤ 0`, and denoting `x · 10^(-s)` exactly. -/
def IsScaledDecimal (x s : Int) (t : String) : Prop :=
  ∃ n : Numeral, n.text = t ∧ n.Canonical ∧ (n.negative = true ↔ x < 0) ∧
    n.fraction.length = s.toNat ∧ (n.whole = ['0'] ↔ |(x : ℚ) * 10 ^ (-s)| < 1) ∧
    (s ≤ 0 → x = 0 → t = "0") ∧ n.value = x * 10 ^ (-s)

/-- `scaledText` writes the canonical decimal numeral of `x · 10^(-s)`, for every `x` and `s`. -/
theorem isScaledDecimal_scaledText (x s : Int) :
    IsScaledDecimal x s (Number.scaledText x s) := by
  have hcanon := canonical_scaledNumeral x s
  have hvalue := value_scaledNumeral x s
  refine ⟨scaledNumeral x s, text_scaledNumeral x s, hcanon, ?_,
    fraction_length_scaledNumeral x s, ?_, ?_, hvalue⟩
  · simp [negative_scaledNumeral]
  · rw [← hvalue]
    exact hcanon.whole_eq_zero_iff
  · rintro hs rfl
    rw [← text_scaledNumeral]
    simp [scaledNumeral, hs, Numeral.text]

theorem scaledText_ne_placeholder (x s : Int) (code : Nat) :
    Number.scaledText x s ≠ TypeCode.placeholder code := by
  intro h
  have hcanon := canonical_scaledNumeral x s
  obtain ⟨c, cs, hcs⟩ := List.exists_cons_of_ne_nil hcanon.whole_ne_nil
  have hc : c.isDigit = true := hcanon.isDigit c (by simp [hcs])
  have hhead := congrArg (fun t => t.toList.head?) h
  rw [← text_scaledNumeral] at hhead
  cases hneg : (scaledNumeral x s).negative <;>
    simp [Numeral.text, hneg, hcs, TypeCode.placeholder] at hhead
  subst hhead
  exact absurd hc (by decide)

theorem decimalText?_eq_some {bs : List UInt8} {scale : Int} {t : String}
    (h : Number.decimalText? bs scale = some t) :
    t = Number.scaledText (Number.signedOfBytes bs) scale := by
  unfold Number.decimalText? at h
  split at h
  · cases h
  · exact (Option.some.inj h).symm

theorem decode_varchar_of_toDatum? {c : Cell} {o : Option String}
    (h : c.toDatum? = o.map .varchar) :
    Datum.decode (some c) .varchar = .varchar (o.getD (TypeCode.placeholder c.code)) := by
  cases o <;> simp [Datum.decode, h, Datum.fit, Datum.sqlType, SqlType.isTextual, Datum.ofText_eq]

/-- The text of a byte string and scale is the placeholder exactly when there is no text, and
otherwise the canonical numeral. -/
theorem decimalText?_getD (bs : List UInt8) (scale : Int) (code : Nat) :
    ((Number.decimalText? bs scale).getD (TypeCode.placeholder code) =
        TypeCode.placeholder code ↔
      bs = [] ∨ 16 < bs.length ∨ Number.maxScale < scale.natAbs) ∧
    (¬ (bs = [] ∨ 16 < bs.length ∨ Number.maxScale < scale.natAbs) →
      IsScaledDecimal (Number.signedOfBytes bs) scale
        ((Number.decimalText? bs scale).getD (TypeCode.placeholder code))) := by
  have hnone := decimalText?_eq_none_iff bs scale
  rw [List.length_eq_zero_iff] at hnone
  cases h : Number.decimalText? bs scale with
  | none =>
      simp only [Option.getD_none, true_iff]
      exact ⟨hnone.1 h, fun hno => absurd (hnone.1 h) hno⟩
  | some t =>
      have ht := decimalText?_eq_some h
      have hread : ¬ (bs = [] ∨ 16 < bs.length ∨ Number.maxScale < scale.natAbs) := by
        rw [← hnone, h]
        exact Option.some_ne_none t
      subst ht
      simp only [Option.getD_some]
      exact ⟨iff_of_false (scaledText_ne_placeholder _ _ code) hread,
        fun _ => isScaledDecimal_scaledText _ _⟩

/-- **Decimals and varints show their exact value.** A decimal of a byte string `b` and a scale
`s` in a `VARCHAR` column is the placeholder `<decimal:6>` exactly when `b` is empty or longer
than 16 bytes or `|s| > 4096`, and otherwise the canonical decimal numeral of `x · 10^(-s)`,
where `x` is `b` read as a big-endian two's complement integer. A varint is the same with
scale 0 and the placeholder `<varint:14>`. -/
theorem decode_decimal_exact (bs : List UInt8) (s : Int32) :
    (Datum.decode (some (.decimal bs s)) .varchar = .varchar "<decimal:6>" ↔
      bs = [] ∨ 16 < bs.length ∨ 4096 < s.toInt.natAbs) ∧
    (Datum.decode (some (.varint bs)) .varchar = .varchar "<varint:14>" ↔
      bs = [] ∨ 16 < bs.length) ∧
    (¬ (bs = [] ∨ 16 < bs.length ∨ 4096 < s.toInt.natAbs) → ∃ t,
      Datum.decode (some (.decimal bs s)) .varchar = .varchar t ∧
        IsScaledDecimal (Number.signedOfBytes bs) s.toInt t) ∧
    (¬ (bs = [] ∨ 16 < bs.length) → ∃ t,
      Datum.decode (some (.varint bs)) .varchar = .varchar t ∧
        IsScaledDecimal (Number.signedOfBytes bs) 0 t) := by
  have hdec := decimalText?_getD bs s.toInt (Cell.decimal bs s).code
  have hvar := decimalText?_getD bs 0 (Cell.varint bs).code
  have hph6 : TypeCode.placeholder (Cell.decimal bs s).code = "<decimal:6>" := by
    show TypeCode.placeholder 6 = _
    decide
  have hph14 : TypeCode.placeholder (Cell.varint bs).code = "<varint:14>" := by
    show TypeCode.placeholder 14 = _
    decide
  have hzero : ¬ (Number.maxScale < (0 : Int).natAbs) := by decide
  rw [hph6] at hdec
  rw [hph14] at hvar
  simp only [hzero, or_false] at hvar
  rw [decode_varchar_of_toDatum? (c := .decimal bs s) rfl, hph6,
    decode_varchar_of_toDatum? (c := .varint bs) rfl, hph14]
  refine ⟨?_, ?_, fun h => ⟨_, rfl, hdec.2 h⟩, fun h => ⟨_, rfl, hvar.2 h⟩⟩
  · rw [Datum.varchar.injEq]
    exact hdec.1
  · rw [Datum.varchar.injEq]
    exact hvar.1

end CqlBridge
