import Mathlib
import CqlBridge.Proofs.Decode

/-!
# `CqlBridge.Proofs.IntegerFit` — a store integer is decoded exactly, or as NULL

A store integer (`tinyint`, `smallint`, `int`, `bigint` or `counter`) decoded into an integer
column keeps its value when the value lies in the column's two's complement range, and is NULL
otherwise. In a text column it is its decimal text. Five sources meet four targets:

| own datum of the value | target | what decides |
|---|---|---|
| the target's type | the same | `Datum.fit` keeps the datum |
| narrower | wider | a widening arm of `Datum.convert`, always in range |
| wider | narrower | a narrowing arm, through `toInt8?`, `toInt16?` or `toInt32?` |

A counter's own datum is a `BIGINT`, so counters follow the `bigint` row. Everything rests on
`Datum.fit_integer`, which says this for every integer datum at once; the cell level only adds
which datum each value becomes: a store integer's own datum holds its value, which lies in the
range of its own type, and shows it in decimal. A value in the range of `w` bits is in the range
of every wider width, and the narrowing conversions check the range of `k + 1` bits.
-/

namespace CqlBridge

namespace SqlType

/-- The bit width of an integer column type. -/
def intWidth? : SqlType → Option Nat
  | .tinyint => some 8
  | .smallint => some 16
  | .integer => some 32
  | .bigint => some 64
  | _ => none

end SqlType

/-- `v` lies in the two's complement range of `w` bits. -/
def FitsWidth (w : Nat) (v : Int) : Prop := -2 ^ (w - 1) ≤ v ∧ v < 2 ^ (w - 1)

instance (w : Nat) (v : Int) : Decidable (FitsWidth w v) :=
  inferInstanceAs (Decidable (_ ∧ _))

theorem FitsWidth.widen {w w' : Nat} {v : Int} (h : FitsWidth w v) (hle : w ≤ w') :
    FitsWidth w' v := by
  have hpow : (2 : Int) ^ (w - 1) ≤ 2 ^ (w' - 1) := by
    exact_mod_cast Nat.pow_le_pow_right (n := 2) (by decide) (show w - 1 ≤ w' - 1 by omega)
  exact ⟨by have := h.1; omega, by have := h.2; omega⟩

theorem toInt_ofInt8 {v : Int} (h : FitsWidth 8 v) : (Int8.ofInt v).toInt = v :=
  Int8.toInt_ofInt_of_le h.1 h.2

theorem toInt_ofInt16 {v : Int} (h : FitsWidth 16 v) : (Int16.ofInt v).toInt = v :=
  Int16.toInt_ofInt_of_le h.1 h.2

theorem toInt_ofInt32 {v : Int} (h : FitsWidth 32 v) : (Int32.ofInt v).toInt = v :=
  Int32.toInt_ofInt_of_le h.1 h.2

theorem toInt_ofInt64 {v : Int} (h : FitsWidth 64 v) : (Int64.ofInt v).toInt = v :=
  Int64.toInt_ofInt_of_le h.1 h.2

theorem fitsWidth_iff_check (k : Nat) (x : Int) :
    FitsWidth (k + 1) x ↔ (-Int.pow 2 k ≤ x && x < Int.pow 2 k) = true := by
  simp only [FitsWidth, Nat.add_sub_cancel, Bool.and_eq_true, decide_eq_true_eq]
  rfl

/-- The integer a value of an integer store type holds. -/
def Cell.intValue? : Cell → Option Int
  | .tinyint i => some i.toInt
  | .smallint i => some i.toInt
  | .int i => some i.toInt
  | .bigint i | .counter i => some i.toInt
  | _ => none

theorem Number.intText_eq_toString (i : Int) : Number.intText i = toString i := by
  cases i <;> simp [Number.intText, toString, Int.repr]

namespace Datum

/-- The integer an integer datum holds. -/
def intValue? : Datum → Option Int
  | .tinyint i => some i.toInt
  | .smallint i => some i.toInt
  | .integer i => some i.toInt
  | .bigint i => some i.toInt
  | _ => none

end Datum

theorem Cell.toDatum?_of_intValue? {c : Cell} {v : Int} (hc : c.intValue? = some v) :
    ∃ d, c.toDatum? = some d ∧ d.intValue? = some v := by
  cases c <;> simp only [Cell.intValue?, reduceCtorEq, Option.some.injEq] at hc <;> subst hc <;>
    exact ⟨_, rfl, rfl⟩

namespace Datum

theorem fitsWidth_of_intValue? {d : Datum} {v : Int} (hd : d.intValue? = some v) :
    ∃ w, d.sqlType.intWidth? = some w ∧ FitsWidth w v := by
  cases d <;> simp only [intValue?, reduceCtorEq, Option.some.injEq] at hd <;> subst hd
  case tinyint i => exact ⟨8, rfl, i.le_toInt, i.toInt_lt⟩
  case smallint i => exact ⟨16, rfl, i.le_toInt, i.toInt_lt⟩
  case integer i => exact ⟨32, rfl, i.le_toInt, i.toInt_lt⟩
  case bigint i => exact ⟨64, rfl, i.le_toInt, i.toInt_lt⟩

/-- Converting between two different integer types keeps the value when it lies in the
target's range, and gives nothing otherwise. The twelve arms split by the two types; a widening
arm's range check is the source's own range. -/
theorem convert_integer {d : Datum} {v : Int} (hd : d.intValue? = some v) {t : SqlType}
    {w : Nat} (ht : t.intWidth? = some w) (hne : d.sqlType ≠ t) :
    (FitsWidth w v →
      ∃ d', convert d t = some d' ∧ d'.sqlType = t ∧ d'.intValue? = some v) ∧
    (¬ FitsWidth w v → convert d t = none) := by
  obtain ⟨w₀, hw₀, hv₀⟩ := fitsWidth_of_intValue? hd
  cases d <;> simp only [intValue?, reduceCtorEq, Option.some.injEq] at hd <;> subst hd <;>
    cases t <;> simp only [SqlType.intWidth?, reduceCtorEq, Option.some.injEq] at ht <;>
    subst ht <;> simp only [sqlType, SqlType.intWidth?, Option.some.injEq] at hw₀ hne <;>
    subst hw₀ <;> simp only [ne_eq, not_true_eq_false, reduceCtorEq] at hne ⊢
  -- widening arms: the source's own range lies inside the target's
  case tinyint.smallint i | tinyint.integer i | tinyint.bigint i | smallint.integer i
      | smallint.bigint i | integer.bigint i =>
    exact ⟨fun h => ⟨_, rfl, rfl,
        by simp only [intValue?, toInt_ofInt16, toInt_ofInt32, toInt_ofInt64, h]⟩,
      fun h => absurd (hv₀.widen (by decide)) h⟩
  -- narrowing arms check the target's range
  case smallint.tinyint i | integer.tinyint i | integer.smallint i | bigint.tinyint i
      | bigint.smallint i | bigint.integer i =>
    simp only [convert, toInt8?, toInt16?, toInt32?]
    split
    · rename_i hcheck
      have h := (fitsWidth_iff_check _ _).2 hcheck
      exact ⟨fun _ => ⟨_, rfl, rfl,
          by simp only [intValue?, toInt_ofInt8, toInt_ofInt16, toInt_ofInt32, h]⟩,
        fun h' => absurd h h'⟩
    · rename_i hcheck
      exact ⟨fun h => absurd ((fitsWidth_iff_check _ _).1 h) hcheck, fun _ => rfl⟩

/-- Fitting an integer datum into an integer column keeps its value when the value lies in the
column's range, and is NULL otherwise. -/
theorem fit_integer {d : Datum} {v : Int} (hd : d.intValue? = some v) {t : SqlType} {w : Nat}
    (ht : t.intWidth? = some w) (code : Nat) :
    (FitsWidth w v → (d.fit t code).sqlType = t ∧ (d.fit t code).intValue? = some v) ∧
    (¬ FitsWidth w v → d.fit t code = .null t) := by
  unfold fit
  by_cases hty : d.sqlType = t
  · -- the datum already has the column's type: it is kept, and its own range is the column's
    obtain ⟨w₀, hw₀, hv₀⟩ := fitsWidth_of_intValue? hd
    rw [hty, ht, Option.some.injEq] at hw₀
    subst hw₀
    simp [hty, hd, hv₀]
  · have hne : (d.sqlType == t) = false := by simpa using hty
    have htext : t.isTextual = false := by
      cases t <;> simp_all [SqlType.intWidth?, SqlType.isTextual]
    simp only [hne, htext, Bool.false_eq_true, ite_false]
    obtain ⟨hfits, hout⟩ := convert_integer hd ht hty
    refine ⟨fun h => ?_, fun h => by rw [hout h]; rfl⟩
    obtain ⟨d', hc, hs, hv⟩ := hfits h
    rw [hc]
    exact ⟨hs, hv⟩

theorem text?_of_intValue? {d : Datum} {v : Int} (hd : d.intValue? = some v) :
    d.text? = some (toString v) := by
  cases d <;> simp only [intValue?, reduceCtorEq, Option.some.injEq] at hd <;> subst hd <;>
    simp [text?, Number.intText_eq_toString]

end Datum

open Datum in
/-- **Integers are decoded exactly, or as NULL.** A store integer of any of the five kinds,
holding `v`, decoded into an integer column of `w` bits gives that column's datum holding `v`
when `v` lies in the two's complement range of `w` bits, and that column's NULL otherwise; into
a `VARCHAR` or `JSON` column it gives the decimal text of `v`. -/
theorem decode_integer_exact {c : Cell} {v : Int} (hc : c.intValue? = some v) :
    (∀ t w, t.intWidth? = some w →
      (FitsWidth w v →
        (decode (some c) t).sqlType = t ∧ (decode (some c) t).intValue? = some v) ∧
      (¬ FitsWidth w v → decode (some c) t = .null t)) ∧
    decode (some c) .varchar = .varchar (toString v) ∧
    decode (some c) .json = .json (toString v) := by
  obtain ⟨d, hcd, hdv⟩ := Cell.toDatum?_of_intValue? hc
  have hdecode : ∀ t, decode (some c) t = d.fit t c.code := fun t => by simp [decode, hcd]
  obtain ⟨w₀, hw₀, -⟩ := fitsWidth_of_intValue? hdv
  -- an integer datum has no textual type, so a text column takes its text
  have htext : ∀ t, t.isTextual = true → d.fit t c.code = ofText t (toString v) := by
    intro t ht
    have hne : (d.sqlType == t) = false := by
      cases hs : d.sqlType <;> cases t <;> simp_all [SqlType.intWidth?, SqlType.isTextual]
    simp [fit, hne, ht, text?_of_intValue? hdv]
  refine ⟨fun t w ht => ?_, ?_, ?_⟩
  · rw [hdecode]
    exact fit_integer hdv ht c.code
  · rw [hdecode, htext .varchar rfl]
    rfl
  · rw [hdecode, htext .json rfl]
    rfl

/-- A counter of 300 fits a `SMALLINT` column but not a `TINYINT` one. -/
theorem decode_integer_exact_counter :
    (Cell.counter 300).intValue? = some 300 ∧
    ((∀ t w, t.intWidth? = some w →
      (FitsWidth w 300 → (Datum.decode (some (.counter 300)) t).sqlType = t ∧
        (Datum.decode (some (.counter 300)) t).intValue? = some 300) ∧
      (¬ FitsWidth w 300 → Datum.decode (some (.counter 300)) t = .null t)) ∧
    Datum.decode (some (.counter 300)) .varchar = .varchar (toString (300 : Int)) ∧
    Datum.decode (some (.counter 300)) .json = .json (toString (300 : Int))) :=
  ⟨rfl, decode_integer_exact rfl⟩

end CqlBridge
