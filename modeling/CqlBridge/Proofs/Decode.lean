import CqlBridge.Datum.Decode

/-!
# `CqlBridge.Proofs.Decode` — decoding keeps the declared type, and is NULL only where it must

`Datum.decode` never fails, and whatever it is given it answers with a datum of the declared
type. It answers NULL in exactly these cases:

| cell | declared type | why |
|---|---|---|
| NULL | any | nothing to decode |
| a value with no datum of its own (`Cell.Undecodable`) | not textual | no text either |
| a value whose own datum has another type and no conversion to it | not textual | `Datum.convert` has no arm, or the value does not fit |

A textual column never holds NULL for a value: it takes the value's text, or its placeholder,
as `JSON` exactly when the column is `JSON`. A datum that already has the declared type comes
back as it is, so binary floats keep every bit.
-/

namespace CqlBridge

/-! ## The values without a datum of their own

A value has no datum of its own exactly when it is one of `Undecodable`'s, and a value's own
datum is never NULL. -/

/-- The values that have no datum of their own type: `empty`, a decimal or a varint of no byte
or of more than 16 bytes, a decimal with a scale beyond 4096 either way, and a timestamp whose
microseconds do not fit in 64 bits. -/
def Cell.Undecodable : Cell → Prop
  | .empty => True
  | .decimal bs scale => bs.length = 0 ∨ 16 < bs.length ∨ Number.maxScale < scale.toInt.natAbs
  | .varint bs => bs.length = 0 ∨ 16 < bs.length
  | .timestamp ms => Datum.fits64 (ms.toInt * 1000) = false
  | _ => False

theorem toInt64?_eq_none_iff (x : Int) : toInt64? x = none ↔ Datum.fits64 x = false := by
  unfold toInt64? Datum.fits64
  split <;> simp_all

theorem decimalText?_eq_none_iff (bs : List UInt8) (scale : Int) :
    Number.decimalText? bs scale = none ↔
      bs.length = 0 ∨ 16 < bs.length ∨ Number.maxScale < scale.natAbs := by
  unfold Number.decimalText?
  split
  · rename_i h
    simp only [Bool.or_eq_true, List.isEmpty_iff_length_eq_zero, decide_eq_true_eq] at h
    simp only [true_iff]
    omega
  · rename_i h
    simp only [Bool.or_eq_true, List.isEmpty_iff_length_eq_zero, decide_eq_true_eq,
      not_or] at h
    simp only [reduceCtorEq, false_iff, not_or]
    omega

namespace Cell

theorem toDatum?_eq_none_iff (c : Cell) : c.toDatum? = none ↔ c.Undecodable := by
  cases c with
  | decimal bs scale =>
      simp only [toDatum?, Option.map_eq_none_iff, decimalText?_eq_none_iff, Undecodable]
  | varint bs =>
      simp [toDatum?, decimalText?_eq_none_iff, Undecodable, Number.maxScale]
  | timestamp ms => simp only [toDatum?, Option.map_eq_none_iff, toInt64?_eq_none_iff, Undecodable]
  | empty => simp [toDatum?, Undecodable]
  | _ => simp [toDatum?, Undecodable]

theorem isNull_of_toDatum? {c : Cell} {d : Datum} (h : c.toDatum? = some d) : d.isNull = false := by
  cases c <;> simp only [toDatum?, reduceCtorEq, Option.map_eq_some_iff, Option.some.injEq] at h <;>
    first
    | (subst h; rfl)
    | (obtain ⟨_, _, rfl⟩ := h; rfl)

end Cell

/-! ## Fitting a datum to the declared type

Every conversion lands in the type it converts to and never on NULL, so a non-NULL datum fits to
NULL exactly when it has another type, the column is not textual, and no conversion applies. -/

namespace Datum

theorem ofText_eq (t : SqlType) (s : String) :
    ofText t s = if t = .json then .json s else .varchar s := by
  cases t <;> rfl

theorem sqlType_ofText {t : SqlType} (ht : t.isTextual = true) (s : String) :
    (ofText t s).sqlType = t := by
  cases t <;> simp_all [SqlType.isTextual, ofText_eq, sqlType]

@[simp] theorem isNull_ofText (t : SqlType) (s : String) : (ofText t s).isNull = false := by
  rw [ofText_eq]
  split <;> rfl

theorem convert_eq_some {d d' : Datum} {t : SqlType} (h : convert d t = some d') :
    d'.sqlType = t ∧ d'.isNull = false := by
  cases d <;> cases t <;> simp only [convert, reduceCtorEq, Option.map_eq_some_iff,
    Option.some.injEq] at h <;>
    first
    | (subst h; exact ⟨rfl, rfl⟩)
    | (obtain ⟨_, _, rfl⟩ := h; exact ⟨rfl, rfl⟩)

theorem sqlType_fit (d : Datum) (t : SqlType) (code : Nat) : (d.fit t code).sqlType = t := by
  unfold fit
  split
  · rename_i h
    exact eq_of_beq h
  · split
    · rename_i _ ht
      exact sqlType_ofText ht _
    · cases hc : convert d t with
      | none => rfl
      | some d' => exact (convert_eq_some hc).1

/-- Decoding answers a datum of the declared type, whatever the cell. -/
theorem sqlType_decode (cell : Option Cell) (t : SqlType) : (decode cell t).sqlType = t := by
  cases cell with
  | none => rfl
  | some c =>
      simp only [decode]
      split
      · exact sqlType_fit _ t c.code
      · split
        · rename_i ht
          exact sqlType_ofText ht _
        · rfl

theorem isNull_fit_iff {d : Datum} (hd : d.isNull = false) (t : SqlType) (code : Nat) :
    (d.fit t code).isNull = true ↔
      d.sqlType ≠ t ∧ t.isTextual = false ∧ convert d t = none := by
  unfold fit
  by_cases hty : d.sqlType = t
  · simp [hty, hd]
  · have hne : (d.sqlType == t) = false := by simpa using hty
    simp only [hne, Bool.false_eq_true, ite_false]
    cases ht : t.isTextual with
    | true => simp
    | false =>
        cases hc : convert d t with
        | none => simp [hty, isNull]
        | some d' => simp [(convert_eq_some hc).2, hty]

theorem eq_ofText_of_sqlType {d : Datum} {t : SqlType} (hn : d.isNull = false)
    (ht : t.isTextual = true) (hd : d.sqlType = t) : ∃ s, d = ofText t s := by
  cases d <;> subst hd <;> simp_all [SqlType.isTextual, sqlType, ofText_eq, isNull]

/-! ## Decoding a present value

A value whose own datum already has the declared type decodes to that datum, and a present
value in a textual column decodes to text. -/

theorem decode_of_toDatum? {c : Cell} {d : Datum} {t : SqlType} (h : c.toDatum? = some d)
    (ht : d.sqlType = t) : decode (some c) t = d := by
  simp [decode, h, fit, ht]

theorem decode_textual (c : Cell) {t : SqlType} (ht : t.isTextual = true) :
    ∃ s, decode (some c) t = ofText t s := by
  simp only [decode]
  split
  · rename_i d hd
    unfold fit
    by_cases hty : d.sqlType = t
    · simpa [hty] using eq_ofText_of_sqlType (Cell.isNull_of_toDatum? hd) ht hty
    · have hne : (d.sqlType == t) = false := by simpa using hty
      simp only [hne, Bool.false_eq_true, ite_false, ht, ite_true]
      exact ⟨_, rfl⟩
  · simp only [ht, ite_true]
    exact ⟨_, rfl⟩

/-- A present value decodes to NULL exactly when the column is not textual and the value has
no datum of its own, or has one of another type that no conversion takes to the column's. -/
theorem isNull_decode_some (c : Cell) (t : SqlType) :
    (decode (some c) t).isNull = true ↔ t.isTextual = false ∧
      (c.Undecodable ∨ ∃ d, c.toDatum? = some d ∧ d.sqlType ≠ t ∧ convert d t = none) := by
  cases h : c.toDatum? with
  | none =>
      have hu : c.Undecodable := (Cell.toDatum?_eq_none_iff c).1 h
      cases ht : t.isTextual with
      | true => simp [decode, h, ht]
      | false => simp [decode, h, ht, hu, isNull]
  | some d =>
      have hu : ¬ c.Undecodable := fun hu => by
        rw [← Cell.toDatum?_eq_none_iff] at hu
        simp [h] at hu
      simp only [decode, h, isNull_fit_iff (Cell.isNull_of_toDatum? h), hu, false_or,
        Option.some.injEq, exists_eq_left']
      exact and_left_comm

end Datum

/-! ## The declared type and the NULL discipline -/

theorem isTextual_eq_false_iff (t : SqlType) : t.isTextual = false ↔ t ≠ .varchar ∧ t ≠ .json := by
  cases t <;> simp [SqlType.isTextual]

/-- **Decoding respects the declared type.** For every cell, NULL or any value, and every
declared type `t`: the datum has type `t`; it is NULL exactly when the cell is NULL, or `t` is
not textual and the value has no datum of its own or one that does not convert to `t`; a value
whose own datum has type `t` comes back unchanged; and a value in a textual column is text,
`JSON` exactly when `t` is `JSON`. -/
theorem decode_declared_type_and_nulls (cell : Option Cell) (t : SqlType) :
    (Datum.decode cell t).sqlType = t ∧
    ((Datum.decode cell t).isNull = true ↔ cell = none ∨
      (t ≠ .varchar ∧ t ≠ .json ∧ ∃ c, cell = some c ∧
        (c.Undecodable ∨ ∃ d, c.toDatum? = some d ∧ d.sqlType ≠ t ∧ Datum.convert d t = none))) ∧
    (∀ c d, cell = some c → c.toDatum? = some d → d.sqlType = t → Datum.decode cell t = d) ∧
    (∀ c, cell = some c → (t = .varchar ∨ t = .json) →
      ∃ s, Datum.decode cell t = if t = .json then .json s else .varchar s) := by
  refine ⟨Datum.sqlType_decode cell t, ?_, ?_, ?_⟩
  · cases cell with
    | none => simp [Datum.decode, Datum.isNull]
    | some c =>
        rw [Datum.isNull_decode_some, isTextual_eq_false_iff]
        simp [and_assoc]
  · rintro c d rfl hc hd
    exact Datum.decode_of_toDatum? hc hd
  · rintro c rfl ht
    have htext : t.isTextual = true := by rcases ht with rfl | rfl <;> rfl
    obtain ⟨s, hs⟩ := Datum.decode_textual c htext
    exact ⟨s, by rw [hs, Datum.ofText_eq]⟩

end CqlBridge
