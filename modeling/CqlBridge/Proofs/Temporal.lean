import CqlBridge.Proofs.IntegerFit

/-!
# `CqlBridge.Proofs.Temporal` — instants, days, times and durations decode exactly

The store counts time in its own units and a relational column in others. Each temporal value
decodes into its natural column by exact integer arithmetic:

| store value | column | rule |
|---|---|---|
| `timestamp`, milliseconds | `TIMESTAMP WITH TIME ZONE`, microseconds | times 1000 when that fits 64 bits, else NULL |
| `bigint` or `counter` taken as milliseconds | the same | the same, through `Datum.convert` |
| `timestamp` | `DATE`, days since 1970-01-01 | the day the instant falls in, by floor division |
| `date`, a raw count with 1970-01-01 at 2^31 | `DATE` | minus 2^31 |
| `time`, nanoseconds since midnight | `TIME`, microseconds | divided by 1000 toward zero |
| `duration` | `INTERVAL` | months, days and nanoseconds kept |

None of the narrowings loses a bit. The day of an instant whose microseconds fit 64 bits fits 32
bits, since 2^63 microseconds are about 1.07e8 days; every raw date count, recentred, fits 32
bits; and a quotient by 1000 is smaller than what it divides.
-/

namespace CqlBridge

/-! ## The 64-bit check on a product -/

theorem toInt64?_of_fits {x : Int} (h : FitsWidth 64 x) : toInt64? x = some (Int64.ofInt x) := by
  unfold toInt64?
  rw [if_pos ((fitsWidth_iff_check 63 x).1 h)]

theorem toInt64?_of_not_fits {x : Int} (h : ¬ FitsWidth 64 x) : toInt64? x = none := by
  have hcheck : ¬ (-Int.pow 2 63 ≤ x && x < Int.pow 2 63) = true :=
    fun hc => h ((fitsWidth_iff_check 63 x).2 hc)
  unfold toInt64?
  rw [if_neg hcheck]

namespace Datum

theorem decode_of_convert {c : Cell} {d : Datum} {t : SqlType} (h : c.toDatum? = some d)
    (hne : d.sqlType ≠ t) (ht : t.isTextual = false) :
    decode (some c) t = (convert d t).getD (.null t) := by
  have hb : (d.sqlType == t) = false := by simpa using hne
  simp [decode, h, fit, hb, ht]

/-! ## Instants

A count of milliseconds, as a timestamp or as a 64-bit integer, decodes by the one checked
product: exact when its microseconds fit 64 bits, NULL otherwise. A value whose own datum has
another type than a column that is not textual converts to the column's type, or is NULL. -/

theorem decode_instant {c : Cell} {ms : Int64}
    (hc : c ∈ [Cell.timestamp ms, Cell.bigint ms, Cell.counter ms]) :
    decode (some c) .timestamptz =
      ((toInt64? (ms.toInt * 1000)).map .timestamptz).getD (.null .timestamptz) := by
  simp only [List.mem_cons, List.not_mem_nil, or_false] at hc
  rcases hc with rfl | rfl | rfl
  · -- a timestamp's own datum is the instant itself, or there is none
    cases hus : toInt64? (ms.toInt * 1000) with
    | none => simp [decode, Cell.toDatum?, hus, SqlType.isTextual]
    | some us => exact decode_of_toDatum? (by simp [Cell.toDatum?, hus]) rfl
  -- a 64-bit integer's own datum is a `BIGINT`, which `convert` reads as milliseconds
  all_goals
    rw [decode_of_convert rfl (by simp [sqlType]) rfl]
    rfl

theorem decode_instant_exact {c : Cell} {ms : Int64}
    (hc : c ∈ [Cell.timestamp ms, Cell.bigint ms, Cell.counter ms]) :
    (FitsWidth 64 (ms.toInt * 1000) →
      ∃ us : Int64, decode (some c) .timestamptz = .timestamptz us ∧ us.toInt = ms.toInt * 1000) ∧
    (¬ FitsWidth 64 (ms.toInt * 1000) → decode (some c) .timestamptz = .null .timestamptz) := by
  refine ⟨fun h => ⟨_, ?_, toInt_ofInt64 h⟩, fun h => ?_⟩
  · rw [decode_instant hc, toInt64?_of_fits h]
    rfl
  · rw [decode_instant hc, toInt64?_of_not_fits h]
    rfl

/-! ## Days

The day of an instant is its microseconds divided by those of a day, rounded down, and a raw
day count recentred at 1970-01-01 always fits 32 bits. -/

theorem decode_timestamp_date {ms : Int64} (h : FitsWidth 64 (ms.toInt * 1000)) :
    decode (some (.timestamp ms)) .date = .date (Int32.ofInt (ms.toInt * 1000 / 86400000000)) := by
  have hown : (Cell.timestamp ms).toDatum? = some (.timestamptz (Int64.ofInt (ms.toInt * 1000))) := by
    simp [Cell.toDatum?, toInt64?_of_fits h]
  rw [decode_of_convert hown (by simp [sqlType]) rfl]
  simp only [convert, Option.getD_some, toInt_ofInt64 h]

/-- Floor division of the microseconds is floor division of the milliseconds, and its quotient
fits 32 bits: the day `d` is the one whose milliseconds `[d · 86400000, (d + 1) · 86400000)` hold
the instant, before 1970 as after. -/
theorem day_of_micros {ms : Int} (h : FitsWidth 64 (ms * 1000)) :
    FitsWidth 32 (ms * 1000 / 86400000000) ∧
      (ms * 1000 / 86400000000) * 86400000 ≤ ms ∧ ms < (ms * 1000 / 86400000000 + 1) * 86400000 := by
  obtain ⟨hlo, hhi⟩ := h
  refine ⟨⟨?_, ?_⟩, ?_, ?_⟩ <;> simp only [Nat.reduceSub] at * <;> omega

theorem fitsWidth_date (raw : UInt32) : FitsWidth 32 ((raw.toNat : Int) - 2 ^ 31) := by
  have hlt := UInt32.toNat_lt raw
  constructor <;> simp only [Nat.reduceSub] <;> omega

theorem decode_date (raw : UInt32) :
    decode (some (.date raw)) .date = .date (Int32.ofInt ((raw.toNat : Int) - 2 ^ 31)) :=
  decode_of_toDatum? rfl rfl

/-! ## Times of day and durations

Cutting nanoseconds to microseconds toward zero stays in the 64-bit range. -/

theorem fitsWidth_tdiv (ns : Int64) : FitsWidth 64 (ns.toInt.tdiv 1000) := by
  have hlo := Int64.le_toInt ns
  have hhi := Int64.toInt_lt ns
  have habs : (ns.toInt.tdiv 1000).natAbs = ns.toInt.natAbs / 1000 := Int.natAbs_tdiv _ _
  constructor <;> simp only [Nat.reduceSub] at * <;> omega

theorem decode_time (ns : Int64) :
    decode (some (.time ns)) .time = .time (Int64.ofInt (ns.toInt.tdiv 1000)) :=
  decode_of_toDatum? rfl rfl

theorem decode_duration (months days : Int32) (nanos : Int64) :
    decode (some (.duration months days nanos)) .interval = .interval months days nanos :=
  decode_of_toDatum? rfl rfl

end Datum

open Datum in
/-- **Temporal values decode by exact arithmetic.** A timestamp, bigint or counter of `ms`
milliseconds decodes into `TIMESTAMP WITH TIME ZONE` as `1000 · ms` microseconds when that fits
64 bits and as NULL otherwise; a timestamp whose microseconds fit decodes into `DATE` as the day
`d` with `d · 86400000 ≤ ms < (d + 1) · 86400000`, before 1970 too; a raw date decodes into
`DATE` as the raw count minus 2^31, whatever the count; a time of `ns` nanoseconds decodes into
`TIME` as `ns / 1000` rounded toward zero; a duration decodes into `INTERVAL` with its three
fields. -/
theorem decode_temporal_exact (ms ns : Int64) (raw : UInt32) (months days : Int32)
    (nanos : Int64) :
    (∀ c ∈ [Cell.timestamp ms, Cell.bigint ms, Cell.counter ms],
      (FitsWidth 64 (ms.toInt * 1000) →
        ∃ us : Int64, decode (some c) .timestamptz = .timestamptz us ∧
          us.toInt = ms.toInt * 1000) ∧
      (¬ FitsWidth 64 (ms.toInt * 1000) → decode (some c) .timestamptz = .null .timestamptz)) ∧
    (FitsWidth 64 (ms.toInt * 1000) →
      ∃ d : Int32, decode (some (.timestamp ms)) .date = .date d ∧
        d.toInt * 86400000 ≤ ms.toInt ∧ ms.toInt < (d.toInt + 1) * 86400000) ∧
    (∃ d : Int32, decode (some (.date raw)) .date = .date d ∧ d.toInt = raw.toNat - 2 ^ 31) ∧
    (∃ t : Int64, decode (some (.time ns)) .time = .time t ∧ t.toInt = ns.toInt.tdiv 1000) ∧
    decode (some (.duration months days nanos)) .interval = .interval months days nanos := by
  refine ⟨fun c hc => decode_instant_exact hc, fun h => ?_,
    ⟨_, decode_date raw, toInt_ofInt32 (fitsWidth_date raw)⟩,
    ⟨_, decode_time ns, toInt_ofInt64 (fitsWidth_tdiv ns)⟩, decode_duration months days nanos⟩
  obtain ⟨hfits, hlo, hhi⟩ := day_of_micros h
  exact ⟨_, decode_timestamp_date h, by rw [toInt_ofInt32 hfits]; exact ⟨hlo, hhi⟩⟩

/-- One millisecond before 1970 falls on the day before, 1969-12-31. -/
theorem decode_temporal_exact_before_epoch :
    FitsWidth 64 ((-1 : Int64).toInt * 1000) ∧
      ∃ d : Int32, Datum.decode (some (.timestamp (-1))) .date = .date d ∧
        d.toInt * 86400000 ≤ (-1 : Int64).toInt ∧ (-1 : Int64).toInt < (d.toInt + 1) * 86400000 :=
  ⟨by decide, (decode_temporal_exact (-1) 0 0 0 0 0).2.1 (by decide)⟩

end CqlBridge
