/-!
# `CqlBridge.Net.Uuid` — UUIDs, read from their four text forms and written hyphenated

A UUID is 16 bytes. It is read from the bytes of a text of one of four shapes: 32 hex digits;
36 characters with hyphens at positions 8, 13, 18 and 23 and hex digits elsewhere; the latter
inside `{` and `}`; or the latter after `urn:uuid:`. Hex digits may be of either case. It is
written in the 36-character form with lower-case digits. As a number, a UUID is its bytes read
most significant first (`toNat`, and back `ofNat`).
-/

namespace CqlBridge

/-- A UUID as its 16 bytes, most significant first. -/
structure Uuid where
  bytes : List UInt8
  size : bytes.length = 16
  deriving Repr, DecidableEq

namespace Uuid

/-- The value of a hex digit, either case. -/
def hexValue? (b : UInt8) : Option Nat :=
  let n := b.toNat
  if 48 ≤ n && n ≤ 57 then some (n - 48)
  else if 97 ≤ n && n ≤ 102 then some (n - 87)
  else if 65 ≤ n && n ≤ 70 then some (n - 55)
  else none

/-- Bytes from an even number of hex digits. -/
def hexPairs? : List UInt8 → Option (List UInt8)
  | [] => some []
  | a :: b :: rest => do
    let x ← hexValue? a
    let y ← hexValue? b
    let tail ← hexPairs? rest
    pure ((x * 16 + y).toUInt8 :: tail)
  | [_] => none

/-- The 32 hex digits of the hyphenated form, if the hyphens stand where they must. -/
def unhyphen? (s : List UInt8) : Option (List UInt8) :=
  if s.length == 36 && [8, 13, 18, 23].all (fun i => s[i]? == some 45) then
    some ((List.range 36).filterMap fun i => if i ∈ [8, 13, 18, 23] then none else s[i]?)
  else none

/-- The bytes `urn:uuid:`. -/
def urnPrefix : List UInt8 := "urn:uuid:".toUTF8.toList

/-- Reads a UUID from the bytes of a text in one of the four accepted shapes. -/
def parseBytes? (s : List UInt8) : Option Uuid := do
  let digits ←
    if s.length == 32 then some s
    else if s.length == 36 then unhyphen? s
    else if s.length == 38 && s.head? == some 123 && s.getLast? == some 125 then
      unhyphen? ((s.drop 1).take 36)
    else if s.length == 45 && s.take 9 == urnPrefix then unhyphen? (s.drop 9)
    else none
  let bytes ← hexPairs? digits
  -- every accepted shape has 32 digits, so the size always holds
  if h : bytes.length = 16 then pure ⟨bytes, h⟩ else none

/-- Reads a UUID from a text in one of the four accepted shapes. -/
def parse? (s : String) : Option Uuid :=
  parseBytes? s.toUTF8.toList

/-- Two lower-case hex digits of a byte. -/
def byteHex (b : UInt8) : List Char :=
  let hex (n : Nat) : Char := if n < 10 then Char.ofNat (48 + n) else Char.ofNat (87 + n)
  [hex (b.toNat / 16), hex (b.toNat % 16)]

/-- The hyphenated lower-case text. -/
def text (u : Uuid) : String :=
  let groups := [u.bytes.take 4, (u.bytes.drop 4).take 2, (u.bytes.drop 6).take 2,
    (u.bytes.drop 8).take 2, u.bytes.drop 10]
  "-".intercalate (groups.map fun g => String.ofList (g.flatMap byteHex))

/-- The UUID of 16 bytes, the missing ones zero and the extra ones dropped. -/
def ofBytes (bs : List UInt8) : Uuid :=
  ⟨(bs ++ List.replicate 16 0).take 16, by simp⟩

/-- The UUID as a 128-bit number, first byte most significant. -/
def toNat (u : Uuid) : Nat :=
  u.bytes.foldl (fun acc b => acc * 256 + b.toNat) 0

/-- The low `k` bytes of a number, most significant first. -/
def bytesOfNat : Nat → Nat → List UInt8
  | 0, _ => []
  | k + 1, n => bytesOfNat k (n / 256) ++ [(n % 256).toUInt8]

theorem length_bytesOfNat (k n : Nat) : (bytesOfNat k n).length = k := by
  induction k generalizing n with
  | zero => rfl
  | succ k ih => simp [bytesOfNat, ih]

/-- The UUID of the low 128 bits of a number, most significant byte first. -/
def ofNat (n : Nat) : Uuid := ⟨bytesOfNat 16 n, length_bytesOfNat 16 n⟩

example : (parse? "{550E8400-e29b-41d4-a716-446655440000}").map text =
    some "550e8400-e29b-41d4-a716-446655440000" := by decide +kernel

end Uuid

end CqlBridge
