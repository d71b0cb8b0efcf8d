/-!
# `CqlBridge.Number.Binary` — IEEE 754 binary formats, read from and rounded into bit patterns

A binary interchange format has a sign bit, `expBits` exponent bits and `fracBits` fraction
bits. A bit pattern stands for NaN, an infinity, or a finite number `± sig · 2^exp`; `decode`
says which. `roundRat` goes the other way: it rounds a non-negative rational to the nearest
number of the format, a tie going to the even significand, and to infinity past the largest
finite number. This is the rounding of every correctly rounded reader and conversion, so
`narrow` (binary64 to binary32) and `widen` (binary32 to binary64, always exact) are built on it.

NaN conversions keep the payload's leading bits and set the quiet bit, as the usual hardware
conversion instructions do.
-/

namespace CqlBridge.Number

/-- An IEEE 754 binary interchange format. -/
structure BinaryFormat where
  /-- Stored fraction bits, without the hidden leading bit. -/
  fracBits : Nat
  /-- Exponent bits. -/
  expBits : Nat
  deriving Repr, DecidableEq

namespace BinaryFormat

/-- Single precision: 23 fraction bits and 8 exponent bits. -/
def binary32 : BinaryFormat := ⟨23, 8⟩

/-- Double precision: 52 fraction bits and 11 exponent bits. -/
def binary64 : BinaryFormat := ⟨52, 11⟩

/-- The exponent bias. -/
def bias (f : BinaryFormat) : Nat := Nat.pow 2 (f.expBits - 1) - 1

/-- The all-ones exponent field, reserved for infinities and NaNs. -/
def topField (f : BinaryFormat) : Nat := Nat.pow 2 f.expBits - 1

/-- The value of the sign bit. -/
def signBit (f : BinaryFormat) : Nat := Nat.pow 2 (f.expBits + f.fracBits)

/-- The hidden bit of a normal significand. -/
def hidden (f : BinaryFormat) : Nat := Nat.pow 2 f.fracBits

/-- The exponent of the significand's last bit in the subnormal range. -/
def minExp (f : BinaryFormat) : Int := 1 - (f.bias : Int) - f.fracBits

/-- The bit pattern of positive infinity. -/
def infBits (f : BinaryFormat) : Nat := f.topField * f.hidden

end BinaryFormat

/-- What a bit pattern stands for. -/
inductive Decoded where
  /-- Not a number. -/
  | nan
  /-- An infinity of the given sign. -/
  | infinite (neg : Bool)
  /-- The number `± sig · 2^exp`, with `sig = 0` for the two zeros. `subnormal` marks the
  patterns whose exponent field is zero. -/
  | finite (neg : Bool) (sig : Nat) (exp : Int) (subnormal : Bool)
  deriving Repr, DecidableEq

namespace BinaryFormat

/-- The sign of a bit pattern. -/
def isNeg (f : BinaryFormat) (bits : Nat) : Bool := bits / f.signBit % 2 == 1

/-- The exponent field of a bit pattern. -/
def expField (f : BinaryFormat) (bits : Nat) : Nat := bits / f.hidden % Nat.pow 2 f.expBits

/-- The fraction field of a bit pattern. -/
def fracField (f : BinaryFormat) (bits : Nat) : Nat := bits % f.hidden

/-- What a bit pattern stands for. -/
def decode (f : BinaryFormat) (bits : Nat) : Decoded :=
  let neg := f.isNeg bits
  let e := f.expField bits
  let m := f.fracField bits
  if e == f.topField then (if m == 0 then .infinite neg else .nan)
  else if e == 0 then .finite neg m f.minExp true
  else .finite neg (m + f.hidden) ((e : Int) - f.bias - f.fracBits) false

/-- `⌊log₂ (num / den)⌋` for positive `num` and `den`. -/
def floorLog2 (num den : Nat) : Int :=
  let k : Int := (Nat.log2 num : Int) - Nat.log2 den
  -- `num / den` lies in `(2^(k-1), 2^(k+1))`, so it is `k` or `k - 1`
  let atLeast :=
    if 0 ≤ k then den * Nat.pow 2 k.toNat ≤ num else den ≤ num * Nat.pow 2 (-k).toNat
  if atLeast then k else k - 1

/-- The significand of `num / den` at the binary exponent `q`, rounded to nearest with a tie
going to the even significand. -/
def roundAt (num den : Nat) (q : Int) : Nat :=
  let n := num * Nat.pow 2 (-q).toNat
  let d := den * Nat.pow 2 q.toNat
  let s := n / d
  let r := n % d
  if 2 * r > d || (2 * r == d && s % 2 == 1) then s + 1 else s

/-- The bit pattern nearest to the non-negative rational `num / den` (`den > 0`): ties go to
the even significand, and values past the largest finite number become infinity. -/
def roundRat (f : BinaryFormat) (num den : Nat) : Nat :=
  if num == 0 then 0 else
  -- the exponent that gives a significand of `fracBits + 1` bits, but not below the subnormals
  let q := max (floorLog2 num den - f.fracBits) f.minExp
  let s := roundAt num den q
  -- rounding up may carry into a new bit
  let (s, q) := if s == 2 * f.hidden then (f.hidden, q + 1) else (s, q)
  if s < f.hidden then s
  else
    let field := q + f.bias + f.fracBits
    if field ≥ f.topField then f.infBits
    else field.toNat * f.hidden + (s - f.hidden)

/-- The bit pattern of a signed rational, rounded as `roundRat` does. -/
def ofRat (f : BinaryFormat) (neg : Bool) (num den : Nat) : Nat :=
  (if neg then f.signBit else 0) + f.roundRat num den

/-- The exact value of a finite pattern as a signed fraction `(neg, num, den)`. -/
def toRat (neg : Bool) (sig : Nat) (exp : Int) : Bool × Nat × Nat :=
  (neg, sig * Nat.pow 2 exp.toNat, Nat.pow 2 (-exp).toNat)

/-- Converts a pattern of format `f` to format `g`: finite values are rounded to nearest,
infinities stay infinities, and a NaN keeps the leading bits of its payload and is made quiet. -/
def convert (f g : BinaryFormat) (bits : Nat) : Nat :=
  match f.decode bits with
  | .nan =>
    let sign := if f.isNeg bits then g.signBit else 0
    let payload := f.fracField bits
    let moved :=
      if g.fracBits ≥ f.fracBits then payload * Nat.pow 2 (g.fracBits - f.fracBits)
      else payload / Nat.pow 2 (f.fracBits - g.fracBits)
    sign + g.infBits + (moved % g.hidden) ||| g.hidden / 2
  | .infinite neg => (if neg then g.signBit else 0) + g.infBits
  | .finite neg sig exp _ =>
    let (neg, num, den) := toRat neg sig exp
    g.ofRat neg num den

end BinaryFormat

/-- A binary64 value as its bit pattern. -/
abbrev Bits64 := UInt64

/-- A binary32 value as its bit pattern. -/
abbrev Bits32 := UInt32

/-- Widens a binary32 pattern to binary64; finite values and infinities are kept exactly. -/
def widen (b : Bits32) : Bits64 :=
  (BinaryFormat.convert .binary32 .binary64 b.toNat).toUInt64

/-- Narrows a binary64 pattern to binary32, rounding to nearest with ties to even. -/
def narrow (b : Bits64) : Bits32 :=
  (BinaryFormat.convert .binary64 .binary32 b.toNat).toUInt32

/-- The quiet NaN with an empty payload, in binary32. -/
def nan32 : Bits32 := 0x7fc00000

/-- The quiet NaN with an empty payload, in binary64. -/
def nan64 : Bits64 := 0x7ff8000000000000

example : widen 0x3dcccccd = 0x3fb99999a0000000 := by decide
example : narrow 0x3fb999999999999a = 0x3dcccccd := by decide
example : widen nan32 = nan64 := by decide

end CqlBridge.Number
