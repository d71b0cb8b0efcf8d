import CqlBridge.Number.Binary

/-!
# `CqlBridge.Number.Read` — reading decimal text into a binary format

The accepted text is an optional sign, then `inf`, `infinity` or `nan` in any case, or digits
with an optional decimal point (at least one digit on one side of it) and an optional exponent
`e` or `E` with an optional sign and at least one digit. The value is rounded once, to nearest
with ties to even, into the target format. `nan` reads as the quiet NaN with an empty payload
(with the sign bit set after `-`).
-/

namespace CqlBridge.Number

/-- A decimal number `± digits · 10^exp`. -/
structure DecimalText where
  neg : Bool
  digits : Nat
  exp : Int
  deriving Repr

/-- Digits at the front, as a number with their count, and the rest. -/
def leadingDigits : List Char → Nat × Nat × List Char
  | c :: cs =>
    if c.isDigit then
      let (n, k, rest) := leadingDigits cs
      -- digits are read from the right, so the place value grows with `k`
      (n + (c.toNat - 48) * Nat.pow 10 k, k + 1, rest)
    else (0, 0, c :: cs)
  | [] => (0, 0, [])

/-- Reads unsigned decimal digits with an optional point and exponent, the whole text. -/
def readUnsigned? (cs : List Char) : Option (Nat × Int) :=
  let (ip, ik, rest) := leadingDigits cs
  let (fp, fk, rest) := match rest with
    | '.' :: r => leadingDigits r
    | r => (0, 0, r)
  if ik + fk == 0 then none else
  let mant := ip * Nat.pow 10 fk + fp
  let expPart : Option Int := match rest with
    | [] => some 0
    | e :: r =>
      if e == 'e' || e == 'E' then
        let (neg, r) := match r with
          | '-' :: r => (true, r)
          | '+' :: r => (false, r)
          | r => (false, r)
        let (n, k, r) := leadingDigits r
        if k == 0 || !r.isEmpty then none else some (if neg then -(n : Int) else n)
      else none
  expPart.map fun x => (mant, x - fk)

/-- Reads the text of a number into the bit pattern of format `f`. -/
def readFloat? (f : BinaryFormat) (s : String) : Option Nat :=
  let (neg, cs) := match s.toList with
    | '-' :: r => (true, r)
    | '+' :: r => (false, r)
    | r => (false, r)
  let sign := if neg then f.signBit else 0
  let word := String.ofList (cs.map Char.toLower)
  if word == "inf" || word == "infinity" then some (sign + f.infBits)
  else if word == "nan" then some (sign + f.infBits + f.hidden / 2)
  else
    (readUnsigned? cs).map fun (m, e) =>
      -- far outside every format's range the answer is zero or infinity without computing
      let size : Int := e + (toString m).length
      if m == 0 || size < -400 then sign
      else if size > 400 then sign + f.infBits
      else if 0 ≤ e then f.ofRat neg (m * Nat.pow 10 e.toNat) 1
      else f.ofRat neg m (Nat.pow 10 e.natAbs)

example : readFloat? .binary32 "0.1" = some 0x3dcccccd := by decide +kernel
example : readFloat? .binary64 "-0.0" = some 0x8000000000000000 := by decide +kernel

end CqlBridge.Number
