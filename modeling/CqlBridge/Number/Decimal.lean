/-!
# `CqlBridge.Number.Decimal` — exact decimal text of a scaled big-endian integer

A byte string read as a big-endian two's complement integer `x`, with a scale `s`, stands for
`x · 10^(-s)`. Its text is exact: the digits of `|x|`, with `-s` zeros after them for a
negative scale (none after zero), or a decimal point `s` digits from the right for a positive
scale (padded as `0.00ddd` when there are not enough digits), and `-` in front of negatives.

Only strings of 1 to 16 bytes and scales of at most 4096 either way have a text; `text?`
answers `none` for the others.
-/

namespace CqlBridge.Number

/-- A big-endian byte string as an unsigned number. -/
def unsignedOfBytes (bs : List UInt8) : Nat :=
  bs.foldl (fun acc b => acc * 256 + b.toNat) 0

/-- A big-endian byte string as a two's complement number. -/
def signedOfBytes (bs : List UInt8) : Int :=
  let n := unsignedOfBytes bs
  match bs.head? with
  | some b => if b.toNat ≥ 128 then (n : Int) - (Nat.pow 2 (8 * bs.length) : Nat) else n
  | none => 0

/-- The widest scale that has a text. -/
def maxScale : Nat := 4096

/-- The exact decimal text of `x · 10^(-scale)`. -/
def scaledText (x : Int) (scale : Int) : String :=
  let digits := toString x.natAbs
  let body :=
    if scale ≤ 0 then
      if x == 0 then digits else digits ++ zeros scale.natAbs
    else
      let s := scale.toNat
      if digits.length > s then
        String.ofList (digits.toList.take (digits.length - s)) ++ "." ++
          String.ofList (digits.toList.drop (digits.length - s))
      else "0." ++ zeros (s - digits.length) ++ digits
  if x < 0 then "-" ++ body else body
where
  zeros (n : Nat) : String := String.ofList (List.replicate n '0')

/-- The text of a scaled byte string, for 1 to 16 bytes and a scale of at most 4096 either
way. -/
def decimalText? (bs : List UInt8) (scale : Int) : Option String :=
  if bs.isEmpty || bs.length > 16 || scale.natAbs > maxScale then none
  else some (scaledText (signedOfBytes bs) scale)

example : decimalText? [0x04, 0xD2] 2 = some "12.34" := by decide +kernel
example : decimalText? [0xFF] 3 = some "-0.001" := by decide +kernel
example : decimalText? [0x00] (-2) = some "0" := by decide +kernel

end CqlBridge.Number
