import CqlBridge.Number.Shortest

/-!
# `CqlBridge.Number.FloatText` — two ways of writing a binary number as text

Both writers take the shortest decimal of `CqlBridge.Number.Shortest`; they differ in the few
decisions a `FloatStyle` record holds:

* `FloatStyle.plain`, the plain text of a number: always positional (`1e21` is written
  `1000000000000000000000`, `1e-7` is `0.0000001`), no `.0` on whole numbers, an exact tie goes
  up, and `NaN`, `inf`, `-inf`.
* `FloatStyle.json`, the number as JSON writes it: positional while the decimal exponent `kk`
  (with `10^(kk-1) ≤ |v| < 10^kk`) satisfies `-5 < kk ≤ 16`, else `d.ddde-x` or `d.ddde+x`;
  whole numbers keep `.0`; an exact tie goes to the even digit.

Zero keeps its sign in both (`-0`, `-0.0`).
-/

namespace CqlBridge.Number

/-- The decisions that tell one float writer from another. -/
structure FloatStyle where
  /-- How a tie between two shortest candidates is settled. -/
  tie : Tie
  /-- Where the intervals of corner-case values end. -/
  interval : IntervalRule
  /-- The decimal exponents `kk` written positionally: `lower < kk ≤ upper`; `none` for
  always. -/
  positional : Option (Int × Int)
  /-- Whether a whole number written positionally gets `.0`. -/
  pointZero : Bool
  /-- Whether a non-negative exponent gets a `+`. -/
  plusExponent : Bool
  /-- The text of a NaN. -/
  nanText : String
  /-- The text of positive infinity; negative infinity gets a `-` before it. -/
  infText : String

/-- Plain text: always positional, no `.0`, ties up, `NaN` and `inf`. -/
def FloatStyle.plain : FloatStyle where
  tie := .up
  interval := ⟨true, true⟩
  positional := none
  pointZero := false
  plusExponent := false
  nanText := "NaN"
  infText := "inf"

/-- JSON text: positional for `-5 < kk ≤ 16`, `.0` on whole numbers, a signed exponent, ties to
even. Non-finite values have no JSON number; their texts here are never used. -/
def FloatStyle.json : FloatStyle where
  tie := .even
  interval := ⟨false, false⟩
  positional := some (-5, 16)
  pointZero := true
  plusExponent := true
  nanText := "NaN"
  infText := "inf"

/-- `n` zeros. -/
def zeros (n : Nat) : String := String.ofList (List.replicate n '0')

/-- The decimal text of an integer, with `-` for negatives. -/
def intText (i : Int) : String :=
  if i < 0 then "-" ++ toString i.natAbs else toString i.natAbs

/-- The text of a non-negative decimal `d`, laid out as `style` says. -/
def FloatStyle.layout (style : FloatStyle) (d : Decimal) : String :=
  if d.digits == 0 then (if style.pointZero then "0.0" else "0") else
  let s := toString d.digits
  let n := s.length
  let kk : Int := n + d.exp
  let positional := match style.positional with
    | none => true
    | some (lo, hi) => lo < kk && kk ≤ hi
  if positional then
    if kk ≤ 0 then "0." ++ zeros (-kk).toNat ++ s
    else if kk < n then String.ofList (s.toList.take kk.toNat) ++ "." ++
      String.ofList (s.toList.drop kk.toNat)
    else s ++ zeros (kk - n).toNat ++ (if style.pointZero then ".0" else "")
  else
    let first := String.ofList (s.toList.take 1)
    let rest := String.ofList (s.toList.drop 1)
    let sign := if style.plusExponent && kk ≥ 1 then "+" else ""
    first ++ (if n > 1 then "." ++ rest else "") ++ "e" ++ sign ++ intText (kk - 1)

/-- The text of the number with bit pattern `bits` in format `f`. -/
def FloatStyle.render (style : FloatStyle) (f : BinaryFormat) (bits : Nat) : String :=
  match f.decode bits with
  | .nan => style.nanText
  | .infinite neg => (if neg then "-" else "") ++ style.infText
  | .finite neg sig exp subnormal =>
    let d : Decimal :=
      if sig == 0 then ⟨0, 0⟩
      else (bracketOf f style.interval sig exp subnormal).shortest style.tie
    (if neg then "-" else "") ++ style.layout d

/-- The plain text of a binary32 value. -/
def plain32 (b : Bits32) : String := FloatStyle.plain.render .binary32 b.toNat

/-- The plain text of a binary64 value. -/
def plain64 (b : Bits64) : String := FloatStyle.plain.render .binary64 b.toNat

/-- The JSON text of a finite binary64 value. -/
def json64 (b : Bits64) : String := FloatStyle.json.render .binary64 b.toNat

/-- Whether a binary64 pattern is a finite number. -/
def isFinite64 (b : Bits64) : Bool :=
  match BinaryFormat.binary64.decode b.toNat with
  | .finite .. => true
  | _ => false

end CqlBridge.Number
