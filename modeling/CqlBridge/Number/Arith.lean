import CqlBridge.Number.Binary

/-!
# `CqlBridge.Number.Arith` — arithmetic on binary floating-point bit patterns

Each operation works out the exact result of two finite operands as a signed fraction and
rounds it once with `BinaryFormat.ofRat`, which is what IEEE 754 asks of `+`, `-`, `*` and `/`
under rounding to nearest. The special cases follow the standard as the usual hardware
implements it:

* a NaN operand gives that NaN made quiet (the first one when both are NaNs);
* an invalid operation (`∞ - ∞`, `0 · ∞`, `0 / 0`, `∞ / ∞`) gives the default NaN, whose sign
  bit is set;
* an exact zero sum is `+0` unless both operands are `-0`; products and quotients of zeros and
  infinities take the exclusive or of the signs.

`orderKey` maps a pattern to an integer so that integer order is the order of the numbers,
with both zeros equal and every NaN above everything else.
-/

namespace CqlBridge.Number

namespace BinaryFormat

/-- A signed fraction `± num / den`. -/
abbrev Frac := Bool × Nat × Nat

/-- The NaN an invalid operation produces. -/
def defaultNaN (f : BinaryFormat) : Nat := f.signBit + f.infBits + f.hidden / 2

/-- A NaN made quiet. -/
def quiet (f : BinaryFormat) (bits : Nat) : Nat := bits ||| f.hidden / 2

/-- Whether a pattern is a NaN. -/
def isNaN (f : BinaryFormat) (bits : Nat) : Bool :=
  match f.decode bits with
  | .nan => true
  | _ => false

/-- The pattern with its sign bit flipped. -/
def negate (f : BinaryFormat) (bits : Nat) : Nat :=
  if f.isNeg bits then bits - f.signBit else bits + f.signBit

/-- The sum of two signed fractions. -/
def fracAdd (a b : Frac) : Frac :=
  let (sa, na, da) := a
  let (sb, nb, db) := b
  let x := na * db
  let y := nb * da
  if sa == sb then (sa, x + y, da * db)
  else if y ≤ x then (sa, x - y, da * db) else (sb, y - x, da * db)

/-- The exact value of a finite pattern. -/
def frac? (f : BinaryFormat) (bits : Nat) : Option Frac :=
  match f.decode bits with
  | .finite neg sig exp _ => some (toRat neg sig exp)
  | _ => none

/-- The nearest pattern to a signed fraction; a zero fraction is `+0` unless `negZero`. -/
def ofFrac (f : BinaryFormat) (negZero : Bool) (x : Frac) : Nat :=
  if x.2.1 == 0 then (if negZero then f.signBit else 0) else f.ofRat x.1 x.2.1 x.2.2

/-- The sum of two patterns. -/
def add (f : BinaryFormat) (a b : Nat) : Nat :=
  match f.decode a, f.decode b with
  | .nan, _ => f.quiet a
  | _, .nan => f.quiet b
  | .infinite s, .infinite t => if s == t then a else f.defaultNaN
  | .infinite _, _ => a
  | _, .infinite _ => b
  | .finite sa ma ea _, .finite sb mb eb _ =>
    f.ofFrac (sa && sb) (fracAdd (toRat sa ma ea) (toRat sb mb eb))

/-- The difference of two patterns. -/
def sub (f : BinaryFormat) (a b : Nat) : Nat :=
  if f.isNaN b && !f.isNaN a then f.quiet b else f.add a (f.negate b)

/-- The product of two patterns. -/
def mul (f : BinaryFormat) (a b : Nat) : Nat :=
  let sign := if f.isNeg a != f.isNeg b then f.signBit else 0
  match f.decode a, f.decode b with
  | .nan, _ => f.quiet a
  | _, .nan => f.quiet b
  | .infinite _, .finite _ 0 _ _ | .finite _ 0 _ _, .infinite _ => f.defaultNaN
  | .infinite _, _ | _, .infinite _ => sign + f.infBits
  | .finite sa ma ea _, .finite sb mb eb _ =>
    let (_, na, da) := toRat sa ma ea
    let (_, nb, db) := toRat sb mb eb
    sign + f.roundRat (na * nb) (da * db)

/-- The quotient of two patterns. -/
def div (f : BinaryFormat) (a b : Nat) : Nat :=
  let sign := if f.isNeg a != f.isNeg b then f.signBit else 0
  match f.decode a, f.decode b with
  | .nan, _ => f.quiet a
  | _, .nan => f.quiet b
  | .infinite _, .infinite _ => f.defaultNaN
  | .infinite _, _ => sign + f.infBits
  | _, .infinite _ => sign
  | .finite _ 0 _ _, .finite _ 0 _ _ => f.defaultNaN
  | .finite .., .finite _ 0 _ _ => sign + f.infBits
  | .finite sa ma ea _, .finite sb mb eb _ =>
    let (_, na, da) := toRat sa ma ea
    let (_, nb, db) := toRat sb mb eb
    sign + f.roundRat (na * db) (da * nb)

/-- The nearest pattern to an integer. -/
def ofInt (f : BinaryFormat) (i : Int) : Nat := f.ofFrac false (i < 0, i.natAbs, 1)

/-- An integer whose order is the order of the numbers: both zeros map to `0`, and every
NaN maps above the largest pattern. -/
def orderKey (f : BinaryFormat) (bits : Nat) : Int :=
  if f.isNaN bits then 2 * f.signBit
  else if f.isNeg bits then -((bits - f.signBit : Nat) : Int)
  else bits

end BinaryFormat

example : BinaryFormat.binary64.mul 0x7fe1ccf385ebc8a0 0x4024000000000000 = 0x7ff0000000000000 :=
  by decide +kernel
example : BinaryFormat.binary64.add 0x3fb999999999999a 0x3fc999999999999a =
    0x3fd3333333333334 := by decide +kernel

end CqlBridge.Number
