/-!
# `CqlBridge.Tls.Curve` — points of the NIST P-256 curve

The curve is `y² = x³ - 3x + b` over the prime field of `p = 2²⁵⁶ - 2²²⁴ + 2¹⁹² + 2⁹⁶ - 1`.
Points are affine pairs, with `none` for the point at infinity; `mul k P` adds `P` to itself
`k` times by doubling and adding. A compressed point keeps `x` and the parity of `y`; since
`p ≡ 3 (mod 4)`, the square root of `a` is `a^((p+1)/4)` when it exists.
-/

namespace CqlBridge.Tls.P256

/-- The field prime. -/
def p : Nat := 0xffffffff00000001000000000000000000000000ffffffffffffffffffffffff

/-- The constant term of the curve. -/
def b : Nat := 0x5ac635d8aa3a93e7b3ebbd55769886bc651d06b0cc53b0f63bce3c3e27d2604b

/-- The base point. -/
def g : Nat × Nat :=
  (0x6b17d1f2e12c4247f8bce6e563a440f277037d812deb33a0f4a13945d898c296,
   0x4fe342e2fe1a7f9b8ee7eb4a7c0f9e162bce33576b315ececbb6406837bf51f5)

/-- `base ^ e % m`, by squaring. -/
def powMod (base e m : Nat) : Nat :=
  if h : e = 0 then 1 % m else
  let r := powMod (base * base % m) (e / 2) m
  if e % 2 == 1 then r * base % m else r
termination_by e
decreasing_by omega

/-- The inverse of a non-zero field element. -/
def inv (a : Nat) : Nat := powMod a (p - 2) p

/-- `a - c` in the field. -/
def sub (a c : Nat) : Nat := (a + p - c % p) % p

/-- Whether a pair lies on the curve. -/
def onCurve (q : Nat × Nat) : Bool :=
  q.1 < p && q.2 < p && (q.2 * q.2) % p == (q.1 * q.1 % p * q.1 + sub b (3 * q.1 % p)) % p

/-- Twice a point. -/
def double : Option (Nat × Nat) → Option (Nat × Nat)
  | none => none
  | some (x, y) =>
    if y == 0 then none else
    let l := (3 * x % p * x + sub 0 3) % p * inv (2 * y % p) % p
    let x3 := sub (l * l % p) (2 * x % p)
    some (x3, sub (l * sub x x3 % p) y)

/-- The sum of two points. -/
def add : Option (Nat × Nat) → Option (Nat × Nat) → Option (Nat × Nat)
  | none, q => q
  | q, none => q
  | some (x1, y1), some (x2, y2) =>
    if x1 == x2 then (if (y1 + y2) % p == 0 then none else double (some (x1, y1))) else
    let l := sub y2 y1 * inv (sub x2 x1) % p
    let x3 := sub (sub (l * l % p) x1) x2
    some (x3, sub (l * sub x1 x3 % p) y1)

/-- `k` times a point. -/
def mul (k : Nat) (q : Option (Nat × Nat)) : Option (Nat × Nat) :=
  if h : k = 0 then none else
  let half := mul (k / 2) (double q)
  if k % 2 == 1 then add half q else half
termination_by k
decreasing_by omega

/-- The point with this `x` whose `y` has the given parity, if there is one. -/
def decompress (x : Nat) (odd : Bool) : Option (Nat × Nat) :=
  let rhs := (x * x % p * x + sub b (3 * x % p)) % p
  let y := powMod rhs ((p + 1) / 4) p
  if y * y % p != rhs then none else
  some (x, if (y % 2 == 1) == odd then y else sub 0 y)

example : onCurve g = true := by decide +kernel

end CqlBridge.Tls.P256
