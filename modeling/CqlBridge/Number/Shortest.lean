import CqlBridge.Number.Binary

/-!
# `CqlBridge.Number.Shortest` — the fewest decimal digits that read back

Every finite binary number `v` owns an interval of reals that round to it: halfway to its
neighbours on both sides, both ends included when its significand is even. The shortest
decimal for `v` is a number `c · 10^j` in that interval with the fewest significant digits;
of the (at most two) candidates on that decimal grid, the nearer to `v` wins, and an exact tie
is settled by a `Tie` rule.

The search walks the decimal grids from coarse to fine. On the grid of step `10^j` only the
two grid points around `v` can lie in the interval (any other point is farther away on the same
side), so it tests those two, in exact natural-number arithmetic.
-/

namespace CqlBridge.Number

/-- How an exact tie between two shortest candidates is settled. -/
inductive Tie where
  /-- The larger candidate wins. -/
  | up
  /-- The candidate with an even last digit wins. -/
  | even
  deriving Repr, DecidableEq

/-- A value and the interval of reals that round to it, all in units of `2^exp`: the value is
`mid · 2^exp` and the interval runs from `lo · 2^exp` to `hi · 2^exp`, with `lo < mid < hi`.
`closed` says whether both ends belong to the interval. -/
structure Bracket where
  mid : Nat
  lo : Nat
  hi : Nat
  exp : Int
  closed : Bool
  deriving Repr

/-- A decimal number `digits · 10^exp`. -/
structure Decimal where
  digits : Nat
  exp : Int
  deriving Repr, DecidableEq

/-- `x · 2^e / 10^j` as a pair `(numerator, denominator)`. -/
def scaledRatio (x : Nat) (e j : Int) : Nat × Nat :=
  (x * Nat.pow 2 e.toNat * Nat.pow 10 (-j).toNat, Nat.pow 2 (-e).toNat * Nat.pow 10 j.toNat)

/-- The number of decimal digits of `n`, less one: `⌊log₁₀ n⌋` for positive `n`. -/
def log10Floor (n : Nat) : Nat :=
  (Nat.toDigits 10 n).length - 1

/-- `⌊log₁₀ (num / den)⌋` for positive `num` and `den`. -/
def floorLog10 (num den : Nat) : Int :=
  if den ≤ num then log10Floor (num / den)
  else -((log10Floor ((den - 1) / num) : Int) + 1)

/-- The shortest candidate on the grid of step `10^j`, if one of the two grid points around the
value lies in the interval. -/
def Bracket.pickAt (b : Bracket) (tie : Tie) (j : Int) : Option Nat :=
  let (nv, d) := scaledRatio b.mid b.exp j
  let nl := (scaledRatio b.lo b.exp j).1
  let nh := (scaledRatio b.hi b.exp j).1
  let f := nv / d
  let r := nv % d
  if r == 0 then some f else
  let floorIn := nl < f * d || (b.closed && nl == f * d)
  let ceilIn := (f + 1) * d < nh || (b.closed && (f + 1) * d == nh)
  match floorIn, ceilIn with
  | true, true =>
    if 2 * r < d then some f
    else if 2 * r > d then some (f + 1)
    else match tie with
      | .up => some (f + 1)
      | .even => if f % 2 == 0 then some f else some (f + 1)
  | true, false => some f
  | false, true => some (f + 1)
  | false, false => none

/-- Drops the trailing zeros of a decimal's digits, raising its exponent to match. -/
def Decimal.normalize (d : Decimal) : Decimal :=
  if h : d.digits ≠ 0 ∧ d.digits % 10 = 0 then
    have : d.digits / 10 < d.digits := Nat.div_lt_self (Nat.pos_of_ne_zero h.1) (by decide)
    Decimal.normalize ⟨d.digits / 10, d.exp + 1⟩
  else d
termination_by d.digits

/-- Tries the grids of step `10^j`, `10^(j-1)`, … for at most `fuel` steps. -/
def Bracket.searchFrom (b : Bracket) (tie : Tie) : Nat → Int → Decimal
  | 0, j => ⟨b.mid, j⟩
  | fuel + 1, j =>
    match b.pickAt tie j with
    | some c => Decimal.normalize ⟨c, j⟩
    | none => b.searchFrom tie fuel (j - 1)

/-- The shortest decimal in the interval, nearest to the value among the shortest. The search
starts at the grid of the interval's upper end, where at most one point lies in it, and a
binary64 value is pinned down by 17 significant digits, so forty grids always suffice. -/
def Bracket.shortest (b : Bracket) (tie : Tie) : Decimal :=
  let (nh, dh) := scaledRatio b.hi b.exp 0
  b.searchFrom tie 40 (floorLog10 nh dh)

/-- Where the interval of a binary number ends, which differs between printers in two corner
cases. -/
structure IntervalRule where
  /-- Whether the lowest normal number gets the narrow gap below that every other power of
  two gets (its true lower neighbour is as close as its upper one). -/
  narrowAtLowestNormal : Bool
  /-- Whether subnormal intervals always include their ends, whatever the parity. -/
  subnormalClosed : Bool
  deriving Repr

/-- The interval of reals that round to the positive number `sig · 2^exp` of format `f`. -/
def bracketOf (f : BinaryFormat) (rule : IntervalRule) (sig : Nat) (exp : Int)
    (subnormal : Bool) : Bracket :=
  let closed := (subnormal && rule.subnormalClosed) || sig % 2 == 0
  let lowestNormal := !subnormal && exp == f.minExp
  if sig == f.hidden && !subnormal && (rule.narrowAtLowestNormal || !lowestNormal) then
    -- the gap below a power of two is half the gap above it
    ⟨4 * sig, 4 * sig - 1, 4 * sig + 2, exp - 2, closed⟩
  else
    ⟨2 * sig, 2 * sig - 1, 2 * sig + 1, exp - 1, closed⟩

end CqlBridge.Number
