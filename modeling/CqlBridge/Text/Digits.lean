import CqlBridge.Text.Blank

/-!
# `CqlBridge.Text.Digits` — unsigned decimal numbers below a bound

An unsigned number is written with ASCII digits, at least one, after an optional `+`; nothing
else is allowed, not even a `-` before a zero or blanks around it. The number must also be
below the bound of its width (2^16 for a port, 2^64 for a row count).
-/

namespace CqlBridge.Text

/-- The value of ASCII digits, the first the most significant. -/
def digitsValue (ds : List Char) : Nat :=
  ds.foldl (fun acc d => acc * 10 + (d.toNat - 48)) 0

/-- An unsigned number below `bound`: an optional `+`, then ASCII digits only. -/
def readBelow? (bound : Nat) (cs : List Char) : Option Nat :=
  let ds := match cs with
    | '+' :: ds => ds
    | ds => ds
  if ds.isEmpty || !ds.all Char.isDigit then none else
  let n := digitsValue ds
  if n < bound then some n else none

example : readBelow? 65536 "+080".toList = some 80 := by decide
example : readBelow? 65536 "65536".toList = none := by decide
example : readBelow? 65536 "-0".toList = none := by decide
example : readBelow? 65536 "+".toList = none := by decide

end CqlBridge.Text
