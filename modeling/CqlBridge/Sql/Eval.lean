import CqlBridge.Sql.Plan
import CqlBridge.Sql.Cast

/-!
# `CqlBridge.Sql.Eval` — evaluating bound expressions and aggregates

Evaluation reads one row and the block's subquery values, and nothing else.

* NULL propagates through arithmetic, comparisons, text functions and casts. `AND` and `OR`
  use three-valued logic: `false AND NULL` is `false`, `true OR NULL` is `true`.
* Integer arithmetic is exact and then checked against the result type's range; leaving it
  is an `Out of Range Error` such as `Overflow in addition of INT16 (32767 + 1)!`. Division or
  remainder by zero is NULL. `//` truncates toward zero.
* Binary floating-point arithmetic rounds once per operation (`Number.BinaryFormat`).
* Comparisons order values with `Val.cmp`, so NaN equals NaN and is above every number.
* `x IN (…)` is true when an item equals `x`, else NULL when an item or `x` is NULL, else
  false. `CASE` takes the first branch whose condition is true.

Aggregates skip NULL arguments: `count` counts the rest, `sum`, `min`, `max` and `avg` of no
value are NULL. `sum` of integers is exact; `sum` and `avg` of binary floating point add in
row order.
-/

namespace CqlBridge.Sql

open Number (BinaryFormat intText)

/-- The words of an integer overflow. -/
def overflowError (what sym : String) (ty : Ty) (x y : Int) : SqlError :=
  ⟨.outOfRange, "Overflow in " ++ what ++ " of " ++ ty.storageName ++ " (" ++ intText x ++ " " ++
    sym ++ " " ++ intText y ++ ")!", none⟩

/-- An integer result checked against its type's range. -/
def checkedInt (ty : Ty) (r : Int) (err : SqlError) : Except SqlError Val :=
  match ty.intRange? with
  | some (lo, hi) => if lo ≤ r && r ≤ hi then .ok (.int r) else .error err
  | none => .ok (.int r)

/-- Arithmetic on two integers of type `ty`. -/
def intArith (a : ArithOp) (ty : Ty) (x y : Int) : Except SqlError Val :=
  match a with
  | .add => checkedInt ty (x + y) (overflowError "addition" "+" ty x y)
  | .sub => checkedInt ty (x - y) (overflowError "subtraction" "-" ty x y)
  | .mul => checkedInt ty (x * y) (overflowError "multiplication" "*" ty x y)
  | .div | .intDiv =>
    if y == 0 then .ok .null
    else checkedInt ty (Val.tdiv x y) (overflowError "division" "/" ty x y)
  | .mod => if y == 0 then .ok .null else .ok (.int (Val.tmod x y))

/-- Arithmetic on two patterns of a binary format. -/
def binaryArith (f : BinaryFormat) (a : ArithOp) (x y : Nat) : Option Nat :=
  let isZero := fun (b : Nat) => b % f.signBit == 0
  match a with
  | .add => some (f.add x y)
  | .sub => some (f.sub x y)
  | .mul => some (f.mul x y)
  | .div => if isZero y then none else some (f.div x y)
  | .intDiv | .mod => none

/-- Arithmetic on two decimals with the unscaled values given; the binder brings both to the
result's scale for `+` and `-`, and lets the scales add up for `*`. -/
def decimalArith (a : ArithOp) (x y : Int) : Option Int :=
  match a with
  | .add => some (x + y)
  | .sub => some (x - y)
  | .mul => some (x * y)
  | .mod => if y == 0 then none else some (Val.tmod x y)
  | .div | .intDiv => if y == 0 then none else some (Val.tdiv x y)

/-- Arithmetic on two non-null values of type `ty`. -/
def arith (a : ArithOp) (ty : Ty) : Val → Val → Except SqlError Val
  | .int x, .int y => intArith a ty x y
  | .double x, .double y =>
    .ok ((binaryArith .binary64 a x.toNat y.toNat).elim .null fun b => .double b.toUInt64)
  | .float x, .float y =>
    .ok ((binaryArith .binary32 a x.toNat y.toNat).elim .null fun b => .float b.toUInt32)
  | .decimal x, .decimal y => .ok ((decimalArith a x y).elim .null .decimal)
  | _, _ => .ok .null

/-- A comparison of two values. -/
def compareVals (c : CmpOp) (a b : Val) : Val :=
  if a.isNull || b.isNull then .null else
  let o := Val.cmp a b
  .bool (match c with
    | .eq => o == .eq
    | .ne => o != .eq
    | .lt => o == .lt
    | .le => o != .gt
    | .gt => o == .gt
    | .ge => o != .lt)

/-- Whether text matches a `LIKE` pattern, `%` matching any run and `_` any one character. -/
def likeMatch : List Char → List Char → Bool
  | [], [] => true
  | [], '%' :: ps => likeMatch [] ps
  | [], _ :: _ => false
  | c :: cs, '%' :: ps => likeMatch (c :: cs) ps || likeMatch cs ('%' :: ps)
  | _ :: cs, '_' :: ps => likeMatch cs ps
  | c :: cs, p :: ps => c == p && likeMatch cs ps
  | _ :: _, [] => false
termination_by s p => (s.length, p.length)

/-- Upper-case hex of bytes. -/
def hexOfBytes (bs : List UInt8) : String :=
  String.ofList (bs.flatMap fun b =>
    [upperHexDigit (b.toNat / 16), upperHexDigit (b.toNat % 16)])

/-- Upper-case hex digits of a natural number, without leading zeros. -/
def hexOfNat (n : Nat) : String :=
  String.ofList ((Nat.toDigits 16 n).map Char.toUpper)

/-- The microseconds an interval stands for, a month being 30 days. -/
def intervalMicros (months days micros : Int) : Int :=
  months * Val.microsPerMonth + days * Val.microsPerDay + micros

/-- An ASCII letter in lower case. -/
def lowerChar (c : Char) : Char := if c.isUpper then Char.ofNat (c.toNat + 32) else c

/-- An ASCII letter in upper case. -/
def upperChar (c : Char) : Char := if c.isLower then Char.ofNat (c.toNat - 32) else c

/-- The first value that is not NULL. -/
def firstNonNull : List Val → Val
  | [] => .null
  | .null :: vs => firstNonNull vs
  | v :: _ => v

/-- Applies an operation to its evaluated operands. -/
def applyOp (o : Op) (vs : List Val) : Except SqlError Val :=
  match o, vs with
  | .and, [a, b] =>
    .ok (match a, b with
      | .bool false, _ | _, .bool false => .bool false
      | .bool true, .bool true => .bool true
      | _, _ => .null)
  | .or, [a, b] =>
    .ok (match a, b with
      | .bool true, _ | _, .bool true => .bool true
      | .bool false, .bool false => .bool false
      | _, _ => .null)
  | .not, [a] =>
    .ok (match a with
      | .bool b => .bool !b
      | _ => .null)
  | .coalesce, vs => .ok (firstNonNull vs)
  | .listValue, vs => .ok (.list vs)
  | .structPack, vs => .ok (.struct vs)
  | _, vs =>
    if vs.any Val.isNull then .ok .null else
    match o, vs with
    | .arith a ty, [x, y] => arith a ty x y
    | .neg ty, [x] =>
      match x with
      | .int i => checkedInt ty (-i) ⟨.outOfRange, "Overflow in negation of integer!", none⟩
      | .double b => .ok (.double (BinaryFormat.binary64.negate b.toNat).toUInt64)
      | .float b => .ok (.float (BinaryFormat.binary32.negate b.toNat).toUInt32)
      | .decimal u => .ok (.decimal (-u))
      | .interval m d us => .ok (.interval (-m) (-d) (-us))
      | v => .ok v
    | .cmp c, [x, y] => .ok (compareVals c x y)
    | .concat, [.text a, .text b] => .ok (.text (a ++ b))
    | .like caseless neg, [.text s, .text p] =>
      let fold := fun (t : String) => if caseless then t.toList.map lowerChar else t.toList
      .ok (.bool (likeMatch (fold s) (fold p) != neg))
    | .hex _, [.text s] => .ok (.text (hexOfBytes s.toUTF8.toList))
    | .hex _, [.blob bs] => .ok (.text (hexOfBytes bs))
    | .hex _, [.int i] =>
      .ok (.text (hexOfNat (if i < 0 then (i + Int.pow 2 64).toNat else i.toNat)))
    | .isNan _, [.double b] => .ok (.bool (BinaryFormat.binary64.isNaN b.toNat))
    | .isNan _, [.float b] => .ok (.bool (BinaryFormat.binary32.isNaN b.toNat))
    | .isNan _, [_] => .ok (.bool false)
    | .isInf _, [.double b] =>
      .ok (.bool (b.toNat % BinaryFormat.binary64.signBit == BinaryFormat.binary64.infBits))
    | .isInf _, [.float b] =>
      .ok (.bool (b.toNat % BinaryFormat.binary32.signBit == BinaryFormat.binary32.infBits))
    | .isInf _, [_] => .ok (.bool false)
    | .length _, [.text s] => .ok (.int s.length)
    | .length _, [.blob bs] => .ok (.int bs.length)
    | .length _, [.list items] => .ok (.int items.length)
    | .epochUs _, [.interval m d us] => .ok (.int (intervalMicros m d us))
    | .epochUs _, [.stamp us] => .ok (.int us)
    | .epochUs _, [.date d] => .ok (.int (d * Val.microsPerDay))
    | .lower, [.text s] => .ok (.text (String.ofList (s.toList.map lowerChar)))
    | .upper, [.text s] => .ok (.text (String.ofList (s.toList.map upperChar)))
    | .abs ty, [.int i] =>
      checkedInt ty i.natAbs ⟨.outOfRange, "Overflow on abs(" ++ intText i ++ ")", none⟩
    | .abs _, [.double b] =>
      .ok (.double (b.toNat % BinaryFormat.binary64.signBit).toUInt64)
    | .abs _, [.float b] => .ok (.float (b.toNat % BinaryFormat.binary32.signBit).toUInt32)
    | .abs _, [.decimal u] => .ok (.decimal u.natAbs)
    | .mapOf, [.list ks, .list vs] =>
      if ks.length == vs.length then .ok (.map (ks.zip vs))
      else .error ⟨.invalidInput, "Key list has a different size from Value list (" ++
        toString ks.length ++ " keys, " ++ toString vs.length ++ " values)", none⟩
    | .interval m d us, [.int n] => .ok (.interval (n * m) (n * d) (n * us))
    | _, _ => .ok .null

mutual

/-- The value of a bound expression on a row, given the block's subquery values. -/
def eval (subs : List Val) (row : Row) : BExpr → Except SqlError Val
  | .const v => .ok v
  | .col i => .ok (row.getD i .null)
  | .sub i => .ok (subs.getD i .null)
  | .op o args => do applyOp o (← evalList subs row args)
  | .cast src dst tryCast span e => do
    let v ← eval subs row e
    match castVal src dst v with
    | .ok w => .ok w
    | .error m => if tryCast then .ok .null else .error ⟨.conversion, m, span⟩
  | .isNull neg e => do
    let v ← eval subs row e
    .ok (.bool (v.isNull != neg))
  | .caseWhen whens otherwise => do
    match ← evalCase subs row whens with
    | some v => .ok v
    | none => eval subs row otherwise
  | .inList neg e items => do
    let v ← eval subs row e
    let vs ← evalList subs row items
    if v.isNull then .ok .null
    else if vs.any (fun w => !w.isNull && Val.cmp v w == .eq) then .ok (.bool !neg)
    else if vs.any Val.isNull then .ok .null
    else .ok (.bool neg)

/-- The values of bound expressions on a row. -/
def evalList (subs : List Val) (row : Row) : List BExpr → Except SqlError (List Val)
  | [] => .ok []
  | e :: es => do
    let v ← eval subs row e
    let vs ← evalList subs row es
    .ok (v :: vs)

/-- The value of the first `CASE` branch whose condition is true, if any. -/
def evalCase (subs : List Val) (row : Row) :
    List (BExpr × BExpr) → Except SqlError (Option Val)
  | [] => .ok none
  | (c, r) :: ws => do
    match ← eval subs row c with
    | .bool true => some <$> eval subs row r
    | _ => evalCase subs row ws

end

/-- Whether a value is the boolean true; NULL and false filter a row out. -/
def Val.isTrue : Val → Bool
  | .bool true => true
  | _ => false

/-! ## Aggregates -/

/-- Values with repeats taken out, the first of each kept. -/
def dedupVals (vs : List Val) : List Val :=
  vs.foldl (fun acc v => if acc.any (Val.same v) then acc else acc ++ [v]) []

/-- The least (or with `greatest`, the largest) of values, NULL for none. -/
def extremeOf (greatest : Bool) : List Val → Val
  | [] => .null
  | v :: vs =>
    vs.foldl (fun best w =>
      let o := Val.cmp w best
      if (greatest && o == .gt) || (!greatest && o == .lt) then w else best) v

/-- The sum of binary64 patterns in order. -/
def sumDoubles (bits : List Nat) : Nat :=
  bits.foldl (BinaryFormat.binary64.add) 0

/-- The binary64 pattern of a value of a number type. -/
def doubleBitsOf (ty : Ty) (v : Val) : Nat :=
  match v with
  | .double b => b.toNat
  | .float b => BinaryFormat.convert .binary32 .binary64 b.toNat
  | _ => (toBinary .binary64 ty v).getD 0

/-- The value of an aggregate over its arguments, one per input row. -/
def aggValue (a : Agg) (args : List Val) : Except SqlError Val :=
  let present := args.filter (!·.isNull)
  let present := if a.distinct then dedupVals present else present
  match a.fn with
  | .countStar => .ok (.int args.length)
  | .count => .ok (.int present.length)
  | .min => .ok (extremeOf false present)
  | .max => .ok (extremeOf true present)
  | .anyValue | .first => .ok (firstNonNull present)
  | .sum =>
    if present.isEmpty then .ok .null else
    match a.ty with
    | .double => .ok (.double (sumDoubles (present.map (doubleBitsOf a.argTy))).toUInt64)
    | .decimal .. =>
      .ok (.decimal (present.foldl (fun (s : Int) v => match v with
        | .decimal u => s + u
        | _ => s) 0))
    | _ =>
      let total := present.foldl (fun (s : Int) v => match v with
        | .int i => s + i
        | _ => s) 0
      checkedInt a.ty total ⟨.outOfRange, "Overflow in HUGEINT addition", none⟩
  | .avg =>
    if present.isEmpty then .ok .null else
    let n := present.length
    match a.argTy with
    | .double | .float =>
      let s := sumDoubles (present.map (doubleBitsOf a.argTy))
      .ok (.double (BinaryFormat.binary64.div s (BinaryFormat.binary64.ofInt n)).toUInt64)
    | .decimal _ sc =>
      let total := present.foldl (fun (s : Int) v => match v with
        | .decimal u => s + u
        | _ => s) 0
      let mean := BinaryFormat.binary64.ofRat (total < 0) total.natAbs (n * Nat.pow 10 sc)
      .ok (.double mean.toUInt64)
    | _ =>
      let total := present.foldl (fun (s : Int) v => match v with
        | .int i => s + i
        | _ => s) 0
      .ok (.double (BinaryFormat.binary64.ofRat (total < 0) total.natAbs n).toUInt64)

end CqlBridge.Sql
