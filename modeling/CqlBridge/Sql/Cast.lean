import CqlBridge.Sql.Text
import CqlBridge.Number.Read
import CqlBridge.Sql.Syntax
import CqlBridge.Sql.Token

/-!
# `CqlBridge.Sql.Cast` — literals, and converting a value from one type to another

**Number literals.** Digits alone are an `INTEGER` when they are below `2^31` (whatever the
sign in front), else a `BIGINT` when the signed value fits 64 bits, else a `HUGEINT`, else a
`DOUBLE`. Digits with a point and no exponent are a `DECIMAL` whose width
is the number of digits and whose scale is the number after the point, while the width stays
within 38; anything else is a `DOUBLE`.

**Casts.** Every value converts to `VARCHAR` by its text. Numbers convert among each other
through their exact value: to an integer type rounding to nearest (ties away from zero for
decimals, to even for binary floating point) and then checking the target's range; to a
decimal rounding half away from zero at the target scale; to a binary format rounding once.
Text converts to the other types by reading it, blank space around it allowed. Dates,
timestamps and times convert among each other by the calendar.

A conversion that fails gives the words of a conversion error:

| failure | words |
|---|---|
| number out of range | `Type INT32 with value 128 can't be cast because the value is out of range for the destination type INT8` |
| text that does not read | `Could not convert string 'x' to INT32` |
| number too wide for a decimal | `Could not cast value 1234.5 to DECIMAL(4,1)` |
-/

namespace CqlBridge.Sql

open Number (BinaryFormat intText)

/-! ## Calendar arithmetic -/

/-- Whether a year of the proleptic Gregorian calendar is a leap year. -/
def isLeapYear (y : Int) : Bool := y % 4 == 0 && (y % 100 != 0 || y % 400 == 0)

/-- The number of days in a month of a year. -/
def daysInMonth (y : Int) (m : Nat) : Nat :=
  match m with
  | 2 => if isLeapYear y then 29 else 28
  | 4 | 6 | 9 | 11 => 30
  | _ => 31

/-- Days from 1970-01-01 to a date, by eras of 400 years of 146097 days each. -/
def daysOfCivil (y : Int) (m d : Nat) : Int :=
  let y := if m ≤ 2 then y - 1 else y
  let era := y / 400
  let yoe := y - era * 400
  let mp : Int := if m > 2 then m - 3 else m + 9
  let doy := (153 * mp + 2) / 5 + d - 1
  let doe := yoe * 365 + yoe / 4 - yoe / 100 + doy
  era * 146097 + doe - 719468

example : daysOfCivil 2024 2 29 = 19782 := by decide
example : daysOfCivil 1970 1 1 = 0 := by decide

/-! ## Reading text -/

/-- Text with blank space taken off both ends. -/
def trimBlank (s : String) : List Char :=
  ((s.toList.dropWhile isSpace).reverse.dropWhile isSpace).reverse

/-- Digits at the front as a number, how many there were, and the rest. -/
def digitRun (cs : List Char) : Nat × Nat × List Char :=
  let (ds, rest) := cs.span Char.isDigit
  (ds.foldl (fun n c => 10 * n + (c.toNat - 48)) 0, ds.length, rest)

/-- An optional sign at the front: whether it was `-`, and the rest. -/
def signOf : List Char → Bool × List Char
  | '-' :: r => (true, r)
  | '+' :: r => (false, r)
  | r => (false, r)

/-- Reads an integer, with an optional fraction that rounds half away from zero. -/
def readInt? (s : String) : Option Int :=
  let (neg, cs) := signOf (trimBlank s)
  let (n, k, rest) := digitRun cs
  let frac : Option (Nat × Nat) := match rest with
    | [] => some (0, 0)
    | '.' :: r =>
      let (f, fk, r) := digitRun r
      if r.isEmpty && k + fk > 0 then some (f, fk) else none
    | _ => none
  match frac with
  | some (f, fk) =>
    if k == 0 && fk == 0 then none
    else
      let up := if fk > 0 && 2 * f ≥ Nat.pow 10 fk then 1 else 0
      let v : Int := n + up
      some (if neg then -v else v)
  | none => none

/-- Reads a boolean: `t`, `f`, `1`, `0`, `true` or `false` in any case. -/
def readBool? (s : String) : Option Bool :=
  match lowerAscii (String.ofList (trimBlank s)) with
  | "t" | "true" | "1" => some true
  | "f" | "false" | "0" => some false
  | _ => none

/-- Reads a date `YYYY-MM-DD`, optionally followed by ` (BC)`, as days since 1970-01-01. -/
def readDateChars? (cs : List Char) : Option (Int × List Char) := do
  let (y, yk, r) := digitRun cs
  if yk == 0 then none
  let (sep, r) ← match r with
    | c :: r => if c == '-' || c == '/' || c == '.' then some (c, r) else none
    | [] => none
  let (m, mk, r) := digitRun r
  if mk == 0 || mk > 2 then none
  let r ← match r with
    | c :: r => if c == sep then some r else none
    | [] => none
  let (d, dk, r) := digitRun r
  if dk == 0 || dk > 2 then none
  let (bc, r) := match r with
    | ' ' :: '(' :: 'B' :: 'C' :: ')' :: r => (true, r)
    | r => (false, r)
  let year : Int := if bc then 1 - (y : Int) else y
  if m < 1 || m > 12 || d < 1 || d > daysInMonth year m then none
  some (daysOfCivil year m d, r)

/-- Reads a date, the whole text. -/
def readDate? (s : String) : Option Int :=
  match readDateChars? (trimBlank s) with
  | some (d, []) => some d
  | _ => none

/-- Reads a clock `HH:MM[:SS[.ffffff]]` as microseconds, and the rest. -/
def readClockChars? (cs : List Char) : Option (Int × List Char) := do
  let (h, hk, r) := digitRun cs
  if hk == 0 || hk > 2 then none
  let r ← match r with
    | ':' :: r => some r
    | _ => none
  let (m, mk, r) := digitRun r
  if mk != 2 || m > 59 then none
  let (s, f, r) ← match r with
    | ':' :: r =>
      let (s, sk, r) := digitRun r
      if sk != 2 || s > 59 then none
      match r with
      | '.' :: r =>
        let (ds, r) := r.span Char.isDigit
        let micros := ((ds.take 6) ++ List.replicate (6 - min 6 ds.length) '0').foldl
          (fun n c => 10 * n + (c.toNat - 48)) 0
        some (s, micros, r)
      | r => some (s, 0, r)
    | r => some (0, 0, r)
  if h > 24 || (h == 24 && (m > 0 || s > 0 || f > 0)) then none
  some (((h * 60 + m) * 60 + s : Nat) * 1000000 + f, r)

/-- Reads a time of day as microseconds. -/
def readTime? (s : String) : Option Int :=
  match readClockChars? (trimBlank s) with
  | some (t, []) => some t
  | _ => none

/-- A time zone suffix `Z`, `+HH[:MM]` or `-HH[:MM]` as an offset in microseconds. -/
def zoneOffset? : List Char → Option Int
  | [] => some 0
  | ['Z'] | ['z'] => some 0
  | c :: r =>
    if c != '+' && c != '-' then none else
    let (h, hk, r) := digitRun r
    let mins : Option Nat := match r with
      | [] => some 0
      | ':' :: r => let (m, mk, r) := digitRun r; if mk == 2 && r.isEmpty then some m else none
      | _ => none
    match mins with
    | some m =>
      if hk == 0 || hk > 2 then none else
      let off : Int := ((h * 60 + m : Nat) : Int) * 60000000
      some (if c == '-' then -off else off)
    | none => none

/-- Reads a timestamp `YYYY-MM-DD[( |T)HH:MM[:SS[.ffffff]]][zone]` as microseconds since the
epoch in UTC. -/
def readStamp? (s : String) : Option Int := do
  let (days, r) ← readDateChars? (trimBlank s)
  let (clock, r) ← match r with
    | [] => some (0, [])
    | c :: r => if c == ' ' || c == 'T' then readClockChars? r else none
  let off ← zoneOffset? (r.dropWhile (· == ' '))
  some (days * Val.microsPerDay + clock - off)

/-- Microseconds in one of a unit, and months in one, for interval text and literals. -/
def unitParts : IntervalUnit → Int × Int × Int
  | .year => (12, 0, 0)
  | .month => (1, 0, 0)
  | .week => (0, 7, 0)
  | .day => (0, 1, 0)
  | .hour => (0, 0, 3600000000)
  | .minute => (0, 0, 60000000)
  | .second => (0, 0, 1000000)
  | .millisecond => (0, 0, 1000)
  | .microsecond => (0, 0, 1)

/-- The unit a word of interval text names. -/
def intervalUnit? (w : String) : Option IntervalUnit :=
  match lowerAscii w with
  | "year" | "years" | "y" | "yr" | "yrs" => some .year
  | "month" | "months" | "mon" | "mons" => some .month
  | "week" | "weeks" | "w" => some .week
  | "day" | "days" | "d" => some .day
  | "hour" | "hours" | "h" | "hr" | "hrs" => some .hour
  | "minute" | "minutes" | "min" | "mins" | "m" => some .minute
  | "second" | "seconds" | "sec" | "secs" | "s" => some .second
  | "millisecond" | "milliseconds" | "ms" | "msec" | "msecs" => some .millisecond
  | "microsecond" | "microseconds" | "us" | "usec" | "usecs" => some .microsecond
  | _ => none

/-- Reads the parts of interval text: `n unit` pairs and clocks, in any order. -/
def intervalParts : Nat → List Char → Option (Int × Int × Int)
  | 0, _ => none
  | _, [] => some (0, 0, 0)
  | fuel + 1, cs =>
    let cs := cs.dropWhile isSpace
    if cs.isEmpty then some (0, 0, 0) else
    let (neg, r) := signOf cs
    let (n, k, r') := digitRun r
    if k == 0 then none else
    let sign : Int := if neg then -1 else 1
    match r' with
    | ':' :: _ => do
      let (clock, rest) ← readClockChars? r
      let (a, b, c) ← intervalParts fuel rest
      some (a, b, sign * clock + c)
    | _ =>
      let r' := r'.dropWhile isSpace
      let (w, rest) := r'.span Char.isAlpha
      match intervalUnit? (String.ofList w) with
      | some u => do
        let (m, d, us) := unitParts u
        let (a, b, c) ← intervalParts fuel rest
        some (sign * n * m + a, sign * n * d + b, sign * n * us + c)
      | none => none

/-- Reads interval text such as `3 days`, `1 month 2 hours` or `01:00:00`. -/
def readInterval? (s : String) : Option Val :=
  let cs := trimBlank s
  (intervalParts (cs.length + 1) cs).map fun (m, d, us) => .interval m d us

/-- Reads a UUID in any of its accepted spellings, as its bits. -/
def readUuid? (s : String) : Option Nat :=
  (Uuid.parse? (String.ofList (trimBlank s))).map (·.toNat)

/-- Reads a byte string, in which `\xHH` stands for a byte. -/
def readBlob? : List Char → Option (List UInt8)
  | [] => some []
  | '\\' :: 'x' :: a :: b :: rest => do
    let hi ← Uuid.hexValue? a.toNat.toUInt8
    let lo ← Uuid.hexValue? b.toNat.toUInt8
    let bs ← readBlob? rest
    some ((hi * 16 + lo).toUInt8 :: bs)
  | '\\' :: _ => none
  | c :: rest => do
    let bs ← readBlob? rest
    some (c.toString.toUTF8.toList ++ bs)

/-! ## Number literals -/

/-- The type and value of a number literal as written, with a leading `-` when negated. -/
def numberLiteral (text : String) : Ty × Val :=
  let cs := text.toList
  let (neg, body) := signOf cs
  let hasExp := cs.any (fun c => c == 'e' || c == 'E')
  let point := body.findIdx? (· == '.')
  let asDouble : Ty × Val :=
    (.double, .double ((Number.readFloat? .binary64 text).getD 0).toUInt64)
  if hasExp then asDouble else
  match point with
  | none =>
    let (n, _, _) := digitRun body
    let v : Int := if neg then -(n : Int) else n
    -- the reader sees the digits before the sign: only they decide whether it is an INTEGER
    if n < Nat.pow 2 31 then (.integer, .int v)
    else if -Int.pow 2 63 ≤ v && v < Int.pow 2 63 then (.bigint, .int v)
    else if -Int.pow 2 127 ≤ v && v < Int.pow 2 127 then (.hugeint, .int v)
    else asDouble
  | some p =>
    let width := body.length - 1
    let scale := width - p
    if width > 38 then asDouble else
    let digits := body.filter Char.isDigit
    let (u, _, _) := digitRun digits
    (.decimal width scale, .decimal (if neg then -(u : Int) else u))

example : (numberLiteral "0.1").1.name = "DECIMAL(2,1)" := by decide +kernel

/-! ## Conversions -/

/-- The words of a number that does not fit its target type. -/
def outOfRange (src : Ty) (shown : String) (dst : Ty) : String :=
  "Type " ++ src.storageName ++ " with value " ++ shown ++
    " can't be cast because the value is out of range for the destination type " ++
    dst.storageName

/-- The words of text that does not read as the target type. -/
def couldNotConvert (s : String) (dst : Ty) : String :=
  "Could not convert string '" ++ s ++ "' to " ++
    (match dst with
      | .decimal .. => dst.name
      | _ => dst.storageName)

/-- The exact value of a number: a signed fraction, or none for NaN and the infinities. -/
def exactOf : Ty → Val → Option BinaryFormat.Frac
  | _, .int i => some (i < 0, i.natAbs, 1)
  | .decimal _ s, .decimal u => some (u < 0, u.natAbs, Nat.pow 10 s)
  | _, .decimal u => some (u < 0, u.natAbs, 1)
  | _, .float b => BinaryFormat.binary32.frac? b.toNat
  | _, .double b => BinaryFormat.binary64.frac? b.toNat
  | _, .bool b => some (false, if b then 1 else 0, 1)
  | _, _ => none

/-- `num / den` rounded to the nearest whole number, ties away from zero. -/
def roundHalfAway (num den : Nat) : Nat := (2 * num + den) / (2 * den)

/-- `num / den` rounded to the nearest whole number, ties to even. -/
def roundHalfEven (num den : Nat) : Nat :=
  let q := num / den
  let r := num % den
  if 2 * r > den || (2 * r == den && q % 2 == 1) then q + 1 else q

/-- A signed whole number. -/
def signed (neg : Bool) (n : Nat) : Int := if neg then -(n : Int) else n

/-- A number converted to an integer type. -/
def toIntegerType (src dst : Ty) (v : Val) : Except String Val :=
  let shown := valText src v
  let (lo, hi) := dst.intRange?.getD (0, 0)
  match exactOf src v with
  | none => .error (outOfRange src shown dst)
  | some (neg, num, den) =>
    let n := if src.isFloating then roundHalfEven num den else roundHalfAway num den
    let i := signed neg n
    if lo ≤ i && i ≤ hi then .ok (.int i) else .error (outOfRange src shown dst)

/-- A number converted to a decimal type. -/
def toDecimalType (src : Ty) (width scale : Nat) (v : Val) : Except String Val :=
  let shown := valText src v
  let fail := "Could not cast value " ++ shown ++ " to DECIMAL(" ++ toString width ++ "," ++
    toString scale ++ ")"
  match exactOf src v with
  | none => .error fail
  | some (neg, num, den) =>
    let n := roundHalfAway (num * Nat.pow 10 scale) den
    if n < Nat.pow 10 width then .ok (.decimal (signed neg n)) else .error fail

/-- A number converted to a binary format, as its bit pattern. -/
def toBinary (f : BinaryFormat) (src : Ty) (v : Val) : Option Nat :=
  match src, v with
  | _, .float b => some (BinaryFormat.convert .binary32 f b.toNat)
  | _, .double b => some (BinaryFormat.convert .binary64 f b.toNat)
  | _, _ => (exactOf src v).map fun (neg, num, den) => f.ofRat neg num den

/-- A binary32 pattern as a value. -/
def floatVal (bits : Nat) : Val := .float bits.toUInt32

/-- A binary64 pattern as a value. -/
def doubleVal (bits : Nat) : Val := .double bits.toUInt64

/-- Whether a binary pattern is finite. -/
def finiteBits (f : BinaryFormat) (bits : Nat) : Bool := f.expField bits != f.topField

/-- Text converted to a non-text type. -/
def readAs (dst : Ty) (s : String) : Except String Val :=
  let fail := Except.error (couldNotConvert s dst)
  match dst with
  | .boolean => match readBool? s with
    | some b => .ok (.bool b)
    | none => fail
  | .float => match Number.readFloat? .binary32 (String.ofList (trimBlank s)) with
    | some b => .ok (floatVal b)
    | none => fail
  | .double => match Number.readFloat? .binary64 (String.ofList (trimBlank s)) with
    | some b => .ok (doubleVal b)
    | none => fail
  | .decimal w sc =>
    match Number.readUnsigned? (signOf (trimBlank s)).2 with
    | some (m, e) =>
      let neg := (signOf (trimBlank s)).1
      let (num, den) := if 0 ≤ e then (m * Nat.pow 10 e.toNat, 1) else (m, Nat.pow 10 e.natAbs)
      let n := roundHalfAway (num * Nat.pow 10 sc) den
      if n < Nat.pow 10 w then .ok (.decimal (signed neg n)) else fail
    | none => fail
  | .date => match readDate? s with
    | some d => .ok (.date d)
    | none => .error ("invalid date field format: \"" ++ s ++
        "\", expected format is (YYYY-MM-DD)")
  | .time => match readTime? s with
    | some t => .ok (.time t)
    | none => .error ("invalid time field format: \"" ++ s ++
        "\", expected format is ([YYYY-MM-DD ]HH:MM:SS[.US][±HH:MM| ZONE])")
  | .timestamp | .timestamptz => match readStamp? s with
    | some t => .ok (.stamp t)
    | none => .error ("invalid timestamp field format: \"" ++ s ++
        "\", expected format is (YYYY-MM-DD HH:MM:SS[.US][±HH:MM| ZONE])")
  | .interval => match readInterval? s with
    | some v => .ok v
    | none => fail
  | .uuid => match readUuid? s with
    | some n => .ok (.uuid n)
    | none => fail
  | .blob => match readBlob? s.toList with
    | some bs => .ok (.blob bs)
    | none => fail
  | t =>
    if t.isInteger then
      match readInt? s with
      | some i =>
        let (lo, hi) := t.intRange?.getD (0, 0)
        if lo ≤ i && i ≤ hi then .ok (.int i) else fail
      | none => fail
    else fail

/-- Whether a cast from `src` to `dst` exists. -/
def castable (src dst : Ty) : Bool :=
  match src, dst with
  | .null, _ | _, .varchar => true
  | .varchar, _ => true
  | .boolean, t | t, .boolean => t.isNumeric || t == .boolean
  | .date, .timestamp | .date, .timestamptz | .timestamp, .date | .timestamptz, .date
  | .timestamp, .time | .timestamptz, .time | .timestamp, .timestamptz
  | .timestamptz, .timestamp => true
  | .list a, .list b => Ty.beq a b || a == .null
  | a, b => (a.isNumeric && b.isNumeric) || Ty.beq a b

/-- A value converted from type `src` to type `dst`; NULL stays NULL. -/
def castVal (src dst : Ty) (v : Val) : Except String Val :=
  match v with
  | .null => .ok .null
  | _ =>
    if Ty.beq src dst then .ok v else
    match dst with
    | .varchar => .ok (.text (valText src v))
    | _ =>
    match src, v with
    | .varchar, .text s => readAs dst s
    | _, _ =>
    match dst with
    | .boolean => match exactOf src v with
      | some (_, n, _) => .ok (.bool (n != 0))
      | none => .ok (.bool true)
    | .float =>
      match toBinary .binary32 src v with
      | some b =>
        if src == .double && !finiteBits .binary32 b && finiteBits .binary64 (valBits v) then
          .error (outOfRange src (valText src v) dst)
        else .ok (floatVal b)
      | none => .error (outOfRange src (valText src v) dst)
    | .double => match toBinary .binary64 src v with
      | some b => .ok (doubleVal b)
      | none => .error (outOfRange src (valText src v) dst)
    | .decimal w s => toDecimalType src w s v
    | .date => match v with
      | .stamp us => .ok (.date (us / Val.microsPerDay))
      | _ => .ok v
    | .timestamp | .timestamptz => match v with
      | .date d => .ok (.stamp (d * Val.microsPerDay))
      | _ => .ok v
    | .time => match v with
      | .stamp us => .ok (.time (us % Val.microsPerDay))
      | _ => .ok v
    | t => if t.isInteger then toIntegerType src t v else .ok v
where
  /-- The bits of a binary64 value. -/
  valBits : Val → Nat
    | .double b => b.toNat
    | _ => 0

example : (match castVal .integer .tinyint (.int 128) with
      | .error m => m
      | .ok _ => "") = ("Type INT32 with value 128 can't be cast because the value is out of range " ++
      "for the destination type INT8") := by decide +kernel

end CqlBridge.Sql
