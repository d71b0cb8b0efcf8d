import CqlBridge.Sql.Val
import CqlBridge.Number.FloatText
import CqlBridge.Time.Civil
import CqlBridge.Net.Uuid

/-!
# `CqlBridge.Sql.Text` — the text of a value, as a cast to `VARCHAR` writes it

* Dates are `YYYY-MM-DD` with the year padded to four digits; a year at or before 0 is written
  as the positive year before the common era followed by ` (BC)`.
* Times are `HH:MM:SS`, then `.` and the microseconds without trailing zeros when there are
  any. Timestamps are a date, a blank and a time; with a time zone they end in `+00`.
* Intervals list their non-zero parts, `n year(s)`, `n month(s)`, `n day(s)` and a signed
  `HH:MM:SS[.ffffff]` clock, and an empty interval is `00:00:00`.
* Byte strings keep printable ASCII other than `\`, `'` and `"`, and write every other byte as
  `\x` and two upper-case hex digits.
* Decimals are their unscaled integer with the point put `scale` digits from the right.
* Floating-point numbers are the shortest decimal that reads back, positional for decimal
  exponents from -4 to 15 and `d.ddde±x` outside; `nan`, `inf` and `-inf`.
* Lists are `[a, b]`, structs `{'name': value}` and maps `{key=value}`, NULL inside them
  `NULL`.
-/

namespace CqlBridge.Sql

open Number (zeros intText)

/-- `n` written with at least `width` digits. -/
def padNat (width n : Nat) : String := Time.padded width n

/-- The text of a day count. -/
def dateText (days : Int) : String :=
  if days == 2147483647 then "infinity"
  else if days == -2147483647 then "-infinity"
  else
    let c := Time.Civil.ofDaysUnchecked days
    if c.year ≤ 0 then
      padNat 4 (1 - c.year).toNat ++ "-" ++ padNat 2 c.month ++ "-" ++ padNat 2 c.day ++ " (BC)"
    else padNat 4 c.year.toNat ++ "-" ++ padNat 2 c.month ++ "-" ++ padNat 2 c.day

/-- Microseconds below one second as `.ffffff` without trailing zeros; empty for none. -/
def microsText (us : Nat) : String :=
  if us == 0 then "" else
  let digits := (padNat 6 us).toList
  "." ++ String.ofList (digits.reverse.dropWhile (· == '0')).reverse

/-- A clock `HH:MM:SS[.ffffff]` from non-negative microseconds; hours may pass 24. -/
def clockText (us : Nat) : String :=
  let secs := us / 1000000
  padNat 2 (secs / 3600) ++ ":" ++ padNat 2 (secs / 60 % 60) ++ ":" ++ padNat 2 (secs % 60) ++
    microsText (us % 1000000)

/-- The text of a time of day in microseconds. -/
def timeText (us : Int) : String := clockText us.toNat

/-- The text of a timestamp in microseconds since the epoch. -/
def stampText (us : Int) : String :=
  if us == 9223372036854775807 then "infinity"
  else if us == -9223372036854775807 then "-infinity"
  else
    let days := us / Val.microsPerDay
    dateText days ++ " " ++ clockText (us - days * Val.microsPerDay).toNat

/-- `n unit` or `n units`, the plural unless `n` is 1 or -1. -/
def countText (n : Int) (unit : String) : String :=
  intText n ++ " " ++ unit ++ (if n == 1 || n == -1 then "" else "s")

/-- The text of an interval. -/
def intervalText (months days micros : Int) : String :=
  let years := Val.tdiv months 12
  let months := months - years * 12
  let parts := (if years != 0 then [countText years "year"] else []) ++
    (if months != 0 then [countText months "month"] else []) ++
    (if days != 0 then [countText days "day"] else []) ++
    (if micros != 0 then [(if micros < 0 then "-" else "") ++ clockText micros.natAbs] else [])
  if parts.isEmpty then "00:00:00" else " ".intercalate parts

/-- Whether a byte shows as itself in the text of a byte string. -/
def plainByte (b : UInt8) : Bool :=
  b ≥ 32 && b ≤ 126 && b != 92 && b != 39 && b != 34

/-- Upper-case hex digit. -/
def upperHexDigit (n : Nat) : Char :=
  if n < 10 then Char.ofNat (48 + n) else Char.ofNat (55 + n)

/-- The text of a byte string. -/
def blobText (bs : List UInt8) : String :=
  String.ofList (bs.flatMap fun b =>
    if plainByte b then [Char.ofNat b.toNat]
    else ['\\', 'x', upperHexDigit (b.toNat / 16), upperHexDigit (b.toNat % 16)])

/-- The text of a decimal with `scale` digits after the point. -/
def decimalText (unscaled : Int) (scale : Nat) : String :=
  if scale == 0 then intText unscaled else
  let digits := padNat (scale + 1) unscaled.natAbs
  let cut := digits.length - scale
  (if unscaled < 0 then "-" else "") ++ String.ofList (digits.toList.take cut) ++ "." ++
    String.ofList (digits.toList.drop cut)

/-- Floating-point text: shortest, positional for decimal exponents -4 to 15, no `.0`. -/
def engineFloatStyle : Number.FloatStyle where
  tie := .even
  interval := ⟨false, false⟩
  positional := some (-4, 16)
  pointZero := false
  plusExponent := true
  nanText := "nan"
  infText := "inf"

/-- The text of a binary64 number. -/
def doubleText (bits : UInt64) : String :=
  engineFloatStyle.render .binary64 bits.toNat

/-- The text of a binary32 number. -/
def floatText (bits : UInt32) : String :=
  engineFloatStyle.render .binary32 bits.toNat

/-- The hyphenated text of a UUID's bits. -/
def uuidText (n : Nat) : String :=
  (Uuid.mk ((List.range 16).reverse.map fun i => (n / Nat.pow 256 i % 256).toUInt8)
    (by simp)).text

mutual

/-- The text of a value of type `t`; NULL is `NULL`. -/
def valText : Ty → Val → String
  | _, .null => "NULL"
  | _, .bool b => if b then "true" else "false"
  | _, .int i => intText i
  | _, .float b => floatText b
  | _, .double b => doubleText b
  | .decimal _ s, .decimal u => decimalText u s
  | _, .decimal u => intText u
  | _, .text s => s
  | _, .blob bs => blobText bs
  | _, .date d => dateText d
  | _, .time us => timeText us
  | .timestamptz, .stamp us => stampText us ++ "+00"
  | _, .stamp us => stampText us
  | _, .interval m d us => intervalText m d us
  | _, .uuid n => uuidText n
  | .list t, .list items => "[" ++ itemsText t items ++ "]"
  | _, .list items => "[" ++ itemsText .null items ++ "]"
  | .struct fs, .struct vs => "\x7b" ++ fieldsText fs vs ++ "\x7d"
  | _, .struct _ => "\x7b\x7d"
  | .map k v, .map es => "\x7b" ++ entriesText k v es ++ "\x7d"
  | _, .map _ => "\x7b\x7d"

/-- List items separated by `, `. -/
def itemsText (t : Ty) : List Val → String
  | [] => ""
  | [v] => valText t v
  | v :: vs => valText t v ++ ", " ++ itemsText t vs

/-- Struct fields as `'name': value` separated by `, `. -/
def fieldsText : List (String × Ty) → List Val → String
  | (n, t) :: fs, v :: vs =>
    "'" ++ n ++ "': " ++ valText t v ++ (if fs.isEmpty then "" else ", " ++ fieldsText fs vs)
  | _, _ => ""

/-- Map entries as `key=value` separated by `, `. -/
def entriesText (k v : Ty) : List (Val × Val) → String
  | [] => ""
  | [(a, b)] => valText k a ++ "=" ++ valText v b
  | (a, b) :: es => valText k a ++ "=" ++ valText v b ++ ", " ++ entriesText k v es

end

example : dateText (-2147483648) = "5877642-06-23 (BC)" := by decide +kernel
example : stampText 1700000000123000 = "2023-11-14 22:13:20.123" := by decide +kernel
example : intervalText (-1) 30 1 = "-1 month 30 days 00:00:00.000001" := by decide +kernel
example : intervalText 0 0 (-1) = "-00:00:00.000001" := by decide +kernel

end CqlBridge.Sql
