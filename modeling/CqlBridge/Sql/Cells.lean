import CqlBridge.Sql.Text
import CqlBridge.Json.Basic
import CqlBridge.Text.Escape

/-!
# `CqlBridge.Sql.Cells` — how a client sees the values of a result

A client of the engine reads each value of a result through its column type, in one of three
shapes:

* a **cell**: a JSON value that keeps every bit — integers as numbers, HUGEINT as a decimal
  string, floating-point numbers by their bit patterns in hexadecimal, decimals as text,
  temporal values as counts with their unit, blobs in hexadecimal, lists as arrays of cells
  and any other nested value as its debugging text;
* the **debugging text** of a value, `Kind(payload)`: `Int(1)`, `Text("x")`,
  `Date32(19782)`, `Interval { months: 0, days: 3, nanos: 0 }`, nested values with their
  members in order;
* a **row object** of the command line, one member per column: numbers as JSON numbers
  (binary32 widened, non-finite values as `null`), HUGEINT as a string, a blob as
  `<blob N bytes>`, text and UUIDs as strings, and every other value as its debugging text.

A column of the NULL type has no client value: the command line refuses such a result.
-/

namespace CqlBridge.Sql

/-- Debugging text of floating-point numbers: the shortest digits, positional for decimal
exponents -4 to 15 with `.0` on whole numbers, else `1e16`, `1.5e-7`. -/
def debugFloatStyle : Number.FloatStyle where
  tie := .up
  interval := ⟨true, true⟩
  positional := some (-4, 16)
  pointZero := true
  plusExponent := false
  nanText := "NaN"
  infText := "inf"

/-- Lower-case hexadecimal of `n`, at least `width` digits. -/
def hexPadded (width n : Nat) : String :=
  let s := String.ofList (Nat.toDigits 16 n)
  String.ofList (List.replicate (width - s.length) '0') ++ s

/-- Bytes as lower-case hexadecimal, two digits each. -/
def hexBytes (bs : List UInt8) : String :=
  String.join (bs.map fun b => hexPadded 2 b.toNat)

/-- The kind word of an integer in debugging text. -/
def intKind : Ty → String
  | .tinyint => "TinyInt"
  | .smallint => "SmallInt"
  | .integer => "Int"
  | .hugeint => "HugeInt"
  | .utinyint => "UTinyInt"
  | .usmallint => "USmallInt"
  | .uinteger => "UInt"
  | .ubigint => "UBigInt"
  | _ => "BigInt"

mutual

/-- The debugging text of a value of type `t`. -/
def debugText : Ty → Val → String
  | _, .null => "Null"
  | _, .bool b => "Boolean(" ++ (if b then "true" else "false") ++ ")"
  | t, .int i => intKind t ++ "(" ++ Number.intText i ++ ")"
  | _, .float b => "Float(" ++ debugFloatStyle.render .binary32 b.toNat ++ ")"
  | _, .double b => "Double(" ++ debugFloatStyle.render .binary64 b.toNat ++ ")"
  | t, .decimal u =>
    let (w, s) := match t with
      | .decimal w s => (w, s)
      | _ => (18, 3)
    "Decimal(Decimal \x7b width: " ++ toString w ++ ", scale: " ++ toString s ++ ", value: " ++
      Number.intText u ++ " \x7d)"
  | _, .text s => "Text(" ++ Text.quoted s ++ ")"
  | _, .blob bs => "Blob([" ++ ", ".intercalate (bs.map fun b => toString b.toNat) ++ "])"
  | _, .date d => "Date32(" ++ Number.intText d ++ ")"
  | _, .time us => "Time64(Microsecond, " ++ Number.intText us ++ ")"
  | _, .stamp us => "Timestamp(Microsecond, " ++ Number.intText us ++ ")"
  | _, .interval m d us =>
    "Interval \x7b months: " ++ Number.intText m ++ ", days: " ++ Number.intText d ++
      ", nanos: " ++ Number.intText (us * 1000) ++ " \x7d"
  | _, .uuid n => "Text(" ++ Text.quoted (uuidText n) ++ ")"
  | .list t, .list items => "List([" ++ debugItems t items ++ "])"
  | _, .list items => "List([" ++ debugItems .null items ++ "])"
  | .struct fs, .struct vs => "Struct(OrderedMap([" ++ debugFields fs vs ++ "]))"
  | _, .struct _ => "Struct(OrderedMap([]))"
  | .map k v, .map es => "Map(OrderedMap([" ++ debugEntries k v es ++ "]))"
  | _, .map _ => "Map(OrderedMap([]))"

/-- List items in debugging text, separated by `, `. -/
def debugItems (t : Ty) : List Val → String
  | [] => ""
  | [v] => debugText t v
  | v :: vs => debugText t v ++ ", " ++ debugItems t vs

/-- Struct fields as `("name", value)` pairs, separated by `, `. -/
def debugFields : List (String × Ty) → List Val → String
  | (n, t) :: fs, v :: vs =>
    "(" ++ Text.quoted n ++ ", " ++ debugText t v ++ ")" ++
      (if fs.isEmpty then "" else ", " ++ debugFields fs vs)
  | _, _ => ""

/-- Map entries as `(key, value)` pairs, separated by `, `. -/
def debugEntries (k v : Ty) : List (Val × Val) → String
  | [] => ""
  | [(a, b)] => "(" ++ debugText k a ++ ", " ++ debugText v b ++ ")"
  | (a, b) :: es => "(" ++ debugText k a ++ ", " ++ debugText v b ++ "), " ++ debugEntries k v es

end

/-- A count with its unit, as a cell. -/
def unitCell (key : String) (n : Int) : Json :=
  Json.object [(key, .int n), ("unit", .str "Microsecond")]

/-- The cell of a value of type `t`. -/
def cell : Ty → Val → Json
  | _, .null => .null
  | _, .bool b => .bool b
  | .hugeint, .int i => Json.object [("hugeint", .str (Number.intText i))]
  | _, .int i => .int i
  | _, .float b => Json.object [("float", .str ("0x" ++ hexPadded 8 b.toNat))]
  | _, .double b => Json.object [("double", .str ("0x" ++ hexPadded 16 b.toNat))]
  | .decimal _ s, .decimal u => Json.object [("decimal", .str (decimalText u s))]
  | _, .decimal u => Json.object [("decimal", .str (Number.intText u))]
  | _, .text s => .str s
  | _, .uuid n => .str (uuidText n)
  | _, .blob bs => Json.object [("blob", .str (hexBytes bs))]
  | _, .date d => Json.object [("date", .int d)]
  | _, .time us => unitCell "time" us
  | _, .stamp us => unitCell "timestamp" us
  | _, .interval m d us => Json.object [("interval", .arr [.int m, .int d, .int (us * 1000)])]
  | .list t, .list items => .arr (items.attach.map fun ⟨v, _⟩ => cell t v)
  | t, v => Json.object [("other", .str (debugText t v))]

/-- The member value of a row object for a value of type `t`. -/
def shownValue : Ty → Val → Json
  | _, .null => .null
  | _, .bool b => .bool b
  | .hugeint, .int i => .str (Number.intText i)
  | _, .int i => .int i
  | _, .float b => Json.ofFloat (Number.widen b)
  | _, .double b => Json.ofFloat b
  | _, .text s => .str s
  | _, .uuid n => .str (uuidText n)
  | _, .blob bs => .str ("<blob " ++ toString bs.length ++ " bytes>")
  | t, v => .str (debugText t v)

/-- A row as one object of the command line; of two columns with one name the later wins. -/
def rowObject (columns : List Column) (row : Row) : Json :=
  Json.object ((columns.zip row).map fun (c, v) => (c.name, shownValue c.ty v))

example : debugText (.list .integer) (.list [.int 1, .int 2]) = "List([Int(1), Int(2)])" := by
  decide +kernel
example : debugText .interval (.interval 0 3 0) =
    "Interval \x7b months: 0, days: 3, nanos: 0 \x7d" := by
  decide +kernel
example : debugText (.decimal 5 2) (.decimal 125) =
    "Decimal(Decimal \x7b width: 5, scale: 2, value: 125 \x7d)" := by
  decide +kernel
example : hexPadded 8 0x3f800000 = "3f800000" ∧ hexBytes [0, 1, 255] = "0001ff" := by
  decide +kernel

end CqlBridge.Sql
