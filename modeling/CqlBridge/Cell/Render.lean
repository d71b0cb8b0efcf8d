import CqlBridge.Cell.Basic
import CqlBridge.Json.Basic
import CqlBridge.Number.Decimal
import CqlBridge.Datum.Basic

/-!
# `CqlBridge.Cell.Render` — a store value as plain text and as JSON

`Cell.toJson` writes text values as strings, integers and booleans as themselves, floats as
numbers (a binary32 value widened to binary64 first; NaN and infinities as `null`), lists,
sets and tuples as arrays (a missing tuple item as `null`), user-defined values as objects of
their fields (a missing field as `null`), maps as objects from the text of each key to the
text of its value as a string, `empty` as `null`, and every other scalar as the string of its
text. Objects hold each key once, the last entry winning.

`Cell.plainText` is the text of a value: a text value itself, a container its JSON text, a
timestamp in RFC 3339 style with three fraction digits, a time of day and a date as
`Datum.text?` writes them, and the other scalars as the datum they decode to would show. A
value without such text (out of range, or `empty`) shows its placeholder `<name:code>`.
-/

namespace CqlBridge

namespace Cell

/-- The text of a value that holds no other values. -/
def scalarText (c : Cell) : String :=
  let orMarker (t : Option String) : String := t.getD (TypeCode.placeholder c.code)
  match c with
  | .ascii s | .text s => s
  | .bigint i | .counter i => Number.intText i.toInt
  | .int i => Number.intText i.toInt
  | .smallint i => Number.intText i.toInt
  | .tinyint i => Number.intText i.toInt
  | .boolean b => if b then "true" else "false"
  | .float b => Number.plain32 b
  | .double b => Number.plain64 b
  | .decimal bs s => orMarker (Number.decimalText? bs s.toInt)
  | .varint bs => orMarker (Number.decimalText? bs 0)
  | .timestamp ms => orMarker (Time.instantOfMillis? ms.toInt)
  | .date raw => orMarker (Time.dateText? (raw.toNat - dateOffset))
  | .time ns => orMarker (Time.timeOfDayText? ns.toInt)
  | .uuid u | .timeuuid u => u.text
  | .inet a => a.text
  | .blob bs => "0x" ++ Codec.encodeHex bs
  | .duration m d n => Datum.intervalText m.toInt d.toInt n.toInt
  | _ => TypeCode.placeholder c.code

mutual

/-- The JSON form of a value. -/
def toJson : Cell → Json
  | .ascii s | .text s => .str s
  | .bigint i | .counter i => .int i.toInt
  | .int i => .int i.toInt
  | .smallint i => .int i.toInt
  | .tinyint i => .int i.toInt
  | .boolean b => .bool b
  | .float b => Json.ofFloat (Number.widen b)
  | .double b => Json.ofFloat b
  | .list items | .set items => .arr (jsonItems items)
  | .map entries => Json.object (entryMembers entries)
  | .udt _ fields => Json.object (fieldMembers fields)
  | .tuple items => .arr (optionItems items)
  | .empty => .null
  | c => .str (scalarText c)

/-- The JSON forms of list items. -/
def jsonItems : List Cell → List Json
  | [] => []
  | c :: cs => toJson c :: jsonItems cs

/-- The members of a map's object: key text to value text. -/
def entryMembers : List (Cell × Cell) → List (String × Json)
  | [] => []
  | (k, v) :: rest => (plainText k, .str (plainText v)) :: entryMembers rest

/-- The members of a user-defined value's object. -/
def fieldMembers : List (String × Option Cell) → List (String × Json)
  | [] => []
  | (n, some c) :: rest => (n, toJson c) :: fieldMembers rest
  | (n, none) :: rest => (n, .null) :: fieldMembers rest

/-- Tuple items, a missing one as `null`. -/
def optionItems : List (Option Cell) → List Json
  | [] => []
  | some c :: rest => toJson c :: optionItems rest
  | none :: rest => .null :: optionItems rest

/-- The plain text of a value. -/
def plainText : Cell → String
  | .list items | .set items => (Json.arr (jsonItems items)).render
  | .map entries => (Json.object (entryMembers entries)).render
  | .udt _ fields => (Json.object (fieldMembers fields)).render
  | .tuple items => (Json.arr (optionItems items)).render
  | c => scalarText c

end

end Cell

end CqlBridge
