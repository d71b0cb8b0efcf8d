import CqlBridge.Schema.StoreType.Read
import CqlBridge.Schema.SqlType

/-!
# `CqlBridge.Schema.Mapping` — which relational type a store column becomes

Two tables assign relational types: one keyed by protocol type code, one by lower-case type
name. `decimal`, `varint`, `inet`, `ascii`, `text`, `varchar` and custom classes become
`VARCHAR`; `counter` becomes `BIGINT`; `timeuuid` becomes `UUID`; collections, tuples and
user-defined types become `JSON`; every code without an entry becomes `VARCHAR`.

A type name is looked up by its *stem*, the part before the first `<`, trimmed and in lower
case, so `list<text>` goes through `list`. A stem outside the name table is read as a type:
a non-empty user-defined type name becomes `JSON`, anything else `VARCHAR`.
-/

namespace CqlBridge

namespace SqlType

/-- The relational type of a protocol type code. -/
def ofCode (code : Nat) : SqlType :=
  match Scalar.all.find? (·.code == code) with
  | some .ascii | some .text | some .varchar | some .decimal | some .varint | some .inet =>
    .varchar
  | some .bigint | some .counter => .bigint
  | some .blob => .blob
  | some .boolean => .boolean
  | some .double => .double
  | some .float => .float
  | some .int => .integer
  | some .timestamp => .timestamptz
  | some .uuid | some .timeuuid => .uuid
  | some .date => .date
  | some .time => .time
  | some .smallint => .smallint
  | some .tinyint => .tinyint
  | some .duration => .interval
  | none =>
    if code == TypeCode.list || code == TypeCode.map || code == TypeCode.set ||
      code == TypeCode.udt || code == TypeCode.tuple then .json
    else .varchar

/-- The relational type of a store type, through its code. -/
def ofStoreType (t : StoreType) : SqlType := ofCode t.code

/-- The name table: scalar names, the container names and `frozen` and `udt`. -/
def ofStemName? (stem : String) : Option SqlType :=
  match Scalar.ofName? stem with
  | some s => some (ofCode s.code)
  | none =>
    if ["list", "set", "map", "tuple", "frozen", "udt"].contains stem then some .json else none

/-- The stem of a type name: the part before the first `<`, trimmed, in lower case. -/
def stem (name : String) : String :=
  String.ofList ((Text.trimChars (name.toList.takeWhile (· != '<'))).map Char.toLower)

/-- The relational type of a type name; `none` when reading the name as a type faults. -/
def ofTypeName? (name : String) : Option SqlType :=
  match ofStemName? (stem name) with
  | some t => some t
  | none =>
    (StoreType.read? name).map fun
      | .udt n => if n.isEmpty then .varchar else ofStoreType (.udt n)
      | _ => .varchar

end SqlType

end CqlBridge
