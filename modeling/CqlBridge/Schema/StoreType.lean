/-!
# `CqlBridge.Schema.StoreType` — column types as the store declares them

A store type is one of 21 scalars, a `list`, `set` or `map` of store types, a `tuple`, a
user-defined type named by a string, or a custom marshal class. Each has a protocol type code
(a 16-bit number) and each code a lower-case name.

`StoreType.render` writes the canonical text: scalars by name, `list<t>`, `set<t>`,
`map<k, v>`, `tuple<a, b>`, a user-defined type by its bare name, and a custom class between
single quotes.
-/

namespace CqlBridge

/-- The 21 scalar store types. -/
inductive Scalar where
  | ascii | bigint | blob | boolean | counter | decimal | double | float | int | text
  | timestamp | uuid | varchar | varint | timeuuid | inet | date | time | smallint | tinyint
  | duration
  deriving Repr, DecidableEq, Inhabited

namespace Scalar

/-- All scalars, in the order of their codes. -/
def all : List Scalar :=
  [.ascii, .bigint, .blob, .boolean, .counter, .decimal, .double, .float, .int, .text,
   .timestamp, .uuid, .varchar, .varint, .timeuuid, .inet, .date, .time, .smallint, .tinyint,
   .duration]

/-- The protocol type code of a scalar: 1 for `ascii` up to 21 for `duration`. -/
def code : Scalar → Nat
  | .ascii => 0x01 | .bigint => 0x02 | .blob => 0x03 | .boolean => 0x04 | .counter => 0x05
  | .decimal => 0x06 | .double => 0x07 | .float => 0x08 | .int => 0x09 | .text => 0x0A
  | .timestamp => 0x0B | .uuid => 0x0C | .varchar => 0x0D | .varint => 0x0E
  | .timeuuid => 0x0F | .inet => 0x10 | .date => 0x11 | .time => 0x12 | .smallint => 0x13
  | .tinyint => 0x14 | .duration => 0x15

/-- The lower-case name of a scalar. -/
def name : Scalar → String
  | .ascii => "ascii" | .bigint => "bigint" | .blob => "blob" | .boolean => "boolean"
  | .counter => "counter" | .decimal => "decimal" | .double => "double" | .float => "float"
  | .int => "int" | .text => "text" | .timestamp => "timestamp" | .uuid => "uuid"
  | .varchar => "varchar" | .varint => "varint" | .timeuuid => "timeuuid" | .inet => "inet"
  | .date => "date" | .time => "time" | .smallint => "smallint" | .tinyint => "tinyint"
  | .duration => "duration"

/-- The scalar with a lower-case name. -/
def ofName? (s : String) : Option Scalar :=
  all.find? (·.name == s)

end Scalar

-- Protocol type codes of the non-scalar types, and the code for "could not determine".
namespace TypeCode

def custom : Nat := 0x0000
def list : Nat := 0x0020
def map : Nat := 0x0021
def set : Nat := 0x0022
def udt : Nat := 0x0030
def tuple : Nat := 0x0031
def unknown : Nat := 0xFFFF

/-- The lower-case name of a protocol type code; `unknown` for codes without one. -/
def name (code : Nat) : String :=
  match Scalar.all.find? (·.code == code) with
  | some s => s.name
  | none =>
    if code == custom then "custom"
    else if code == list then "list"
    else if code == map then "map"
    else if code == set then "set"
    else if code == udt then "udt"
    else if code == tuple then "tuple"
    else "unknown"

/-- The marker written for a value of this code that cannot be decoded: `<name:code>`. -/
def placeholder (code : Nat) : String :=
  "<" ++ name code ++ ":" ++ toString code ++ ">"

end TypeCode

/-- A column type as the store declares it. -/
inductive StoreType where
  | scalar (s : Scalar)
  | list (elem : StoreType)
  | set (elem : StoreType)
  | map (key value : StoreType)
  | tuple (items : List StoreType)
  /-- A user-defined type, by name. -/
  | udt (name : String)
  /-- A server-side custom marshal class. -/
  | custom (cls : String)
  deriving Repr, Inhabited

namespace StoreType

mutual

/-- Structural equality of store types. -/
def beq : StoreType → StoreType → Bool
  | .scalar a, .scalar b => a == b
  | .list a, .list b => beq a b
  | .set a, .set b => beq a b
  | .map k v, .map k' v' => beq k k' && beq v v'
  | .tuple as, .tuple bs => beqList as bs
  | .udt a, .udt b => a == b
  | .custom a, .custom b => a == b
  | _, _ => false

/-- Structural equality of lists of store types. -/
def beqList : List StoreType → List StoreType → Bool
  | [], [] => true
  | a :: as, b :: bs => beq a b && beqList as bs
  | _, _ => false

end

instance : BEq StoreType := ⟨beq⟩

/-- The protocol type code. -/
def code : StoreType → Nat
  | .scalar s => s.code
  | .list _ => TypeCode.list
  | .set _ => TypeCode.set
  | .map .. => TypeCode.map
  | .tuple _ => TypeCode.tuple
  | .udt _ => TypeCode.udt
  | .custom _ => TypeCode.custom

/-- Lists, sets, maps, tuples and user-defined types hold other values. -/
def isCollection : StoreType → Bool
  | .list _ | .set _ | .map .. | .tuple _ | .udt _ => true
  | _ => false

mutual

/-- The canonical text of a store type. -/
def render : StoreType → String
  | .scalar s => s.name
  | .list t => "list<" ++ render t ++ ">"
  | .set t => "set<" ++ render t ++ ">"
  | .map k v => "map<" ++ render k ++ ", " ++ render v ++ ">"
  | .tuple ts => "tuple<" ++ renderItems ts ++ ">"
  | .udt n => n
  | .custom c => "'" ++ c ++ "'"

/-- Items separated by a comma and a space. -/
def renderItems : List StoreType → String
  | [] => ""
  | [t] => render t
  | t :: ts => render t ++ ", " ++ renderItems ts

end

end StoreType

end CqlBridge
