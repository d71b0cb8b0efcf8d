import CqlBridge.Number.FloatText

/-!
# `CqlBridge.Json.Basic` — JSON values and their compact text

A `Json` value is null, a boolean, an integer, a finite binary64 number, a string, an array or
an object. Objects keep their members sorted by key, in code point order (which is also the
byte order of UTF-8), and hold each key once: `Json.object` builds one from members in any
order, a later member replacing an earlier one with the same key.

`Json.render` writes the compact text: no blanks, numbers as `FloatStyle.json` writes them, and
in strings `\"`, `\\`, `\b`, `\f`, `\n`, `\r`, `\t`, `\u00xx` (lower-case hex) for the other
control characters below U+0020, and every other character as itself.
-/

namespace CqlBridge

/-- A JSON value. -/
inductive Json where
  | null
  | bool (b : Bool)
  | int (i : Int)
  /-- A finite binary64 number, by its bit pattern. -/
  | float (bits : UInt64)
  | str (s : String)
  | arr (items : List Json)
  /-- Members sorted by key, each key once. -/
  | obj (members : List (String × Json))
  deriving Inhabited

namespace Json

/-- Puts a member into a sorted member list, replacing the member with the same key. -/
def insertMember (k : String) (v : Json) : List (String × Json) → List (String × Json)
  | [] => [(k, v)]
  | (k', v') :: rest =>
    if k < k' then (k, v) :: (k', v') :: rest
    else if k == k' then (k, v) :: rest
    else (k', v') :: insertMember k v rest

/-- An object from members in any order; of two members with one key, the later one stays. -/
def object (members : List (String × Json)) : Json :=
  .obj (members.foldl (fun acc kv => insertMember kv.1 kv.2 acc) [])

/-- A binary64 number, or null when it is not finite. -/
def ofFloat (bits : UInt64) : Json :=
  if Number.isFinite64 bits then .float bits else .null

/-- Hexadecimal digit for a value below 16, in lower case. -/
def hexDigit (n : Nat) : Char :=
  if n < 10 then Char.ofNat (48 + n) else Char.ofNat (87 + n)

/-- How one character is written inside a JSON string. -/
def escapeChar (c : Char) : List Char :=
  match c with
  | '"' => ['\\', '"']
  | '\\' => ['\\', '\\']
  | '\x08' => ['\\', 'b']
  | '\x0c' => ['\\', 'f']
  | '\n' => ['\\', 'n']
  | '\r' => ['\\', 'r']
  | '\t' => ['\\', 't']
  | _ =>
    if c.toNat < 0x20 then ['\\', 'u', '0', '0', hexDigit (c.toNat / 16), hexDigit (c.toNat % 16)]
    else [c]

/-- A string as a JSON string literal. -/
def quote (s : String) : String :=
  "\"" ++ String.ofList (s.toList.flatMap escapeChar) ++ "\""

mutual

/-- The compact JSON text of a value. -/
def render : Json → String
  | .null => "null"
  | .bool b => if b then "true" else "false"
  | .int i => Number.intText i
  | .float bits => Number.json64 bits
  | .str s => quote s
  | .arr items => "[" ++ renderItems items ++ "]"
  | .obj members => "\x7b" ++ renderMembers members ++ "\x7d"

/-- Array items separated by commas. -/
def renderItems : List Json → String
  | [] => ""
  | [x] => render x
  | x :: rest => render x ++ "," ++ renderItems rest

/-- Object members separated by commas. -/
def renderMembers : List (String × Json) → String
  | [] => ""
  | [(k, v)] => quote k ++ ":" ++ render v
  | (k, v) :: rest => quote k ++ ":" ++ render v ++ "," ++ renderMembers rest

end

end Json

end CqlBridge
