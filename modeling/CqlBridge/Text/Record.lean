import CqlBridge.Text.Escape

/-!
# `CqlBridge.Text.Record` — values in debugging form

Debugging output writes a record as its name and its fields in braces,
`Name { field: value, other: value }` (an empty record is just its name), a list as
`[a, b]`, an optional value as `None` or `Some(x)` and a variant with one field as
`Name(x)`. Texts inside are quoted with escapes (`CqlBridge.Text.Escape`).
-/

namespace CqlBridge.Text

/-- A record: its name, then `field: value` pairs in braces. -/
def recordText (name : String) (fields : List (String × String)) : String :=
  if fields.isEmpty then name else
  name ++ " \x7b " ++ ", ".intercalate (fields.map fun (k, v) => k ++ ": " ++ v) ++ " \x7d"

/-- A list: its items between brackets, separated by commas. -/
def listText (items : List String) : String := "[" ++ ", ".intercalate items ++ "]"

/-- A variant with one field. -/
def variantText (name value : String) : String := name ++ "(" ++ value ++ ")"

/-- An optional value: `None` or `Some(x)`. -/
def optionText : Option String → String
  | none => "None"
  | some v => variantText "Some" v

example : recordText "P" [("x", "1"), ("y", "[]")] = "P \x7b x: 1, y: [] \x7d" := by
  decide +kernel

end CqlBridge.Text
