import CqlBridge.Sql.Cast

/-!
# `CqlBridge.Sql.Naming` — the text of an expression, and the name of a result column

A result column without an alias is named by its expression: a column reference by the
column's own name, anything else by the expression's text. The text is canonical, not as
typed:

| expression | text |
|---|---|
| column `t.x` | `t.x`, each part quoted when it is a keyword or not a plain name |
| string literal | `'it''s'` |
| number literal | its value's text: `1`, `0.10`, `1e+308` |
| `x::T`, `CAST(x AS T)` | `CAST(x AS T)` |
| `f(a, b)`, `f(DISTINCT a)`, `count(*)` | `f(a, b)`, `f(DISTINCT a)`, `count_star()` |
| infix operator | `(a + b)`, `(a AND b)`; `<>` shows as `!=` |
| prefix minus, `NOT` | `-(x)`, `(NOT x)` |
| `IS [NOT] NULL`, `[NOT] IN`, `BETWEEN` | `(x IS NULL)`, `(x IN (1, 2))`, `(x BETWEEN a AND b)` |

Function names show in lower case, as the reader folds them.
-/

namespace CqlBridge.Sql

/-- The text of a literal. -/
def Literal.text : Literal → String
  | .number t =>
    let (ty, v) := numberLiteral t
    valText ty v
  | .string s => "'" ++ s.replace "'" "''" ++ "'"
  | .null => "NULL"
  | .bool b => if b then "true" else "false"

/-- How an infix operator shows. -/
def opText (op : String) : String :=
  match op with
  | "<>" => "!="
  | "==" => "="
  | "and" => "AND"
  | "or" => "OR"
  | "like" => "~~"
  | "ilike" => "~~*"
  | "glob" => "~~~"
  | o => o

/-- The text of an interval unit, as the function that builds such an interval. -/
def IntervalUnit.fnName : IntervalUnit → String
  | .year => "to_years"
  | .month => "to_months"
  | .week => "to_weeks"
  | .day => "to_days"
  | .hour => "to_hours"
  | .minute => "to_minutes"
  | .second => "to_seconds"
  | .millisecond => "to_milliseconds"
  | .microsecond => "to_microseconds"

mutual

/-- The canonical text of an expression. -/
def Expr.text : Expr → String
  | .lit l _ => l.text
  | .col parts _ => ".".intercalate (parts.map nameText)
  | .star none _ => "*"
  | .star (some q) _ => nameText q ++ ".*"
  | .columns _ => "COLUMNS(*)"
  | .unary "NOT" e _ => "(NOT " ++ e.text ++ ")"
  | .unary op e _ => op ++ "(" ++ e.text ++ ")"
  | .binary op a b _ => "(" ++ a.text ++ " " ++ opText op ++ " " ++ b.text ++ ")"
  | .isNull e neg => "(" ++ e.text ++ (if neg then " IS NOT NULL)" else " IS NULL)")
  | .cast e ty tryCast _ =>
    (if tryCast then "TRY_CAST(" else "CAST(") ++ e.text ++ " AS " ++ ty.name ++ ")"
  | .interval e u _ => u.fnName ++ "(" ++ e.text ++ ")"
  | .call name args distinct isStar _ =>
    let fn := lowerAscii name
    if isStar then (if fn == "count" then "count_star()" else fn ++ "(*)")
    else fn ++ "(" ++ (if distinct then "DISTINCT " else "") ++ Expr.listText args ++ ")"
  | .subquery _ _ => "(SUBQUERY)"
  | .exists _ _ => "EXISTS(SUBQUERY)"
  | .inList e items neg _ =>
    "(" ++ e.text ++ (if neg then " NOT IN (" else " IN (") ++ Expr.listText items ++ "))"
  | .between e lo hi neg _ =>
    "(" ++ e.text ++ (if neg then " NOT BETWEEN " else " BETWEEN ") ++ lo.text ++ " AND " ++
      hi.text ++ ")"
  | .caseWhen operand whens otherwise _ =>
    "CASE " ++ (match operand with
      | some o => o.text ++ " "
      | none => "") ++ Expr.whensText whens ++
      (match otherwise with
        | some e => "ELSE " ++ e.text ++ " "
        | none => "ELSE NULL ") ++ "END"
  | .list items _ => "main.list_value(" ++ Expr.listText items ++ ")"
  | .struct fields _ => "main.struct_pack(" ++ Expr.fieldsText fields ++ ")"

/-- Texts of expressions separated by `, `. -/
def Expr.listText : List Expr → String
  | [] => ""
  | [e] => e.text
  | e :: es => e.text ++ ", " ++ Expr.listText es

/-- `WHEN … THEN …` parts of a `CASE`. -/
def Expr.whensText : List (Expr × Expr) → String
  | [] => ""
  | (c, r) :: ws => "WHEN " ++ c.text ++ " THEN " ++ r.text ++ " " ++ Expr.whensText ws

/-- Struct fields as `name := value`. -/
def Expr.fieldsText : List (String × Expr) → String
  | [] => ""
  | [(n, e)] => nameText n ++ " := " ++ e.text
  | (n, e) :: fs => nameText n ++ " := " ++ e.text ++ ", " ++ Expr.fieldsText fs

end

/-- The name of a result column computed by an expression without an alias. -/
def Expr.columnName : Expr → String
  | .col parts _ => parts.getLast?.getD ""
  | e => e.text

example : (Expr.binary "//" (.col ["t64"] ⟨0, 0⟩) (.lit (.number "2") ⟨0, 0⟩) ⟨0, 0⟩).text =
    "(t64 // 2)" := by decide +kernel
example : (Expr.call "count" [.col ["label"] ⟨0, 0⟩] false false ⟨0, 0⟩).text =
    "count(\"label\")" := by decide +kernel

end CqlBridge.Sql
