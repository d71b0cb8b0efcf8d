import CqlBridge.Text.Blank
import CqlBridge.Text.Digits
import CqlBridge.Text.Search

/-!
# `CqlBridge.Cluster.Select` — the statements an in-memory cluster can run

The cluster runs `SELECT <projection> FROM <keyspace>.<table> [WHERE …] [LIMIT n]`. The
reader finds the clauses by searching an upper-cased copy of the text for ` FROM `,
` WHERE ` and ` LIMIT ` (each with its blanks) and cuts the text itself at the same places:

| part | rule |
|---|---|
| start | blanks, then `SELECT ` in any ASCII case |
| projection | the text between `SELECT ` and the first ` FROM ` of the whole statement, trimmed: `*`, or names separated by commas |
| target | after ` FROM `, up to the first ` WHERE ` or ` LIMIT `, trimmed, without trailing `;` |
| limit | after the first ` LIMIT ` following ` FROM `, trimmed and without trailing `;`: an unsigned 64-bit number |

The target splits at its first `.` outside double quotes. A name is trimmed, and a name in
double quotes loses them and has each doubled quote halved. The `WHERE` clause is accepted
and not evaluated.

When the first ` FROM ` begins before the projection does (`SELECT FROM …`), the two cut points
cross; the reader then crashes (`SelectRefusal.crossed`) instead of refusing.
-/

namespace CqlBridge

/-- A statement the in-memory cluster runs. -/
structure SelectStmt where
  /-- The column names selected; `none` for `*`. -/
  projection : Option (List String)
  keyspace : String
  table : String
  limit : Option Nat
  deriving DecidableEq, Repr

/-- Why a statement is not read. -/
inductive SelectRefusal where
  /-- Not of the accepted form. -/
  | unsupported
  /-- The projection's two cut points cross, which crashes the reader. -/
  | crossed
  deriving DecidableEq, Repr

namespace SelectStmt

/-- The text without its trailing semicolons. -/
def dropSemicolons (cs : List Char) : List Char :=
  (cs.reverse.dropWhile (· == ';')).reverse

/-- Halves each doubled double quote, reading from the left. -/
def undouble : List Char → List Char
  | '"' :: '"' :: rest => '"' :: undouble rest
  | c :: rest => c :: undouble rest
  | [] => []

/-- A name as written: trimmed, and taken out of double quotes when it is in them. -/
def unquoteName (cs : List Char) : String :=
  match Text.trimChars cs with
  | '"' :: inner@(_ :: _) =>
    if inner.getLast? == some '"' then String.ofList (undouble inner.dropLast)
    else String.ofList ('"' :: inner)
  | t => String.ofList t

/-- Splits at the first `.` outside double quotes; `acc` holds the text before, reversed. -/
def splitAt (inQuotes : Bool) (acc : List Char) : List Char → Option (List Char × List Char)
  | [] => none
  | c :: cs =>
    if c == '"' then splitAt (!inQuotes) (c :: acc) cs
    else if c == '.' && !inQuotes then some (acc.reverse, cs)
    else splitAt inQuotes (c :: acc) cs

/-- A qualified name's keyspace and table. -/
def splitQualified (cs : List Char) : Option (String × String) :=
  (splitAt false [] cs).map fun (k, t) => (unquoteName k, unquoteName t)

/-- The earlier of two optional places. -/
def firstOf : Option Nat → Option Nat → Option Nat
  | some a, some b => some (min a b)
  | some a, none => some a
  | none, b => b

/-- Reads a statement. -/
def read (cql : String) : Except SelectRefusal SelectStmt := do
  let cs := cql.toList
  let upper := cs.map Char.toUpper
  let lead := upper.length - (Text.trimStartChars upper).length
  unless "SELECT ".toList.isPrefixOf (upper.drop lead) do throw .unsupported
  let start := lead + 7
  let some fromAt := Text.find? " FROM ".toList upper | throw .unsupported
  if fromAt < start then throw .crossed
  let projection := Text.trimChars ((cs.drop start).take (fromAt - start))
  let rest := cs.drop (fromAt + 6)
  let restUpper := upper.drop (fromAt + 6)
  let limitAt := Text.find? " LIMIT ".toList restUpper
  let targetEnd := (firstOf (Text.find? " WHERE ".toList restUpper) limitAt).getD rest.length
  let target := dropSemicolons (Text.trimChars (rest.take targetEnd))
  let limit ← match limitAt with
    | some at_ =>
      let value := Text.trimChars (dropSemicolons (Text.trimChars (rest.drop (at_ + 7))))
      match Text.readBelow? (Nat.pow 2 64) value with
      | some n => pure (some n)
      | none => throw .unsupported
    | none => pure none
  let some (keyspace, table) := splitQualified target | throw .unsupported
  let names : Option (List String) :=
    if projection == ['*'] then none
    else some ((Text.splitOn ',' projection).map unquoteName)
  return ⟨names, keyspace, table, limit⟩

example : (read "SELECT \"a\", b FROM \"my.ks\".\"t\" WHERE x = 1 LIMIT 3").toOption =
    some ⟨some ["a", "b"], "my.ks", "t", some 3⟩ := by decide +kernel
example : (match read "SELECT FROM ks.t" with | .error .crossed => true | _ => false) = true := by
  decide +kernel

end SelectStmt

end CqlBridge
