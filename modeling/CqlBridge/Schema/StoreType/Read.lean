import CqlBridge.Schema.StoreType
import CqlBridge.Text.Blank
import CqlBridge.Text.Alnum

/-!
# `CqlBridge.Schema.StoreType.Read` — reading a store type from its text

The reader never refuses a text; it reads what it can:

* Blanks (Unicode White_Space) around the text and between tokens are skipped.
* `'class'` is a custom class; a missing closing quote runs the class to the end.
* `"name"` is a user-defined type, `""` standing for one quote inside.
* A bare name is a run of alphanumeric characters, `_` and `.`. With a `.` it is a custom
  class. Otherwise, followed by `<`, it takes a comma-separated argument list, closed by an
  optional `>`: `frozen<t>` is `t`, `list<t>`, `set<t>`, `map<k, v>` and `tuple<…>` are what
  they say (the name in any case), and any other name or count gives the custom class
  `name<..>`. Without `<`, a scalar name in any case is that scalar and any other name a
  user-defined type (the empty name included).
* If text is left over after one type, the whole trimmed text is a custom class.

The one fault: a quoted name that is still open at the end of the text and whose last
character is not ASCII. The reader cuts one byte off each end of a quoted name, which there
falls inside a character; `read?` answers `none` for exactly this case.
-/

namespace CqlBridge.StoreType

/-- Drops leading blanks. -/
def skipBlank (cs : List Char) : List Char := cs.dropWhile Text.isBlank

/-- After blanks, the character `c`, and what follows it. -/
def eat (c : Char) (cs : List Char) : Option (List Char) :=
  match skipBlank cs with
  | d :: rest => if d == c then some rest else none
  | [] => none

/-- Characters of a bare name. -/
def isNameChar (c : Char) : Bool := Text.isAlnum c || c == '_' || c == '.'

/-- The rest of a quoted name after its opening quote: the characters up to and including
the closing quote (a doubled quote is kept as two and does not close), and what follows. -/
def quotedRaw : List Char → List Char × List Char
  | [] => ([], [])
  | '"' :: '"' :: rest =>
    let (r, after) := quotedRaw rest
    ('"' :: '"' :: r, after)
  | '"' :: rest => (['"'], rest)
  | c :: rest =>
    let (r, after) := quotedRaw rest
    (c :: r, after)

/-- Writes each doubled quote once. -/
def undouble : List Char → List Char
  | '"' :: '"' :: rest => '"' :: undouble rest
  | c :: rest => c :: undouble rest
  | [] => []

/-- The name inside a quoted name given by its raw characters after the opening quote: one
character is cut off at the end, which fails when that character is not ASCII. -/
def unquote (raw : List Char) : Option String :=
  match raw.getLast? with
  | none => some ""
  | some c => if c.toNat < 0x80 then some (String.ofList (undouble raw.dropLast)) else none

/-- A scalar by its name in any case, else a user-defined type of that name. -/
def ofSimpleName (name : List Char) : StoreType :=
  match Scalar.ofName? (String.ofList (name.map Char.toLower)) with
  | some s => .scalar s
  | none => .udt (String.ofList name)

/-- The type written `name<args>`. -/
def ofApplied (name : List Char) (args : List StoreType) : StoreType :=
  match String.ofList (name.map Char.toLower), args with
  | "frozen", [t] => t
  | "list", [t] => .list t
  | "set", [t] => .set t
  | "map", [k, v] => .map k v
  | "tuple", ts => .tuple ts
  | _, _ => .custom (String.ofList name ++ "<..>")

mutual

/-- Reads one type at the front; `none` when the reader faults. The fuel bounds the nesting
and the argument count, and `read?` gives enough. -/
def readType : Nat → List Char → Option (StoreType × List Char)
  | 0, cs => some (.udt "", cs)
  | fuel + 1, cs =>
    match skipBlank cs with
    | '\'' :: rest =>
      let cls := rest.takeWhile (· != '\'')
      let after := rest.dropWhile (· != '\'')
      some (.custom (String.ofList cls), (eat '\'' after).getD after)
    | '"' :: rest =>
      let (raw, after) := quotedRaw rest
      (unquote raw).map fun n => (.udt n, after)
    | cs =>
      let name := cs.takeWhile isNameChar
      let after := cs.dropWhile isNameChar
      if name.contains '.' then some (.custom (String.ofList name), after)
      else match eat '<' after with
        | none => some (ofSimpleName name, after)
        | some inside => do
          let (first, r) ← readType fuel inside
          let (more, r) ← readArgs fuel r
          pure (ofApplied name (first :: more), (eat '>' r).getD r)

/-- Reads further arguments, each after a comma. -/
def readArgs : Nat → List Char → Option (List StoreType × List Char)
  | 0, cs => some ([], cs)
  | fuel + 1, cs =>
    match eat ',' cs with
    | none => some ([], cs)
    | some r => do
      let (t, r) ← readType fuel r
      let (ts, r) ← readArgs fuel r
      pure (t :: ts, r)

end

/-- Reads a store type from its text; `none` only for the one fault described above. -/
def read? (text : String) : Option StoreType :=
  let input := Text.trimChars text.toList
  match readType (2 * input.length + 2) input with
  | none => none
  | some (t, rest) =>
    if (skipBlank rest).isEmpty then some t else some (.custom (String.ofList input))

example : (read? "frozen<map<text, list<int>>>").map render = some "map<text, list<int>>" := by
  decide +kernel

end CqlBridge.StoreType
