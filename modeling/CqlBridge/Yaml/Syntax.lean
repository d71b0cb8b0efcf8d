import CqlBridge.Text.Escape

/-!
# `CqlBridge.Yaml.Syntax` — positions, tokens and syntax errors of YAML text

A YAML text is read in three stages: characters become tokens (`Yaml.Scanner`), tokens become
events (`Yaml.Parser`), and events become values (`Yaml.Document`). This module holds what the
stages share:

* `Mark`, a position: the character index, the line and the column, all counted from zero;
* the character classes of the grammar (blanks, line breaks, the end of the text);
* `Token`, a token with the positions where it starts and stops;
* `SyntaxError`, what was found wrong, where, and what was being read at the time.

A syntax error is written as its problem, ` at line L column C` (one-based) unless it stands at
the very start, and then `, ` and its context, with the context's own position when that differs
from the problem's and is not the start either.
-/

namespace CqlBridge.Yaml

/-- A position in a text: character index, line and column, all from zero. -/
structure Mark where
  index : Nat := 0
  line : Nat := 0
  column : Nat := 0
  deriving Inhabited, BEq, Repr

namespace Mark

/-- `line L column C`, both counted from one. -/
def text (m : Mark) : String :=
  "line " ++ toString (m.line + 1) ++ " column " ++ toString (m.column + 1)

/-- Whether the mark is the first column of the first line, where no position is shown. -/
def atStart (m : Mark) : Bool := m.line == 0 && m.column == 0

/-- The mark one character further along the same line. -/
def next (m : Mark) : Mark := { m with index := m.index + 1, column := m.column + 1 }

end Mark

/-- A line break: carriage return, line feed, next line, line separator, paragraph separator. -/
def isBreak (c : Char) : Bool :=
  c == '\r' || c == '\n' || c == '\x85' || c == '\u2028' || c == '\u2029'

/-- A blank: space or tab. -/
def isBlank (c : Char) : Bool := c == ' ' || c == '\t'

/-- The end of the text, read as the character NUL. -/
def isEnd (c : Char) : Bool := c == '\x00'

/-- A line break or the end. -/
def isBreakOrEnd (c : Char) : Bool := isBreak c || isEnd c

/-- A blank, a line break or the end. -/
def isBlankOrEnd (c : Char) : Bool := isBlank c || isBreakOrEnd c

/-- A character of anchor, alias, directive and tag-handle names: ASCII letters and digits,
`_` and `-`. -/
def isWordChar (c : Char) : Bool := c.isAlphanum || c == '_' || c == '-'

/-- An ASCII hexadecimal digit. -/
def isHexDigit (c : Char) : Bool :=
  c.isDigit || ('a' ≤ c && c ≤ 'f') || ('A' ≤ c && c ≤ 'F')

/-- The value of a hexadecimal digit. -/
def hexValue (c : Char) : Nat :=
  if c.isDigit then c.toNat - '0'.toNat
  else if 'a' ≤ c && c ≤ 'f' then c.toNat - 'a'.toNat + 10
  else c.toNat - 'A'.toNat + 10

/-- The characters a YAML text may hold: tab, line feed, carriage return, printable ASCII,
next line, and the printable rest of Unicode outside the surrogates and `U+FFFE`, `U+FFFF`. -/
def isAllowed (c : Char) : Bool :=
  let n := c.toNat
  n == 0x09 || n == 0x0A || n == 0x0D || (0x20 ≤ n && n ≤ 0x7E) || n == 0x85 ||
    (0xA0 ≤ n && n ≤ 0xD7FF) || (0xE000 ≤ n && n ≤ 0xFFFD) || (0x10000 ≤ n && n ≤ 0x10FFFF)

/-- How a scalar is written. -/
inductive ScalarStyle where
  | plain
  | singleQuoted
  | doubleQuoted
  | literal
  | folded
  deriving Inhabited, BEq, Repr

/-- What a token is. -/
inductive TokenKind where
  | streamStart
  | streamEnd
  | versionDirective (major minor : Nat)
  | tagDirective (handle pfx : String)
  | documentStart
  | documentEnd
  | blockSequenceStart
  | blockMappingStart
  | blockEnd
  | flowSequenceStart
  | flowSequenceEnd
  | flowMappingStart
  | flowMappingEnd
  | blockEntry
  | flowEntry
  | key
  | value
  | aliasNode (name : String)
  | anchor (name : String)
  | tag (handle suffix : String)
  | scalar (value : String) (style : ScalarStyle)
  deriving Inhabited, BEq, Repr

/-- A token and where it starts and stops. -/
structure Token where
  kind : TokenKind
  start : Mark
  stop : Mark
  deriving Inhabited, Repr

/-- A syntax error: the problem and its position, and what was being read, with the position
where that began. A problem with no position of its own (an unreadable character) carries the
byte offset instead. -/
structure SyntaxError where
  problem : String
  mark : Mark
  context : Option (String × Mark) := none
  offset : Nat := 0
  deriving Inhabited, Repr

/-- The text of a syntax error. -/
def SyntaxError.message (e : SyntaxError) : String :=
  let place :=
    if !e.mark.atStart then " at " ++ e.mark.text
    else if e.offset != 0 then " at position " ++ toString e.offset
    else ""
  let ctx := match e.context with
    | none => ""
    | some (c, m) =>
      let shown := !m.atStart && (m.line != e.mark.line || m.column != e.mark.column)
      ", " ++ c ++ (if shown then " at " ++ m.text else "")
  e.problem ++ place ++ ctx

example : (SyntaxError.message ⟨"found character that cannot start any token", ⟨9, 1, 0⟩,
    some ("while scanning for the next token", ⟨9, 1, 0⟩), 0⟩) =
    "found character that cannot start any token at line 2 column 1, " ++
      "while scanning for the next token" := by decide +kernel

end CqlBridge.Yaml
