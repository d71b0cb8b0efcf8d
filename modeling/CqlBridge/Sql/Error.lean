import CqlBridge.Sql.Syntax

/-!
# `CqlBridge.Sql.Error` — what goes wrong with a statement, and how it is reported

An error has a kind, which names the stage or the rule that failed (`Parser Error`,
`Binder Error`, `Catalog Error`, …), a message, and possibly the span of the statement text it
is about.

A reported error is the kind, `: ` and the message; when the span is known and starts inside
the text, a blank line and an excerpt follow: `LINE n: ` and the line that holds the span's
start, then a line of carets under the span (at least one). A line of more than 72 characters is
cut and `...` marks the cut. The cut falls after 69 characters, or after 71, 73 or 75 when the
earlier places split a word: it is the first of these places where the next character is not a
letter, digit or `_`. When all four split a word, the line is cut after 73 characters.

A text with no statement at all fails without a kind: `Error code 1: Unknown error code`.
-/

namespace CqlBridge.Sql

/-- The kinds of error. -/
inductive ErrKind where
  | parser | binder | catalog | conversion | invalidInput | outOfRange | notImplemented
  | constraint | io
  /-- The text holds no statement. -/
  | empty
  /-- A table function stopped the whole program; there is no report. -/
  | crash
  deriving DecidableEq, Repr, Inhabited

/-- The name of a kind of error, as the report starts. -/
def ErrKind.title : ErrKind → String
  | .parser => "Parser Error"
  | .binder => "Binder Error"
  | .catalog => "Catalog Error"
  | .conversion => "Conversion Error"
  | .invalidInput => "Invalid Input Error"
  | .outOfRange => "Out of Range Error"
  | .notImplemented => "Not implemented Error"
  | .constraint => "Constraint Error"
  | .io => "IO Error"
  | .empty => "Error code 1"
  | .crash => "Fatal Error"

/-- An error of a statement. -/
structure SqlError where
  kind : ErrKind
  message : String
  span : Option Span := none
  deriving Repr, Inhabited

namespace SqlError

/-- The widest line that is shown whole, in characters. -/
def excerptWidth : Nat := 72

/-- Where a line longer than `excerptWidth` is cut: the first of the places 69, 71, 73 and 75
that does not split a word, else 73. -/
def cutAt (line : List Char) : Nat :=
  -- past the end there is no word to split
  let wordy (i : Nat) : Bool := let c := line.getD i ' '; c.isAlphanum || c == '_'
  match [69, 71, 73, 75].find? (fun p => !wordy p) with
  | some p => p
  | none => 73

/-- The line of `text` holding position `pos`: its number (from 1), where it starts, and its
characters. -/
def lineAt (text : List Char) (pos : Nat) : Nat × Nat × List Char :=
  let before := text.take pos
  let lineNo := (before.filter (· == '\n')).length + 1
  let start := before.length - (before.reverse.takeWhile (· != '\n')).length
  let line := (text.drop start).takeWhile (fun c => c != '\n' && c != '\r')
  (lineNo, start, line)

/-- The excerpt under a report: the line with the span and carets under the span. -/
def excerpt (text : String) (span : Span) : Option String :=
  let cs := text.toList
  if span.pos ≥ cs.length then none else
  let (lineNo, start, line) := lineAt cs span.pos
  let col := span.pos - start
  let cut := line.length > excerptWidth && cutAt line < line.length
  let shown := if cut then line.take (cutAt line) else line
  let marked := max 1 (min span.len (shown.length - col))
  let indicator := "LINE " ++ toString lineNo ++ ": "
  some (indicator ++ String.ofList shown ++ (if cut then "..." else "") ++ "\n" ++
    String.ofList (List.replicate (indicator.length + col) ' ') ++
    String.ofList (List.replicate marked '^'))

/-- The report of an error of the statement text `text`. -/
def render (e : SqlError) (text : String) : String :=
  match e.kind with
  | .empty => "Error code 1: Unknown error code"
  | k =>
    let head := k.title ++ ": " ++ e.message
    match e.span.bind (excerpt text) with
    | some x => head ++ "\n\n" ++ x
    | none => head

/-- The error with its span forgotten, as for an error inside a stored view. -/
def unplaced (e : SqlError) : SqlError := { e with span := none }

end SqlError

end CqlBridge.Sql
