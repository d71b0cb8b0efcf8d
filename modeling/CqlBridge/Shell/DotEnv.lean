import CqlBridge.Shell.Env
import CqlBridge.Text.Blank
import CqlBridge.Text.Alnum

/-!
# `CqlBridge.Shell.DotEnv` — settings files of `NAME=value` lines

A settings file sets environment variables that are not set already, one entry per line, in
order; the first line that does not read stops the loading and keeps what came before it.

**Lines.** A quote left open at the end of a line continues the entry on the next line. A line
whose first non-blank character is `#` is a comment, and so is the rest of a line from a `#`
that follows a blank outside quotes. A quote still open at the end of the file is an error.

**Entries.** `NAME=value`, with blanks allowed around `=` and an optional `export ` before the
name. A name starts with an ASCII letter or `_` and goes on with ASCII letters, digits, `_` and
`.`. The value is read character by character:

| in | character | effect |
|---|---|---|
| `'…'` | anything but `'` | kept as written |
| `"…"` | `\` | escapes the next character |
| anywhere | `\\`, `\'`, `\"`, `\$`, `\ `, `\n` after `\` | the character (a line feed for `n`); any other is an error |
| outside `'…'` | `$NAME`, `${NAME}` | the variable's value: the environment first, then the entries read so far |
| outside quotes | space or tab | ends the value; only blanks and a `#` comment may follow |

A `$NAME` reference runs over alphanumeric characters and is followed by the character that
ended it, written as is, even a quote: `"$A"` leaves its quote open.
-/

namespace CqlBridge.Shell

namespace DotEnv

/-- Where the line reader stands after a character. -/
inductive LineState where
  | complete
  | escape
  | strongOpen
  | strongOpenEscape
  | weakOpen
  | weakOpenEscape
  | whiteSpace
  deriving BEq, Inhabited, Repr

/-- The state after one character, or `none` for a `#` that starts a comment. -/
def LineState.step : LineState → Char → Option LineState
  | .whiteSpace, c =>
    if c == '#' then none
    else if c == '\\' then some .escape
    else if c == '"' then some .weakOpen
    else if c == '\'' then some .strongOpen
    else some .complete
  | .escape, _ => some .complete
  | .complete, c =>
    if Text.isBlank c && c != '\n' && c != '\r' then some .whiteSpace
    else if c == '\\' then some .escape
    else if c == '"' then some .weakOpen
    else if c == '\'' then some .strongOpen
    else some .complete
  | .weakOpen, c =>
    if c == '\\' then some .weakOpenEscape
    else if c == '"' then some .complete
    else some .weakOpen
  | .weakOpenEscape, _ => some .weakOpen
  | .strongOpen, c =>
    if c == '\\' then some .strongOpenEscape
    else if c == '\'' then some .complete
    else some .strongOpen
  | .strongOpenEscape, _ => some .strongOpen

/-- Runs the line reader over a physical line: the state at its end, or the characters before
a comment. -/
def LineState.run (s : LineState) : List Char → List Char → Except (List Char) LineState
  | [], _ => .ok s
  | c :: cs, before =>
    match s.step c with
    | none => .error before.reverse
    | some s' => s'.run cs (c :: before)

/-- The physical lines of a text, each with its line feed (the last one may have none). -/
def physicalLines (cs : List Char) : List (List Char) :=
  go cs []
where
  /-- `acc` holds the current line, reversed. -/
  go : List Char → List Char → List (List Char)
    | [], acc => if acc.isEmpty then [] else [acc.reverse]
    | '\n' :: rest, acc => ('\n' :: acc).reverse :: go rest []
    | c :: rest, acc => go rest (c :: acc)

/-- Drops one final line feed and then one carriage return. -/
def dropLineEnd (cs : List Char) : List Char :=
  match cs.reverse with
  | '\n' :: '\r' :: r => r.reverse
  | '\n' :: r => r.reverse
  | _ => cs

/-- The logical lines of a text: each entry's text, or `none` where the text ends inside an
open quote. `buf` holds the lines gathered for the current entry and `s` the reader's state. -/
def logicalLines : List (List Char) → List Char → LineState → List (Option (List Char))
  | [], _, s => if s == .complete then [] else [none]
  | line :: rest, buf, s =>
    let buf' := buf ++ line
    match Text.trimStartChars buf' with
    | '#' :: _ => some [] :: logicalLines rest [] .complete
    | _ =>
      match s.run line [] with
      | .error before => some (buf ++ before) :: logicalLines rest [] .complete
      | .ok .complete => some (dropLineEnd buf') :: logicalLines rest [] .complete
      | .ok s' => logicalLines rest buf' s'

/-- How a `$` reference is being read. -/
inductive Reference where
  | none
  | bare
  | braced
  deriving BEq, Inhabited, Repr

/-- The reader of a value. -/
structure ValueState where
  strong : Bool := false
  weak : Bool := false
  escaped : Bool := false
  expectingEnd : Bool := false
  out : String := ""
  reference : Reference := .none
  name : String := ""
  deriving Inhabited

/-- What a reference names: the environment first, then the entries read so far (an entry
read with an empty value names nothing). -/
def lookup (env : Env) (entries : List (String × Option String)) (name : String) : String :=
  match env.get? name with
  | some v => v
  | none =>
    match entries.find? (·.1 == name) with
    | some (_, some v) => v
    | _ => ""

/-- The value of an entry: the text after `=`, without trailing blanks. `none` when it does not
read. -/
def readValue (resolve : String → String) : List Char → ValueState → Option String
  | [], s =>
    if s.reference == .braced || s.strong || s.weak then none
    else some (s.out ++ resolve s.name)
  | c :: cs, s =>
    if s.expectingEnd then
      if c == ' ' || c == '\t' then readValue resolve cs s
      else if c == '#' then some (s.out ++ resolve s.name)
      else none
    else if s.escaped then
      if c == '\\' || c == '\'' || c == '"' || c == '$' || c == ' ' then
        readValue resolve cs { s with out := s.out.push c, escaped := false }
      else if c == 'n' then readValue resolve cs { s with out := s.out.push '\n', escaped := false }
      else none
    else if s.strong then
      if c == '\'' then readValue resolve cs { s with strong := false }
      else readValue resolve cs { s with out := s.out.push c }
    else if s.reference != .none then
      if Text.isAlnum c then readValue resolve cs { s with name := s.name.push c }
      else if s.reference == .bare then
        if c == '\x7b' && s.name.isEmpty then readValue resolve cs { s with reference := .braced }
        else
          let out := s.out ++ resolve s.name
          if c == '$' then readValue resolve cs { s with out := out, name := "" }
          else readValue resolve cs { s with out := out.push c, name := "", reference := .none }
      else if c == '\x7d' then
        readValue resolve cs { s with out := s.out ++ resolve s.name, name := "", reference := .none }
      else readValue resolve cs { s with name := s.name.push c }
    else if c == '$' then readValue resolve cs { s with reference := .bare }
    else if s.weak then
      if c == '"' then readValue resolve cs { s with weak := false }
      else if c == '\\' then readValue resolve cs { s with escaped := true }
      else readValue resolve cs { s with out := s.out.push c }
    else if c == '\'' then readValue resolve cs { s with strong := true }
    else if c == '"' then readValue resolve cs { s with weak := true }
    else if c == '\\' then readValue resolve cs { s with escaped := true }
    else if c == ' ' || c == '\t' then readValue resolve cs { s with expectingEnd := true }
    else readValue resolve cs { s with out := s.out.push c }

/-- A name at the front of `cs` and the rest; `none` unless it starts with an ASCII letter or
`_`. -/
def readName (cs : List Char) : Option (String × List Char) :=
  let nameChar (c : Char) : Bool := c.isAlphanum || c == '_' || c == '.'
  match cs with
  | c :: _ =>
    if c.isAlpha || c == '_' then
      some (String.ofList (cs.takeWhile nameChar), cs.dropWhile nameChar)
    else none
  | [] => none

/-- An `=` at the front, and what follows it. -/
def readEquals : List Char → Option (List Char)
  | '=' :: rest => some rest
  | _ => none

/-- What a logical line holds: nothing (blank or comment), an entry, or `none` when it does not
read. -/
def readLine (resolve : String → String) (line : List Char) :
    Option (Option (String × Option String)) := do
  let cs := Text.trimStartChars (Text.trimEndChars line)
  match cs with
  | [] | '#' :: _ => return none
  | _ =>
    let (key, rest) ← readName cs
    let rest := Text.trimStartChars rest
    let (key, rest) ← if key == "export" then
        match readEquals rest with
        | some r => pure (key, r)
        | none => do
          let (k, r) ← readName rest
          let r ← readEquals (Text.trimStartChars r)
          pure (k, r)
      else do
        let r ← readEquals rest
        pure (key, r)
    let rest := Text.trimStartChars rest
    match rest with
    | [] | '#' :: _ => return some (key, none)
    | _ => return some (key, some (← readValue resolve rest {}))

/-- Loads entries into `env` until a line fails to read. `entries` are those read so far, latest
first, `none` standing for an empty value. An entry whose value holds a NUL character cannot be
set: loading stops with a fault naming it. -/
def loadLines (env : Env) (entries : List (String × Option String)) :
    List (Option (List Char)) → Except String Env
  | [] => .ok env
  | none :: _ => .ok env
  | some line :: rest =>
    match readLine (lookup env entries) line with
    | none => .ok env
    | some none => loadLines env entries rest
    | some (some (key, value)) =>
      let v := value.getD ""
      if (env.get? key).isSome then loadLines env ((key, value) :: entries) rest
      else if v.contains '\x00' then .error ("environment variable value contains a NUL: " ++ key)
      else loadLines (env.set key v) ((key, value) :: entries) rest

end DotEnv

/-- Loads a settings file into the environment: the variables it sets that were not set
already, up to its first line that does not read; an error only for a value that no
environment can hold. -/
def Env.loadDotEnv (env : Env) (text : String) : Except String Env :=
  DotEnv.loadLines env [] (DotEnv.logicalLines (DotEnv.physicalLines text.toList) [] .complete)

example : ((Env.ofList []).loadDotEnv "A=1\nexport B = 'x y' # c\nC=$A-$B\n").toOption.map
    (·.get? "C") = some (some "1-x y") := by cbv

example : ((Env.ofList []).loadDotEnv "A=1\nC=\"$A\"\nD=2\n").toOption.map
    (fun e => (e.get? "A", e.get? "C", e.get? "D")) = some (some "1", none, none) := by
  cbv

end CqlBridge.Shell
