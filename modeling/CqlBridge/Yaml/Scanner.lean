import CqlBridge.Yaml.Syntax

/-!
# `CqlBridge.Yaml.Scanner` — from characters to tokens

The scanner turns a YAML text into tokens on demand: `Scanner.peek` makes sure the queue holds
the next token the parser needs, and `Scanner.advance` takes it off.

**Simple keys.** A key written without `?` is only known to be a key when the `:` after it
arrives. Each flow level keeps one *possible* simple key: the position and the token number of
the last scalar, alias, anchor, tag or opening bracket that could start a key. When `:` comes
and that key is still possible, a `KEY` token is inserted in front of it (and, in block context,
a `BLOCK-MAPPING-START` before that when the key opens a deeper indentation). A possible key
lapses when the scanner leaves its line or moves more than 1024 characters past it; a key at
the current indentation of block context is *required*, and its lapse is the error
"could not find expected ':'". The queue is filled until its head can no longer become a key.

**Indentation.** Block collections push the column where they start; a token at a smaller
column first closes the deeper collections with `BLOCK-END` tokens.

**Scalars.** Plain scalars end at `: `, ` #`, a line at a smaller indentation, or in flow context
at `,[]{}`; their line breaks fold to spaces (an empty line stays a line break). Quoted scalars
fold the same way; double quotes know the escapes `\0 \a \b \t \n \v \f \r \e \  \" \/ \\
\N \_ \L \P \xHH \uHHHH \UHHHHHHHH` and a backslash before a line break. Block scalars (`|`, `>`)
keep or fold their lines under an indentation found from the first non-empty line, with the
chomping indicators `+` and `-`.

Every loop is bounded by the length of the text, since each round consumes a character.
-/

namespace CqlBridge.Yaml

/-- A place where a simple key may start. -/
structure SimpleKey where
  possible : Bool := false
  required : Bool := false
  tokenNumber : Nat := 0
  mark : Mark := {}
  deriving Inhabited

/-- The state of the scanner. -/
structure Scanner where
  text : Array Char
  mark : Mark := {}
  /-- Tokens scanned and not yet taken by the parser, the next one first. -/
  queue : Array Token := #[]
  /-- How many tokens the parser has taken. -/
  taken : Nat := 0
  /-- Whether the head of the queue is known to be the next token. -/
  ready : Bool := false
  started : Bool := false
  ended : Bool := false
  indent : Int := -1
  indents : List Int := []
  simpleKeyAllowed : Bool := false
  /-- One entry per flow level, the innermost first. -/
  simpleKeys : List SimpleKey := []
  flowLevel : Nat := 0
  deriving Inhabited

namespace Scanner

/-- The character `k` places ahead, NUL past the end. -/
def ahead (s : Scanner) (k : Nat) : Char := s.text.getD (s.mark.index + k) '\x00'

/-- The current character. -/
def cur (s : Scanner) : Char := s.ahead 0

/-- Moves past one character of a line. -/
def skip (s : Scanner) : Scanner := { s with mark := s.mark.next }

/-- Moves past a line break (`\r\n` counts as one). -/
def skipLine (s : Scanner) : Scanner :=
  if s.ahead 0 == '\r' && s.ahead 1 == '\n' then
    { s with mark := { index := s.mark.index + 2, line := s.mark.line + 1, column := 0 } }
  else if isBreak (s.ahead 0) then
    { s with mark := { index := s.mark.index + 1, line := s.mark.line + 1, column := 0 } }
  else s

/-- Reads a line break: `\r\n`, `\r`, `\n` and next-line read as `\n`, the two separators as
themselves; nothing at the end. -/
def readLine (s : Scanner) : Scanner × String :=
  let c := s.ahead 0
  if c == '\r' || c == '\n' || c == '\x85' then (s.skipLine, "\n")
  else if isBreak c then (s.skipLine, c.toString)
  else (s, "")

/-- The error of the scanner at its current position. -/
def fail {α : Type} (s : Scanner) (context : Option String) (ctxMark : Mark) (problem : String) :
    Except SyntaxError α :=
  .error { problem, mark := s.mark, context := context.map (·, ctxMark) }

/-- A fuel bound for loops over the rest of the text. -/
def fuel (s : Scanner) : Nat := s.text.size - s.mark.index + 2

/-- Appends a token to the queue. -/
def enqueue (s : Scanner) (kind : TokenKind) (start stop : Mark) : Scanner :=
  { s with queue := s.queue.push ⟨kind, start, stop⟩ }

/-- Inserts a token at place `i` of the queue. -/
def insertAt (s : Scanner) (i : Nat) (t : Token) : Scanner :=
  { s with queue := (s.queue.toList.take i ++ t :: s.queue.toList.drop i).toArray }

/-- Drops the possible simple key of the current flow level; an error if it was required. -/
def removeSimpleKey (s : Scanner) : Except SyntaxError Scanner :=
  match s.simpleKeys with
  | k :: rest =>
    if k.possible && k.required then
      s.fail (some "while scanning a simple key") k.mark "could not find expected ':'"
    else .ok { s with simpleKeys := { k with possible := false } :: rest }
  | [] => .ok s

/-- Records that a simple key may start here, when keys are allowed. -/
def saveSimpleKey (s : Scanner) : Except SyntaxError Scanner := do
  if !s.simpleKeyAllowed then return s
  let required := s.flowLevel == 0 && s.indent == (s.mark.column : Int)
  let key : SimpleKey := ⟨true, required, s.taken + s.queue.size, s.mark⟩
  let s ← s.removeSimpleKey
  match s.simpleKeys with
  | _ :: rest => return { s with simpleKeys := key :: rest }
  | [] => return { s with simpleKeys := [key] }

/-- Lapses the possible keys left behind by a new line or by more than 1024 characters; the
outermost required one that lapses is an error. -/
def staleSimpleKeys (s : Scanner) : Except SyntaxError Scanner := do
  let stale := fun (k : SimpleKey) =>
    k.possible && (k.mark.line < s.mark.line || k.mark.index + 1024 < s.mark.index)
  match s.simpleKeys.reverse.find? (fun k => stale k && k.required) with
  | some k => s.fail (some "while scanning a simple key") k.mark "could not find expected ':'"
  | none =>
    let keys := s.simpleKeys.map fun k => if stale k then { k with possible := false } else k
    return { s with simpleKeys := keys }

/-- Enters a flow collection. -/
def increaseFlowLevel (s : Scanner) : Scanner :=
  { s with simpleKeys := {} :: s.simpleKeys, flowLevel := s.flowLevel + 1 }

/-- Leaves a flow collection. -/
def decreaseFlowLevel (s : Scanner) : Scanner :=
  if s.flowLevel == 0 then s
  else { s with simpleKeys := s.simpleKeys.drop 1, flowLevel := s.flowLevel - 1 }

/-- Opens a block collection at `column` when it is deeper than the current indentation: the
start token goes to the end of the queue, or before token number `number`. -/
def rollIndent (s : Scanner) (column : Int) (number : Option Nat) (kind : TokenKind)
    (mark : Mark) : Scanner :=
  if s.flowLevel != 0 || column ≤ s.indent then s
  else
    let s := { s with indents := s.indent :: s.indents, indent := column }
    match number with
    | none => s.enqueue kind mark mark
    | some n => s.insertAt (n - s.taken) ⟨kind, mark, mark⟩

/-- Closes the block collections deeper than `column`. -/
def unrollIndentGo (column : Int) : List Int → Scanner → Scanner
  | [], s => s
  | i :: rest, s =>
    if s.flowLevel == 0 && s.indent > column then
      unrollIndentGo column rest ({ s.enqueue .blockEnd s.mark s.mark with indent := i, indents := rest })
    else s

/-- Closes the block collections deeper than `column` (nothing in flow context). -/
def unrollIndent (s : Scanner) (column : Int) : Scanner := unrollIndentGo column s.indents s

/-- Skips blanks, comments and line breaks up to the next token. Tabs count as blanks only in
flow context or where no simple key may start. -/
def toNextToken : Nat → Scanner → Scanner
  | 0, s => s
  | fuel + 1, s =>
    let s := if s.mark.column == 0 && s.cur == '\uFEFF' then s.skip else s
    let s := skipBlanks s.fuel s
    let s := if s.cur == '#' then skipComment s.fuel s else s
    if isBreak s.cur then
      let s := s.skipLine
      toNextToken fuel (if s.flowLevel == 0 then { s with simpleKeyAllowed := true } else s)
    else s
where
  skipBlanks : Nat → Scanner → Scanner
    | 0, s => s
    | n + 1, s =>
      if s.cur == ' ' || ((s.flowLevel != 0 || !s.simpleKeyAllowed) && s.cur == '\t') then
        skipBlanks n s.skip
      else s
  skipComment : Nat → Scanner → Scanner
    | 0, s => s
    | n + 1, s => if isBreakOrEnd s.cur then s else skipComment n s.skip

/-- Skips characters while `p` holds, reading them into `acc`. -/
def readWhile (p : Char → Bool) : Nat → Scanner → String → Scanner × String
  | 0, s, acc => (s, acc)
  | n + 1, s, acc => if p s.cur then readWhile p n s.skip (acc.push s.cur) else (s, acc)

/-- Skips blanks. -/
def skipBlanks (s : Scanner) : Scanner := (readWhile isBlank s.fuel s "").1

/-- Skips to the end of the line. -/
def skipToBreak (s : Scanner) : Scanner := (readWhile (fun c => !isBreakOrEnd c) s.fuel s "").1

/-! ## Directives -/

/-- The name of a directive after `%`. -/
def directiveName (s : Scanner) (start : Mark) : Except SyntaxError (Scanner × String) := do
  let (s, name) := readWhile isWordChar s.fuel s ""
  if name.isEmpty then
    s.fail (some "while scanning a directive") start "could not find expected directive name"
  else if !isBlankOrEnd s.cur then
    s.fail (some "while scanning a directive") start "found unexpected non-alphabetical character"
  else return (s, name)

/-- A version number of `%YAML`: at most nine digits. -/
def versionNumber (s : Scanner) (start : Mark) : Except SyntaxError (Scanner × Nat) := do
  let (s', digits) := readWhile Char.isDigit s.fuel s ""
  if digits.length > 9 then
    ({ s with mark := { s.mark with index := s.mark.index + 9, column := s.mark.column + 9 } } :
      Scanner).fail (some "while scanning a %YAML directive") start
      "found extremely long version number"
  else if digits.isEmpty then
    s.fail (some "while scanning a %YAML directive") start "did not find expected version number"
  else return (s', digits.foldl (fun n c => 10 * n + (c.toNat - '0'.toNat)) 0)

/-- A tag handle: `!`, `!!` or `!name!`. In a directive the handle must end in `!`. -/
def tagHandle (s : Scanner) (directive : Bool) (start : Mark) :
    Except SyntaxError (Scanner × String) := do
  let ctx := if directive then "while scanning a tag directive" else "while scanning a tag"
  if s.cur != '!' then s.fail (some ctx) start "did not find expected '!'" else
  let (s, name) := readWhile isWordChar s.fuel s.skip "!"
  if s.cur == '!' then return (s.skip, name.push '!')
  else if directive && name != "!" then
    s.fail (some "while parsing a tag directive") start "did not find expected '!'"
  else return (s, name)

/-- A character of a tag's URI; in a verbatim tag `,[]` too. -/
def isUriChar (verbatim : Bool) (c : Char) : Bool :=
  isWordChar c || ";/?:@&=+$.%!~*'()".contains c || (verbatim && ",[]".contains c)

/-- Reads `%XX` escapes of one UTF-8 sequence into bytes. -/
def uriEscapes (ctx : String) (start : Mark) : Nat → Nat → Scanner → List UInt8 →
    Except SyntaxError (Scanner × List UInt8)
  | 0, _, s, acc => .ok (s, acc)
  | fuel + 1, width, s, acc =>
    if !(s.cur == '%' && isHexDigit (s.ahead 1) && isHexDigit (s.ahead 2)) then
      s.fail (some ctx) start "did not find URI escaped octet"
    else
      let octet := 16 * hexValue (s.ahead 1) + hexValue (s.ahead 2)
      let width' :=
        if width != 0 then width
        else if octet / 128 == 0 then 1 else if octet / 32 == 6 then 2
        else if octet / 16 == 14 then 3 else if octet / 8 == 30 then 4 else 0
      if width == 0 && width' == 0 then
        s.fail (some ctx) start "found an incorrect leading UTF-8 octet"
      else if width != 0 && octet / 64 != 2 then
        s.fail (some ctx) start "found an incorrect trailing UTF-8 octet"
      else
        let s := s.skip.skip.skip
        let acc := acc ++ [octet.toUInt8]
        if width' == 1 then .ok (s, acc) else uriEscapes ctx start fuel (width' - 1) s acc

/-- The URI part of a tag, after `head` (whose leading `!` is dropped). -/
def tagUri (s : Scanner) (verbatim directive : Bool) (head : String) (start : Mark) :
    Except SyntaxError (Scanner × String) :=
  let ctx := if directive then "while parsing a %TAG directive" else "while parsing a tag"
  let rec go : Nat → Scanner → String → Nat → Except SyntaxError (Scanner × String × Nat)
    | 0, s, acc, n => .ok (s, acc, n)
    | fuel + 1, s, acc, n =>
      if !isUriChar verbatim s.cur then .ok (s, acc, n)
      else if s.cur == '%' then do
        let (s, bytes) ← uriEscapes ctx start s.fuel 0 s []
        let text := (String.fromUTF8? (ByteArray.mk bytes.toArray)).getD ""
        go fuel s (acc ++ text) (n + 1)
      else go fuel s.skip (acc.push s.cur) (n + 1)
  do
    let (s, text, n) ← go s.fuel s (String.ofList (head.toList.drop 1)) head.length
    if n == 0 then s.fail (some ctx) start "did not find expected tag URI"
    else return (s, text)

/-- The value of `%YAML major.minor`. -/
def versionValue (s : Scanner) (start : Mark) : Except SyntaxError (Scanner × Nat × Nat) := do
  let s := s.skipBlanks
  let (s, major) ← versionNumber s start
  if s.cur != '.' then
    s.fail (some "while scanning a %YAML directive") start
      "did not find expected digit or '.' character"
  else
    let (s, minor) ← versionNumber s.skip start
    return (s, major, minor)

/-- The value of `%TAG handle prefix`. -/
def tagDirectiveValue (s : Scanner) (start : Mark) :
    Except SyntaxError (Scanner × String × String) := do
  let s := s.skipBlanks
  let (s, handle) ← tagHandle s true start
  if !isBlank s.cur then
    s.fail (some "while scanning a %TAG directive") start "did not find expected whitespace"
  else
    let (s, pfx) ← tagUri s.skipBlanks true true "" start
    if !isBlankOrEnd s.cur then
      s.fail (some "while scanning a %TAG directive") start
        "did not find expected whitespace or line break"
    else return (s, handle, pfx)

/-- A directive line: `%YAML` or `%TAG`, then blanks, a comment and a line break. -/
def directive (s : Scanner) : Except SyntaxError Scanner := do
  let start := s.mark
  let (s, name) ← directiveName s.skip start
  let (s, kind) ← if name == "YAML" then do
      let (s, major, minor) ← versionValue s start
      pure (s, TokenKind.versionDirective major minor)
    else if name == "TAG" then do
      let (s, handle, pfx) ← tagDirectiveValue s start
      pure (s, TokenKind.tagDirective handle pfx)
    else s.fail (some "while scanning a directive") start "found unknown directive name"
  let stop := s.mark
  let s := s.skipBlanks
  let s := if s.cur == '#' then s.skipToBreak else s
  if !isBreakOrEnd s.cur then
    s.fail (some "while scanning a directive") start "did not find expected comment or line break"
  else
    let s := s.skipLine
    return s.enqueue kind start stop

/-! ## Anchors and tags -/

/-- An anchor `&name` or an alias `*name`. -/
def anchorOrAlias (s : Scanner) (isAnchor : Bool) : Except SyntaxError Scanner :=
  let start := s.mark
  let (s, name) := readWhile isWordChar s.fuel s.skip ""
  let ends := isBlankOrEnd s.cur || "?:,]\x7d%@`".contains s.cur
  if name.isEmpty || !ends then
    s.fail (some (if isAnchor then "while scanning an anchor" else "while scanning an alias"))
      start "did not find expected alphabetic or numeric character"
  else .ok (s.enqueue (if isAnchor then .anchor name else .aliasNode name) start s.mark)

/-- A tag: `!<uri>`, `!handle!suffix`, `!suffix` or `!` alone. -/
def tag (s : Scanner) : Except SyntaxError Scanner := do
  let start := s.mark
  let (s, handle, suffix) ←
    if s.ahead 1 == '<' then do
      let (s, suffix) ← tagUri s.skip.skip true false "" start
      if s.cur != '>' then
        s.fail (some "while scanning a tag") start "did not find the expected '>'"
      else pure (s.skip, "", suffix)
    else do
      let (s, handle) ← tagHandle s false start
      if handle.length > 1 && handle.startsWith "!" && handle.endsWith "!" then
        let (s, suffix) ← tagUri s false false "" start
        pure (s, handle, suffix)
      else
        let (s, suffix) ← tagUri s false false handle start
        if suffix.isEmpty then pure (s, "", "!") else pure (s, "!", suffix)
  if !isBlankOrEnd s.cur && !(s.flowLevel != 0 && s.cur == ',') then
    s.fail (some "while scanning a tag") start "did not find expected whitespace or line break"
  else return s.enqueue (.tag handle suffix) start s.mark

/-! ## Scalars -/

/-- Joins the blanks between two parts of a flow or plain scalar: a single line break folds to
a space, further breaks stay; blanks within a line stay as they are. -/
def joinFolded (acc : String) (leadingBlanks : Bool) (whitespace leadingBreak trailingBreaks : String) :
    String :=
  if leadingBlanks then
    if leadingBreak == "\n" then
      if trailingBreaks.isEmpty then acc.push ' ' else acc ++ trailingBreaks
    else acc ++ leadingBreak ++ trailingBreaks
  else acc ++ whitespace

/-- Whether a document marker (`---` or `...` and a blank) starts at the current column 0. -/
def atDocumentMarker (s : Scanner) : Bool :=
  s.mark.column == 0 &&
    ((s.ahead 0 == '-' && s.ahead 1 == '-' && s.ahead 2 == '-') ||
      (s.ahead 0 == '.' && s.ahead 1 == '.' && s.ahead 2 == '.')) &&
    isBlankOrEnd (s.ahead 3)

/-- Blanks and breaks between parts of a scalar: the blanks of the line, the first break, and
the breaks after it. -/
structure Gap where
  leading : Bool := false
  whitespace : String := ""
  leadingBreak : String := ""
  trailingBreaks : String := ""

/-- Reads blanks and line breaks into a gap. With `tabCheck`, a tab before the indentation
`indent` on a continuation line is an error. -/
def readGap (start : Mark) (tabCheck : Option Int) : Nat → Scanner → Gap →
    Except SyntaxError (Scanner × Gap)
  | 0, s, g => .ok (s, g)
  | fuel + 1, s, g =>
    if isBlank s.cur then
      match tabCheck with
      | some indent =>
        if g.leading && (s.mark.column : Int) < indent && s.cur == '\t' then
          s.fail (some "while scanning a plain scalar") start
            "found a tab character that violates indentation"
        else
          readGap start tabCheck fuel s.skip
            (if g.leading then g else { g with whitespace := g.whitespace.push s.cur })
      | none =>
        readGap start tabCheck fuel s.skip
          (if g.leading then g else { g with whitespace := g.whitespace.push s.cur })
    else if isBreak s.cur then
      let (s', brk) := s.readLine
      if g.leading then readGap start tabCheck fuel s' { g with trailingBreaks := g.trailingBreaks ++ brk }
      else readGap start tabCheck fuel s' { g with whitespace := "", leadingBreak := brk, leading := true }
    else .ok (s, g)

/-- The characters of one escape sequence of a double-quoted scalar, after the backslash. -/
def escapeChar? (c : Char) : Option (Option Char × Nat) :=
  match c with
  | '0' => some (some '\x00', 0) | 'a' => some (some '\x07', 0) | 'b' => some (some '\x08', 0)
  | 't' | '\t' => some (some '\t', 0) | 'n' => some (some '\n', 0)
  | 'v' => some (some '\x0b', 0) | 'f' => some (some '\x0c', 0) | 'r' => some (some '\r', 0)
  | 'e' => some (some '\x1b', 0) | ' ' => some (some ' ', 0) | '"' => some (some '"', 0)
  | '/' => some (some '/', 0) | '\\' => some (some '\\', 0) | 'N' => some (some '\x85', 0)
  | '_' => some (some '\xa0', 0) | 'L' => some (some '\u2028', 0)
  | 'P' => some (some '\u2029', 0)
  | 'x' => some (none, 2) | 'u' => some (none, 4) | 'U' => some (none, 8)
  | _ => none

/-- The non-blank run of a quoted scalar, up to a blank, a break, the closing quote or an
escaped line break; `true` in the result when the run ended at an escaped line break. -/
def quotedRun (single : Bool) (start : Mark) : Nat → Scanner → String →
    Except SyntaxError (Scanner × String × Bool)
  | 0, s, acc => .ok (s, acc, false)
  | fuel + 1, s, acc =>
    let c := s.cur
    if isBlankOrEnd c then .ok (s, acc, false)
    else if single && c == '\'' && s.ahead 1 == '\'' then
      quotedRun single start fuel s.skip.skip (acc.push '\'')
    else if c == (if single then '\'' else '"') then .ok (s, acc, false)
    else if !single && c == '\\' && isBreak (s.ahead 1) then .ok (s.skip.skipLine, acc, true)
    else if !single && c == '\\' then
      match escapeChar? (s.ahead 1) with
      | none => s.fail (some "while parsing a quoted scalar") start "found unknown escape character"
      | some (some e, _) => quotedRun single start fuel s.skip.skip (acc.push e)
      | some (none, width) =>
        let s := s.skip.skip
        let digits := (List.range width).map s.ahead
        if !digits.all isHexDigit then
          s.fail (some "while parsing a quoted scalar") start
            "did not find expected hexdecimal number"
        else
          let v := digits.foldl (fun n d => 16 * n + hexValue d) 0
          if (0xD800 ≤ v && v ≤ 0xDFFF) || v > 0x10FFFF then
            s.fail (some "while parsing a quoted scalar") start
              "found invalid Unicode character escape code"
          else
            let s := (List.range width).foldl (fun s _ => s.skip) s
            quotedRun single start fuel s (acc.push (Char.ofNat v))
    else quotedRun single start fuel s.skip (acc.push c)

/-- The body of a quoted scalar, after the opening quote. -/
def quotedBody (single : Bool) (start : Mark) : Nat → Scanner → String →
    Except SyntaxError (Scanner × String)
  | 0, s, acc => .ok (s, acc)
  | fuel + 1, s, acc => do
    if s.atDocumentMarker then
      s.fail (some "while scanning a quoted scalar") start "found unexpected document indicator"
    else if isEnd s.cur then
      s.fail (some "while scanning a quoted scalar") start "found unexpected end of stream"
    else
      let (s, acc, escapedBreak) ← quotedRun single start s.fuel s acc
      if !escapedBreak && s.cur == (if single then '\'' else '"') then return (s, acc)
      let (s, g) ← readGap start none s.fuel s { leading := escapedBreak }
      quotedBody single start fuel s (joinFolded acc g.leading g.whitespace g.leadingBreak g.trailingBreaks)

/-- A quoted scalar, single or double. -/
def quoted (s : Scanner) (single : Bool) : Except SyntaxError Scanner := do
  let start := s.mark
  let (s, value) ← quotedBody single start s.fuel s.skip ""
  let s := s.skip
  return s.enqueue (.scalar value (if single then .singleQuoted else .doubleQuoted)) start s.mark

/-- Whether the current character ends a plain scalar's run. -/
def endsPlainRun (s : Scanner) : Bool :=
  (s.cur == ':' && isBlankOrEnd (s.ahead 1)) ||
    (s.flowLevel != 0 && ",[]\x7b\x7d".contains s.cur)

/-- A run of non-blank characters of a plain scalar, joined to `acc` after the gap before it. -/
def plainRun (start : Mark) : Nat → Scanner → String → Gap → Mark →
    Except SyntaxError (Scanner × String × Gap × Mark)
  | 0, s, acc, g, stop => .ok (s, acc, g, stop)
  | fuel + 1, s, acc, g, stop =>
    if isBlankOrEnd s.cur then .ok (s, acc, g, stop)
    else if s.flowLevel != 0 && s.cur == ':' && ",?[]\x7b\x7d".contains (s.ahead 1) then
      s.fail (some "while scanning a plain scalar") start "found unexpected ':'"
    else if s.endsPlainRun then .ok (s, acc, g, stop)
    else
      let pending := g.leading || !g.whitespace.isEmpty
      let acc := if pending then joinFolded acc g.leading g.whitespace g.leadingBreak g.trailingBreaks
        else acc
      let s' := s.skip
      plainRun start fuel s' (acc.push s.cur) {} s'.mark

/-- The lines of a plain scalar. -/
def plainBody (start : Mark) (indent : Int) : Nat → Scanner → String → Gap → Mark →
    Except SyntaxError (Scanner × String × Gap × Mark)
  | 0, s, acc, g, stop => .ok (s, acc, g, stop)
  | fuel + 1, s, acc, g, stop => do
    if s.atDocumentMarker || s.cur == '#' then return (s, acc, g, stop)
    let (s, acc, g, stop) ← plainRun start s.fuel s acc g stop
    if !(isBlank s.cur || isBreak s.cur) then return (s, acc, g, stop)
    let (s, g) ← readGap start (some indent) s.fuel s g
    if s.flowLevel == 0 && (s.mark.column : Int) < indent then return (s, acc, g, stop)
    plainBody start indent fuel s acc g stop

/-- A plain scalar. A line break inside it allows a simple key again. -/
def plain (s : Scanner) : Except SyntaxError Scanner := do
  let start := s.mark
  let (s, value, g, stop) ← plainBody start (s.indent + 1) s.fuel s "" {} start
  let s := s.enqueue (.scalar value .plain) start stop
  return if g.leading then { s with simpleKeyAllowed := true } else s

/-- Blank lines and indentation before a line of a block scalar, read into `breaks`; fixes the
indentation from the deepest of them (at least `least`) when it is not yet known (`0`). The mark
is where the last line break ended. -/
def blockBreaksLoop (start : Mark) (least indent maxIndent : Nat) : Nat → Scanner → String →
    Mark → Except SyntaxError (Scanner × Nat × String × Mark)
  | 0, s, breaks, stop => .ok (s, indent, breaks, stop)
  | fuel + 1, s, breaks, stop =>
    let spaces := fun (s : Scanner) => indent == 0 || s.mark.column < indent
    let rec eat : Nat → Scanner → Scanner
      | 0, s => s
      | n + 1, s => if spaces s && s.cur == ' ' then eat n s.skip else s
    let s := eat s.fuel s
    let maxIndent := max maxIndent s.mark.column
    if spaces s && s.cur == '\t' then
      s.fail (some "while scanning a block scalar") start
        "found a tab character where an indentation space is expected"
    else if !isBreak s.cur then
      let indent := if indent != 0 then indent else max least maxIndent
      .ok (s, indent, breaks, stop)
    else
      let (s, brk) := s.readLine
      blockBreaksLoop start least indent maxIndent fuel s (breaks ++ brk) s.mark

/-- Blank lines and indentation before a line of a block scalar, from the current position. -/
def blockBreaks (start : Mark) (least indent : Nat) (s : Scanner) :
    Except SyntaxError (Scanner × Nat × String × Mark) :=
  blockBreaksLoop start least indent 0 s.fuel s "" s.mark

/-- The lines of a block scalar at indentation `indent`. -/
def blockLines (literal : Bool) (start : Mark) (indent : Nat) : Nat → Scanner → String → String →
    String → Bool → Mark → Except SyntaxError (Scanner × String × String × String × Mark)
  | 0, s, acc, leadingBreak, trailing, _, stop => .ok (s, acc, leadingBreak, trailing, stop)
  | fuel + 1, s, acc, leadingBreak, trailing, leadingBlank, stop => do
    if !(s.mark.column == indent && !isEnd s.cur) then
      return (s, acc, leadingBreak, trailing, stop)
    let trailingBlank := isBlank s.cur
    let acc :=
      if !literal && leadingBreak == "\n" && !leadingBlank && !trailingBlank then
        (if trailing.isEmpty then acc.push ' ' else acc) ++ trailing
      else acc ++ leadingBreak ++ trailing
    let leadingBlank := isBlank s.cur
    let (s, line) := readWhile (fun c => !isBreakOrEnd c) s.fuel s ""
    let (s, brk) := s.readLine
    let (s, _, trailing, stop) ← blockBreaks start 1 indent s
    blockLines literal start indent fuel s (acc ++ line) brk trailing leadingBlank stop

/-- The indicators of a block scalar: chomping (`+` keeps, `-` strips) and indentation, in
either order. -/
def blockIndicators (s : Scanner) (start : Mark) : Except SyntaxError (Scanner × Int × Nat) :=
  let chompOf := fun (c : Char) => if c == '+' then (1 : Int) else -1
  let zero := "found an indentation indicator equal to 0"
  let ctx := some "while scanning a block scalar"
  if s.cur == '+' || s.cur == '-' then
    let chomp := chompOf s.cur
    let s := s.skip
    if s.cur == '0' then s.fail ctx start zero
    else if s.cur.isDigit then .ok (s.skip, chomp, s.cur.toNat - '0'.toNat)
    else .ok (s, chomp, 0)
  else if s.cur == '0' then s.fail ctx start zero
  else if s.cur.isDigit then
    let incr := s.cur.toNat - '0'.toNat
    let s := s.skip
    if s.cur == '+' || s.cur == '-' then .ok (s.skip, chompOf s.cur, incr)
    else .ok (s, 0, incr)
  else .ok (s, 0, 0)

/-- A block scalar, `|` literal or `>` folded. -/
def block (s : Scanner) (literal : Bool) : Except SyntaxError Scanner := do
  let start := s.mark
  let (s, chomp, incr) ← blockIndicators s.skip start
  let s := s.skipBlanks
  let s := if s.cur == '#' then s.skipToBreak else s
  if !isBreakOrEnd s.cur then
    return ← s.fail (some "while scanning a block scalar") start
      "did not find expected comment or line break"
  let s := if isBreak s.cur then s.skipLine else s
  let indent : Nat :=
    if incr == 0 then 0
    else if s.indent ≥ 0 then (s.indent + incr).toNat else incr
  let least := max 1 (s.indent + 1).toNat
  let (s, indent, trailing, stop) ← blockBreaks start least indent s
  let (s, acc, leadingBreak, trailing, stop) ←
    blockLines literal start indent s.fuel s "" "" trailing false stop
  let acc := if chomp != -1 then acc ++ leadingBreak else acc
  let acc := if chomp == 1 then acc ++ trailing else acc
  return s.enqueue (.scalar acc (if literal then .literal else .folded)) start stop

/-! ## Tokens -/

/-- The start of the stream. -/
def streamStart (s : Scanner) : Scanner :=
  let s := { s with indent := -1, simpleKeys := [{}], simpleKeyAllowed := true, started := true }
  s.enqueue .streamStart s.mark s.mark

/-- The end of the stream: closes every block collection. -/
def streamEnd (s : Scanner) : Except SyntaxError Scanner := do
  let s := if s.mark.column != 0 then
      { s with mark := { s.mark with column := 0, line := s.mark.line + 1 } }
    else s
  let s := s.unrollIndent (-1)
  let s ← s.removeSimpleKey
  let s := { s with simpleKeyAllowed := false }
  return s.enqueue .streamEnd s.mark s.mark

/-- `---` or `...`. -/
def documentIndicator (s : Scanner) (kind : TokenKind) : Except SyntaxError Scanner := do
  let s := s.unrollIndent (-1)
  let s ← s.removeSimpleKey
  let start := s.mark
  let s := { s with simpleKeyAllowed := false }.skip.skip.skip
  return s.enqueue kind start s.mark

/-- `[` or `{`. -/
def flowStart (s : Scanner) (kind : TokenKind) : Except SyntaxError Scanner := do
  let s ← s.saveSimpleKey
  let s := { s.increaseFlowLevel with simpleKeyAllowed := true }
  let start := s.mark
  let s := s.skip
  return s.enqueue kind start s.mark

/-- `]` or `}`. -/
def flowEnd (s : Scanner) (kind : TokenKind) : Except SyntaxError Scanner := do
  let s ← s.removeSimpleKey
  let s := { s.decreaseFlowLevel with simpleKeyAllowed := false }
  let start := s.mark
  let s := s.skip
  return s.enqueue kind start s.mark

/-- `,` in a flow collection. -/
def flowEntry (s : Scanner) : Except SyntaxError Scanner := do
  let s ← s.removeSimpleKey
  let s := { s with simpleKeyAllowed := true }
  let start := s.mark
  let s := s.skip
  return s.enqueue .flowEntry start s.mark

/-- `-` of a block sequence. -/
def blockEntry (s : Scanner) : Except SyntaxError Scanner := do
  let s ← if s.flowLevel == 0 then
      if !s.simpleKeyAllowed then
        s.fail none s.mark "block sequence entries are not allowed in this context"
      else pure (s.rollIndent s.mark.column none .blockSequenceStart s.mark)
    else pure s
  let s ← s.removeSimpleKey
  let s := { s with simpleKeyAllowed := true }
  let start := s.mark
  let s := s.skip
  return s.enqueue .blockEntry start s.mark

/-- `?` of a complex key. -/
def complexKey (s : Scanner) : Except SyntaxError Scanner := do
  let s ← if s.flowLevel == 0 then
      if !s.simpleKeyAllowed then
        s.fail none s.mark "mapping keys are not allowed in this context"
      else pure (s.rollIndent s.mark.column none .blockMappingStart s.mark)
    else pure s
  let s ← s.removeSimpleKey
  let s := { s with simpleKeyAllowed := s.flowLevel == 0 }
  let start := s.mark
  let s := s.skip
  return s.enqueue .key start s.mark

/-- `:` of a value: turns a possible simple key into a key. -/
def value (s : Scanner) : Except SyntaxError Scanner := do
  let s ← match s.simpleKeys with
    | k :: rest =>
      if k.possible then
        let s := s.insertAt (k.tokenNumber - s.taken) ⟨.key, k.mark, k.mark⟩
        let s := s.rollIndent k.mark.column (some k.tokenNumber) .blockMappingStart k.mark
        pure { s with simpleKeys := { k with possible := false } :: rest, simpleKeyAllowed := false }
      else complexValue s
    | [] => complexValue s
  let start := s.mark
  let s := s.skip
  return s.enqueue .value start s.mark
where
  complexValue (s : Scanner) : Except SyntaxError Scanner := do
    let s ← if s.flowLevel == 0 then
        if !s.simpleKeyAllowed then
          s.fail none s.mark "mapping values are not allowed in this context"
        else pure (s.rollIndent s.mark.column none .blockMappingStart s.mark)
      else pure s
    return { s with simpleKeyAllowed := s.flowLevel == 0 }

/-- Whether the current character may start a plain scalar. -/
def startsPlain (s : Scanner) : Bool :=
  let c := s.cur
  !(isBlankOrEnd c || "-?:,[]\x7b\x7d#&*!|>'\"%@`".contains c) ||
    (c == '-' && !isBlank (s.ahead 1)) ||
    (s.flowLevel == 0 && (c == '?' || c == ':') && !isBlankOrEnd (s.ahead 1))

/-- Scans the next token into the queue. -/
def fetchNext (s : Scanner) : Except SyntaxError Scanner := do
  if !s.started then return s.streamStart
  let s := toNextToken s.fuel s
  let s ← s.staleSimpleKeys
  let s := s.unrollIndent s.mark.column
  let c := s.cur
  if isEnd c then s.streamEnd
  else if s.mark.column == 0 && c == '%' then do
    let s := s.unrollIndent (-1)
    let s ← s.removeSimpleKey
    directive { s with simpleKeyAllowed := false }
  else if s.mark.column == 0 && c == '-' && s.ahead 1 == '-' && s.ahead 2 == '-' &&
      isBlankOrEnd (s.ahead 3) then s.documentIndicator .documentStart
  else if s.mark.column == 0 && c == '.' && s.ahead 1 == '.' && s.ahead 2 == '.' &&
      isBlankOrEnd (s.ahead 3) then s.documentIndicator .documentEnd
  else if c == '[' then s.flowStart .flowSequenceStart
  else if c == '{' then s.flowStart .flowMappingStart
  else if c == ']' then s.flowEnd .flowSequenceEnd
  else if c == '}' then s.flowEnd .flowMappingEnd
  else if c == ',' then s.flowEntry
  else if c == '-' && isBlankOrEnd (s.ahead 1) then s.blockEntry
  else if c == '?' && (s.flowLevel != 0 || isBlankOrEnd (s.ahead 1)) then s.complexKey
  else if c == ':' && (s.flowLevel != 0 || isBlankOrEnd (s.ahead 1)) then s.value
  else if c == '*' || c == '&' then do
    let s ← s.saveSimpleKey
    anchorOrAlias { s with simpleKeyAllowed := false } (c == '&')
  else if c == '!' then do
    let s ← s.saveSimpleKey
    tag { s with simpleKeyAllowed := false }
  else if (c == '|' || c == '>') && s.flowLevel == 0 then do
    let s ← s.removeSimpleKey
    block { s with simpleKeyAllowed := true } (c == '|')
  else if c == '\'' || c == '"' then do
    let s ← s.saveSimpleKey
    quoted { s with simpleKeyAllowed := false } (c == '\'')
  else if s.startsPlain then do
    let s ← s.saveSimpleKey
    plain { s with simpleKeyAllowed := false }
  else
    s.fail (some "while scanning for the next token") s.mark
      "found character that cannot start any token"

/-- Whether the head of the queue may still become a simple key, so more tokens are needed. -/
def headMayBeKey (s : Scanner) : Bool :=
  s.simpleKeys.any fun k => k.possible && k.tokenNumber == s.taken

/-- Fills the queue until its head is settled. -/
def fill : Nat → Scanner → Except SyntaxError Scanner
  | 0, s => .ok { s with ready := true }
  | fuel + 1, s => do
    let need ← if s.queue.isEmpty then pure (true, s) else do
      let s ← s.staleSimpleKeys
      pure (s.headMayBeKey, s)
    let (more, s) := need
    if !more then return { s with ready := true }
    let s ← s.fetchNext
    fill fuel s

/-- The characters the reader refuses, with the byte offset of the first one. -/
def unreadable? (text : Array Char) : Option Nat :=
  let rec go : List Char → Nat → Option Nat
    | [], _ => none
    | c :: cs, off => if isAllowed c then go cs (off + c.utf8Size) else some off
  go text.toList 0

/-- The next token, scanning as far as needed. -/
def peek (s : Scanner) : Except SyntaxError (Token × Scanner) := do
  let s ← if s.ready then pure s else fill (4 * s.text.size + 16) s
  match s.queue[0]? with
  | some t => return (t, s)
  | none => return (⟨.streamEnd, s.mark, s.mark⟩, s)

/-- Takes the next token off the queue. -/
def advance (s : Scanner) : Scanner :=
  match s.queue[0]? with
  | some t =>
    { s with queue := s.queue.extract 1 s.queue.size, taken := s.taken + 1, ready := false,
             ended := t.kind == .streamEnd }
  | none => { s with ready := false }

/-- A scanner at the start of a text; a leading byte-order mark is not part of the text. -/
def ofText (text : String) : Scanner :=
  let cs := text.toList
  { text := (if cs.head? == some '\uFEFF' then cs.drop 1 else cs).toArray }

end Scanner

end CqlBridge.Yaml
