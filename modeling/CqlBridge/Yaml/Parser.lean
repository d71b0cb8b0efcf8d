import CqlBridge.Yaml.Scanner

/-!
# `CqlBridge.Yaml.Parser` — from tokens to events

The parser reads the tokens of `Yaml.Scanner` into a stream of events: the stream and its
documents open and close, and each node is an alias, a scalar, or the start and end of a
sequence or mapping. It is a state machine with a stack of states to return to, one step per
event, so an error stops the stream exactly where the text goes wrong and the events before it
are kept.

* A document is explicit (`---`, after optional `%YAML`/`%TAG` directives) or implicit (its
  content starts right away); `...` ends one.
* Block sequences are `-` entries at one indentation; a sequence in a mapping's value may sit at
  the mapping's own indentation (an *indentless* sequence).
* Block mappings are `KEY`/`VALUE` pairs; a missing key or value is an empty plain scalar.
* Flow collections are bracketed and comma-separated; `a: b` inside a flow sequence is a
  mapping with one entry.
* A tag `!h!suffix` resolves its handle through the document's `%TAG` directives and the
  defaults `!` and `!!` (`tag:yaml.org,2002:`).

The errors name what was being parsed and where it began: "did not find expected key" while
parsing a block mapping, "did not find expected ',' or ']'" while parsing a flow sequence,
"did not find expected node content" while parsing a block or flow node, and so on.
-/

namespace CqlBridge.Yaml

/-- What an event is. -/
inductive EventKind where
  | streamStart
  | streamEnd
  | documentStart
  | documentEnd
  | aliasNode (name : String)
  | scalar (anchor : Option String) (tag : Option String) (value : String) (style : ScalarStyle)
  | sequenceStart (anchor : Option String) (tag : Option String)
  | sequenceEnd
  | mappingStart (anchor : Option String) (tag : Option String)
  | mappingEnd
  deriving Inhabited, Repr

/-- An event and where it starts. -/
structure Event where
  kind : EventKind
  start : Mark
  deriving Inhabited, Repr

/-- Where the parser is in the grammar. -/
inductive ParseState where
  | streamStart
  | implicitDocumentStart
  | documentStart
  | documentContent
  | documentEnd
  | blockNode
  | blockSequenceFirstEntry
  | blockSequenceEntry
  | indentlessSequenceEntry
  | blockMappingFirstKey
  | blockMappingKey
  | blockMappingValue
  | flowSequenceFirstEntry
  | flowSequenceEntry
  | flowSequenceEntryMappingKey
  | flowSequenceEntryMappingValue
  | flowSequenceEntryMappingEnd
  | flowMappingFirstKey
  | flowMappingKey
  | flowMappingValue
  | flowMappingEmptyValue
  | finished
  deriving Inhabited, BEq, Repr

/-- The state of the parser. -/
structure Parser where
  scanner : Scanner
  state : ParseState := .streamStart
  states : List ParseState := []
  marks : List Mark := []
  tagDirectives : List (String × String) := []
  deriving Inhabited

/-- The handles every document knows. -/
def defaultTagDirectives : List (String × String) :=
  [("!", "!"), ("!!", "tag:yaml.org,2002:")]

namespace Parser

/-- The result of one step: the event, if any, and the parser after it. -/
abbrev Step := Except SyntaxError (Option Event × Parser)

/-- The next token. -/
def peek (p : Parser) : Except SyntaxError (Token × Parser) := do
  let (t, s) ← p.scanner.peek
  return (t, { p with scanner := s })

/-- Takes the next token. -/
def skip (p : Parser) : Parser := { p with scanner := p.scanner.advance }

/-- Emits an event. -/
def emit (p : Parser) (kind : EventKind) (start : Mark) : Step := .ok (some ⟨kind, start⟩, p)

/-- The state on top of the stack, which becomes current. -/
def pop (p : Parser) : Parser :=
  match p.states with
  | s :: rest => { p with state := s, states := rest }
  | [] => { p with state := .finished }

/-- Pushes a state to return to. -/
def push (p : Parser) (s : ParseState) : Parser := { p with states := s :: p.states }

/-- The mark on top of the mark stack, removed. -/
def popMark (p : Parser) : Mark × Parser :=
  match p.marks with
  | m :: rest => (m, { p with marks := rest })
  | [] => ({}, p)

/-- An error with a context. -/
def failIn {α : Type} (context : String) (ctxMark : Mark) (problem : String) (mark : Mark) :
    Except SyntaxError α :=
  .error { problem, mark, context := some (context, ctxMark) }

/-- An empty plain scalar at `mark`. -/
def emptyScalar (p : Parser) (mark : Mark) : Step :=
  p.emit (.scalar none none "" .plain) mark

/-- Reads `%YAML` and `%TAG` directives before a document. -/
def directives : Nat → Parser → Bool → List (String × String) →
    Except SyntaxError (Parser × List (String × String))
  | 0, p, _, tags => .ok (p, tags)
  | fuel + 1, p, seenVersion, tags => do
    let (t, p) ← p.peek
    match t.kind with
    | .versionDirective major minor =>
      if seenVersion then .error { problem := "found duplicate %YAML directive", mark := t.start }
      else if major != 1 || (minor != 1 && minor != 2) then
        .error { problem := "found incompatible YAML document", mark := t.start }
      else directives fuel p.skip true tags
    | .tagDirective handle pfx =>
      if tags.any (·.1 == handle) then
        .error { problem := "found duplicate %TAG directive", mark := t.start }
      else directives fuel p.skip seenVersion (tags ++ [(handle, pfx)])
    | _ => .ok (p, tags)

/-- Reads the directives of a document and installs its tag handles. -/
def processDirectives (p : Parser) : Except SyntaxError Parser := do
  let (p, tags) ← directives (p.scanner.text.size + 2) p false []
  let extra := defaultTagDirectives.filter fun (h, _) => !tags.any (·.1 == h)
  return { p with tagDirectives := tags ++ extra }

/-- The start of a document, or the end of the stream. -/
def documentStart (p : Parser) (implicit : Bool) : Step := do
  let (t, p) ← p.peek
  -- extra document end markers
  let rec skipEnds : Nat → Parser → Token → Except SyntaxError (Token × Parser)
    | 0, p, t => .ok (t, p)
    | n + 1, p, t =>
      if t.kind == .documentEnd then do
        let (t, p) ← p.skip.peek
        skipEnds n p t
      else .ok (t, p)
  let (t, p) ← if implicit then pure (t, p) else skipEnds (p.scanner.text.size + 2) p t
  let isDirective := match t.kind with
    | .versionDirective .. | .tagDirective .. => true
    | _ => false
  if implicit && !isDirective && t.kind != .documentStart && t.kind != .streamEnd then
    let p ← p.processDirectives
    let p := { p.push .documentEnd with state := .blockNode }
    p.emit .documentStart t.start
  else if t.kind != .streamEnd then
    let start := t.start
    let p ← p.processDirectives
    let (t, p) ← p.peek
    if t.kind != .documentStart then
      .error { problem := "did not find expected <document start>", mark := t.start }
    else
      let p := { p.push .documentEnd with state := .documentContent }
      (p.skip).emit .documentStart start
  else
    ({ p.skip with state := .finished }).emit .streamEnd t.start

/-- The content of an explicit document, which may be empty. -/
def documentContent (p : Parser) (node : Parser → Step) : Step := do
  let (t, p) ← p.peek
  match t.kind with
  | .versionDirective .. | .tagDirective .. | .documentStart | .documentEnd | .streamEnd =>
    p.pop.emptyScalar t.start
  | _ => node p

/-- The end of a document, explicit (`...`) or implicit. -/
def documentEnd (p : Parser) : Step := do
  let (t, p) ← p.peek
  let p := if t.kind == .documentEnd then p.skip else p
  ({ p with state := .documentStart, tagDirectives := [] }).emit .documentEnd t.start

/-- Resolves a tag's handle. -/
def resolveTag (p : Parser) (handle suffix : String) (start tagMark : Mark) :
    Except SyntaxError String :=
  if handle.isEmpty then .ok suffix
  else match p.tagDirectives.find? (·.1 == handle) with
    | some (_, pfx) => .ok (pfx ++ suffix)
    | none => failIn "while parsing a node" start "found undefined tag handle" tagMark

/-- A node: an alias, or properties (anchor, tag) and a scalar or a collection. -/
def node (p : Parser) (block indentless : Bool) : Step := do
  let (t, p) ← p.peek
  if let .aliasNode name := t.kind then
    return ← (p.skip.pop).emit (.aliasNode name) t.start
  let start := t.start
  -- properties, in either order
  let (anchor, tagParts, p, t) ← match t.kind with
    | .anchor a => do
      let (t2, p) ← p.skip.peek
      match t2.kind with
      | .tag h s => do
        let (t3, p) ← p.skip.peek
        pure (some a, some (h, s, t2.start), p, t3)
      | _ => pure (some a, none, p, t2)
    | .tag h s => do
      let (t2, p) ← p.skip.peek
      match t2.kind with
      | .anchor a => do
        let (t3, p) ← p.skip.peek
        pure (some a, some (h, s, t.start), p, t3)
      | _ => pure (none, some (h, s, t.start), p, t2)
    | _ => pure (none, none, p, t)
  let tag ← match tagParts with
    | some (h, s, m) => some <$> p.resolveTag h s start m
    | none => pure none
  if indentless && t.kind == .blockEntry then
    return ← ({ p with state := .indentlessSequenceEntry }).emit (.sequenceStart anchor tag) start
  match t.kind with
  | .scalar v style => (p.skip.pop).emit (.scalar anchor tag v style) start
  | .flowSequenceStart =>
    ({ p with state := .flowSequenceFirstEntry }).emit (.sequenceStart anchor tag) start
  | .flowMappingStart =>
    ({ p with state := .flowMappingFirstKey }).emit (.mappingStart anchor tag) start
  | .blockSequenceStart =>
    if block then
      ({ p with state := .blockSequenceFirstEntry }).emit (.sequenceStart anchor tag) start
    else missing p t start anchor tag
  | .blockMappingStart =>
    if block then
      ({ p with state := .blockMappingFirstKey }).emit (.mappingStart anchor tag) start
    else missing p t start anchor tag
  | _ => missing p t start anchor tag
where
  /-- No content: an empty scalar when there were properties, else an error. -/
  missing (p : Parser) (t : Token) (start : Mark) (anchor tag : Option String) : Step :=
    if anchor.isSome || tag.isSome then p.pop.emit (.scalar anchor tag "" .plain) start
    else failIn (if block then "while parsing a block node" else "while parsing a flow node")
      start "did not find expected node content" t.start

/-- Takes the opening token of a collection and remembers where it was. -/
def openCollection (p : Parser) : Except SyntaxError Parser := do
  let (t, p) ← p.peek
  return { p.skip with marks := t.start :: p.marks }

/-- An entry of a block sequence, or its end. -/
def blockSequenceEntry (p : Parser) (first : Bool) : Step := do
  let p ← if first then p.openCollection else pure p
  let (t, p) ← p.peek
  match t.kind with
  | .blockEntry =>
    let (t2, p) ← p.skip.peek
    if t2.kind != .blockEntry && t2.kind != .blockEnd then
      node (p.push .blockSequenceEntry) true false
    else ({ p with state := .blockSequenceEntry }).emptyScalar t.stop
  | .blockEnd =>
    let (_, p) := p.popMark
    (p.skip.pop).emit .sequenceEnd t.start
  | _ =>
    let (m, _) := p.popMark
    failIn "while parsing a block collection" m "did not find expected '-' indicator" t.start

/-- An entry of a sequence written at its mapping's indentation, or its end. -/
def indentlessSequenceEntry (p : Parser) : Step := do
  let (t, p) ← p.peek
  if t.kind == .blockEntry then
    let (t2, p) ← p.skip.peek
    if t2.kind != .blockEntry && t2.kind != .key && t2.kind != .value && t2.kind != .blockEnd then
      node (p.push .indentlessSequenceEntry) true false
    else ({ p with state := .indentlessSequenceEntry }).emptyScalar t.stop
  else p.pop.emit .sequenceEnd t.start

/-- A key of a block mapping, or its end. -/
def blockMappingKey (p : Parser) (first : Bool) : Step := do
  let p ← if first then p.openCollection else pure p
  let (t, p) ← p.peek
  match t.kind with
  | .key =>
    let (t2, p) ← p.skip.peek
    if t2.kind != .key && t2.kind != .value && t2.kind != .blockEnd then
      node (p.push .blockMappingValue) true true
    else ({ p with state := .blockMappingValue }).emptyScalar t.stop
  | .blockEnd =>
    let (_, p) := p.popMark
    (p.skip.pop).emit .mappingEnd t.start
  | _ =>
    let (m, _) := p.popMark
    failIn "while parsing a block mapping" m "did not find expected key" t.start

/-- A value of a block mapping, which may be empty. -/
def blockMappingValue (p : Parser) : Step := do
  let (t, p) ← p.peek
  if t.kind == .value then
    let (t2, p) ← p.skip.peek
    if t2.kind != .key && t2.kind != .value && t2.kind != .blockEnd then
      node (p.push .blockMappingKey) true true
    else ({ p with state := .blockMappingKey }).emptyScalar t.stop
  else ({ p with state := .blockMappingKey }).emptyScalar t.start

/-- An entry of a flow sequence, or its end. -/
def flowSequenceEntry (p : Parser) (first : Bool) : Step := do
  let p ← if first then p.openCollection else pure p
  let (t, p) ← p.peek
  let (t, p) ← if t.kind != .flowSequenceEnd && !first then
      if t.kind == .flowEntry then p.skip.peek
      else
        let (m, _) := p.popMark
        failIn "while parsing a flow sequence" m "did not find expected ',' or ']'" t.start
    else pure (t, p)
  if t.kind == .key then
    ({ p.skip with state := .flowSequenceEntryMappingKey }).emit (.mappingStart none none) t.start
  else if t.kind != .flowSequenceEnd then
    node (p.push .flowSequenceEntry) false false
  else
    let (_, p) := p.popMark
    (p.skip.pop).emit .sequenceEnd t.start

/-- The key of a one-entry mapping inside a flow sequence. -/
def flowSequenceEntryMappingKey (p : Parser) : Step := do
  let (t, p) ← p.peek
  if t.kind != .value && t.kind != .flowEntry && t.kind != .flowSequenceEnd then
    node (p.push .flowSequenceEntryMappingValue) false false
  else ({ p with state := .flowSequenceEntryMappingValue }).emptyScalar t.stop

/-- The value of a one-entry mapping inside a flow sequence. -/
def flowSequenceEntryMappingValue (p : Parser) : Step := do
  let (t, p) ← p.peek
  if t.kind == .value then
    let (t2, p) ← p.skip.peek
    if t2.kind != .flowEntry && t2.kind != .flowSequenceEnd then
      node (p.push .flowSequenceEntryMappingEnd) false false
    else ({ p with state := .flowSequenceEntryMappingEnd }).emptyScalar t2.start
  else ({ p with state := .flowSequenceEntryMappingEnd }).emptyScalar t.start

/-- The end of a one-entry mapping inside a flow sequence. -/
def flowSequenceEntryMappingEnd (p : Parser) : Step := do
  let (t, p) ← p.peek
  ({ p with state := .flowSequenceEntry }).emit .mappingEnd t.start

/-- A key of a flow mapping, or its end. -/
def flowMappingKey (p : Parser) (first : Bool) : Step := do
  let p ← if first then p.openCollection else pure p
  let (t, p) ← p.peek
  let (t, p) ← if t.kind != .flowMappingEnd && !first then
      if t.kind == .flowEntry then p.skip.peek
      else
        let (m, _) := p.popMark
        failIn "while parsing a flow mapping" m "did not find expected ',' or '\x7d'" t.start
    else pure (t, p)
  if t.kind == .key then
    let (t2, p) ← p.skip.peek
    if t2.kind != .value && t2.kind != .flowEntry && t2.kind != .flowMappingEnd then
      node (p.push .flowMappingValue) false false
    else ({ p with state := .flowMappingValue }).emptyScalar t2.start
  else if t.kind != .flowMappingEnd then
    node (p.push .flowMappingEmptyValue) false false
  else
    let (_, p) := p.popMark
    (p.skip.pop).emit .mappingEnd t.start

/-- A value of a flow mapping; `empty` for a key written without `:`. -/
def flowMappingValue (p : Parser) (empty : Bool) : Step := do
  let (t, p) ← p.peek
  if empty then return ← ({ p with state := .flowMappingKey }).emptyScalar t.start
  if t.kind == .value then
    let (t2, p) ← p.skip.peek
    if t2.kind != .flowEntry && t2.kind != .flowMappingEnd then
      node (p.push .flowMappingKey) false false
    else ({ p with state := .flowMappingKey }).emptyScalar t2.start
  else ({ p with state := .flowMappingKey }).emptyScalar t.start

/-- One step: the next event, or none once the stream has ended. -/
def next (p : Parser) : Step :=
  match p.state with
  | .streamStart => do
    let (t, p) ← p.peek
    if t.kind != .streamStart then
      .error { problem := "did not find expected <stream-start>", mark := t.start }
    else ({ p.skip with state := .implicitDocumentStart }).emit .streamStart t.start
  | .implicitDocumentStart => p.documentStart true
  | .documentStart => p.documentStart false
  | .documentContent => p.documentContent fun p => node p true false
  | .documentEnd => p.documentEnd
  | .blockNode => node p true false
  | .blockSequenceFirstEntry => p.blockSequenceEntry true
  | .blockSequenceEntry => p.blockSequenceEntry false
  | .indentlessSequenceEntry => p.indentlessSequenceEntry
  | .blockMappingFirstKey => p.blockMappingKey true
  | .blockMappingKey => p.blockMappingKey false
  | .blockMappingValue => p.blockMappingValue
  | .flowSequenceFirstEntry => p.flowSequenceEntry true
  | .flowSequenceEntry => p.flowSequenceEntry false
  | .flowSequenceEntryMappingKey => p.flowSequenceEntryMappingKey
  | .flowSequenceEntryMappingValue => p.flowSequenceEntryMappingValue
  | .flowSequenceEntryMappingEnd => p.flowSequenceEntryMappingEnd
  | .flowMappingFirstKey => p.flowMappingKey true
  | .flowMappingKey => p.flowMappingKey false
  | .flowMappingValue => p.flowMappingValue false
  | .flowMappingEmptyValue => p.flowMappingValue true
  | .finished => .ok (none, p)

/-- A parser at the start of a text. A character the format does not allow stops it before
the first event, as an error at its byte offset. -/
def ofText (text : String) : Parser := { scanner := Scanner.ofText text }

end Parser

/-- All events of a text, up to the end of the stream or the first error. -/
def events (text : String) : List Event × Option SyntaxError :=
  let p := Parser.ofText text
  match Scanner.unreadable? p.scanner.text with
  | some off =>
    let bom := if text.startsWith "\uFEFF" then 3 else 0
    ([], some { problem := "control characters are not allowed", mark := {}, offset := off + bom })
  | none =>
    let rec go : Nat → Parser → List Event → List Event × Option SyntaxError
      | 0, _, acc => (acc.reverse, none)
      | fuel + 1, p, acc =>
        match p.next with
        | .error e => (acc.reverse, some e)
        | .ok (none, _) => (acc.reverse, none)
        | .ok (some ev, p) => go fuel p (ev :: acc)
    go (8 * text.length + 64) p []

end CqlBridge.Yaml
