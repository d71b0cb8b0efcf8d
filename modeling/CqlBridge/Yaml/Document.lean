import CqlBridge.Yaml.Parser
import CqlBridge.Number.FloatText
import CqlBridge.Number.Read

/-!
# `CqlBridge.Yaml.Document` — reading typed values out of a YAML text

The events of `Yaml.Parser` are gathered into documents, and a document is read as a typed value
by readers that walk its items from a position and answer the value with the position after it.

**Loading.** A document is the run of events up to its end; stream and document markers are
dropped. An anchor names the item it stands on by a number: a new name takes the count of names
known so far, a name used again is renumbered by that same count, and an alias is replaced by
the number its name has at that moment. A stream with no content at all loads as one empty
item. A syntax error, or an alias to a name not yet anchored, cuts the document short and is
kept with it.

**Reading.** A reader that runs past the last item answers the document's error, or
"EOF while parsing a value" when there is none. After the value is read, the document's error is
answered if it has one, and a second document in the text is refused.

* A text reader takes any scalar, whatever its tag or style.
* An optional text is absent for a plain `~`, `null`, `Null`, `NULL` or empty scalar.
* A record is read from a mapping, or from an empty plain scalar, which gives the defaults.
  Unknown keys are skipped, and a key given twice is refused before its value is read.

**Errors.** A mismatch names what was found, as the value's own reading would see it — `unit
value`, ``boolean `true` ``, ``integer `5` ``, ``floating point `1.5` ``, `string "abc"`,
`sequence`, `map` — and what was expected. It is placed at the item where the read began, with
the path of keys from the top (`cassandra.connection`; `?` for a key that is not a plain
text), shown as `path: ` before the message and ` at line L column C` after it.

The modules under `CqlBridge.Yaml` are the configuration library's reader, modelled as the
command line uses it to read its settings file.
-/

namespace CqlBridge.Yaml

/-- One item of a loaded document. -/
inductive Item where
  | scalar (value : String) (style : ScalarStyle) (tag : Option String)
  /-- An alias, by the number of the anchor it names. -/
  | aliasOf (anchor : Nat)
  | sequenceStart
  | sequenceEnd
  | mappingStart
  | mappingEnd
  /-- The one item of a stream without content. -/
  | void
  deriving Inhabited, Repr

/-- Why loading stopped early. -/
inductive LoadError where
  | malformed (e : SyntaxError)
  | unknownAnchor (mark : Mark)
  deriving Inhabited, Repr

/-- A loaded document: its items with their marks, the item each anchor number stands on, and
the error that cut it short. -/
structure Document where
  items : Array (Item × Mark) := #[]
  anchors : List (Nat × Nat) := []
  error : Option LoadError := none
  deriving Inhabited

namespace Document

/-- Records an anchor on the next item: its number is the count of names known so far. -/
def anchor (d : Document) (names : List (String × Nat)) :
    Option String → Document × List (String × Nat)
  | none => (d, names)
  | some name =>
    let id := names.length
    let names := (name, id) :: names.filter (·.1 != name)
    ({ d with anchors := (id, d.items.size) :: d.anchors.filter (·.1 != id) }, names)

/-- Appends an item. -/
def push (d : Document) (item : Item) (mark : Mark) : Document :=
  { d with items := d.items.push (item, mark) }

/-- Loads the next document from the events left, given the error that ends them: the document
(`none` once the stream has ended, or for an empty stream after the first document) and the
events after it. -/
def load (err : Option SyntaxError) (first : Bool) :
    List Event → Document → List (String × Nat) → Option Document × List Event
  | [], d, _ =>
    match err with
    | some e => (some { d with error := some (.malformed e) }, [])
    | none => (if first then some d else none, [])
  | ev :: rest, d, names =>
    match ev.kind with
    | .streamStart | .documentStart => load err first rest d names
    | .streamEnd =>
      if first then (some (if d.items.isEmpty then d.push .void ev.start else d), rest)
      else (none, rest)
    | .documentEnd => (some d, rest)
    | .aliasNode name =>
      match names.find? (·.1 == name) with
      | some (_, id) => load err first rest (d.push (.aliasOf id) ev.start) names
      | none => (some { d with error := some (.unknownAnchor ev.start) }, rest)
    | .scalar a tag value style =>
      let (d, names) := d.anchor names a
      load err first rest (d.push (.scalar value style tag) ev.start) names
    | .sequenceStart a _ =>
      let (d, names) := d.anchor names a
      load err first rest (d.push .sequenceStart ev.start) names
    | .mappingStart a _ =>
      let (d, names) := d.anchor names a
      load err first rest (d.push .mappingStart ev.start) names
    | .sequenceEnd => load err first rest (d.push .sequenceEnd ev.start) names
    | .mappingEnd => load err first rest (d.push .mappingEnd ev.start) names

end Document

/-- Where a value stands in the document: the keys from the top. -/
inductive Path where
  | root
  | key (parent : Path) (name : String)
  /-- The value an alias names, shown as the alias's own place. -/
  | viaAlias (parent : Path)
  /-- The value of a key that is not a plain text. -/
  | unknown (parent : Path)
  deriving Inhabited, Repr

namespace Path

/-- The path as text: `.` for the top, keys joined by `.`, `?` for an unknown key. -/
def render : Path → String
  | .root => "."
  | .key p name => pfx p ++ name
  | .viaAlias p => render p
  | .unknown p => pfx p ++ "?"
where
  /-- The text before a child's name: nothing at the top, else the path and a `.`. -/
  pfx : Path → String
    | .root => ""
    | p => render p ++ "."

end Path

/-- Why a document could not be read as a value. -/
inductive DecodeError where
  | load (e : LoadError)
  /-- A mismatch or a refused value, placed once the item and path are known. -/
  | message (text : String) (pos : Option (Mark × Path))
  | endOfStream
  | moreThanOneDocument
  deriving Inhabited, Repr

namespace DecodeError

/-- ` at line L column C`, unless the mark is the start. -/
def place (m : Mark) : String := if m.atStart then "" else " at " ++ m.text

/-- The text of the error. -/
def render : DecodeError → String
  | .load (.malformed e) => e.message
  | .load (.unknownAnchor m) => "unknown anchor" ++ place m
  | .message text none => text
  | .message text (some (m, p)) =>
    let shown := p.render
    (if shown == "." then "" else shown ++ ": ") ++ text ++ place m
  | .endOfStream => "EOF while parsing a value"
  | .moreThanOneDocument =>
    "deserializing from YAML containing more than one document is not supported"

/-- Places a message that has no place yet at `m` and `p`. -/
def fix (m : Mark) (p : Path) : DecodeError → DecodeError
  | .message text none => .message text (some (m, p))
  | e => e

/-- A value of the wrong kind: what was found and what was expected. -/
def invalidType (found expected : String) : DecodeError :=
  .message ("invalid type: " ++ found ++ ", expected " ++ expected) none

/-- A value of the right kind that is refused: the text found and what was expected. -/
def invalidValue (v expected : String) : DecodeError :=
  .message ("invalid value: string " ++ Text.quoted v ++ ", expected " ++ expected) none

end DecodeError

/-! ### What a scalar means -/

namespace Scalar

/-- The resolved tags that fix a scalar's meaning. -/
def nullTag : String := "tag:yaml.org,2002:null"
def boolTag : String := "tag:yaml.org,2002:bool"
def intTag : String := "tag:yaml.org,2002:int"
def floatTag : String := "tag:yaml.org,2002:float"

/-- The spellings of null. -/
def isNull (v : String) : Bool := v == "~" || v == "null" || v == "Null" || v == "NULL"

/-- The spellings of the two booleans. -/
def bool? (v : String) : Option Bool :=
  if v == "true" || v == "True" || v == "TRUE" then some true
  else if v == "false" || v == "False" || v == "FALSE" then some false
  else none

/-- Whether a text is a zero followed by more digits (after one optional sign): such a text is
a string, not a number. -/
def zeroLed (v : String) : Bool :=
  let cs := match v.toList with
    | '-' :: r | '+' :: r => r
    | r => r
  match cs with
  | '0' :: r => !r.isEmpty && r.all Char.isDigit
  | _ => false

/-- The value of a digit in `radix`, if it is one. -/
def digitValue? (radix : Nat) (c : Char) : Option Nat :=
  let v := if c.isDigit then c.toNat - '0'.toNat
    else if 'a' ≤ c && c ≤ 'z' then c.toNat - 'a'.toNat + 10
    else if 'A' ≤ c && c ≤ 'Z' then c.toNat - 'A'.toNat + 10
    else radix
  if v < radix then some v else none

/-- Digits in `radix`, at least one, as a number. -/
def digits? (radix : Nat) (cs : List Char) : Option Nat :=
  if cs.isEmpty then none else
  cs.foldlM (fun acc c => (digitValue? radix c).map (acc * radix + ·)) 0

/-- A whole number in `radix`: one optional `+` (or `-` when `signed`), then digits; it must lie
in `[lo, hi)`. -/
def wholeIn (radix : Nat) (signed : Bool) (lo hi : Int) (cs : List Char) : Option Int :=
  let value : Option Int := match cs with
    | ['+'] | ['-'] => none
    | '+' :: r => (digits? radix r).map Int.ofNat
    | '-' :: r => if signed then (digits? radix r).map fun n => -(n : Int) else none
    | r => (digits? radix r).map Int.ofNat
  value.bind fun i => if lo ≤ i && i < hi then some i else none

/-- A whole number without sign below `bound`: decimal, or after `0x`, `0o`, `0b` (one `+` may
lead; none may follow the prefix). -/
def unsigned? (bound : Nat) (v : String) : Option Int :=
  let cs := v.toList
  let unpositive := match cs with
    | '+' :: r => r
    | r => r
  let read (radix : Nat) (r : List Char) : Option (Option Int) :=
    match r with
    | '+' :: _ | '-' :: _ => some none
    | _ => (wholeIn radix false 0 bound r).map some
  let prefixed : Option (Option Int) := match unpositive with
    | '0' :: 'x' :: r => read 16 r
    | '0' :: 'o' :: r => read 8 r
    | '0' :: 'b' :: r => read 2 r
    | _ => none
  match prefixed with
  | some answer => answer
  | none =>
    match unpositive with
    | '+' :: _ | '-' :: _ => none
    | _ => if zeroLed v then none else wholeIn 10 false 0 bound unpositive

/-- A whole number with sign in `[-bound, bound)`: `-0x`, `-0o`, `-0b` followed by digits, or
decimal. -/
def signed? (bound : Nat) (v : String) : Option Int :=
  let lo := -(bound : Int)
  let prefixed : Option Int := match v.toList with
    | '-' :: '0' :: 'x' :: r => wholeIn 16 true lo bound ('-' :: r)
    | '-' :: '0' :: 'o' :: r => wholeIn 8 true lo bound ('-' :: r)
    | '-' :: '0' :: 'b' :: r => wholeIn 2 true lo bound ('-' :: r)
    | _ => none
  match prefixed with
  | some i => some i
  | none => if zeroLed v then none else wholeIn 10 true lo bound v.toList

/-- How an integer scalar is named in a mismatch: as a 64-bit value where it fits, else with the
128-bit type it needs. -/
def intFound? (v : String) : Option String :=
  let shown (i : Int) (suffix : String) := "integer `" ++ Number.intText i ++ "`" ++ suffix
  match unsigned? (Nat.pow 2 64) v with
  | some i => some (shown i "")
  | none =>
  match signed? (Nat.pow 2 63) v with
  | some i => some (shown i "")
  | none =>
  match unsigned? (Nat.pow 2 128) v with
  | some i => some (shown i " as u128")
  | none => (signed? (Nat.pow 2 127) v).map (shown · " as i128")

/-- Whether a bit pattern is a finite binary64 value. -/
def finite (bits : Nat) : Bool :=
  match Number.BinaryFormat.binary64.decode bits with
  | .finite .. => true
  | _ => false

/-- A floating-point scalar as a binary64 bit pattern: `.inf`, `-.inf`, `.nan` in three
spellings each, or a finite decimal number with one optional sign. -/
def float? (v : String) : Option Nat :=
  let f := Number.BinaryFormat.binary64
  let unpositive? : Option String := match v.toList with
    | '+' :: '+' :: _ | '+' :: '-' :: _ => none
    | '+' :: r => some (String.ofList r)
    | _ => some v
  unpositive?.bind fun u =>
    if u == ".inf" || u == ".Inf" || u == ".INF" then some f.infBits
    else if v == "-.inf" || v == "-.Inf" || v == "-.INF" then some (f.signBit + f.infBits)
    else if v == ".nan" || v == ".NaN" || v == ".NAN" then some (f.infBits + f.hidden / 2)
    else (Number.readFloat? f u).bind fun bits => if finite bits then some bits else none

/-- How a floating-point value is named in a mismatch: its shortest text, with `.0` added to a
finite value written without a point. -/
def floatFound (bits : Nat) : String :=
  let s := Number.FloatStyle.plain.render .binary64 bits
  "floating point `" ++ s ++ (if finite bits && !s.contains '.' then ".0" else "") ++ "`"

/-- What an untagged plain scalar is: null, a boolean, an integer, a float, else a string. -/
def untagged (v : String) : String :=
  if v.isEmpty || isNull v then "unit value" else
  match bool? v with
  | some b => "boolean `" ++ (if b then "true" else "false") ++ "`"
  | none =>
  match intFound? v with
  | some s => s
  | none =>
  match (if zeroLed v then none else float? v) with
  | some bits => floatFound bits
  | none => "string " ++ Text.quoted v

/-- The error for a scalar where `expected` was wanted: its tag decides how it is read, and a
text that its tag refuses is an invalid value. -/
def mismatch (v : String) (style : ScalarStyle) (tag : Option String) (expected : String) :
    DecodeError :=
  let asString := DecodeError.invalidType ("string " ++ Text.quoted v) expected
  match tag with
  | some t =>
    if t == boolTag then
      match bool? v with
      | some b => .invalidType ("boolean `" ++ (if b then "true" else "false") ++ "`") expected
      | none => .invalidValue v "a boolean"
    else if t == intTag then
      match intFound? v with
      | some s => .invalidType s expected
      | none => .invalidValue v "an integer"
    else if t == floatTag then
      match float? v with
      | some bits => .invalidType (floatFound bits) expected
      | none => .invalidValue v "a float"
    else if t == nullTag then
      if isNull v then .invalidType "unit value" expected else .invalidValue v "null"
    else if t.startsWith "!" && style == .plain then .invalidType (untagged v) expected
    else asString
  | none => if style == .plain then .invalidType (untagged v) expected else asString

end Scalar

/-! ### Readers -/

/-- A reader: from a position and the path there, a value and the position after it. -/
abbrev Reader (α : Type) := Nat → Path → Except DecodeError (α × Nat)

namespace Document

/-- The item at `pos`, or the document's error past the end. -/
def get (d : Document) (pos : Nat) : Except DecodeError (Item × Mark) :=
  match d.items[pos]? with
  | some it => .ok it
  | none => .error (match d.error with
    | some e => .load e
    | none => .endOfStream)

/-- The position of the item that anchor `id` stands on. -/
def target (d : Document) (id : Nat) : Nat :=
  match d.anchors.find? (·.1 == id) with
  | some (_, i) => i
  | none => d.items.size

/-- The error for an item where `expected` was wanted. -/
def mismatch (item : Item) (expected : String) : DecodeError :=
  match item with
  | .scalar v style tag => Scalar.mismatch v style tag expected
  | .sequenceStart => .invalidType "sequence" expected
  | .mappingStart => .invalidType "map" expected
  | _ => .endOfStream

/-- The text of a scalar item, else the error for `expected`, placed at the item. -/
def textAt (d : Document) (expected : String) (pos : Nat) (path : Path) :
    Except DecodeError String := do
  let (item, mark) ← d.get pos
  match item with
  | .scalar v _ _ => return v
  | it => throw ((mismatch it expected).fix mark path)

/-- Reads any scalar as its text; an alias is read where its anchor stands. -/
def readText (d : Document) (expected : String) : Reader String := fun pos path => do
  let (item, mark) ← d.get pos
  match item with
  | .aliasOf id => return (← d.textAt expected (d.target id) (.viaAlias path), pos + 1)
  | .scalar v _ _ => return (v, pos + 1)
  | it => throw ((mismatch it expected).fix mark path)

/-- Whether a scalar stands for a value rather than for nothing: a plain scalar tagged null must
be spelled as null. -/
def present (v : String) (style : ScalarStyle) (tag : Option String) : Except DecodeError Bool :=
  if style != .plain then .ok true else
  match tag with
  | some t =>
    if t == Scalar.nullTag then
      if Scalar.isNull v then .ok false else .error (.invalidValue v "null")
    else .ok true
  | none => .ok (!v.isEmpty && !Scalar.isNull v)

/-- Reads an optional text at a position that holds no alias. -/
def optionalTextAt (d : Document) (pos : Nat) (path : Path) :
    Except DecodeError (Option String × Nat) := do
  let (item, _) ← d.get pos
  let some? ← match item with
    | .scalar v style tag => present v style tag
    | .void => pure false
    | _ => pure true
  if some? then
    let (v, next) ← d.readText "a string" pos path
    return (some v, next)
  else return (none, pos + 1)

/-- Reads an optional text; an alias is read where its anchor stands. -/
def readOptionalText (d : Document) : Reader (Option String) := fun pos path => do
  let (item, _) ← d.get pos
  match item with
  | .aliasOf id => return ((← d.optionalTextAt (d.target id) (.viaAlias path)).1, pos + 1)
  | _ => d.optionalTextAt pos path

/-- Skips one whole value: a scalar, an alias, or a collection with all it holds. -/
def skip (d : Document) (pos : Nat) : Except DecodeError Nat :=
  go (d.items.size + 1) pos 0
where
  /-- Skips items while `depth` collections are open; stops after the first item at depth 0. -/
  go : Nat → Nat → Nat → Except DecodeError Nat
    | 0, _, _ => .error .endOfStream
    | fuel + 1, p, depth => do
      let (item, _) ← d.get p
      let depth := match item with
        | .sequenceStart | .mappingStart => depth + 1
        | .sequenceEnd | .mappingEnd => depth - 1
        | _ => depth
      if depth == 0 then return p + 1 else go fuel (p + 1) depth

/-- The name of a key at `pos` and the path of its value: a scalar key names the value, an alias
to a scalar key leaves it unknown. -/
def keyAt (d : Document) (pos : Nat) (path : Path) : Except DecodeError (String × Path) := do
  let (item, mark) ← d.get pos
  match item with
  | .scalar k _ _ => return (k, .key path k)
  | .aliasOf id => return (← d.textAt "field identifier" (d.target id) (.viaAlias path), .unknown path)
  | it => throw ((mismatch it "field identifier").fix mark path)

/-- Reads the entries of a mapping into a record: `field` reads the value of each key in
`fields`, a key met a second time is refused before its value, other keys are skipped. -/
def entries {α : Type} (d : Document) (fields : List String)
    (field : α → String → Reader α) (path : Path) :
    Nat → Nat → α → List String → Except DecodeError (α × Nat)
  | 0, _, _, _ => .error .endOfStream
  | fuel + 1, pos, acc, seen => do
    let (item, _) ← d.get pos
    match item with
    | .mappingEnd | .void => return (acc, pos + 1)
    | _ =>
      let (k, valuePath) ← d.keyAt pos path
      if fields.contains k then
        if seen.contains k then throw (.message ("duplicate field `" ++ k ++ "`") none)
        let (acc, next) ← field acc k (pos + 1) valuePath
        entries d fields field path fuel next acc (k :: seen)
      else
        let next ← d.skip (pos + 1)
        entries d fields field path fuel next acc seen

/-- Reads a record at a position that holds no alias: a mapping's entries, or the defaults for
an empty plain scalar. Errors without a place are placed at the record's item. -/
def recordAt {α : Type} (d : Document) (expected : String) (fields : List String) (init : α)
    (field : α → String → Reader α) (pos : Nat) (path : Path) :
    Except DecodeError (α × Nat) := do
  let (item, mark) ← d.get pos
  let answer : Except DecodeError (α × Nat) := match item with
    | .mappingStart => d.entries fields field path (d.items.size + 1) (pos + 1) init []
    | .scalar "" .plain _ | .void => .ok (init, pos + 1)
    | it => .error (mismatch it expected)
  answer.mapError (DecodeError.fix mark path)

/-- Reads a record named `expected` with the keys `fields`, starting from `init`; an alias is
read where its anchor stands. -/
def readRecord {α : Type} (d : Document) (expected : String) (fields : List String) (init : α)
    (field : α → String → Reader α) : Reader α := fun pos path => do
  let (item, _) ← d.get pos
  match item with
  | .aliasOf id =>
    return ((← d.recordAt expected fields init field (d.target id) (.viaAlias path)).1, pos + 1)
  | _ => d.recordAt expected fields init field pos path

end Document

/-- Reads the one document of a text with `read`: a syntax error is answered once the reader
runs into it or has finished, and a second document is refused. -/
def decode {α : Type} (text : String) (read : Document → Reader α) : Except DecodeError α := do
  let (evs, err) := events text
  match Document.load err true evs {} [] with
  | (none, _) => throw .endOfStream
  | (some d, rest) =>
    let (v, _) ← read d 0 .root
    if let some e := d.error then throw (.load e)
    match Document.load err false rest {} [] with
    | (none, _) => return v
    | (some _, _) => throw .moreThanOneDocument

end CqlBridge.Yaml
