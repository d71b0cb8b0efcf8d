import CqlBridge.Sql.Keyword

/-!
# `CqlBridge.Sql.Token` — splitting a statement text into tokens

A token is a word (a name or a keyword, as written), a double-quoted name, a single-quoted
string, a number, or an operator. Each token remembers where it starts and how many characters
it spans, so that errors can point at it.

* White space is blank, tab, line feed, carriage return, form feed and vertical tab. `--` starts
  a comment to the end of the line and `/*` one to the matching `*/` (they nest).
* A word starts with a letter, `_` or a character beyond ASCII, and goes on with those, digits
  and `$`.
* `'…'` is a string, `''` inside standing for one `'`; `"…"` is a quoted name, `""` inside
  standing for one `"`.
* A number is digits with an optional fraction and an optional exponent, or a fraction alone.
* An operator is a run of the characters `+ - * / < > = ~ ! @ # % ^ & | ? ` that stops before a
  comment; a run of two or more characters does not end in `+` or `-` unless it holds one of
  `~ ! @ # % ^ & | ?` or a backquote, the trailing signs becoming operators of their own.
  `::`, `:=` and `=>` are operators too, and each of `( ) [ ] { } , ; . :` is a token alone.
-/

namespace CqlBridge.Sql

/-- The kinds of token. -/
inductive TokKind where
  | word | quoted | string | number | op
  deriving DecidableEq, Repr, Inhabited

/-- A token: its kind, its text (for strings and quoted names, with the quotes taken off and
doubled quotes made single), and its place in the statement text, in characters. -/
structure Token where
  kind : TokKind
  text : String
  pos : Nat
  len : Nat
  deriving Repr, Inhabited

/-- Why a text cannot be split into tokens, and where. -/
structure LexError where
  message : String
  pos : Nat
  len : Nat
  deriving Repr

namespace Token

/-- Whether a token is the word `w`, in any ASCII case (quoted names never are). -/
def isWord (t : Token) (w : String) : Bool := t.kind == .word && lowerAscii t.text == w

/-- Whether a token is the operator or punctuation `s`. -/
def isOp (t : Token) (s : String) : Bool := t.kind == .op && t.text == s

end Token

/-- Characters that separate tokens. -/
def isSpace (c : Char) : Bool :=
  c == ' ' || c == '\t' || c == '\n' || c == '\r' || c == '\x0c' || c == '\x0b'

/-- Characters that may start a word. -/
def isWordStart (c : Char) : Bool := c.isAlpha || c == '_' || c.toNat ≥ 128

/-- Characters that may continue a word. -/
def isWordChar (c : Char) : Bool := isWordStart c || c.isDigit || c == '$'

/-- Characters that make up operators. -/
def isOpChar (c : Char) : Bool := "+-*/<>=~!@#%^&|`?".toList.contains c

/-- Operator characters that let an operator end in `+` or `-`. -/
def isOddOpChar (c : Char) : Bool := "~!@#%^&|`?".toList.contains c

/-- Characters that are tokens alone. -/
def isPunct (c : Char) : Bool := "()[]\x7b\x7d,;.:".toList.contains c

/-- The characters of a run while `p` holds, and the rest. -/
def spanWhile (p : Char → Bool) (cs : List Char) : List Char × List Char := cs.span p

/-- The rest of a text after a line comment, with the characters skipped. -/
def skipLine (cs : List Char) : List Char × Nat :=
  let (skipped, rest) := cs.span (· != '\n')
  (rest, skipped.length)

/-- The rest after a block comment whose opening was already read, with the characters skipped
counted; none when the comment never ends. `depth` counts the comments still open. -/
def skipBlock : (depth : Nat) → List Char → Option (List Char × Nat)
  | 0, cs => some (cs, 0)
  | d + 1, '*' :: '/' :: rest => (skipBlock d rest).map fun (r, n) => (r, n + 2)
  | d + 1, '/' :: '*' :: rest => (skipBlock (d + 2) rest).map fun (r, n) => (r, n + 2)
  | d + 1, _ :: rest => (skipBlock (d + 1) rest).map fun (r, n) => (r, n + 1)
  | _ + 1, [] => none
termination_by depth cs => (cs.length, depth)

/-- The body of a quoted token up to its closing quote `q`, a doubled `q` standing for one;
with the characters read (closing quote included) and the rest; none when it never closes. -/
def quotedBody (q : Char) : List Char → Option (List Char × Nat × List Char)
  | [] => none
  | c :: rest =>
    if c == q then
      match rest with
      | c' :: rest' =>
        if c' == q then (quotedBody q rest').map fun (b, n, r) => (q :: b, n + 2, r)
        else some ([], 1, rest)
      | [] => some ([], 1, [])
    else (quotedBody q rest).map fun (b, n, r) => (c :: b, n + 1, r)

/-- An operator run cut before any comment start. -/
def opRun : List Char → List Char
  | '-' :: '-' :: _ => []
  | '/' :: '*' :: _ => []
  | c :: rest => if isOpChar c then c :: opRun rest else []
  | [] => []

/-- An operator run with trailing `+` and `-` given back, unless the run may end in them. -/
def trimOp (run : List Char) : List Char :=
  if run.length ≤ 1 || run.any isOddOpChar then run
  else
    let kept := (run.reverse.dropWhile (fun c => c == '+' || c == '-')).reverse
    if kept.isEmpty then run.take 1 else kept

/-- The digits, fraction and exponent of a number at the front of a text. -/
def numberRun (cs : List Char) : List Char :=
  let (ip, rest) := cs.span Char.isDigit
  let (fp, rest) := match rest with
    | '.' :: r =>
      let (d, r) := r.span Char.isDigit
      ('.' :: d, r)
    | r => ([], r)
  let ep := match rest with
    | e :: r =>
      if e == 'e' || e == 'E' then
        let (sign, r) := match r with
          | '+' :: r => (['+'], r)
          | '-' :: r => (['-'], r)
          | r => ([], r)
        let (d, _) := r.span Char.isDigit
        if d.isEmpty then [] else e :: sign ++ d
      else []
    | [] => []
  ip ++ fp ++ ep

/-- Splits a text into tokens; `pos` is the place of the first character. The length of the
text bounds the number of steps. -/
def tokenize (fuel pos : Nat) (cs : List Char) : Except LexError (List Token) :=
  match fuel, cs with
  | 0, _ | _, [] => .ok []
  | fuel + 1, c :: rest =>
    if isSpace c then tokenize fuel (pos + 1) rest
    else match c, rest with
    | '-', '-' :: r =>
      let (r, n) := skipLine r
      tokenize fuel (pos + 2 + n) r
    | '/', '*' :: r =>
      match skipBlock 1 r with
      | some (r, n) => tokenize fuel (pos + 2 + n) r
      | none => .error ⟨"unterminated /* comment", pos, cs.length⟩
    | '\'', r =>
      match quotedBody '\'' r with
      | some (body, n, r) =>
        (⟨.string, String.ofList body, pos, n + 1⟩ :: ·) <$> tokenize fuel (pos + n + 1) r
      | none => .error ⟨"unterminated quoted string", pos, cs.length⟩
    | '"', r =>
      match quotedBody '"' r with
      | some (body, n, r) =>
        (⟨.quoted, String.ofList body, pos, n + 1⟩ :: ·) <$> tokenize fuel (pos + n + 1) r
      | none => .error ⟨"unterminated quoted identifier", pos, cs.length⟩
    | ':', ':' :: r => (⟨.op, "::", pos, 2⟩ :: ·) <$> tokenize fuel (pos + 2) r
    | ':', '=' :: r => (⟨.op, ":=", pos, 2⟩ :: ·) <$> tokenize fuel (pos + 2) r
    | '=', '>' :: r => (⟨.op, "=>", pos, 2⟩ :: ·) <$> tokenize fuel (pos + 2) r
    | _, _ =>
      if isWordStart c then
        let (w, r) := rest.span isWordChar
        (⟨.word, String.ofList (c :: w), pos, w.length + 1⟩ :: ·) <$>
          tokenize fuel (pos + w.length + 1) r
      else if c.isDigit || (c == '.' && (rest.head?.map Char.isDigit).getD false) then
        let run := numberRun cs
        let n := max run.length 1
        (⟨.number, String.ofList run, pos, n⟩ :: ·) <$> tokenize fuel (pos + n) (cs.drop n)
      else if isPunct c then (⟨.op, c.toString, pos, 1⟩ :: ·) <$> tokenize fuel (pos + 1) rest
      else if isOpChar c then
        let op := trimOp (opRun cs)
        let n := max op.length 1
        (⟨.op, String.ofList (cs.take n), pos, n⟩ :: ·) <$> tokenize fuel (pos + n) (cs.drop n)
      else .error ⟨"syntax error at or near \"" ++ c.toString ++ "\"", pos, 1⟩

/-- The tokens of a statement text. -/
def tokens (text : String) : Except LexError (List Token) :=
  tokenize (text.length + 1) 0 text.toList

example : ((tokens "SELECT t64 // 2, -c").toOption.getD []).map (·.text) =
    ["SELECT", "t64", "//", "2", ",", "-", "c"] := by decide +kernel

end CqlBridge.Sql
