import CqlBridge.Sql.Token
import CqlBridge.Sql.Error

/-!
# `CqlBridge.Sql.Parse` — reading statements from tokens

A recursive-descent reader for the statements the engine runs: queries (`SELECT`, `VALUES`, set
operations, `ORDER BY`, `LIMIT`, `OFFSET`), `CREATE TABLE … AS`, `CREATE TABLE (…)`,
`CREATE VIEW`, `INSERT INTO` and `DROP`.

Operators bind as in the usual grammar, loosest first: `OR`; `AND`; `NOT`; `IS`; comparisons;
`IN`, `BETWEEN`, `LIKE`; other operators such as `||`; `+` and `-`; `*`, `/`, `//` and `%`;
`^`; unary minus; and tightest the suffix `::type`. So `-128::TINYINT` negates the cast.

A token that cannot continue the statement is reported as `syntax error at or near "…"` at
that token; running out of tokens as `syntax error at end of input`.

Every function takes a fuel argument that bounds its depth, so the reader is total; the fuel
given is a multiple of the number of tokens, more than any statement needs.
-/

namespace CqlBridge.Sql

/-- The reader's state: the position of the next token. -/
abbrev Reader := StateT Nat (Except SqlError)

namespace Read

variable (toks : Array Token)

/-- The next token, if any. -/
def peek : Reader (Option Token) := do return toks[(← get)]?

/-- The token after the next one, if any. -/
def peek2 : Reader (Option Token) := do return toks[(← get) + 1]?

/-- Moves past the next token. -/
def advance : Reader Unit := modify (· + 1)

/-- The syntax error at the next token, or at the end of the input. -/
def syntaxError {α : Type} : Reader α := do
  match ← peek toks with
  | some t =>
    let shown := if t.kind == .string then "'" ++ t.text ++ "'" else t.text
    throw ⟨.parser, "syntax error at or near \"" ++ shown ++ "\"", some ⟨t.pos, t.len⟩⟩
  | none => throw ⟨.parser, "syntax error at end of input", none⟩

/-- Whether the next token is the word `w`. -/
def atWord (w : String) : Reader Bool := do
  return match ← peek toks with
    | some t => t.isWord w
    | none => false

/-- Whether the next token is the operator `s`. -/
def atOp (s : String) : Reader Bool := do
  return match ← peek toks with
    | some t => t.isOp s
    | none => false

/-- Takes the word `w` if it comes next. -/
def eatWord (w : String) : Reader Bool := do
  if ← atWord toks w then advance; return true else return false

/-- Takes the operator `s` if it comes next. -/
def eatOp (s : String) : Reader Bool := do
  if ← atOp toks s then advance; return true else return false

/-- Takes the word `w`, or fails there. -/
def expectWord (w : String) : Reader Unit := do
  if ← eatWord toks w then pure () else syntaxError toks

/-- Takes the operator `s`, or fails there; gives its token. -/
def expectOp (s : String) : Reader Token := do
  match ← peek toks with
  | some t => if t.isOp s then advance; return t else syntaxError toks
  | none => syntaxError toks

/-- Takes a name: a word that is not reserved, or a quoted name. -/
def name : Reader String := do
  match ← peek toks with
  | some t =>
    if t.kind == .quoted || (t.kind == .word && !isReserved t.text) then advance; return t.text
    else syntaxError toks
  | none => syntaxError toks

/-- Words that cannot name a source without `AS`, because they continue a `FROM` clause. -/
def joinWords : List String :=
  ["join", "left", "right", "inner", "outer", "full", "cross", "natural", "semi", "anti",
   "asof", "positional", "on", "using", "where", "group", "having", "order", "limit",
   "offset", "union", "except", "intersect", "window", "qualify"]

/-- An optional alias: `AS name`, or a bare name that is not a keyword with a role here. -/
def label? (forSource : Bool) : Reader (Option String) := do
  if ← eatWord toks "as" then return some (← name toks)
  match ← peek toks with
  | some t =>
    if t.kind == .quoted then advance; return some t.text
    else if t.kind == .word && !isReserved t.text &&
        !(forSource && joinWords.contains (lowerAscii t.text)) then
      advance; return some t.text
    else return none
  | none => return none

/-- The end position of the token before the next one. -/
def lastEnd : Reader Nat := do
  let i ← get
  match toks[i - 1]? with
  | some t => return t.pos + t.len
  | none => return 0

/-- The precedence of an infix operator token, loosest 1. -/
def infixPrec (t : Token) : Option Nat :=
  if t.kind == .word then
    match lowerAscii t.text with
    | "or" => some 1
    | "and" => some 2
    | "is" | "isnull" | "notnull" => some 4
    | "in" | "between" | "like" | "ilike" | "not" | "glob" => some 6
    | _ => none
  else if t.kind == .op then
    match t.text with
    | "=" | "==" | "<>" | "!=" | "<" | ">" | "<=" | ">=" => some 5
    | "+" | "-" => some 8
    | "*" | "/" | "//" | "%" => some 9
    | "^" | "**" => some 10
    | "(" | ")" | "[" | "]" | "\x7b" | "\x7d" | "," | ";" | "." | ":" | "::" | ":=" | "=>" => none
    | _ => some 7
  else none

/-- The interval unit a word names. -/
def unitOf? (w : String) : Option IntervalUnit :=
  match lowerAscii w with
  | "year" | "years" => some .year
  | "month" | "months" => some .month
  | "day" | "days" => some .day
  | "hour" | "hours" => some .hour
  | "minute" | "minutes" => some .minute
  | "second" | "seconds" => some .second
  | "millisecond" | "milliseconds" => some .millisecond
  | "microsecond" | "microseconds" => some .microsecond
  | "week" | "weeks" => some .week
  | _ => none

/-- Words that start a query. -/
def startsQuery (t : Token) : Bool :=
  t.isWord "select" || t.isWord "values" || t.isWord "with" || t.isWord "from"

mutual

/-- A type: a name with optional modifiers, `STRUCT(…)`, `MAP(…)`, and `[]` suffixes. -/
def ty : Nat → Reader Ty
  | 0 => syntaxError toks
  | n + 1 => do
    let some t ← peek toks | syntaxError toks
    if t.kind != .word then syntaxError toks
    advance
    let w := lowerAscii t.text
    let base ← match w with
      | "struct" | "row" => do
        let _ ← expectOp toks "("
        let fs ← fields n
        let _ ← expectOp toks ")"
        pure (Ty.struct fs)
      | "map" => do
        let _ ← expectOp toks "("
        let k ← ty n
        let _ ← expectOp toks ","
        let v ← ty n
        let _ ← expectOp toks ")"
        pure (Ty.map k v)
      | "double" => do
        let _ ← eatWord toks "precision"
        pure Ty.double
      | "timestamp" => do
        if ← eatWord toks "with" then
          expectWord toks "time"; expectWord toks "zone"; pure Ty.timestamptz
        else pure Ty.timestamp
      | "character" => do
        let _ ← eatWord toks "varying"
        pure Ty.varchar
      | "decimal" | "numeric" | "dec" => do
        if ← eatOp toks "(" then
          let w ← number
          let s ← if ← eatOp toks "," then number else pure 0
          let _ ← expectOp toks ")"
          pure (Ty.decimal w s)
        else pure (Ty.decimal 18 3)
      | _ =>
        match Ty.ofName? w with
        | some t => do
          if ← eatOp toks "(" then
            let _ ← number
            let _ ← expectOp toks ")"
          pure t
        | none => throw ⟨.catalog, "Type with name " ++ t.text ++ " does not exist!", some ⟨t.pos, t.len⟩⟩
    arraySuffix n base

/-- `[]` suffixes making lists. -/
def arraySuffix : Nat → Ty → Reader Ty
  | 0, t => pure t
  | n + 1, t => do
    if (← atOp toks "[") && ((← peek2 toks).map (·.isOp "]")).getD false then
      advance; advance; arraySuffix n (.list t)
    else pure t

/-- Struct fields `name type, …`. -/
def fields : Nat → Reader (List (String × Ty))
  | 0 => syntaxError toks
  | n + 1 => do
    let nm ← name toks
    let t ← ty n
    if ← eatOp toks "," then return (nm, t) :: (← fields n) else return [(nm, t)]

/-- A number token's value. -/
def number : Reader Nat := do
  let some t ← peek toks | syntaxError toks
  if t.kind != .number then syntaxError toks
  match t.text.toNat? with
  | some v => advance; return v
  | none => syntaxError toks

/-- An expression. -/
def expr : Nat → Reader Expr
  | 0 => syntaxError toks
  | n + 1 => binary n 1

/-- An expression whose operators bind at least as tightly as `minPrec`. -/
def binary : Nat → Nat → Reader Expr
  | 0, _ => syntaxError toks
  | n + 1, minPrec => do
    let lhs ← prefixed n minPrec
    infixLoop n minPrec lhs

/-- Prefix operators, then a primary expression with the casts that follow it. -/
def prefixed : Nat → Nat → Reader Expr
  | 0, _ => syntaxError toks
  | n + 1, minPrec => do
    let some t ← peek toks | syntaxError toks
    if t.isWord "not" && minPrec ≤ 3 then
      advance
      let e ← binary n 3
      return .unary "NOT" e (⟨t.pos, (← lastEnd toks) - t.pos⟩)
    else if t.isOp "-" || t.isOp "+" then
      advance
      let e ← binary n 11
      let span : Span := ⟨t.pos, (← lastEnd toks) - t.pos⟩
      -- a minus sign in front of a number literal is part of the literal
      match t.text, e with
      | "-", .lit (.number x) _ =>
        let negated := if x.startsWith "-" then String.ofList (x.toList.drop 1) else "-" ++ x
        return .lit (.number negated) span
      | _, _ => return .unary t.text e span
    else
      let e ← primary n
      suffixOps n e

/-- Infix operators at or above `minPrec`, applied left to right. -/
def infixLoop : Nat → Nat → Expr → Reader Expr
  | 0, _, lhs => pure lhs
  | n + 1, minPrec, lhs => do
    let some t ← peek toks | return lhs
    let some p := infixPrec t | return lhs
    if p < minPrec then return lhs
    let start := (lhs.span?.map (·.pos)).getD t.pos
    let spanTo := fun (stop : Nat) => (⟨start, stop - start⟩ : Span)
    match lowerAscii t.text with
    | "is" => do
      advance
      let neg ← eatWord toks "not"
      expectWord toks "null"
      infixLoop n minPrec (.isNull lhs neg)
    | "isnull" => advance; infixLoop n minPrec (.isNull lhs false)
    | "notnull" => advance; infixLoop n minPrec (.isNull lhs true)
    | "not" => do
      advance
      let some t2 ← peek toks | syntaxError toks
      if t2.isWord "in" then advance; let e ← inTail n lhs true start; infixLoop n minPrec e
      else if t2.isWord "between" then
        advance; let e ← betweenTail n lhs true start; infixLoop n minPrec e
      else if t2.isWord "like" || t2.isWord "ilike" || t2.isWord "glob" then
        advance
        let rhs ← binary n 7
        let e := Expr.unary "NOT"
          (.binary (lowerAscii t2.text) lhs rhs (spanTo (← lastEnd toks))) (spanTo (← lastEnd toks))
        infixLoop n minPrec e
      else syntaxError toks
    | "in" => do advance; let e ← inTail n lhs false start; infixLoop n minPrec e
    | "between" => do advance; let e ← betweenTail n lhs false start; infixLoop n minPrec e
    | _ => do
      advance
      let opText := if t.kind == .word then lowerAscii t.text else t.text
      -- comparisons do not chain; the rest associate to the left
      let rhs ← binary n (if p == 5 then 6 else p + 1)
      infixLoop n minPrec (.binary opText lhs rhs (spanTo (← lastEnd toks)))

/-- The rest of `e [NOT] IN (…)` after `IN`. -/
def inTail : Nat → Expr → Bool → Nat → Reader Expr
  | 0, _, _, _ => syntaxError toks
  | n + 1, e, neg, start => do
    let _ ← expectOp toks "("
    let items ← exprList n
    let _ ← expectOp toks ")"
    return .inList e items neg ⟨start, (← lastEnd toks) - start⟩

/-- The rest of `e [NOT] BETWEEN lo AND hi` after `BETWEEN`. -/
def betweenTail : Nat → Expr → Bool → Nat → Reader Expr
  | 0, _, _, _ => syntaxError toks
  | n + 1, e, neg, start => do
    let lo ← binary n 7
    expectWord toks "and"
    let hi ← binary n 7
    return .between e lo hi neg ⟨start, (← lastEnd toks) - start⟩

/-- Postfix `::type`. -/
def suffixOps : Nat → Expr → Reader Expr
  | 0, e => pure e
  | n + 1, e => do
    let some t ← peek toks | return e
    if t.isOp "::" then
      advance
      let target ← ty n
      suffixOps n (.cast e target false ⟨t.pos, (← lastEnd toks) - t.pos⟩)
    else return e

/-- Comma-separated expressions. -/
def exprList : Nat → Reader (List Expr)
  | 0 => syntaxError toks
  | n + 1 => do
    let e ← expr n
    if ← eatOp toks "," then return e :: (← exprList n) else return [e]

/-- A primary expression. -/
def primary : Nat → Reader Expr
  | 0 => syntaxError toks
  | n + 1 => do
    let some t ← peek toks | syntaxError toks
    let here : Span := ⟨t.pos, t.len⟩
    match t.kind with
    | .number => advance; return .lit (.number t.text) here
    | .string => advance; return .lit (.string t.text) here
    | .quoted => columnRef n [t.text] here
    | .op =>
      if t.isOp "(" then
        advance
        let some t2 ← peek toks | syntaxError toks
        if startsQuery t2 then
          let q ← query n
          let _ ← expectOp toks ")"
          return .subquery q ⟨t.pos, (← lastEnd toks) - t.pos⟩
        else
          let e ← expr n
          let _ ← expectOp toks ")"
          return e
      else if t.isOp "[" then
        advance
        let items ← if ← atOp toks "]" then pure [] else exprList n
        let _ ← expectOp toks "]"
        return .list items ⟨t.pos, (← lastEnd toks) - t.pos⟩
      else if t.isOp "\x7b" then
        advance
        let fs ← structFields n
        let _ ← expectOp toks "\x7d"
        return .struct fs ⟨t.pos, (← lastEnd toks) - t.pos⟩
      else if t.isOp "*" then advance; return .star none here
      else syntaxError toks
    | .word =>
      match lowerAscii t.text with
      | "null" => advance; return .lit .null here
      | "true" => advance; return .lit (.bool true) here
      | "false" => advance; return .lit (.bool false) here
      | "cast" | "try_cast" => do
        advance
        let _ ← expectOp toks "("
        let e ← expr n
        expectWord toks "as"
        let target ← ty n
        let _ ← expectOp toks ")"
        return .cast e target (t.isWord "try_cast") ⟨t.pos, (← lastEnd toks) - t.pos⟩
      | "case" => do advance; caseTail n t.pos
      | "exists" => do
        advance
        let _ ← expectOp toks "("
        let q ← query n
        let _ ← expectOp toks ")"
        return .exists q ⟨t.pos, (← lastEnd toks) - t.pos⟩
      | "interval" => do
        advance
        let some t2 ← peek toks | syntaxError toks
        if t2.kind == .string then
          advance
          match (← peek toks).bind (fun u => if u.kind == .word then unitOf? u.text else none) with
          | some u =>
            advance
            return .interval (.lit (.string t2.text) ⟨t2.pos, t2.len⟩) u
              ⟨t.pos, (← lastEnd toks) - t.pos⟩
          | none =>
            return .cast (.lit (.string t2.text) ⟨t2.pos, t2.len⟩) .interval false
              ⟨t.pos, (← lastEnd toks) - t.pos⟩
        else
          let e ← primary n
          let some u ← peek toks | syntaxError toks
          match (if u.kind == .word then unitOf? u.text else none) with
          | some unit => advance; return .interval e unit ⟨t.pos, (← lastEnd toks) - t.pos⟩
          | none => syntaxError toks
      | "columns" => do
        if ((← peek2 toks).map (·.isOp "(")).getD false then
          advance; advance
          let _ ← expectOp toks "*"
          let _ ← expectOp toks ")"
          return .columns ⟨t.pos, (← lastEnd toks) - t.pos⟩
        else columnRef n [t.text] here
      | w =>
        let next ← peek2 toks
        -- a type name followed by a string is a typed literal
        if (next.map (·.kind == .string)).getD false && (Ty.ofName? w).isSome &&
            !((next.map (·.isOp "(")).getD false) then
          advance
          let some s ← peek toks | syntaxError toks
          advance
          let target := (Ty.ofName? w).getD .varchar
          let target := if w == "timestamptz" then Ty.timestamptz else target
          return .cast (.lit (.string s.text) ⟨s.pos, s.len⟩) target false
            ⟨t.pos, (← lastEnd toks) - t.pos⟩
        else if (next.map (·.isOp "(")).getD false then
          if isReserved w then syntaxError toks
          advance; advance
          if ← eatOp toks "*" then
            let _ ← expectOp toks ")"
            return .call t.text [] false true ⟨t.pos, (← lastEnd toks) - t.pos⟩
          let distinct ← eatWord toks "distinct"
          let args ← if ← atOp toks ")" then pure [] else exprList n
          let _ ← expectOp toks ")"
          return .call t.text args distinct false ⟨t.pos, (← lastEnd toks) - t.pos⟩
        else if isReserved w then syntaxError toks
        else columnRef n [t.text] here

/-- A column reference or `t.*`, after its first name. -/
def columnRef : Nat → List String → Span → Reader Expr
  | 0, _, _ => syntaxError toks
  | n + 1, parts, span => do
    if parts.length == 1 then advance
    if ← atOp toks "." then
      let some t2 ← peek2 toks | syntaxError toks
      if t2.isOp "*" then
        advance; advance
        return .star (some (parts.getLast?.getD "")) ⟨span.pos, t2.pos + 1 - span.pos⟩
      else if t2.kind == .word || t2.kind == .quoted then
        advance; advance
        columnRef n (parts ++ [t2.text]) ⟨span.pos, t2.pos + t2.len - span.pos⟩
      else advance; syntaxError toks
    else return .col parts span

/-- Struct literal fields `'name': value, …`. -/
def structFields : Nat → Reader (List (String × Expr))
  | 0 => syntaxError toks
  | n + 1 => do
    let some t ← peek toks | syntaxError toks
    if t.kind != .string && t.kind != .word && t.kind != .quoted then syntaxError toks
    advance
    let _ ← expectOp toks ":"
    let e ← expr n
    if ← eatOp toks "," then return (t.text, e) :: (← structFields n) else return [(t.text, e)]

/-- The rest of a `CASE` expression after `CASE`. -/
def caseTail : Nat → Nat → Reader Expr
  | 0, _ => syntaxError toks
  | n + 1, start => do
    let operand ← if ← atWord toks "when" then pure none else some <$> expr n
    let whens ← whenList n
    let otherwise ← if ← eatWord toks "else" then some <$> expr n else pure none
    expectWord toks "end"
    return .caseWhen operand whens otherwise ⟨start, (← lastEnd toks) - start⟩

/-- `WHEN … THEN …` pairs. -/
def whenList : Nat → Reader (List (Expr × Expr))
  | 0 => syntaxError toks
  | n + 1 => do
    expectWord toks "when"
    let c ← expr n
    expectWord toks "then"
    let r ← expr n
    if ← atWord toks "when" then return (c, r) :: (← whenList n) else return [(c, r)]

/-- A query with its set operations, `ORDER BY`, `LIMIT` and `OFFSET`. -/
def query : Nat → Reader Query
  | 0 => syntaxError toks
  | n + 1 => do
    let first ← queryTerm n
    let body ← setLoop n first
    let order ← if ← eatWord toks "order" then (expectWord toks "by" *> orderList n) else pure []
    let limit ← if ← eatWord toks "limit" then some <$> expr n else pure none
    let offset ← if ← eatWord toks "offset" then some <$> expr n else pure none
    if order.isEmpty && limit.isNone && offset.isNone then return body
    else return .ordered body order limit offset

/-- Set operations, left to right. -/
def setLoop : Nat → Query → Reader Query
  | 0, q => pure q
  | n + 1, q => do
    let op? : Option SetOp ←
      if ← atWord toks "union" then pure (some .union)
      else if ← atWord toks "except" then pure (some .except)
      else if ← atWord toks "intersect" then pure (some .intersect)
      else pure none
    match op? with
    | none => return q
    | some op =>
      advance
      let all ← eatWord toks "all"
      if !all then let _ ← eatWord toks "distinct"
      let r ← queryTerm n
      setLoop n (.setOp op all q r)

/-- A `SELECT` block, a `VALUES` list, or a query in parentheses. -/
def queryTerm : Nat → Reader Query
  | 0 => syntaxError toks
  | n + 1 => do
    let some t ← peek toks | syntaxError toks
    if t.isWord "select" then advance; selectBody n
    else if t.isWord "values" then
      advance
      let rows ← valueRows n
      return .values rows ⟨t.pos, (← lastEnd toks) - t.pos⟩
    else if t.isOp "(" then
      advance
      let q ← query n
      let _ ← expectOp toks ")"
      return q
    else syntaxError toks

/-- Rows of a `VALUES` list. -/
def valueRows : Nat → Reader (List (List Expr))
  | 0 => syntaxError toks
  | n + 1 => do
    let _ ← expectOp toks "("
    let row ← exprList n
    let _ ← expectOp toks ")"
    if ← eatOp toks "," then return row :: (← valueRows n) else return [row]

/-- The rest of a `SELECT` block after `SELECT`. -/
def selectBody : Nat → Reader Query
  | 0 => syntaxError toks
  | n + 1 => do
    let distinct ← eatWord toks "distinct"
    if !distinct then let _ ← eatWord toks "all"
    let its ← itemList n
    let srcs ← if ← eatWord toks "from" then sourceList n else pure []
    let filter ← if ← eatWord toks "where" then some <$> expr n else pure none
    let groups ← if ← eatWord toks "group" then (expectWord toks "by" *> exprList n) else pure []
    let having ← if ← eatWord toks "having" then some <$> expr n else pure none
    return .select distinct its srcs filter groups having

/-- Select items. -/
def itemList : Nat → Reader (List Item)
  | 0 => syntaxError toks
  | n + 1 => do
    let e ← expr n
    let a ← match e with
      | .star .. => pure none
      | _ => label? toks false
    let it := Item.expr e a
    if ← eatOp toks "," then return it :: (← itemList n) else return [it]

/-- `FROM` sources separated by commas. -/
def sourceList : Nat → Reader (List Source)
  | 0 => syntaxError toks
  | n + 1 => do
    let s ← source n
    if ← eatOp toks "," then return s :: (← sourceList n) else return [s]

/-- A source with the joins that follow it. -/
def source : Nat → Reader Source
  | 0 => syntaxError toks
  | n + 1 => do
    let s ← sourcePrimary n
    joinLoop n s

/-- Joins, left to right. -/
def joinLoop : Nat → Source → Reader Source
  | 0, s => pure s
  | n + 1, s => do
    let kind? : Option JoinKind ←
      if ← eatWord toks "join" then pure (some .inner)
      else if ← eatWord toks "inner" then expectWord toks "join"; pure (some .inner)
      else if ← eatWord toks "left" then
        let _ ← eatWord toks "outer"; expectWord toks "join"; pure (some .left)
      else if ← eatWord toks "right" then
        let _ ← eatWord toks "outer"; expectWord toks "join"; pure (some .right)
      else if ← eatWord toks "full" then
        let _ ← eatWord toks "outer"; expectWord toks "join"; pure (some .full)
      else if ← eatWord toks "cross" then expectWord toks "join"; pure (some .cross)
      else pure none
    match kind? with
    | none => return s
    | some kind =>
      let r ← sourcePrimary n
      if kind == .cross then joinLoop n (.join kind s r none [])
      else if ← eatWord toks "on" then
        let c ← expr n
        joinLoop n (.join kind s r (some c) [])
      else if ← eatWord toks "using" then
        let _ ← expectOp toks "("
        let cols ← nameList n
        let _ ← expectOp toks ")"
        joinLoop n (.join kind s r none cols)
      else syntaxError toks

/-- Names separated by commas. -/
def nameList : Nat → Reader (List String)
  | 0 => syntaxError toks
  | n + 1 => do
    let nm ← name toks
    if ← eatOp toks "," then return nm :: (← nameList n) else return [nm]

/-- Column aliases `(a, b, …)` after a source's alias, if any. -/
def columnAliases : Nat → Reader (List String)
  | 0 => pure []
  | n + 1 => do
    if ← eatOp toks "(" then
      let cols ← nameList n
      let _ ← expectOp toks ")"
      return cols
    else return []

/-- A table, a table function call or a subquery, with its alias. -/
def sourcePrimary : Nat → Reader Source
  | 0 => syntaxError toks
  | n + 1 => do
    let some t ← peek toks | syntaxError toks
    if t.isOp "(" then
      advance
      let q ← query n
      let _ ← expectOp toks ")"
      let a ← label? toks true
      let cols ← if a.isSome then columnAliases n else pure []
      return .sub q a cols
    if !(t.kind == .quoted || (t.kind == .word && !isReserved t.text)) then syntaxError toks
    if ((← peek2 toks).map (·.isOp "(")).getD false then
      advance; advance
      let as ← if ← atOp toks ")" then pure [] else argList n
      let close ← expectOp toks ")"
      let span : Span := ⟨t.pos, close.pos + 1 - t.pos⟩
      let a ← label? toks true
      let cols ← if a.isSome then columnAliases n else pure []
      return .func t.text as a cols span
    else
      let parts ← qualifiedName n
      let stop ← lastEnd toks
      let a ← label? toks true
      return .table parts a ⟨t.pos, stop - t.pos⟩

/-- A name with its qualifiers, `a.b.c`. -/
def qualifiedName : Nat → Reader (List String)
  | 0 => syntaxError toks
  | n + 1 => do
    let nm ← name toks
    if ← eatOp toks "." then return nm :: (← qualifiedName n) else return [nm]

/-- Table-function arguments. -/
def argList : Nat → Reader (List Arg)
  | 0 => syntaxError toks
  | n + 1 => do
    let named := ((← peek toks).map (fun t => t.kind == .word || t.kind == .quoted)).getD false &&
      ((← peek2 toks).map (fun t => t.isOp ":=" || t.isOp "=>")).getD false
    let a ← if named then do
        let some t ← peek toks | syntaxError toks
        advance; advance
        pure (Arg.named t.text (← expr n))
      else Arg.pos <$> expr n
    if ← eatOp toks "," then return a :: (← argList n) else return [a]

/-- `ORDER BY` terms. -/
def orderList : Nat → Reader (List Order)
  | 0 => syntaxError toks
  | n + 1 => do
    let e ← expr n
    let desc ← if ← eatWord toks "desc" then pure true
      else do let _ ← eatWord toks "asc"; pure false
    let nulls ← if ← eatWord toks "nulls" then
        if ← eatWord toks "first" then pure (some true)
        else do expectWord toks "last"; pure (some false)
      else pure none
    let o := Order.term e desc nulls
    if ← eatOp toks "," then return o :: (← orderList n) else return [o]

end

/-- Column definitions of `CREATE TABLE name (…)`. -/
def columnDefs : Nat → Reader (List ColumnDef)
  | 0 => syntaxError toks
  | n + 1 => do
    let nm ← name toks
    let t ← ty toks n
    if ← eatOp toks "," then return ⟨nm, t⟩ :: (← columnDefs n) else return [⟨nm, t⟩]

/-- One statement. -/
def stmt (n : Nat) : Reader Stmt := do
  let some t ← peek toks | syntaxError toks
  if startsQuery t || t.isOp "(" then return .query (← query toks n)
  else if t.isWord "create" then
    advance
    let orReplace ← if ← eatWord toks "or" then expectWord toks "replace"; pure true else pure false
    if !(← eatWord toks "temp") then let _ ← eatWord toks "temporary"
    if ← eatWord toks "view" then
      let nm := (← qualifiedName toks n).getLast?.getD ""
      expectWord toks "as"
      return .createView nm (← query toks n) orReplace
    expectWord toks "table"
    let ifNotExists ← if ← eatWord toks "if" then
        expectWord toks "not"; expectWord toks "exists"; pure true
      else pure false
    let nm := (← qualifiedName toks n).getLast?.getD ""
    if ← eatWord toks "as" then return .createTableAs nm (← query toks n) orReplace ifNotExists
    let _ ← expectOp toks "("
    let cols ← columnDefs toks n
    let _ ← expectOp toks ")"
    return .createTable nm cols orReplace ifNotExists
  else if t.isWord "insert" then
    advance
    expectWord toks "into"
    let some nt ← peek toks | syntaxError toks
    let nm := (← qualifiedName toks n).getLast?.getD ""
    let span : Span := ⟨nt.pos, (← lastEnd toks) - nt.pos⟩
    let cols ← if ← eatOp toks "(" then
        let cs ← nameList toks n
        let _ ← expectOp toks ")"
        pure (some cs)
      else pure none
    return .insert nm cols (← query toks n) span
  else if t.isWord "drop" then
    advance
    let view ← if ← eatWord toks "view" then pure true else expectWord toks "table"; pure false
    let ifExists ← if ← eatWord toks "if" then expectWord toks "exists"; pure true else pure false
    let some nt ← peek toks | syntaxError toks
    let nm := (← qualifiedName toks n).getLast?.getD ""
    return .drop view nm ifExists ⟨nt.pos, (← lastEnd toks) - nt.pos⟩
  else syntaxError toks

/-- Statements separated by `;`, empty ones skipped, up to the end of the tokens. -/
def stmts : Nat → Reader (List Stmt)
  | 0 => pure []
  | n + 1 => do
    if ← eatOp toks ";" then return ← stmts n
    match ← peek toks with
    | none => return []
    | some _ =>
      let s ← stmt toks (16 * toks.size + 64)
      match ← peek toks with
      | none => return [s]
      | some t => if t.isOp ";" then return s :: (← stmts n) else syntaxError toks

end Read

/-- The statements of a text. -/
def parseStatements (text : String) : Except SqlError (List Stmt) := do
  let toks ← match tokens text with
    | .ok ts => pure ts.toArray
    | .error e => throw ⟨.parser, e.message, some ⟨e.pos, e.len⟩⟩
  (Read.stmts toks (toks.size + 1)).run' 0

end CqlBridge.Sql
