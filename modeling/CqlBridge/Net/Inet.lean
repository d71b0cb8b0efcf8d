/-!
# `CqlBridge.Net.Inet` — IP addresses, read from and written as text

An IPv4 address is four decimal octets separated by dots; an octet has one to three digits,
is at most 255 and has no leading zero unless it is `0` itself. An IPv6 address is eight groups
of one to four hex digits separated by colons, where one run of groups may be left out as `::`
and the last two groups may be written as an IPv4 address. A text that starts as an IPv4
address is read as one.

IPv6 addresses are written in lower-case hex without leading zeros; the first longest run of
two or more zero groups is written `::`; an IPv4-mapped address is written `::ffff:a.b.c.d`.
-/

namespace CqlBridge

/-- An IP address: four octets or eight 16-bit groups. -/
inductive IpAddr where
  | v4 (octets : List Nat)
  | v6 (groups : List Nat)
  deriving Repr, DecidableEq, Inhabited

namespace IpAddr

/-- The value of a digit in base 10 or 16. -/
def digitValue (radix : Nat) (c : Char) : Option Nat :=
  if '0' ≤ c && c ≤ '9' then some (c.toNat - 48)
  else if radix == 16 && 'a' ≤ c && c ≤ 'f' then some (c.toNat - 87)
  else if radix == 16 && 'A' ≤ c && c ≤ 'F' then some (c.toNat - 55)
  else none

/-- The longest run of digits at the front, as their values, and the rest. -/
def digitRun (radix : Nat) : List Char → List Nat × List Char
  | [] => ([], [])
  | c :: cs =>
    match digitValue radix c with
    | some d => let (ds, rest) := digitRun radix cs; (d :: ds, rest)
    | none => ([], c :: cs)

/-- A number at the front: at least one and at most `maxDigits` digits, a value of at most
`maxValue`, and no leading zero unless `zeroPrefix` allows it. -/
def number? (radix maxDigits maxValue : Nat) (zeroPrefix : Bool) (cs : List Char) :
    Option (Nat × List Char) :=
  let (ds, rest) := digitRun radix cs
  let value := ds.foldl (fun acc d => acc * radix + d) 0
  if ds.isEmpty || ds.length > maxDigits || value > maxValue then none
  else if !zeroPrefix && ds.head? == some 0 && ds.length > 1 then none
  else some (value, rest)

/-- A separator, unless this is the first item. -/
def separated (sep : Char) (first : Bool) (cs : List Char) : Option (List Char) :=
  if first then some cs else
  match cs with
  | c :: rest => if c == sep then some rest else none
  | [] => none

/-- An IPv4 address at the front. -/
def ipv4Prefix? (cs : List Char) : Option (List Nat × List Char) := do
  let (a, r) ← number? 10 3 255 false cs
  let r ← separated '.' false r
  let (b, r) ← number? 10 3 255 false r
  let r ← separated '.' false r
  let (c, r) ← number? 10 3 255 false r
  let r ← separated '.' false r
  let (d, r) ← number? 10 3 255 false r
  pure ([a, b, c, d], r)

/-- Up to `limit` colon-separated groups at the front, the last two of which may be an IPv4
address when there is room for two. Returns the groups, whether an IPv4 address ended them,
and the rest. -/
def groups (limit : Nat) (first : Bool) (cs : List Char) : List Nat × Bool × List Char :=
  match limit with
  | 0 => ([], false, cs)
  | limit + 1 =>
    let asV4 := if limit ≥ 1 then
        (separated ':' first cs).bind fun r => ipv4Prefix? r
      else none
    match asV4 with
    | some ([a, b, c, d], rest) => ([a * 256 + b, c * 256 + d], true, rest)
    | _ =>
      match (separated ':' first cs).bind fun r => number? 16 4 0xFFFF true r with
      | some (g, rest) =>
        let (gs, endsV4, rest') := groups limit false rest
        (g :: gs, endsV4, rest')
      | none => ([], false, cs)

/-- An IPv6 address at the front. -/
def ipv6Prefix? (cs : List Char) : Option (List Nat × List Char) :=
  let (head, headV4, rest) := groups 8 true cs
  if head.length == 8 then some (head, rest)
  else if headV4 then none
  else match rest with
    | ':' :: ':' :: rest =>
      let (tail, _, rest) := groups (8 - (head.length + 1)) true rest
      some (head ++ List.replicate (8 - head.length - tail.length) 0 ++ tail, rest)
    | _ => none

/-- Reads a whole text as an IP address; a text that starts as an IPv4 address must be one. -/
def parse? (s : String) : Option IpAddr :=
  let cs := s.toList
  match ipv4Prefix? cs with
  | some (octets, rest) => if rest.isEmpty then some (.v4 octets) else none
  | none =>
    match ipv6Prefix? cs with
    | some (groups, rest) => if rest.isEmpty then some (.v6 groups) else none
    | none => none

/-- Lower-case hex digits without leading zeros. -/
def hex (n : Nat) : String := String.ofList (Nat.toDigits 16 n)

/-- Groups joined by colons. -/
def joinGroups (gs : List Nat) : String := ":".intercalate (gs.map hex)

/-- The first longest run of zero groups, as `(start, length)`. -/
def zeroRun (gs : List Nat) : Nat × Nat :=
  let step := fun (acc : (Nat × Nat) × (Nat × Nat) × Nat) (g : Nat) =>
    let (best, cur, i) := acc
    let cur := if g == 0 then (if cur.2 == 0 then (i, 1) else (cur.1, cur.2 + 1)) else (0, 0)
    let best := if cur.2 > best.2 then cur else best
    (best, cur, i + 1)
  (gs.foldl step ((0, 0), (0, 0), 0)).1

/-- The text of an address. -/
def text : IpAddr → String
  | .v4 os => ".".intercalate (os.map toString)
  | .v6 gs =>
    if gs.take 6 == [0, 0, 0, 0, 0, 0xFFFF] then
      let low := gs.drop 6
      let a := low.headD 0
      let b := (low.drop 1).headD 0
      "::ffff:" ++ ".".intercalate ([a / 256, a % 256, b / 256, b % 256].map toString)
    else
      let (start, len) := zeroRun gs
      if len > 1 then joinGroups (gs.take start) ++ "::" ++ joinGroups (gs.drop (start + len))
      else joinGroups gs

example : (parse? "2001:DB8:0:0:1:0:0:1").map text = some "2001:db8::1:0:0:1" := by decide +kernel
example : (parse? "::ffff:1.2.3.4").map text = some "::ffff:1.2.3.4" := by decide +kernel
example : parse? "01.2.3.4" = none := by decide +kernel

end IpAddr

end CqlBridge
