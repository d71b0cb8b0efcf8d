/-!
# `CqlBridge.Codec.Base64` — bytes from standard base64 text, with canonical padding

The alphabet is `A-Z a-z 0-9 + /`, and the text must be padded with `=` to a multiple of four.
A text is refused with the first of these reasons, found in this order:

1. When the length leaves one symbol over and that last byte is neither `=` nor a symbol:
   that byte.
2. Reading the complete quads before the last group of one to four bytes: the first byte that
   is not a symbol (a `=` among them included).
3. In the last group: a `=` in its first two places, a symbol after a `=`, or a byte that is
   not a symbol, whichever comes first; then a last group of a single symbol (bad length);
   then symbols and `=` that do not fill four places (bad padding); then a last symbol whose
   unused low bits are not zero.
-/

namespace CqlBridge.Codec

/-- Why a base64 text is refused. -/
inductive Base64Error where
  | invalidByte (index : Nat) (byte : UInt8)
  | invalidLength (len : Nat)
  | invalidLastSymbol (index : Nat) (byte : UInt8)
  | invalidPadding
  deriving Repr, DecidableEq

/-- The words of a base64 error. -/
def Base64Error.message : Base64Error → String
  | .invalidByte i b => "Invalid symbol " ++ toString b.toNat ++ ", offset " ++ toString i ++ "."
  | .invalidLength n => "Invalid input length: " ++ toString n
  | .invalidLastSymbol i b =>
    "Invalid last symbol " ++ toString b.toNat ++ ", offset " ++ toString i ++ "."
  | .invalidPadding => "Invalid padding"

/-- The six-bit value of a symbol. -/
def symbolValue? (b : UInt8) : Option Nat :=
  let n := b.toNat
  if 65 ≤ n && n ≤ 90 then some (n - 65)
  else if 97 ≤ n && n ≤ 122 then some (n - 71)
  else if 48 ≤ n && n ≤ 57 then some (n + 4)
  else if n == 43 then some 62
  else if n == 47 then some 63
  else none

/-- The pad byte `=`. -/
def padByte : UInt8 := 61

/-- Six-bit values of symbols starting at position `i`, or the first byte that is not one. -/
def symbols (i : Nat) : List UInt8 → Except Base64Error (List Nat)
  | [] => pure []
  | b :: rest =>
    match symbolValue? b with
    | some v => do let vs ← symbols (i + 1) rest; pure (v :: vs)
    | none => .error (.invalidByte i b)

/-- Bytes from groups of four six-bit values. -/
def quadBytes : List Nat → List UInt8
  | a :: b :: c :: d :: rest =>
    let n := ((a * 64 + b) * 64 + c) * 64 + d
    (n / 65536).toUInt8 :: (n / 256 % 256).toUInt8 :: (n % 256).toUInt8 :: quadBytes rest
  | _ => []

/-- Reads the last group, which starts at position `start`: its symbol values, the count of
pad bytes, and the last symbol with its position. -/
def lastGroup (start : Nat) (group : List UInt8) :
    Except Base64Error (List Nat × Nat × Option (Nat × UInt8)) :=
  let step := fun (acc : Except Base64Error (List Nat × Nat × Nat × Option (Nat × UInt8)))
      (b : UInt8) =>
    match acc with
    | .error e => .error e
    | .ok (vals, pads, firstPad, last) =>
      let k := vals.length + pads
      if b == padByte then
        if k < 2 then .error (.invalidByte (start + k) b)
        else .ok (vals, pads + 1, (if pads == 0 then k else firstPad), last)
      else if pads > 0 then .error (.invalidByte (start + firstPad) padByte)
      else match symbolValue? b with
        | some v => .ok (vals ++ [v], pads, firstPad, some (start + k, b))
        | none => .error (.invalidByte (start + k) b)
  match group.foldl step (.ok ([], 0, 0, none)) with
  | .error e => .error e
  | .ok (vals, pads, _, last) => .ok (vals, pads, last)

/-- The bytes of a standard base64 text with canonical padding. -/
def decodeBase64 (s : String) : Except Base64Error (List UInt8) := do
  let input := s.toUTF8.toList
  let len := input.length
  let rem := len % 4
  if rem == 1 then
    match input.getLast? with
    | some b => if b != padByte && (symbolValue? b).isNone then throw (.invalidByte (len - 1) b)
    | none => pure ()
  let body := len - rem - (if rem == 0 then 4 else 0)
  let bodyVals ← symbols 0 (input.take body)
  let (vals, pads, last) ← lastGroup body (input.drop body)
  if len > 0 && vals.length < 2 then throw (.invalidLength (body + vals.length))
  if (pads + vals.length) % 4 != 0 then throw .invalidPadding
  -- the bits past the last whole byte must be zero
  let keep := vals.length * 6 / 8
  let n := (vals ++ List.replicate (4 - vals.length) 0).foldl (fun acc v => acc * 64 + v) 0
  let unused := n % Nat.pow 2 (24 - 8 * keep)
  if unused != 0 then
    match last with
    | some (i, b) => throw (.invalidLastSymbol i b)
    | none => pure ()
  pure (quadBytes bodyVals ++
    [(n / 65536).toUInt8, (n / 256 % 256).toUInt8, (n % 256).toUInt8].take keep)

end CqlBridge.Codec
