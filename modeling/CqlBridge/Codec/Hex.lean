import CqlBridge.Text.Escape

/-!
# `CqlBridge.Codec.Hex` — bytes from hex text, with the reason a text is refused

A hex text has an even number of bytes, and each is a hex digit of either case. A text is
refused for its odd length first; otherwise for its first byte that is not a hex digit, which
the error reports by position and as the character with that code (a byte of a multi-byte
character reads as the Latin-1 character of that number).

Bytes are written back as lower-case hex, two digits each.
-/

namespace CqlBridge.Codec

/-- Why a hex text is refused. -/
inductive HexError where
  | oddLength
  | invalidChar (byte : UInt8) (index : Nat)
  deriving Repr, DecidableEq

/-- The words of a hex error. -/
def HexError.message : HexError → String
  | .oddLength => "Odd number of digits"
  | .invalidChar b i =>
    "Invalid character '" ++ String.ofList (Text.charEscape (Char.ofNat b.toNat)) ++
      "' at position " ++ toString i

/-- The value of a hex digit byte, either case. -/
def hexValue? (b : UInt8) : Option Nat :=
  let n := b.toNat
  if 48 ≤ n && n ≤ 57 then some (n - 48)
  else if 97 ≤ n && n ≤ 102 then some (n - 87)
  else if 65 ≤ n && n ≤ 70 then some (n - 55)
  else none

/-- Decodes pairs of hex digits; `i` is the position of the first byte given. -/
def hexPairs (i : Nat) : List UInt8 → Except HexError (List UInt8)
  | a :: b :: rest =>
    match hexValue? a, hexValue? b with
    | some x, some y => do
      let tail ← hexPairs (i + 2) rest
      pure ((x * 16 + y).toUInt8 :: tail)
    | none, _ => .error (.invalidChar a i)
    | some _, none => .error (.invalidChar b (i + 1))
  | _ => pure []

/-- The bytes of a hex text. -/
def decodeHex (s : String) : Except HexError (List UInt8) :=
  let bytes := s.toUTF8.toList
  if bytes.length % 2 == 1 then .error .oddLength else hexPairs 0 bytes

/-- Two lower-case hex digits of a byte. -/
def byteHex (b : UInt8) : String :=
  let hex (n : Nat) : Char := if n < 10 then Char.ofNat (48 + n) else Char.ofNat (87 + n)
  String.ofList [hex (b.toNat / 16), hex (b.toNat % 16)]

/-- Bytes as lower-case hex. -/
def encodeHex (bs : List UInt8) : String :=
  String.join (bs.map byteHex)

end CqlBridge.Codec
