import CqlBridge.Codec.Base64
import CqlBridge.Text.Search

/-!
# `CqlBridge.Tls.Pem` — finding a block of a given kind in PEM text

PEM text carries blocks `-----BEGIN <label>-----` … `-----END <label>-----` with base64 lines
between. The reader follows the TLS library's rules:

* text before, between and after blocks is skipped, and so are whole blocks whose label is not
  wanted; trailing blanks of every line are ignored;
* the first wanted block is the answer: its END line must carry the same label, its lines must
  hold no header (`Name: value`), and its body, blanks removed, must be padded base64;
* a block without an END line, before or at the wanted one, fails the whole read.
-/

namespace CqlBridge.Tls

/-- Whether a character is a blank that ends of lines may carry. -/
def isLineBlank (c : Char) : Bool :=
  c == ' ' || c == '\t' || c == '\r' || c == '\n' || c == '\x0b' || c == '\x0c'

/-- A line without its trailing blanks. -/
def stripLine (cs : List Char) : List Char := (cs.reverse.dropWhile isLineBlank).reverse

/-- The label of a BEGIN line. -/
def beginLabel? (line : List Char) : Option String :=
  if "-----BEGIN ".toList.isPrefixOf line && "-----".toList.isSuffixOf line && line.length ≥ 16
  then some (String.ofList ((line.drop 11).take (line.length - 16)))
  else none

/-- The body lines up to the END line of `label`, and the lines after it. -/
def untilEnd (label : String) : List (List Char) → Option (List (List Char) × List (List Char))
  | [] => none
  | l :: ls =>
    if "-----END ".toList.isPrefixOf l then
      if l == ("-----END " ++ label ++ "-----").toList then some ([], ls) else none
    else (untilEnd label ls).map fun (body, rest) => (l :: body, rest)

/-- The bytes of a block body. -/
def bodyBytes (body : List (List Char)) : Option (List UInt8) :=
  if body.any (·.contains ':') then none else
  match Codec.decodeBase64 (String.ofList (body.flatten.filter (!isLineBlank ·))) with
  | .ok bs => some bs
  | .error _ => none

/-- The label and bytes of the first block whose label is wanted, within `fuel` lines. -/
def findBlock (wanted : String → Bool) : Nat → List (List Char) → Option (String × List UInt8)
  | 0, _ => none
  | _, [] => none
  | fuel + 1, l :: ls =>
    match beginLabel? l with
    | none => findBlock wanted fuel ls
    | some label => do
      let (body, rest) ← untilEnd label ls
      if wanted label then return (label, ← bodyBytes body)
      findBlock wanted fuel rest

/-- The first block of PEM text whose label is wanted. -/
def readPem (wanted : String → Bool) (text : String) : Option (String × List UInt8) :=
  let lines := (Text.splitOn '\n' text.toList).map stripLine
  findBlock wanted lines.length lines

end CqlBridge.Tls
