import CqlBridge.Tls.Der
import CqlBridge.Tls.Pem
import CqlBridge.Tls.Curve

/-!
# `CqlBridge.Tls.Identity` — certificates, private keys, and whether a pair belongs together

A certificate is read from the first `CERTIFICATE` (or `X509 CERTIFICATE`) block of PEM text;
its DER must be a `Certificate` of three elements (to-be-signed part, signature algorithm,
signature bit string) whose to-be-signed part holds, after an optional explicit version, the
serial number, signature algorithm, issuer, validity, subject and subject public key info,
then only the optional unique identifiers and extensions, every element well-formed.

A private key is read from the first block labelled `PRIVATE KEY` (PKCS #8), `EC PRIVATE KEY`
(SEC 1) or `RSA PRIVATE KEY` (PKCS #1); an encrypted key cannot be read without a password.

A certificate and a key belong together when their public keys are equal: the same curve and
point for elliptic curve keys, the same modulus and exponent for RSA keys. An elliptic curve
key that does not carry its public point gets it by multiplying the base point, on P-256.
-/

namespace CqlBridge.Tls

/-- A public key. -/
inductive PublicKey where
  /-- A point on the named curve. -/
  | ec (curve : List UInt8) (x y : Nat)
  | rsa (modulus exponent : Nat)
  deriving DecidableEq, Repr

-- Object identifiers, as the content bytes of their elements.
namespace Oid

/-- Elliptic curve public keys. -/
def ecPublicKey : List UInt8 := [0x2a, 0x86, 0x48, 0xce, 0x3d, 0x02, 0x01]
/-- The P-256 curve. -/
def prime256v1 : List UInt8 := [0x2a, 0x86, 0x48, 0xce, 0x3d, 0x03, 0x01, 0x07]
/-- RSA public keys. -/
def rsaEncryption : List UInt8 := [0x2a, 0x86, 0x48, 0x86, 0xf7, 0x0d, 0x01, 0x01, 0x01]

end Oid

/-- A curve point from its encoding: uncompressed `04 ‖ x ‖ y`, or compressed on P-256. -/
def pointOf? (curve : List UInt8) : List UInt8 → Option (Nat × Nat)
  | 0x04 :: rest =>
    if rest.length % 2 == 1 || rest.isEmpty then none
    else some (bytesValue (rest.take (rest.length / 2)), bytesValue (rest.drop (rest.length / 2)))
  | tag :: rest =>
    if curve == Oid.prime256v1 && (tag == 0x02 || tag == 0x03) && rest.length == 32 then
      P256.decompress (bytesValue rest) (tag == 0x03)
    else none
  | [] => none

/-- The key of an RSA public key structure: modulus and exponent. -/
def rsaKeyOf? (der : List UInt8) : Option PublicKey := do
  let (e, _) ← readElement der
  guard (e.tag == 0x30)
  match ← readAll e.content with
  | n :: x :: _ => return .rsa (← n.natValue?) (← x.natValue?)
  | _ => none

/-- The public key of a subject public key info element. -/
def subjectKey? (spki : Element) : Option PublicKey := do
  let [alg, bits] ← readAll spki.content | none
  guard (alg.tag == 0x30 && bits.tag == 0x03)
  let key ← match bits.content with
    | 0 :: key => some key
    | _ => none
  match ← readAll alg.content with
  | oid :: rest =>
    guard (oid.tag == 0x06)
    if oid.content == Oid.ecPublicKey then
      let [curve] := rest | none
      guard (curve.tag == 0x06)
      let (x, y) ← pointOf? curve.content key
      return .ec curve.content x y
    else if oid.content == Oid.rsaEncryption then rsaKeyOf? key
    else none
  | [] => none

/-- Whether the to-be-signed fields have the shape of a certificate. -/
def tbsShaped (fields : List Element) : Bool :=
  let fields := match fields with
    | v :: rest => if v.tag == 0xa0 then rest else v :: rest
    | [] => []
  match fields with
  | serial :: sig :: issuer :: validity :: subject :: spki :: extra =>
    serial.tag == 0x02 && sig.tag == 0x30 && issuer.tag == 0x30 && validity.tag == 0x30 &&
      subject.tag == 0x30 && spki.tag == 0x30 &&
      extra.all (fun e => e.tag == 0x81 || e.tag == 0x82 || e.tag == 0xa3) &&
      fields.all Element.wellFormed
  | _ => false

/-- A certificate: its DER shape checked, with its subject public key info. -/
structure Certificate where
  spki : Element

/-- The certificate in DER bytes. -/
def Certificate.ofDer? (der : List UInt8) : Option Certificate := do
  let (cert, _) ← readElement der
  guard (cert.tag == 0x30)
  let [tbs, alg, sig] ← readAll cert.content | none
  guard (tbs.tag == 0x30 && alg.tag == 0x30 && sig.tag == 0x03 && alg.wellFormed)
  let fields ← readAll tbs.content
  guard (tbsShaped fields)
  -- the subject public key info is the sixth field after the version
  let core := match fields with
    | v :: rest => if v.tag == 0xa0 then rest else v :: rest
    | [] => []
  return ⟨← core[5]?⟩

/-- The first certificate of PEM text. -/
def Certificate.ofPem? (text : String) : Option Certificate := do
  let (_, der) ← readPem (fun l => l == "CERTIFICATE" || l == "X509 CERTIFICATE") text
  Certificate.ofDer? der

/-- The public key of an elliptic curve private key structure on a known curve. -/
def ecKeyOf? (curve? : Option (List UInt8)) (der : List UInt8) : Option PublicKey := do
  let (e, _) ← readElement der
  guard (e.tag == 0x30)
  match ← readAll e.content with
  | ver :: secret :: rest =>
    guard (ver.natValue? == some 1 && secret.tag == 0x04)
    let named := rest.find? (·.tag == 0xa0) |>.bind fun p =>
      match readAll p.content with
      | some [oid] => if oid.tag == 0x06 then some oid.content else none
      | _ => none
    let curve ← curve?.orElse fun _ => named
    let embedded := rest.find? (·.tag == 0xa1) |>.bind fun p =>
      match readAll p.content with
      | some [bits] => match bits.content with
        | 0 :: point => if bits.tag == 0x03 then pointOf? curve point else none
        | _ => none
      | _ => none
    let (x, y) ← embedded.orElse fun _ =>
      if curve == Oid.prime256v1 then P256.mul (bytesValue secret.content) (some P256.g) else none
    return .ec curve x y
  | _ => none

/-- The public key of an RSA private key structure. -/
def rsaPrivateOf? (der : List UInt8) : Option PublicKey := do
  let (e, _) ← readElement der
  guard (e.tag == 0x30)
  match ← readAll e.content with
  | ver :: n :: x :: _ =>
    guard (ver.tag == 0x02)
    return .rsa (← n.natValue?) (← x.natValue?)
  | _ => none

/-- The public key of a PKCS #8 private key. -/
def pkcs8KeyOf? (der : List UInt8) : Option PublicKey := do
  let (e, _) ← readElement der
  guard (e.tag == 0x30)
  match ← readAll e.content with
  | ver :: alg :: inner :: _ =>
    guard (ver.tag == 0x02 && alg.tag == 0x30 && inner.tag == 0x04)
    match ← readAll alg.content with
    | oid :: params =>
      if oid.content == Oid.ecPublicKey then
        let [curve] := params | none
        guard (curve.tag == 0x06)
        ecKeyOf? (some curve.content) inner.content
      else if oid.content == Oid.rsaEncryption then rsaPrivateOf? inner.content
      else none
    | [] => none
  | _ => none

/-- The public key that goes with the first private key of PEM text. -/
def privateKeyOfPem? (text : String) : Option PublicKey := do
  let wanted := fun l => l == "PRIVATE KEY" || l == "EC PRIVATE KEY" || l == "RSA PRIVATE KEY" ||
    l == "ENCRYPTED PRIVATE KEY"
  let (label, der) ← readPem wanted text
  match label with
  | "PRIVATE KEY" => pkcs8KeyOf? der
  | "EC PRIVATE KEY" => ecKeyOf? none der
  | "RSA PRIVATE KEY" => rsaPrivateOf? der
  | _ => none

/-- Whether a client certificate and key, as PEM text, belong together. -/
def identityMatches (cert key : String) : Bool :=
  match (Certificate.ofPem? cert).bind (subjectKey? ·.spki), privateKeyOfPem? key with
  | some c, some k => c == k
  | _, _ => false

end CqlBridge.Tls
