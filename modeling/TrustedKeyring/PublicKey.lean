import TrustedKeyring.Asn1.Universal
import TrustedKeyring.Crypto.Ecdsa
import TrustedKeyring.Crypto.Rsa

/-!
# Public keys

Public keys as certificates carry them: an algorithm, its parameters, and a bit string.  A key is
written back in one form.
-/

namespace TrustedKeyring

/-- The algorithms whose keys are plain octet strings of a fixed length.  Signatures are never
checked with them. -/
inductive RawScheme where
  | x25519
  | x448
  | ed25519
  | ed448
deriving DecidableEq, Repr

namespace RawScheme

def all : List RawScheme := [x25519, x448, ed25519, ed448]

def identifier : RawScheme → Bytes
  | x25519 => [0x2B, 0x65, 0x6E]
  | x448 => [0x2B, 0x65, 0x6F]
  | ed25519 => [0x2B, 0x65, 0x70]
  | ed448 => [0x2B, 0x65, 0x71]

def keyLength : RawScheme → Nat
  | x25519 => 32
  | x448 => 56
  | ed25519 => 32
  | ed448 => 57

end RawScheme

def Curve.identifier : Curve → Bytes
  | p256 => [0x2A, 0x86, 0x48, 0xCE, 0x3D, 0x03, 0x01, 0x07]
  | p384 => [0x2B, 0x81, 0x04, 0x00, 0x22]

inductive PublicKey where
  | rsa (modulus exponent : Nat)
  | curvePoint (curve : Curve) (octets : Bytes) (point : Nat × Nat)
  | raw (scheme : RawScheme) (octets : Bytes)
deriving DecidableEq, Repr

namespace PublicKey

def rsaIdentifier : Bytes := [0x2A, 0x86, 0x48, 0x86, 0xF7, 0x0D, 0x01, 0x01, 0x01]

def curveIdentifier : Bytes := [0x2A, 0x86, 0x48, 0xCE, 0x3D, 0x02, 0x01]

def rsa? (octets : Bytes) : Option PublicKey :=
  match Asn1.readElement octets with
  | none => none
  | some (outer, _) =>
    match outer.sequence? with
    -- both numbers are taken for what their octets are without a sign
    | some [modulus, exponent] =>
      match modulus.primitive? .integer, exponent.primitive? .integer with
      | some n, some e => some (rsa (Bytes.toNat n) (Bytes.toNat e))
      | _, _ => none
    | _ => none

def curvePoint? (parameters : Option Asn1.Element) (octets : Bytes) : Option PublicKey :=
  match parameters.bind Asn1.Element.objectIdentifier? with
  | none => none
  | some name =>
    match [Curve.p256, Curve.p384].find? fun curve => curve.identifier == name with
    | none => none
    | some curve => (curve.point? octets).map (curvePoint curve octets)

def ofParts? (identifier : Bytes) (parameters : Option Asn1.Element) (octets : Bytes) :
    Option PublicKey :=
  if identifier = rsaIdentifier then rsa? octets
  else if identifier = curveIdentifier then curvePoint? parameters octets
  else
    match RawScheme.all.find? fun scheme => scheme.identifier == identifier with
    | none => none
    | some scheme =>
      if parameters.isNone ∧ octets.length = scheme.keyLength then some (raw scheme octets)
      else none

def encode : PublicKey → Bytes
  | rsa modulus exponent =>
    Asn1.writeSequence
      [Asn1.writeSequence [Asn1.writeObjectIdentifier rsaIdentifier, Asn1.writeNull],
        Asn1.writeBitString
          (Asn1.writeSequence [Asn1.writeNatural modulus, Asn1.writeNatural exponent])]
  | curvePoint curve octets _ =>
    Asn1.writeSequence
      [Asn1.writeSequence
          [Asn1.writeObjectIdentifier curveIdentifier,
            Asn1.writeObjectIdentifier curve.identifier],
        Asn1.writeBitString octets]
  | raw scheme octets =>
    Asn1.writeSequence
      [Asn1.writeSequence [Asn1.writeObjectIdentifier scheme.identifier],
        Asn1.writeBitString octets]

/-- Whether the signature is one of the digest under this key.  Only RSA signatures depend on the
hash algorithm; a key that cannot check signatures has no answer. -/
def verify? (key : PublicKey) (algorithm : HashAlgorithm) (digest signature : Bytes) :
    Option Bool :=
  match key with
  | rsa modulus exponent => some (Rsa.verify modulus exponent algorithm digest signature)
  | curvePoint curve _ point => some (Ecdsa.verify curve point digest signature)
  | raw _ _ => none

end PublicKey

end TrustedKeyring
