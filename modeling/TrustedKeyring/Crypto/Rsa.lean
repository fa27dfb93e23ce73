import TrustedKeyring.Asn1.Writer
import TrustedKeyring.Crypto.Modular
import TrustedKeyring.HashAlgorithm

/-!
# RSA signatures

Checking signatures with the padding of PKCS #1 version 1.5: the signature, raised to the public
exponent, is the digest behind the name of its hash algorithm and a fixed padding.
-/

namespace TrustedKeyring.Rsa

def hashIdentifier? : HashAlgorithm → Option Bytes
  | .md5 => some [0x2A, 0x86, 0x48, 0x86, 0xF7, 0x0D, 0x02, 0x05]
  | .sha1 => some [0x2B, 0x0E, 0x03, 0x02, 0x1A]
  | .ripemd160 => some [0x2B, 0x24, 0x03, 0x02, 0x01]
  | .sha224 => some [0x60, 0x86, 0x48, 0x01, 0x65, 0x03, 0x04, 0x02, 0x04]
  | .sha256 => some [0x60, 0x86, 0x48, 0x01, 0x65, 0x03, 0x04, 0x02, 0x01]
  | .sha384 => some [0x60, 0x86, 0x48, 0x01, 0x65, 0x03, 0x04, 0x02, 0x02]
  | .sha512 => some [0x60, 0x86, 0x48, 0x01, 0x65, 0x03, 0x04, 0x02, 0x03]
  | _ => none

def digestInfo? (algorithm : HashAlgorithm) (digest : Bytes) : Option Bytes :=
  (hashIdentifier? algorithm).map fun identifier =>
    Asn1.writeSequence
      [Asn1.writeSequence [Asn1.writeObjectIdentifier identifier, Asn1.writeNull],
        Asn1.writeOctetString digest]

def padded? (width : Nat) (info : Bytes) : Option Bytes :=
  -- three octets around the padding, which has at least eight
  if info.length + 11 ≤ width then
    some (0x00 :: 0x01 :: List.replicate (width - info.length - 3) 0xFF ++ 0x00 :: info)
  else
    none

/-- The largest modulus that is accepted, and the largest with a long exponent, in bits. -/
def maxModulusBits : Nat := 16384

def longExponentModulusBits : Nat := 3072

def longExponentBits : Nat := 64

def bitCount (n : Nat) : Nat :=
  if n = 0 then 0 else n.log2 + 1

def isUsable (modulus exponent : Nat) : Bool :=
  modulus % 2 == 1 && bitCount modulus ≤ maxModulusBits && exponent < modulus &&
    (bitCount modulus ≤ longExponentModulusBits || bitCount exponent ≤ longExponentBits)

def verify (modulus exponent : Nat) (algorithm : HashAlgorithm) (digest signature : Bytes) :
    Bool :=
  let width := Bytes.octetCount modulus
  match (digestInfo? algorithm digest).bind (padded? width) with
  | none => false
  | some message =>
    signature.length = width && isUsable modulus exponent &&
      Bytes.toNat signature < modulus &&
      Modular.pow modulus (Bytes.toNat signature) exponent == Bytes.toNat message

end TrustedKeyring.Rsa
