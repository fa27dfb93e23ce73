import TrustedKeyring.Crypto.Sha1
import TrustedKeyring.Refusal
import TrustedKeyring.Key
import TrustedKeyring.Pem
import TrustedKeyring.X509

/-!
# Cryptography of a key store

A key store reads certificates, names keys by a digest and checks signatures.  It takes the
functions for this as they are given; `Crypto.standard` has them as the standards define them.
-/

namespace TrustedKeyring

structure Crypto where
  readX509 : Bytes → Option X509
  /-- Reads the first X.509 certificate of an armoured text. -/
  readPem : Bytes → Option X509
  fingerprint : Bytes → Bytes
  /-- Whether a signature is one of a digest; nothing if the question has no answer. -/
  verify : PublicKey → HashAlgorithm → Bytes → Bytes → Option Bool

namespace Crypto

def standard : Crypto where
  readX509 := X509.read
  readPem text := (Pem.certificate? text).bind X509.read
  fingerprint := Sha1.digest
  verify := PublicKey.verify?

def readCertificate (crypto : Crypto) (data : Bytes) : Option X509 :=
  if Pem.isArmoured data then crypto.readPem data else crypto.readX509 data

/-- The identifier of a certificate's key: the subject key identifier, or else the fingerprint of
the public key. -/
def keyIdentifier? (crypto : Crypto) (certificate : X509) : Option Bytes :=
  match certificate.subjectKeyId with
  | some id => some id
  | none => certificate.publicKey.map fun key => crypto.fingerprint key.encode

def shortKeyId (identifier : Bytes) : KeyId :=
  ⟨UInt32.ofNat (Bytes.toNat (identifier.drop (identifier.length - 4)))⟩

def certificateKeyId (crypto : Crypto) (data : Bytes) : Except Refusal KeyId :=
  match crypto.readCertificate data with
  | none => .error (.invalidArgument "malformed X.509 certificate")
  | some certificate =>
    match crypto.keyIdentifier? certificate with
    | none => .error (.invalidArgument "certificate has no usable public key")
    | some identifier => .ok (shortKeyId identifier)

end Crypto

end TrustedKeyring
