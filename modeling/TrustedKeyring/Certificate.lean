import TrustedKeyring.HashAlgorithm
import TrustedKeyring.Key

/-!
# Signature certificates

A certificate travels with the data it vouches for: a header that names a hash algorithm and a key,
and a signature.  The header comes from untrusted metadata, so its algorithm stays a number until
the algorithm gate has accepted it.
-/

namespace TrustedKeyring

structure Header where
  version : UInt8 := 0
  privilege : UInt8 := 0
  hashNumber : UInt8 := 0
  signatureType : UInt8 := 0
  keyId : KeyId := ⟨0⟩
deriving DecidableEq, Repr

namespace Header

def forAlgorithm (algorithm : HashAlgorithm) (keyId : KeyId) : Header :=
  { hashNumber := algorithm.toByte, keyId := keyId }

def algorithm? (header : Header) : Option HashAlgorithm :=
  HashAlgorithm.ofByte? header.hashNumber

end Header

structure Certificate where
  header : Header := {}
  signature : Bytes := []
deriving DecidableEq, Repr

/-- What a signature primitive is asked to check.  `digestSize` is the length that the caller
declares; the primitive decides whether it fits the digest. -/
structure SignatureQuery where
  digest : Bytes := []
  digestSize : Nat := 0
  algorithm : Option HashAlgorithm := none
  signature : Bytes := []
deriving DecidableEq, Repr

namespace SignatureQuery

def forDigest (digest : Bytes) (digestSize : Nat) : SignatureQuery :=
  { digest := digest, digestSize := digestSize }

def declared? (query : SignatureQuery) : Option Bytes :=
  if query.digestSize ≤ query.digest.length then
    some (query.digest.take query.digestSize)
  else
    none

end SignatureQuery

def HashAlgorithm.ofJson (text : String) : Except Json.Fault HashAlgorithm :=
  Json.document (Json.choice HashAlgorithm.ofTag?) text

end TrustedKeyring
