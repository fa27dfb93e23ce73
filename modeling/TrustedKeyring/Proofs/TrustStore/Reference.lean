import TrustedKeyring.TrustStore

/-!
# Trust stores as lists of certificates

What a host can know of a trust store by its answers: the list of the certificates that it has
accepted, the oldest first.
-/

namespace TrustedKeyring

namespace TrustStore

inductive Call where
  | addCertificate (data : Bytes)
  | verify (certificate : Certificate) (digest : Bytes)
deriving DecidableEq, Repr

inductive Answer where
  | added
  | code (code : Int32)
deriving DecidableEq, Repr

def answer (crypto : Crypto) (store : TrustStore) : Call → Outcome Error Answer × TrustStore
  | .addCertificate data =>
    let (result, store) := store.addCertificate crypto data
    (result.map fun _ => .added, store)
  | .verify certificate digest =>
    let (result, store) := store.verify crypto certificate digest
    (result.map .code, store)

def answers (crypto : Crypto) (store : TrustStore) : List Call → List (Outcome Error Answer)
  | [] => []
  | call :: calls =>
    (store.answer crypto call).1 :: answers crypto (store.answer crypto call).2 calls

end TrustStore

/-- The accepted certificates, each by the identifier of its key and the public key. -/
abbrev Accepted := List (Bytes × PublicKey)

namespace Accepted

open TrustStore

def entry? (crypto : Crypto) (data : Bytes) : Option (Bytes × PublicKey) :=
  (crypto.readCertificate data).bind fun certificate =>
    certificate.publicKey.map fun key =>
      (certificate.subjectKeyId.getD (crypto.fingerprint key.encode), key)

def add (crypto : Crypto) (accepted : Accepted) (data : Bytes) :
    Outcome Error Answer × Accepted :=
  if data = [] then (.error (.error ⟨22, "invalid argument: empty certificate"⟩), accepted)
  else
    match entry? crypto data with
    | none => (.error (.error ⟨74, "key provisioning failed: EBADMSG (74)"⟩), accepted)
    | some entry =>
      if entry.1 ∈ accepted.map Prod.fst then
        (.error (.error ⟨17, "key provisioning failed: EEXIST (17)"⟩), accepted)
      else (.ok .added, accepted ++ [entry])

/-- The hashes that signatures are checked over, by their numbers in a header, each with the length
of its digests. -/
def hash? : Nat → Option (HashAlgorithm × Nat)
  | 1 => some (.md5, 16)
  | 2 => some (.sha1, 20)
  | 3 => some (.ripemd160, 20)
  | 4 => some (.sha256, 32)
  | 5 => some (.sha384, 48)
  | 6 => some (.sha512, 64)
  | 7 => some (.sha224, 28)
  | _ => none

def code (crypto : Crypto) (key : PublicKey) (certificate : Certificate) (digest : Bytes) :
    Int32 :=
  match hash? certificate.header.hashNumber.toNat with
  | none => -65
  | some (algorithm, size) =>
    if digest.length ≠ size then -74
    else if crypto.verify key algorithm digest certificate.signature = some true then 0
    else -129

def verify (crypto : Crypto) (accepted : Accepted) (certificate : Certificate) (digest : Bytes) :
    Outcome Error Answer :=
  if 20 ≤ certificate.header.hashNumber then
    .error (.error ⟨65, "unsupported hash algorithm: " ++
      toString certificate.header.hashNumber.toNat⟩)
  else
    match accepted.find? fun entry =>
      Crypto.shortKeyId entry.1 = certificate.header.keyId with
    | none => .error (.error ⟨126, "required key not available"⟩)
    | some entry => .ok (.code (code crypto entry.2 certificate digest))

def answer (crypto : Crypto) (accepted : Accepted) : Call → Outcome Error Answer × Accepted
  | .addCertificate data => accepted.add crypto data
  | .verify certificate digest => (accepted.verify crypto certificate digest, accepted)

def answers (crypto : Crypto) (accepted : Accepted) : List Call → List (Outcome Error Answer)
  | [] => []
  | call :: calls =>
    (accepted.answer crypto call).1 :: answers crypto (accepted.answer crypto call).2 calls

end Accepted

end TrustedKeyring
