import TrustedKeyring.CertificateSource
import TrustedKeyring.Config
import TrustedKeyring.TrustAnchor

/-!
# Verification

Finding the key that a certificate names in the trust anchor, checking a digest's signature with
it, and adding certificates to the anchor.  A key that was found is put back whatever becomes of
the check.
-/

namespace TrustedKeyring

def Header.gate (header : Header) : Except Refusal Unit :=
  if HashAlgorithm.isKnown header.hashNumber then .ok ()
  else .error (.unknownAlgorithm header.hashNumber)

def meansNoKey (errno : Errno) : Bool :=
  [Errno.EACCES, Errno.ENOTDIR, Errno.EAGAIN, Errno.ENOKEY].contains errno

/-- Finds the key of an identifier in a keyring.  The caller puts the key back.  Without a keyring
there is no key, and the service is not asked. -/
def findKey (keyring : Option Handle) (id : KeyId) : Operation Handle :=
  match keyring with
  | none => Operation.refuse .noKey
  | some keyring => do
    match ← Operation.perform
        (.search keyring searchedKind id.description searchesByEnd) with
    | .ok key => pure key
    | .error (.error errno) =>
      Operation.refuse (if meansNoKey errno then .noKey else .searchFailed errno)
    | .error (.panic message) => Operation.unwind message

/-- Verifies digests against the keyring of a trust anchor.  A verifier of the shared anchor has an
owner: the key service that the anchor is bound to. -/
structure Verifier where
  config : Config
  owner : Option ServiceId
deriving DecidableEq, Repr

namespace Verifier

def ofShared (config : Config) (owner : ServiceId) : Except Refusal Verifier :=
  config.validate.map fun _ => ⟨config, some owner⟩

def ofAnchor (config : Config) (anchor : TrustAnchor) : Except Refusal Verifier :=
  match config.validate with
  | .error error => .error error
  -- a verifier of the caller's own anchor has no owner to bind the shared one to
  | .ok () => if anchor.isProcess then .error ownerRequired else .ok ⟨config, none⟩

def load (verifier : Verifier) : Operation Handle :=
  TrustAnchor.load verifier.config.keyringName verifier.owner

def keyring (verifier : Verifier) : Operation (Option Handle) :=
  TrustAnchor.peek verifier.config.keyringName verifier.owner

def findKey (verifier : Verifier) (id : KeyId) : Operation Handle := do
  TrustedKeyring.findKey (← verifier.keyring) id

/-- The code with which the signature primitive answers for a digest.  The anchor is loaded before
the header is looked at. -/
def verify (verifier : Verifier) (certificate : Certificate) (digest : Bytes)
    (digestLength : Nat) : Operation Int32 := do
  let _ ← verifier.load
  Operation.ofExcept certificate.header.gate
  let key ← verifier.findKey certificate.header.keyId
  let reply ← Operation.perform
    (.check key (.forDigest digest digestLength) certificate certificate.header)
  -- whatever the reply, a panic included, the key is put back first
  Operation.perform (.release key)
  match reply with
  | .ok code => pure code
  | .error (.panic message) => Operation.unwind message

def provision (verifier : Verifier) (data : Bytes) : Operation Unit := do
  match ← verifier.keyring with
  | none => Operation.refuse (.invalidArgument "trust anchor is not loaded")
  | some keyring =>
    if data.isEmpty then Operation.refuse (.invalidArgument "empty certificate")
    else
      match ← Operation.perform (.add keyring .asymmetric data) with
      | .ok key => Operation.perform (.release key)
      | .error (.error errno) => Operation.refuse (.provisionFailed errno)
      | .error (.panic message) => Operation.unwind message

def provisionFrom (verifier : Verifier) (host : Host) (source : CertificateSource) :
    Operation Unit := do
  verifier.provision (← Operation.ofExcept (source.read host))

end Verifier

def verifyDigest (owner : ServiceId) (certificate : Certificate) (digest : Bytes)
    (digestLength : Nat) : Operation Int32 := do
  let verifier ← Operation.ofExcept (Verifier.ofShared {} owner)
  verifier.verify certificate digest digestLength

end TrustedKeyring
