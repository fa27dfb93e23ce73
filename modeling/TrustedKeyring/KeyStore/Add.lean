import TrustedKeyring.Crypto
import TrustedKeyring.KeyStore.Search
import TrustedKeyring.KeyService

/-!
# Adding certificates to a key store

A certificate becomes a key of a keyring, under the identifier that its readers compute.  No two
keys of a keyring have the same identifier.
-/

namespace TrustedKeyring

namespace KeyStore

def material? (crypto : Crypto) (payload : Bytes) : Option (Bytes × PublicKey) :=
  match crypto.readCertificate payload with
  | none => none
  | some certificate =>
    match crypto.keyIdentifier? certificate, certificate.publicKey with
    | some identifier, some publicKey => some (identifier, publicKey)
    | _, _ => none

def link (store : KeyStore) (keyring : Handle) (identifier : Bytes) (publicKey : PublicKey) :
    Handle × KeyStore :=
  let (handle, store) := store.allocate (.key identifier publicKey 1)
  (handle, store.update keyring fun
    | .keyring name members => .keyring name (members ++ [handle])
    | entry => entry)

def add (crypto : Crypto) (store : KeyStore) (keyring : Handle) (kind : KeyKind)
    (payload : Bytes) : Except Errno Handle × KeyStore :=
  if kind ≠ .asymmetric then (.error Errno.EINVAL, store)
  else
    -- the payload is read before the keyring is looked up
    match material? crypto payload with
    | none => (.error Errno.EBADMSG, store)
    | some (identifier, publicKey) =>
      match store.members keyring with
      | .error errno => (.error errno, store)
      | .ok members =>
        if members.any fun member => store.identifier? member == some identifier then
          (.error Errno.EEXIST, store)
        else
          let (handle, store) := store.link keyring identifier publicKey
          (.ok handle, store)

/-- The answer of a store as one of a key service; a store does not panic. -/
def reply (answer : Except Errno Handle) : Outcome Errno Handle :=
  answer.mapError .error

def service (crypto : Crypto) : KeyService KeyStore where
  openKeyring name store :=
    let (answer, store) := store.openKeyring name
    (reply answer, store)
  search keyring kind description byEnd store :=
    let (answer, store) := store.search keyring kind description byEnd
    (reply answer, store)
  release handle store := store.release handle
  add keyring kind payload store :=
    let (answer, store) := store.add crypto keyring kind payload
    (reply answer, store)

end KeyStore

end TrustedKeyring
