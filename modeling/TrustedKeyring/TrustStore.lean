import TrustedKeyring.KeyStore.Check
import TrustedKeyring.Verifier

/-!
# Trust stores

A trust anchor with a key store of its own, for hosts that only add certificates and verify
digests.  Errors are an error number and a text.
-/

namespace TrustedKeyring

structure TrustStore where
  verifier : Verifier
  world : World KeyStore

namespace TrustStore

structure Error where
  code : Int32
  message : String
deriving DecidableEq, Repr

def Error.ofRefusal (error : Refusal) : Error :=
  ⟨error.errno.code, error.message?.getD ""⟩

def outcome {α : Type} (result : Outcome Refusal α) : Outcome Error α :=
  result.mapError fun
    | .error error => .error (Error.ofRefusal error)
    | .panic message => .panic message

def collaborators (crypto : Crypto) : Collaborators KeyStore :=
  ⟨KeyStore.service crypto, KeyStore.primitive crypto⟩

def perform {α : Type} (crypto : Crypto) (store : TrustStore) (operation : Operation α) :
    Outcome Error α × TrustStore :=
  let run := operation.run (collaborators crypto) store.world
  (outcome run.outcome, { store with world := run.world })

def new (crypto : Crypto) (keyringName : Option String) : Outcome Error TrustStore :=
  let config : Config :=
    match keyringName with
    | some name => ⟨name⟩
    | none => {}
  match Verifier.ofAnchor config {} with
  | .error error => .error (.error (Error.ofRefusal error))
  | .ok verifier =>
    let store : TrustStore := ⟨verifier, ⟨{}, {}⟩⟩
    match store.perform crypto verifier.load with
    | (.error failure, _) => .error failure
    | (.ok _, store) => .ok store

def addCertificate (crypto : Crypto) (store : TrustStore) (data : Bytes) :
    Outcome Error Unit × TrustStore :=
  store.perform crypto (store.verifier.provision data)

def verify (crypto : Crypto) (store : TrustStore) (certificate : Certificate) (digest : Bytes) :
    Outcome Error Int32 × TrustStore :=
  store.perform crypto (store.verifier.verify certificate digest digest.length)

def keyDescription (identifier : UInt32) : String :=
  TrustedKeyring.keyDescription identifier

def isKnownAlgorithm (number : UInt8) : Bool :=
  HashAlgorithm.isKnown number

def certificateKeyId (crypto : Crypto) (data : Bytes) : Except Error UInt32 :=
  match crypto.certificateKeyId data with
  | .error error => .error (Error.ofRefusal error)
  | .ok id => .ok id.value

end TrustStore

end TrustedKeyring
