import TrustedKeyring.Hex
import TrustedKeyring.Json.Reader

/-!
# Keys

Handles and types of keys, and the 32-bit identifier by which a certificate names the key that
signed it.  An identifier has two written forms: four octets, most significant first, and the
description under which key services list the key.
-/

namespace TrustedKeyring

/-- A key service's reference to a key or keyring, meaningful only to the service that issued
it. -/
structure Handle where
  value : Nat
deriving DecidableEq, Repr

def Handle.describe (handle : Handle) : String :=
  "KeyHandle(" ++ toString handle.value ++ ")"

inductive KeyKind where
  | asymmetric
  | keyring
deriving DecidableEq, Repr

namespace KeyKind

def name : KeyKind → String
  | asymmetric => "asymmetric"
  | keyring => "keyring"

def ofName? (name : String) : Option KeyKind :=
  [asymmetric, keyring].find? fun kind => kind.name == name

def title : KeyKind → String
  | asymmetric => "Asymmetric"
  | keyring => "Keyring"

def ofJson (text : String) : Except Json.Fault KeyKind :=
  Json.document (Json.choice ofName?) text

end KeyKind

structure KeyId where
  value : UInt32
deriving DecidableEq, Repr

namespace KeyId

def toBytes (id : KeyId) : Bytes :=
  Bytes.ofNat 4 id.value.toNat

def ofBytes (a b c d : UInt8) : KeyId :=
  ⟨UInt32.ofNat (Bytes.toNat [a, b, c, d])⟩

/-- The identifier whose stored octets were loaded into a word with the least significant octet
first. -/
def ofSwapped (word : UInt32) : KeyId :=
  ofBytes word.toUInt8 (word >>> 8).toUInt8 (word >>> 16).toUInt8 (word >>> 24).toUInt8

def description (id : KeyId) : String :=
  "id:" ++ String.ofList (Hex.padded 8 id.value.toNat)

def shown (id : KeyId) : String :=
  "id:" ++ String.ofList (Hex.padded 8 id.value.toNat)

instance : ToString KeyId := ⟨shown⟩

end KeyId

def keyDescription (identifier : UInt32) : String :=
  KeyId.description ⟨identifier⟩

end TrustedKeyring
