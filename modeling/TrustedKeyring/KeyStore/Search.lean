import TrustedKeyring.KeyStore.Basic

/-!
# Searching a key store

Keys are listed under `id:` and the hexadecimal digits of their identifier.  A search asks for all
of the digits, or for the ones at the end.
-/

namespace TrustedKeyring

namespace KeyStore

/-- The digits that a key is listed under, at least eight. -/
def listedDigits (identifier : Bytes) : List Char :=
  (Hex.encode identifier).leftpad 8 '0'

def query? (description : String) : Option (List Char) :=
  match description.toList with
  | 'i' :: 'd' :: ':' :: query => some (query.map Char.toLower)
  | _ => none

def isMatch (identifier : Bytes) (description : String) (byEnd : Bool) : Bool :=
  match query? description with
  | none => false
  | some query =>
    if byEnd then !query.isEmpty && query.isSuffixOf (listedDigits identifier)
    else listedDigits identifier == query

def selects (store : KeyStore) (description : String) (byEnd : Bool) (handle : Handle) :
    Bool :=
  match store.identifier? handle with
  | some identifier => isMatch identifier description byEnd
  | none => false

def takeReference (store : KeyStore) (handle : Handle) : KeyStore :=
  store.update handle fun
    | .key identifier publicKey references => .key identifier publicKey (references + 1)
    | entry => entry

def search (store : KeyStore) (keyring : Handle) (kind : KeyKind) (description : String)
    (byEnd : Bool) : Except Errno Handle × KeyStore :=
  match store.members keyring with
  | .error errno => (.error errno, store)
  | .ok members =>
    -- the handle is looked at before the kind of key
    if kind ≠ .asymmetric then (.error Errno.EAGAIN, store)
    else
      match members.find? (store.selects description byEnd) with
      | none => (.error Errno.EAGAIN, store)
      | some handle => (.ok handle, store.takeReference handle)

end KeyStore

end TrustedKeyring
