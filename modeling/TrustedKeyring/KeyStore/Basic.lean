import TrustedKeyring.Errno
import TrustedKeyring.Key
import TrustedKeyring.PublicKey

/-!
# Key stores

A key store keeps keyrings and public keys in memory.  Both get their handles in the order in which
they are made, from one upwards; neither is ever removed.
-/

namespace TrustedKeyring

inductive StoreEntry where
  | keyring (name : String) (members : List Handle)
  | key (identifier : Bytes) (publicKey : PublicKey) (references : Nat)
deriving DecidableEq, Repr

structure KeyStore where
  entries : List StoreEntry := []
  names : List (String × Handle) := []
deriving DecidableEq, Repr

namespace KeyStore

def get? (store : KeyStore) (handle : Handle) : Option StoreEntry :=
  match handle.value with
  | 0 => none
  | index + 1 => store.entries[index]?

def update (store : KeyStore) (handle : Handle) (f : StoreEntry → StoreEntry) : KeyStore :=
  match handle.value with
  | 0 => store
  | index + 1 => { store with entries := store.entries.modify index f }

def allocate (store : KeyStore) (entry : StoreEntry) : Handle × KeyStore :=
  (⟨store.entries.length + 1⟩, { store with entries := store.entries ++ [entry] })

theorem get?_allocate (store : KeyStore) (entry : StoreEntry) (handle : Handle) :
    (store.allocate entry).2.get? handle =
      if handle = (store.allocate entry).1 then some entry else store.get? handle := by
  obtain ⟨value⟩ := handle
  cases value with
  | zero => simp [get?, allocate]
  | succ index =>
    simp only [get?, allocate, Handle.mk.injEq, Nat.add_right_cancel_iff]
    split
    next h => simp [h]
    next h =>
      by_cases hlt : index < store.entries.length
      · exact List.getElem?_append_left hlt
      · rw [List.getElem?_eq_none (by simp only [List.length_append, List.length_singleton]; omega),
          List.getElem?_eq_none (by omega)]

theorem get?_update (store : KeyStore) (handle other : Handle) (f : StoreEntry → StoreEntry) :
    (store.update handle f).get? other =
      if other = handle then (store.get? other).map f else store.get? other := by
  obtain ⟨value⟩ := handle
  obtain ⟨otherValue⟩ := other
  cases value with
  | zero => cases otherValue <;> simp [get?, update]
  | succ index =>
    cases otherValue with
    | zero => simp [get?]
    | succ otherIndex =>
      simp only [get?, update, List.getElem?_modify, Handle.mk.injEq,
        Nat.add_right_cancel_iff, eq_comm]
      split <;> simp_all

def members (store : KeyStore) (keyring : Handle) : Except Errno (List Handle) :=
  match store.get? keyring with
  | some (.keyring _ members) => .ok members
  | _ => .error Errno.ENOTDIR

def publicKey? (store : KeyStore) (handle : Handle) : Option PublicKey :=
  match store.get? handle with
  | some (.key _ publicKey _) => some publicKey
  | _ => none

def references? (store : KeyStore) (handle : Handle) : Option Nat :=
  match store.get? handle with
  | some (.key _ _ references) => some references
  | _ => none

def identifier? (store : KeyStore) (handle : Handle) : Option Bytes :=
  match store.get? handle with
  | some (.key identifier _ _) => some identifier
  | _ => none

def keyCount (store : KeyStore) (keyring : Handle) : Nat :=
  match store.members keyring with
  | .ok members => members.length
  | .error _ => 0

def keyringName? (store : KeyStore) (keyring : Handle) : Option String :=
  match store.get? keyring with
  | some (.keyring name _) => some name
  | _ => none

def openKeyring (store : KeyStore) (name : String) : Except Errno Handle × KeyStore :=
  if name = "" then (.error Errno.EINVAL, store)
  else
    match store.names.lookup name with
    | some handle => (.ok handle, store)
    | none =>
      let (handle, store) := store.allocate (.keyring name [])
      (.ok handle, { store with names := (name, handle) :: store.names })

/-- Gives a reference back.  A handle that is not a key's has none. -/
def release (store : KeyStore) (handle : Handle) : KeyStore :=
  store.update handle fun
    | .key identifier publicKey references => .key identifier publicKey (references - 1)
    | entry => entry

end KeyStore

end TrustedKeyring
