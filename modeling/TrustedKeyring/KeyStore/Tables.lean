import Mathlib.Tactic.Common
import TrustedKeyring.KeyStore.Add

/-!
# Tables of a key store

How a key store is kept: the number of handles that were given out, the keyrings by their names and
the entries by their handles.  A call changes one table after the other.  Nothing but the order of
its changes keeps a handle from being given out twice, a name from leading nowhere, or a keyring
from having a member without an entry.
-/

namespace TrustedKeyring

instance : Hashable Handle := ⟨fun handle => hash handle.value⟩

structure KeyTables where
  next : Nat := 0
  byName : Std.HashMap String Handle := {}
  entries : Std.HashMap Handle StoreEntry := {}

namespace KeyTables

def allocate (tables : KeyTables) (entry : StoreEntry) : Handle × KeyTables :=
  let handle : Handle := ⟨tables.next + 1⟩
  (handle,
    { tables with next := tables.next + 1, entries := tables.entries.insert handle entry })

def modify (tables : KeyTables) (handle : Handle) (f : StoreEntry → StoreEntry) : KeyTables :=
  { tables with entries := tables.entries.modify handle f }

def members (tables : KeyTables) (keyring : Handle) : Except Errno (List Handle) :=
  match tables.entries[keyring]? with
  | some (.keyring _ members) => .ok members
  | _ => .error Errno.ENOTDIR

def publicKey? (tables : KeyTables) (handle : Handle) : Option PublicKey :=
  match tables.entries[handle]? with
  | some (.key _ publicKey _) => some publicKey
  | _ => none

def references? (tables : KeyTables) (handle : Handle) : Option Nat :=
  match tables.entries[handle]? with
  | some (.key _ _ references) => some references
  | _ => none

def identifier? (tables : KeyTables) (handle : Handle) : Option Bytes :=
  match tables.entries[handle]? with
  | some (.key identifier _ _) => some identifier
  | _ => none

def keyCount (tables : KeyTables) (keyring : Handle) : Nat :=
  match tables.members keyring with
  | .ok members => members.length
  | .error _ => 0

def keyringName? (tables : KeyTables) (keyring : Handle) : Option String :=
  match tables.entries[keyring]? with
  | some (.keyring name _) => some name
  | _ => none

def openKeyring (tables : KeyTables) (name : String) : Except Errno Handle × KeyTables :=
  if name = "" then (.error Errno.EINVAL, tables)
  else
    match tables.byName[name]? with
    | some handle => (.ok handle, tables)
    | none =>
      -- the keyring is entered before its name leads to it
      let (handle, tables) := tables.allocate (.keyring name [])
      (.ok handle, { tables with byName := tables.byName.insert name handle })

def selects (tables : KeyTables) (description : String) (byEnd : Bool) (handle : Handle) : Bool :=
  match tables.identifier? handle with
  | some identifier => KeyStore.isMatch identifier description byEnd
  | none => false

def search (tables : KeyTables) (keyring : Handle) (kind : KeyKind) (description : String)
    (byEnd : Bool) : Except Errno Handle × KeyTables :=
  match tables.members keyring with
  | .error errno => (.error errno, tables)
  | .ok members =>
    if kind ≠ .asymmetric then (.error Errno.EAGAIN, tables)
    else
      match members.find? (tables.selects description byEnd) with
      | none => (.error Errno.EAGAIN, tables)
      | some handle =>
        (.ok handle, tables.modify handle fun
          | .key identifier publicKey references => .key identifier publicKey (references + 1)
          | entry => entry)

def release (tables : KeyTables) (handle : Handle) : KeyTables :=
  tables.modify handle fun
    | .key identifier publicKey references => .key identifier publicKey (references - 1)
    | entry => entry

def add (crypto : Crypto) (tables : KeyTables) (keyring : Handle) (kind : KeyKind)
    (payload : Bytes) : Except Errno Handle × KeyTables :=
  if kind ≠ .asymmetric then (.error Errno.EINVAL, tables)
  else
    match KeyStore.material? crypto payload with
    | none => (.error Errno.EBADMSG, tables)
    | some (identifier, publicKey) =>
      match tables.members keyring with
      | .error errno => (.error errno, tables)
      | .ok members =>
        if members.any fun member => tables.identifier? member == some identifier then
          (.error Errno.EEXIST, tables)
        else
          -- the key is entered first, and only then listed in the keyring
          let (handle, tables) := tables.allocate (.key identifier publicKey 1)
          (.ok handle, tables.modify keyring fun
            | .keyring name members => .keyring name (members ++ [handle])
            | entry => entry)

end KeyTables

end TrustedKeyring
