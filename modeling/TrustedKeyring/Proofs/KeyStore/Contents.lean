import Mathlib.Data.List.Forall2
import TrustedKeyring.KeyStore.Check
import TrustedKeyring.Proofs.KeyStore.Listing

/-!
# Contents of a keyring

What a keyring holds is a list of identifiers with their public keys.  References that are taken or
given back leave it as it is, an addition appends to it, and a search finds its first match.
-/

namespace TrustedKeyring

def StoreEntry.recount (f : Nat → Nat) : StoreEntry → StoreEntry
  | .keyring name members => .keyring name members
  | .key identifier publicKey references => .key identifier publicKey (f references)

namespace KeyStore

variable {store next : KeyStore} {keyring handle : Handle} {entry : Bytes × PublicKey}
  {members : List Handle} {entries : List (Bytes × PublicKey)}

def IsKey (store : KeyStore) (handle : Handle) (entry : Bytes × PublicKey) : Prop :=
  store.identifier? handle = some entry.1 ∧ store.publicKey? handle = some entry.2

/-- The members of the keyring are keys with these identifiers and public keys, in this order. -/
def Holds (store : KeyStore) (keyring : Handle) (entries : List (Bytes × PublicKey)) : Prop :=
  ∃ members, store.members keyring = .ok members ∧ List.Forall₂ store.IsKey members entries

/-- No handle tells the two stores apart but by the references to it. -/
def SameContents (store next : KeyStore) : Prop :=
  ∀ handle, next.members handle = store.members handle ∧
    next.identifier? handle = store.identifier? handle ∧
    next.publicKey? handle = store.publicKey? handle

theorem IsKey.unique {entry' : Bytes × PublicKey} (h : store.IsKey handle entry)
    (h' : store.IsKey handle entry') : entry = entry' := by
  have hidentifier := h.1.symm.trans h'.1
  have hkey := h.2.symm.trans h'.2
  exact Prod.ext (Option.some.inj hidentifier) (Option.some.inj hkey)

/-- What a keyring holds is told by the store. -/
theorem Holds.unique {others : List (Bytes × PublicKey)} (h : store.Holds keyring entries)
    (h' : store.Holds keyring others) : entries = others := by
  obtain ⟨members, hmembers, hkeys⟩ := h
  obtain ⟨members', hmembers', hkeys'⟩ := h'
  obtain rfl : members = members' := Except.ok.inj (hmembers.symm.trans hmembers')
  clear hmembers hmembers'
  induction hkeys generalizing others with
  | nil =>
    cases hkeys'
    rfl
  | cons hkey _ ih =>
    cases hkeys' with
    | cons hkey' hrest => rw [hkey.unique hkey', ih hrest]

theorem sameContents_refl (store : KeyStore) : SameContents store store :=
  fun _ => ⟨rfl, rfl, rfl⟩

theorem SameContents.trans {last : KeyStore} (h : SameContents store next)
    (h' : SameContents next last) : SameContents store last := by
  intro handle
  rcases h handle with ⟨hmembers, hidentifier, hkey⟩
  rcases h' handle with ⟨hmembers', hidentifier', hkey'⟩
  exact ⟨hmembers'.trans hmembers, hidentifier'.trans hidentifier, hkey'.trans hkey⟩

theorem SameContents.isKey (hsame : SameContents store next) (h : store.IsKey handle entry) :
    next.IsKey handle entry := by
  rcases hsame handle with ⟨-, hidentifier, hkey⟩
  exact ⟨hidentifier.trans h.1, hkey.trans h.2⟩

theorem SameContents.holds (hsame : SameContents store next) (h : store.Holds keyring entries) :
    next.Holds keyring entries := by
  rcases h with ⟨members, hmembers, hkeys⟩
  exact ⟨members, (hsame keyring).1.trans hmembers, hkeys.imp fun _ _ => hsame.isKey⟩

theorem sameContents_update_recount (store : KeyStore) (handle : Handle) (f : Nat → Nat) :
    SameContents store (store.update handle (StoreEntry.recount f)) := by
  intro other
  simp only [members, identifier?, publicKey?, get?_update]
  by_cases hother : other = handle
  · rw [if_pos hother]
    cases store.get? other with
    | none => exact ⟨rfl, rfl, rfl⟩
    | some entry => cases entry <;> exact ⟨rfl, rfl, rfl⟩
  · rw [if_neg hother]
    exact ⟨rfl, rfl, rfl⟩

theorem sameContents_takeReference (store : KeyStore) (handle : Handle) :
    SameContents store (store.takeReference handle) := by
  have htake : store.takeReference handle =
      store.update handle (StoreEntry.recount fun references => references + 1) :=
    congrArg (store.update handle) (funext fun entry => by cases entry <;> rfl)
  rw [htake]
  exact sameContents_update_recount store handle _

theorem sameContents_release (store : KeyStore) (handle : Handle) :
    SameContents store (store.release handle) := by
  have hrelease : store.release handle =
      store.update handle (StoreEntry.recount fun references => references - 1) :=
    congrArg (store.update handle) (funext fun entry => by cases entry <;> rfl)
  rw [hrelease]
  exact sameContents_update_recount store handle _

theorem get?_eq_of_members (h : store.members keyring = .ok members) :
    ∃ name, store.get? keyring = some (.keyring name members) := by
  unfold KeyStore.members at h
  split at h
  next name others hget =>
    cases h
    exact ⟨name, hget⟩
  next => cases h

/-- A handle that is no keyring's has no members, for this reason alone. -/
theorem errno_of_members {errno : Errno} (h : store.members keyring = .error errno) :
    errno = Errno.ENOTDIR := by
  unfold KeyStore.members at h
  split at h
  · cases h
  · exact (Except.error.inj h).symm

theorem IsKey.get?_eq (h : store.IsKey handle entry) :
    ∃ references, store.get? handle = some (.key entry.1 entry.2 references) := by
  rcases h with ⟨hidentifier, hkey⟩
  unfold identifier? at hidentifier
  unfold publicKey? at hkey
  cases hget : store.get? handle with
  | none => rw [hget] at hkey; cases hkey
  | some found =>
    rw [hget] at hidentifier hkey
    cases found with
    | keyring => cases hkey
    | key identifier publicKey references =>
      cases hidentifier
      cases hkey
      exact ⟨references, rfl⟩

/-- The handle of a new entry is one that the store has not given out. -/
theorem get?_allocated (store : KeyStore) (entry : StoreEntry) :
    store.get? (store.allocate entry).1 = none :=
  List.getElem?_eq_none (Nat.le_refl _)

/-- A linked key goes to the end of its keyring. -/
theorem holds_link (h : store.Holds keyring entries) (identifier : Bytes) (publicKey : PublicKey) :
    (store.link keyring identifier publicKey).2.Holds keyring
      (entries ++ [(identifier, publicKey)]) := by
  rcases h with ⟨members, hmembers, hkeys⟩
  rcases get?_eq_of_members hmembers with ⟨name, hkeyring⟩
  have hunused := get?_allocated store (.key identifier publicKey 1)
  have hfresh : keyring ≠ (store.allocate (.key identifier publicKey 1)).1 := by
    intro heq
    rw [heq, hunused] at hkeyring
    cases hkeyring
  refine ⟨members ++ [(store.allocate (.key identifier publicKey 1)).1], ?_, ?_⟩
  · simp only [KeyStore.members, link, get?_update, if_true, get?_allocate, if_neg hfresh, hkeyring,
      Option.map_some]
  · apply List.rel_append
    -- an old member is neither the new key nor the keyring
    · refine hkeys.imp fun member entry hkey => ?_
      rcases hkey.get?_eq with ⟨references, hget⟩
      have hold : member ≠ (store.allocate (.key identifier publicKey 1)).1 := by
        intro heq
        rw [heq, hunused] at hget
        cases hget
      have hother : member ≠ keyring := by
        intro heq
        rw [heq, hkeyring] at hget
        cases hget
      simp only [IsKey, identifier?, publicKey?, link, get?_update, if_neg hother, get?_allocate,
        if_neg hold, hget, and_self]
    · refine List.Forall₂.cons ?_ List.Forall₂.nil
      simp only [IsKey, identifier?, publicKey?, link, get?_update, if_neg hfresh.symm,
        get?_allocate, if_true, and_self]

end KeyStore

end TrustedKeyring
