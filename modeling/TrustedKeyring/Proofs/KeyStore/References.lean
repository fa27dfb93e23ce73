import TrustedKeyring.Proofs.KeyStore.History

/-!
# Counts of references

How the references to each key change in the steps of a key store.
-/

namespace TrustedKeyring.KeyStore

variable {store : KeyStore} {keyring handle : Handle} {entry : Bytes × PublicKey}
  {members : List Handle}

def referenceCount (store : KeyStore) (key : Handle) : Nat :=
  (store.references? key).getD 0

theorem references?_update_recount (store : KeyStore) (handle : Handle) (f : Nat → Nat)
    (key : Handle) :
    (store.update handle (StoreEntry.recount f)).references? key =
      if key = handle then (store.references? key).map f else store.references? key := by
  unfold references?
  rw [get?_update]
  by_cases hkey : key = handle
  · rw [if_pos hkey, if_pos hkey]
    cases store.get? key with
    | none => rfl
    | some found => cases found <;> rfl
  · rw [if_neg hkey, if_neg hkey]

theorem references?_opened (store : KeyStore) (name : String) (names : List (String × Handle))
    (key : Handle) :
    ({ (store.allocate (.keyring name [])).2 with names := names } : KeyStore).references? key =
      store.references? key := by
  unfold references?
  rw [get?_opened]
  by_cases hnew : key = (store.allocate (.keyring name [])).1
  · rw [if_pos hnew, hnew, get?_allocated]
  · rw [if_neg hnew]

/-- A new key has the one reference that it is given out with. -/
theorem references?_link (hmembers : store.members keyring = .ok members) (identifier : Bytes)
    (publicKey : PublicKey) (key : Handle) :
    (store.link keyring identifier publicKey).2.references? key =
      if key = (store.link keyring identifier publicKey).1 then some 1
      else store.references? key := by
  obtain ⟨name, hkeyring, hget⟩ := get?_link hmembers identifier publicKey key
  have hfresh := link_fst_ne hmembers identifier publicKey
  unfold references?
  rw [hget]
  by_cases hsame : key = keyring
  · rw [if_pos hsame, if_neg (by rw [hsame]; exact hfresh.symm), hsame, hkeyring]
  · rw [if_neg hsame]
    by_cases hnew : key = (store.link keyring identifier publicKey).1
    · rw [if_pos hnew, if_pos hnew]
    · rw [if_neg hnew, if_neg hnew]

theorem isSome_references? (h : store.IsKey handle entry) :
    (store.references? handle).isSome := by
  obtain ⟨references, hget⟩ := h.get?_eq
  rw [references?, hget]
  rfl

theorem referenceCount_takeReference (h : store.IsKey handle entry) (key : Handle) :
    (store.takeReference handle).referenceCount key =
      store.referenceCount key + if key = handle then 1 else 0 := by
  unfold referenceCount
  rw [takeReference_eq, references?_update_recount]
  by_cases hkey : key = handle
  · obtain ⟨count, hcount⟩ := Option.isSome_iff_exists.mp (isSome_references? h)
    rw [if_pos hkey, if_pos hkey, hkey, hcount]
    rfl
  · rw [if_neg hkey, if_neg hkey]
    rfl

theorem referenceCount_release (store : KeyStore) (handle key : Handle) :
    (store.release handle).referenceCount key =
      store.referenceCount key - if key = handle then 1 else 0 := by
  unfold referenceCount
  rw [release_eq, references?_update_recount]
  by_cases hkey : key = handle
  · rw [if_pos hkey, if_pos hkey]
    cases store.references? key <;> rfl
  · rw [if_neg hkey, if_neg hkey]
    rfl

theorem referenceCount_link (hmembers : store.members keyring = .ok members) (identifier : Bytes)
    (publicKey : PublicKey) (key : Handle) :
    (store.link keyring identifier publicKey).2.referenceCount key =
      store.referenceCount key +
        if key = (store.link keyring identifier publicKey).1 then 1 else 0 := by
  unfold referenceCount
  rw [references?_link hmembers]
  by_cases hnew : key = (store.link keyring identifier publicKey).1
  · have hunused : store.references? key = none := by
      rw [hnew, references?, get?_link_fst]
    rw [if_pos hnew, if_pos hnew, hunused]
    rfl
  · rw [if_neg hnew, if_neg hnew]
    rfl

end TrustedKeyring.KeyStore
