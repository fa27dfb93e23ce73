import TrustedKeyring.Proofs.Deployment.Effect
import TrustedKeyring.Proofs.KeyStore.References

/-!
# Ledgers of a key store

What a call does to the references to a key is told by its answer, and the count follows it
(`references?_afterCall`).  After a history in which no reference was put back that had not been
given out, the count of a key is the number of references that are out (`count_gives_eq`).
-/

namespace TrustedKeyring.KeyStore

variable {crypto : Crypto} {store : KeyStore} {key : Handle}

def effect (crypto : Crypto) (store : KeyStore) (key : Handle) : Call → Effect
  | .openKeyring _ => .neither
  | .search keyring kind description byEnd =>
    if (store.search keyring kind description byEnd).1 = .ok key then .gives else .neither
  | .release returned =>
    if returned = key ∧ (store.references? key).isSome then .returns else .neither
  | .add keyring kind payload =>
    if (store.add crypto keyring kind payload).1 = .ok key then .gives else .neither

def effects (crypto : Crypto) (key : Handle) (store : KeyStore) : List Call → List Effect
  | [] => []
  | call :: calls =>
    store.effect crypto key call :: effects crypto key (store.afterCall crypto call) calls

theorem references?_openKeyring (store : KeyStore) (name : String) (key : Handle) :
    (store.openKeyring name).2.references? key = store.references? key := by
  unfold openKeyring
  by_cases hname : name = ""
  · rw [if_pos hname]
  · rw [if_neg hname]
    cases store.names.lookup name with
    | some handle => rfl
    | none => exact references?_opened store name _ key

section Given

variable {keyring : Handle} {kind : KeyKind}

/-- A key that a search gives has one reference more. -/
theorem references?_of_search {description : String} {byEnd : Bool}
    (h : (store.search keyring kind description byEnd).1 = .ok key) :
    ∃ count, store.references? key = some count ∧
      (store.search keyring kind description byEnd).2.references? key = some (count + 1) := by
  rcases store.search_eq keyring kind description byEnd with ⟨errno, heq⟩ | ⟨found, _, hkey, heq⟩
  · rw [heq] at h
    cases h
  · rw [heq] at h
    cases h
    obtain ⟨count, hcount⟩ := Option.isSome_iff_exists.mp (isSome_references? hkey)
    refine ⟨count, hcount, ?_⟩
    rw [heq]
    dsimp only
    rw [takeReference_eq, references?_update_recount, if_pos rfl, hcount]
    rfl

theorem references?_search {description : String} {byEnd : Bool} :
    (store.search keyring kind description byEnd).2.references? key =
      if (store.search keyring kind description byEnd).1 = .ok key then
        some (store.referenceCount key + 1)
      else store.references? key := by
  by_cases hgiven : (store.search keyring kind description byEnd).1 = .ok key
  · obtain ⟨count, hcount, hnext⟩ := references?_of_search hgiven
    rw [if_pos hgiven, hnext, referenceCount, hcount]
    rfl
  · rw [if_neg hgiven]
    rcases store.search_eq keyring kind description byEnd with ⟨errno, heq⟩ | ⟨found, _, -, heq⟩
    · rw [heq]
    · rw [heq] at hgiven ⊢
      dsimp only
      rw [takeReference_eq, references?_update_recount]
      exact if_neg fun hfound => hgiven (by rw [hfound])

/-- A key that an addition gives was none before, and has one reference. -/
theorem references?_of_add {payload : Bytes}
    (h : (store.add crypto keyring kind payload).1 = .ok key) :
    store.references? key = none ∧
      (store.add crypto keyring kind payload).2.references? key = some 1 := by
  rcases store.add_eq crypto keyring kind payload with
    ⟨errno, heq⟩ | ⟨members, identifier, publicKey, hmembers, -, -, heq⟩
  · rw [heq] at h
    cases h
  · rw [heq] at h
    cases h
    rw [heq]
    dsimp only
    rw [references?_link hmembers, if_pos rfl, references?, get?_link_fst]
    exact ⟨rfl, rfl⟩

theorem references?_add {payload : Bytes} :
    (store.add crypto keyring kind payload).2.references? key =
      if (store.add crypto keyring kind payload).1 = .ok key then
        some (store.referenceCount key + 1)
      else store.references? key := by
  by_cases hgiven : (store.add crypto keyring kind payload).1 = .ok key
  · obtain ⟨hunused, hcount⟩ := references?_of_add hgiven
    rw [if_pos hgiven, hcount, referenceCount, hunused]
    rfl
  · rw [if_neg hgiven]
    rcases store.add_eq crypto keyring kind payload with
      ⟨errno, heq⟩ | ⟨members, identifier, publicKey, hmembers, -, -, heq⟩
    · rw [heq]
    · rw [heq] at hgiven ⊢
      exact (references?_link hmembers identifier publicKey key).trans
        (if_neg fun hnew => hgiven (by rw [hnew]))

end Given

/-- The references to a handle that a call leaves.  A handle is counted from the call that gives it
out as a new key, and no other call than those that give or return it changes its count. -/
theorem references?_afterCall (crypto : Crypto) (store : KeyStore) (call : Call) (key : Handle) :
    (store.afterCall crypto call).references? key =
      match store.effect crypto key call with
      | .gives => some (store.referenceCount key + 1)
      | .returns => (store.references? key).map (· - 1)
      | .neither => store.references? key := by
  cases call with
  | openKeyring name => exact references?_openKeyring store name key
  | search keyring kind description byEnd =>
    simp only [afterCall, effect, references?_search]
    by_cases hgiven : (store.search keyring kind description byEnd).1 = .ok key
    · rw [if_pos hgiven, if_pos hgiven]
    · rw [if_neg hgiven, if_neg hgiven]
  | release returned =>
    simp only [afterCall, effect, release_eq, references?_update_recount]
    by_cases hreturned : returned = key
    · cases hcount : store.references? key with
      | none => simp [hreturned]
      | some count => simp [hreturned]
    · simp [hreturned, Ne.symm hreturned]
  | add keyring kind payload =>
    simp only [afterCall, effect, references?_add]
    by_cases hgiven : (store.add crypto keyring kind payload).1 = .ok key
    · rw [if_pos hgiven, if_pos hgiven]
    · rw [if_neg hgiven, if_neg hgiven]

theorem referenceCount_afterCall (crypto : Crypto) (store : KeyStore) (call : Call)
    (key : Handle) :
    (store.afterCall crypto call).referenceCount key =
      (store.effect crypto key call).recount (store.referenceCount key) := by
  rw [referenceCount, references?_afterCall]
  cases store.effect crypto key call with
  | gives => rfl
  | returns =>
    rw [referenceCount]
    cases store.references? key <;> rfl
  | neither => rfl

theorem referenceCount_after (crypto : Crypto) (store : KeyStore) (calls : List Call)
    (key : Handle) :
    (store.after crypto calls).referenceCount key =
      (effects crypto key store calls).foldl Effect.recount (store.referenceCount key) := by
  induction calls generalizing store with
  | nil => rfl
  | cons call calls ih => rw [after, ih, referenceCount_afterCall, effects, List.foldl_cons]

/-- The references that were given out have been returned or are counted, if no more were returned
at any point than had been given out. -/
theorem count_gives_eq (calls : List Call)
    (h : ∀ n, ((effects crypto key {} calls).take n).count .returns ≤
      ((effects crypto key {} calls).take n).count .gives) :
    (effects crypto key {} calls).count .gives =
      (effects crypto key {} calls).count .returns +
        (after crypto {} calls).referenceCount key := by
  have hnone : referenceCount {} key = 0 := by
    rw [referenceCount, references?, get?_empty]
    rfl
  have hpaid : ∀ n, ((effects crypto key {} calls).take n).count .returns ≤
      0 + ((effects crypto key {} calls).take n).count .gives := by
    simpa only [Nat.zero_add] using h
  obtain ⟨left, hsettle⟩ := Effect.exists_settle hpaid
  have hcount := Effect.count_eq_of_settle hsettle
  rw [referenceCount_after, hnone, Effect.foldl_recount_of_settle hsettle]
  omega

/-- Only a key has references to put back. -/
theorem release_eq_self (h : store.references? key = none) : store.release key = store := by
  rw [release_eq]
  apply eq_of_get?_eq (names_update store key _)
  intro handle
  rw [get?_update]
  by_cases hkey : handle = key
  · rw [if_pos hkey, hkey]
    unfold references? at h
    cases hget : store.get? key with
    | none => rfl
    | some entry =>
      cases entry with
      | keyring name members => rfl
      | key identifier publicKey references =>
        rw [hget] at h
        cases h
  · rw [if_neg hkey]

end TrustedKeyring.KeyStore
