import TrustedKeyring.Proofs.KeyStore.Counts

/-!
# Releases of a key store

The count of references is only ever read back as such: what a store answers is told by the store
without its counts (`result?_uncounted`).  So releases can be left out of a history, or put in, and
nothing else is answered (`results_eq_of_filter_eq`).
-/

namespace TrustedKeyring.KeyStore

variable {crypto : Crypto} {store other : KeyStore} {handle : Handle}

inductive Query where
  | call (call : Call)
  | publicKey (key : Handle)
  | keyCount (keyring : Handle)
  | keyringName (keyring : Handle)
deriving DecidableEq, Repr

inductive Result where
  | answer (answer : Except Errno Handle)
  | publicKey (key : Option PublicKey)
  | keyCount (count : Nat)
  | keyringName (name : Option String)

def Query.isRelease : Query → Bool
  | .call (.release _) => true
  | _ => false

def result? (crypto : Crypto) (store : KeyStore) : Query → Option Result
  | .call (.openKeyring name) => some (.answer (store.openKeyring name).1)
  | .call (.search keyring kind description byEnd) =>
    some (.answer (store.search keyring kind description byEnd).1)
  | .call (.release _) => none
  | .call (.add keyring kind payload) => some (.answer (store.add crypto keyring kind payload).1)
  | .publicKey key => some (.publicKey (store.publicKey? key))
  | .keyCount keyring => some (.keyCount (store.keyCount keyring))
  | .keyringName keyring => some (.keyringName (store.keyringName? keyring))

def afterQuery (crypto : Crypto) (store : KeyStore) : Query → KeyStore
  | .call call => store.afterCall crypto call
  | _ => store

def results (crypto : Crypto) (store : KeyStore) : List Query → List Result
  | [] => []
  | query :: queries =>
    (store.result? crypto query).toList ++ results crypto (store.afterQuery crypto query) queries

/-! ## Without the counts -/

def uncounted (store : KeyStore) : KeyStore :=
  { store with entries := store.entries.map (StoreEntry.recount fun _ => 0) }

theorem get?_uncounted (store : KeyStore) (handle : Handle) :
    store.uncounted.get? handle = (store.get? handle).map (StoreEntry.recount fun _ => 0) := by
  obtain ⟨value⟩ := handle
  cases value with
  | zero => rfl
  | succ index => exact List.getElem?_map

theorem sameContents_uncounted (store : KeyStore) : SameContents store store.uncounted := by
  intro handle
  simp only [members, identifier?, publicKey?, get?_uncounted]
  cases store.get? handle with
  | none => exact ⟨rfl, rfl, rfl⟩
  | some entry => cases entry <;> exact ⟨rfl, rfl, rfl⟩

theorem keyringName?_uncounted (store : KeyStore) (handle : Handle) :
    store.uncounted.keyringName? handle = store.keyringName? handle := by
  unfold keyringName?
  rw [get?_uncounted]
  cases store.get? handle with
  | none => rfl
  | some entry => cases entry <;> rfl

/-- Stores are the same without their counts if their entries are. -/
theorem uncounted_eq (hnames : store.names = other.names)
    (hget : ∀ handle, (store.get? handle).map (StoreEntry.recount fun _ => 0) =
      (other.get? handle).map (StoreEntry.recount fun _ => 0)) :
    store.uncounted = other.uncounted := by
  have hsame : store.uncounted.names = other.uncounted.names := hnames
  apply eq_of_get?_eq hsame
  intro handle
  rw [get?_uncounted, get?_uncounted, hget]

theorem uncounted_uncounted (store : KeyStore) : store.uncounted.uncounted = store.uncounted := by
  have hnames : store.uncounted.names = store.names := rfl
  apply uncounted_eq hnames
  intro handle
  rw [get?_uncounted]
  cases store.get? handle with
  | none => rfl
  | some entry => cases entry <;> rfl

theorem uncounted_update_recount (store : KeyStore) (key : Handle) (f : Nat → Nat) :
    (store.update key (StoreEntry.recount f)).uncounted = store.uncounted := by
  apply uncounted_eq (names_update store key _)
  intro handle
  rw [get?_update]
  by_cases hkey : handle = key
  · rw [if_pos hkey]
    cases store.get? handle with
    | none => rfl
    | some entry => cases entry <;> rfl
  · rw [if_neg hkey]

theorem allocate_fst_uncounted (store : KeyStore) (entry : StoreEntry) :
    (store.uncounted.allocate entry).1 = (store.allocate entry).1 := by
  simp only [uncounted, allocate, List.length_map]

/-! ## Calls without the counts -/

theorem openKeyring_uncounted (store : KeyStore) (name : String) :
    (store.uncounted.openKeyring name).1 = (store.openKeyring name).1 ∧
      (store.uncounted.openKeyring name).2.uncounted = (store.openKeyring name).2.uncounted := by
  have hnames : store.uncounted.names = store.names := rfl
  unfold openKeyring
  rw [hnames]
  by_cases hname : name = ""
  · rw [if_pos hname, if_pos hname]
    exact ⟨rfl, uncounted_uncounted store⟩
  · rw [if_neg hname, if_neg hname]
    cases store.names.lookup name with
    | some handle => exact ⟨rfl, uncounted_uncounted store⟩
    | none =>
      have hhandle := store.allocate_fst_uncounted (.keyring name [])
      refine ⟨congrArg Except.ok hhandle, uncounted_eq ?_ ?_⟩
      · exact congrArg (fun handle => (name, handle) :: store.names) hhandle
      · intro handle
        rw [get?_opened, get?_opened, hhandle]
        by_cases hnew : handle = (store.allocate (.keyring name [])).1
        · rw [if_pos hnew, if_pos hnew]
        · rw [if_neg hnew, if_neg hnew, ← get?_uncounted, ← get?_uncounted, uncounted_uncounted]

theorem search_uncounted (store : KeyStore) (keyring : Handle) (kind : KeyKind)
    (description : String) (byEnd : Bool) :
    (store.uncounted.search keyring kind description byEnd).1 =
        (store.search keyring kind description byEnd).1 := by
  have hselects : store.uncounted.selects description byEnd = store.selects description byEnd := by
    funext handle
    rw [selects, (sameContents_uncounted store handle).2.1]
    rfl
  unfold search
  rw [(sameContents_uncounted store keyring).1, hselects]
  cases store.members keyring with
  | error errno => rfl
  | ok members =>
    dsimp only
    by_cases hkind : kind ≠ .asymmetric
    · rw [if_pos hkind, if_pos hkind]
    · rw [if_neg hkind, if_neg hkind]
      cases members.find? (store.selects description byEnd) <;> rfl

/-- A search only counts. -/
theorem uncounted_search (store : KeyStore) (keyring : Handle) (kind : KeyKind)
    (description : String) (byEnd : Bool) :
    (store.search keyring kind description byEnd).2.uncounted = store.uncounted := by
  rcases store.search_eq keyring kind description byEnd with ⟨errno, heq⟩ | ⟨key, _, -, heq⟩
  · rw [heq]
  · rw [heq]
    dsimp only
    rw [takeReference_eq, uncounted_update_recount]

theorem link_uncounted {keyring : Handle} {members : List Handle}
    (hmembers : store.members keyring = .ok members) (identifier : Bytes) (publicKey : PublicKey) :
    (store.uncounted.link keyring identifier publicKey).1 =
        (store.link keyring identifier publicKey).1 ∧
      (store.uncounted.link keyring identifier publicKey).2.uncounted =
        (store.link keyring identifier publicKey).2.uncounted := by
  have hhandle : (store.uncounted.link keyring identifier publicKey).1 =
      (store.link keyring identifier publicKey).1 :=
    store.allocate_fst_uncounted (.key identifier publicKey 1)
  refine ⟨hhandle, uncounted_eq ?_ ?_⟩
  · rw [names_link, names_link]
    rfl
  · intro handle
    have hmembers' := (sameContents_uncounted store keyring).1.trans hmembers
    obtain ⟨name, hkeyring, hget⟩ := get?_link hmembers identifier publicKey handle
    obtain ⟨name', hkeyring', hget'⟩ := get?_link hmembers' identifier publicKey handle
    have hname : name' = name := by
      rw [get?_uncounted, hkeyring] at hkeyring'
      cases hkeyring'
      rfl
    rw [hget, hget', hhandle, hname]
    by_cases hsame : handle = keyring
    · rw [if_pos hsame, if_pos hsame]
    · rw [if_neg hsame, if_neg hsame]
      by_cases hnew : handle = (store.link keyring identifier publicKey).1
      · rw [if_pos hnew, if_pos hnew]
      · rw [if_neg hnew, if_neg hnew, ← get?_uncounted, ← get?_uncounted, uncounted_uncounted]

theorem add_uncounted (crypto : Crypto) (store : KeyStore) (keyring : Handle) (kind : KeyKind)
    (payload : Bytes) :
    (store.uncounted.add crypto keyring kind payload).1 =
        (store.add crypto keyring kind payload).1 ∧
      (store.uncounted.add crypto keyring kind payload).2.uncounted =
        (store.add crypto keyring kind payload).2.uncounted := by
  have hidentifier : store.uncounted.identifier? = store.identifier? := by
    funext handle
    exact (sameContents_uncounted store handle).2.1
  -- no check of an addition reads a count
  unfold add
  rw [(sameContents_uncounted store keyring).1, hidentifier]
  by_cases hkind : kind ≠ .asymmetric
  · rw [if_pos hkind, if_pos hkind]
    exact ⟨rfl, uncounted_uncounted store⟩
  · rw [if_neg hkind, if_neg hkind]
    rcases material? crypto payload with _ | ⟨identifier, publicKey⟩
    · exact ⟨rfl, uncounted_uncounted store⟩
    · dsimp only
      cases hmembers : store.members keyring with
      | error errno => exact ⟨rfl, uncounted_uncounted store⟩
      | ok members =>
        dsimp only
        by_cases hpresent : (members.any fun member =>
            store.identifier? member == some identifier) = true
        · rw [if_pos hpresent, if_pos hpresent]
          exact ⟨rfl, uncounted_uncounted store⟩
        · rw [if_neg hpresent, if_neg hpresent]
          obtain ⟨hhandle, hlinked⟩ := link_uncounted hmembers identifier publicKey
          exact ⟨congrArg Except.ok hhandle, hlinked⟩

/-! ## Histories -/

theorem result?_uncounted (crypto : Crypto) (store : KeyStore) (query : Query) :
    store.uncounted.result? crypto query = store.result? crypto query := by
  cases query with
  | call call =>
    cases call with
    | openKeyring name => simp only [result?, openKeyring_uncounted]
    | search keyring kind description byEnd => simp only [result?, search_uncounted]
    | release key => rfl
    | add keyring kind payload => simp only [result?, add_uncounted]
  | publicKey key => simp only [result?, (sameContents_uncounted store key).2.2]
  | keyCount keyring => simp only [result?, keyCount, (sameContents_uncounted store keyring).1]
  | keyringName keyring => simp only [result?, keyringName?_uncounted]

theorem uncounted_release (store : KeyStore) (key : Handle) :
    (store.release key).uncounted = store.uncounted := by
  rw [release_eq, uncounted_update_recount]

theorem afterQuery_uncounted (crypto : Crypto) (store : KeyStore) (query : Query) :
    (store.uncounted.afterQuery crypto query).uncounted =
      (store.afterQuery crypto query).uncounted := by
  cases query with
  | call call =>
    cases call with
    | openKeyring name => exact (openKeyring_uncounted store name).2
    | search keyring kind description byEnd =>
      simp only [afterQuery, afterCall, uncounted_search, uncounted_uncounted]
    | release key => simp only [afterQuery, afterCall, uncounted_release, uncounted_uncounted]
    | add keyring kind payload => exact (add_uncounted crypto store keyring kind payload).2
  | _ => exact uncounted_uncounted store

/-- What is answered to a history does not depend on the counts. -/
theorem results_eq_of_uncounted_eq (h : store.uncounted = other.uncounted)
    (queries : List Query) : results crypto store queries = results crypto other queries := by
  induction queries generalizing store other with
  | nil => rfl
  | cons query queries ih =>
    have hresult : store.result? crypto query = other.result? crypto query := by
      rw [← result?_uncounted, h, result?_uncounted]
    have hafter : (store.afterQuery crypto query).uncounted =
        (other.afterQuery crypto query).uncounted := by
      rw [← afterQuery_uncounted, h, afterQuery_uncounted]
    rw [results, results, hresult, ih hafter]

theorem results_filter (crypto : Crypto) (store : KeyStore) (queries : List Query) :
    results crypto store (queries.filter fun query => !query.isRelease) =
      results crypto store queries := by
  induction queries generalizing store with
  | nil => rfl
  | cons query queries ih =>
    cases hrelease : query.isRelease with
    | false =>
      rw [List.filter_cons_of_pos (by rw [hrelease]; rfl), results, results, ih]
    | true =>
      rw [List.filter_cons_of_neg (by rw [hrelease]; simp), ih]
      obtain ⟨key, rfl⟩ : ∃ key, query = .call (.release key) := by
        unfold Query.isRelease at hrelease
        split at hrelease
        · exact ⟨_, rfl⟩
        · cases hrelease
      exact results_eq_of_uncounted_eq (uncounted_release store key).symm queries

/-- Histories that are the same but for their releases are answered alike. -/
theorem results_eq_of_filter_eq {queries queries' : List Query}
    (h : (queries.filter fun query => !query.isRelease) =
      queries'.filter fun query => !query.isRelease) :
    results crypto store queries = results crypto store queries' := by
  rw [← results_filter, h, results_filter]

end TrustedKeyring.KeyStore
