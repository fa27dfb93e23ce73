import TrustedKeyring.Proofs.KeyStore.Growth

/-!
# Histories of a key store

The calls that a key store answers one after the other.  Each of them counts references anew, makes
a keyring or links a key (`change_of_step`), and what a store shows of its handles changes with that
alone.
-/

namespace TrustedKeyring.KeyStore

variable {crypto : Crypto} {store next : KeyStore} {keyring : Handle} {members : List Handle}

inductive Call where
  | openKeyring (name : String)
  | search (keyring : Handle) (kind : KeyKind) (description : String) (byEnd : Bool)
  | release (key : Handle)
  | add (keyring : Handle) (kind : KeyKind) (payload : Bytes)
deriving DecidableEq, Repr

def afterCall (crypto : Crypto) (store : KeyStore) : Call → KeyStore
  | .openKeyring name => (store.openKeyring name).2
  | .search keyring kind description byEnd => (store.search keyring kind description byEnd).2
  | .release key => store.release key
  | .add keyring kind payload => (store.add crypto keyring kind payload).2

def after (crypto : Crypto) (store : KeyStore) : List Call → KeyStore
  | [] => store
  | call :: calls => after crypto (store.afterCall crypto call) calls

theorem step_afterCall (crypto : Crypto) (store : KeyStore) (call : Call) :
    Step crypto store (store.afterCall crypto call) := by
  cases call with
  | openKeyring name => exact .openKeyring name
  | search keyring kind description byEnd => exact .search keyring kind description byEnd
  | release key => exact .release key
  | add keyring kind payload => exact .add keyring kind payload

theorem steps_after (crypto : Crypto) (store : KeyStore) (calls : List Call) :
    Steps crypto store (store.after crypto calls) := by
  induction calls generalizing store with
  | nil => exact .refl
  | cons call calls ih => exact .head (step_afterCall crypto store call) (ih _)

/-! ## Changes -/

inductive Change (store : KeyStore) : KeyStore → Prop
  | kept : Change store store
  | recounted (key : Handle) (f : Nat → Nat) :
      Change store (store.update key (StoreEntry.recount f))
  | opened {name : String} (hname : name ≠ "") (hnew : store.names.lookup name = none) :
      Change store { (store.allocate (.keyring name [])).2 with
        names := (name, (store.allocate (.keyring name [])).1) :: store.names }
  | linked {keyring : Handle} {members : List Handle} {identifier : Bytes}
      (hmembers : store.members keyring = .ok members) (publicKey : PublicKey)
      (hfresh : ∀ member ∈ members, store.identifier? member ≠ some identifier) :
      Change store (store.link keyring identifier publicKey).2

theorem takeReference_eq (store : KeyStore) (handle : Handle) :
    store.takeReference handle =
      store.update handle (StoreEntry.recount fun references => references + 1) := by
  unfold takeReference
  congr 1
  funext entry
  cases entry <;> rfl

theorem release_eq (store : KeyStore) (handle : Handle) :
    store.release handle =
      store.update handle (StoreEntry.recount fun references => references - 1) := by
  unfold release
  congr 1
  funext entry
  cases entry <;> rfl

theorem change_openKeyring (store : KeyStore) (name : String) :
    store.Change (store.openKeyring name).2 := by
  unfold openKeyring
  by_cases hname : name = ""
  · rw [if_pos hname]
    exact .kept
  · rw [if_neg hname]
    cases hlookup : store.names.lookup name with
    | some handle => exact .kept
    | none => exact .opened hname hlookup

/-- Whatever is asked of a store, it counts references anew, makes a keyring under a name that it
did not have, or links a key whose identifier the keyring did not have. -/
theorem change_of_step (h : Step crypto store next) : store.Change next := by
  cases h with
  | openKeyring name => exact change_openKeyring store name
  | search keyring kind description byEnd =>
    have hsearch := store.search_eq keyring kind description byEnd
    rcases hsearch with ⟨errno, heq⟩ | ⟨key, entry, hkey, heq⟩
    · rw [heq]
      exact .kept
    · rw [heq]
      show store.Change (store.takeReference key)
      rw [takeReference_eq]
      exact .recounted key _
  | release key =>
    rw [release_eq]
    exact .recounted key _
  | add keyring kind payload =>
    have hadd := store.add_eq crypto keyring kind payload
    rcases hadd with ⟨errno, heq⟩ | ⟨members, identifier, publicKey, hmembers, -, hfresh, heq⟩
    · rw [heq]
      exact .kept
    · rw [heq]
      apply Change.linked hmembers publicKey
      intro member hmember hsame
      have hfound := List.any_eq_false.mp hfresh member hmember
      rw [hsame] at hfound
      simp at hfound

/-! ## What a store shows of a handle -/

theorem isSome_get?_iff (store : KeyStore) (handle : Handle) :
    (store.get? handle).isSome ↔ 1 ≤ handle.value ∧ handle.value ≤ store.entries.length := by
  obtain ⟨value⟩ := handle
  cases value with
  | zero => simp [get?]
  | succ index =>
    show (store.entries[index]?).isSome ↔ _
    rw [isSome_getElem?]
    show index < store.entries.length ↔ 1 ≤ index + 1 ∧ index + 1 ≤ store.entries.length
    omega

/-- A store is told by its names and by the entries of its handles. -/
theorem eq_of_get?_eq {other : KeyStore} (hnames : store.names = other.names)
    (hget : ∀ handle, store.get? handle = other.get? handle) : store = other := by
  have hentries : store.entries = other.entries := by
    apply List.ext_getElem?
    intro index
    exact hget ⟨index + 1⟩
  obtain ⟨entries, names⟩ := store
  cases hnames
  cases hentries
  rfl

theorem keyringName?_update_recount (store : KeyStore) (key : Handle) (f : Nat → Nat) :
    (store.update key (StoreEntry.recount f)).keyringName? = store.keyringName? := by
  funext handle
  unfold keyringName?
  rw [get?_update]
  by_cases hkey : handle = key
  · rw [if_pos hkey]
    cases store.get? handle with
    | none => rfl
    | some entry => cases entry <;> rfl
  · rw [if_neg hkey]

theorem names_update (store : KeyStore) (handle : Handle) (f : StoreEntry → StoreEntry) :
    (store.update handle f).names = store.names := by
  unfold update
  split <;> rfl

theorem length_update (store : KeyStore) (handle : Handle) (f : StoreEntry → StoreEntry) :
    (store.update handle f).entries.length = store.entries.length := by
  unfold update
  split
  · rfl
  · exact List.length_modify f _ _

theorem length_le_of_change (h : store.Change next) :
    next.entries.length ≤ store.entries.length + 1 := by
  cases h with
  | kept => exact Nat.le_succ _
  | recounted key f =>
    rw [length_update]
    exact Nat.le_succ _
  | opened => exact Nat.le_of_eq List.length_append
  | linked =>
    rw [link, length_update]
    exact Nat.le_of_eq List.length_append

/-- No call makes more than one entry. -/
theorem length_after_le (crypto : Crypto) (store : KeyStore) (calls : List Call) :
    (store.after crypto calls).entries.length ≤ store.entries.length + calls.length := by
  induction calls generalizing store with
  | nil => exact Nat.le_refl _
  | cons call calls ih =>
    have hcall := length_le_of_change (change_of_step (step_afterCall crypto store call))
    have hrest := ih (store.afterCall crypto call)
    rw [after, List.length_cons]
    omega

theorem get?_opened (store : KeyStore) (name : String) (names : List (String × Handle))
    (handle : Handle) :
    ({ (store.allocate (.keyring name [])).2 with names := names } : KeyStore).get? handle =
      if handle = (store.allocate (.keyring name [])).1 then some (.keyring name [])
      else store.get? handle := by
  rw [← get?_allocate]
  rfl

/-! ### After a keyring is made -/

section Opened

variable (store : KeyStore) (name : String) (names : List (String × Handle)) (handle : Handle)

theorem keyringName?_opened :
    ({ (store.allocate (.keyring name [])).2 with names := names } : KeyStore).keyringName? handle =
      if handle = (store.allocate (.keyring name [])).1 then some name
      else store.keyringName? handle := by
  unfold keyringName?
  rw [get?_opened]
  by_cases hnew : handle = (store.allocate (.keyring name [])).1
  · rw [if_pos hnew, if_pos hnew]
  · rw [if_neg hnew, if_neg hnew]

theorem members_opened :
    ({ (store.allocate (.keyring name [])).2 with names := names } : KeyStore).members handle =
      if handle = (store.allocate (.keyring name [])).1 then .ok []
      else store.members handle := by
  unfold KeyStore.members
  rw [get?_opened]
  by_cases hnew : handle = (store.allocate (.keyring name [])).1
  · rw [if_pos hnew, if_pos hnew]
  · rw [if_neg hnew, if_neg hnew]

theorem identifier?_opened :
    ({ (store.allocate (.keyring name [])).2 with names := names } : KeyStore).identifier? handle =
      store.identifier? handle := by
  unfold identifier?
  rw [get?_opened]
  by_cases hnew : handle = (store.allocate (.keyring name [])).1
  · rw [if_pos hnew, hnew, get?_allocated]
  · rw [if_neg hnew]

end Opened

/-! ### After a key is linked -/

section Linked

variable (hmembers : store.members keyring = .ok members) (identifier : Bytes)
  (publicKey : PublicKey) (handle : Handle)

theorem get?_link_fst (store : KeyStore) (keyring : Handle) (identifier : Bytes)
    (publicKey : PublicKey) : store.get? (store.link keyring identifier publicKey).1 = none :=
  get?_allocated store (.key identifier publicKey 1)

theorem names_link (store : KeyStore) (keyring : Handle) (identifier : Bytes)
    (publicKey : PublicKey) : (store.link keyring identifier publicKey).2.names = store.names :=
  names_update (store.allocate (.key identifier publicKey 1)).2 keyring _

include hmembers

theorem link_fst_ne : (store.link keyring identifier publicKey).1 ≠ keyring := by
  intro heq
  have hunused := get?_link_fst store keyring identifier publicKey
  obtain ⟨name, hkeyring⟩ := get?_eq_of_members hmembers
  rw [heq, hkeyring] at hunused
  cases hunused

theorem keyringName?_link :
    (store.link keyring identifier publicKey).2.keyringName? handle =
      store.keyringName? handle := by
  obtain ⟨name, hkeyring, hget⟩ := get?_link hmembers identifier publicKey handle
  unfold keyringName?
  rw [hget]
  by_cases hhandle : handle = keyring
  · rw [if_pos hhandle, hhandle, hkeyring]
  · rw [if_neg hhandle]
    by_cases hnew : handle = (store.link keyring identifier publicKey).1
    · rw [if_pos hnew, hnew, get?_link_fst]
    · rw [if_neg hnew]

theorem members_link :
    (store.link keyring identifier publicKey).2.members handle =
      if handle = keyring then .ok (members ++ [(store.link keyring identifier publicKey).1])
      else store.members handle := by
  obtain ⟨name, hkeyring, hget⟩ := get?_link hmembers identifier publicKey handle
  unfold KeyStore.members
  rw [hget]
  by_cases hhandle : handle = keyring
  · rw [if_pos hhandle, if_pos hhandle]
  · rw [if_neg hhandle, if_neg hhandle]
    by_cases hnew : handle = (store.link keyring identifier publicKey).1
    · rw [if_pos hnew, hnew, get?_link_fst]
    · rw [if_neg hnew]

theorem identifier?_link :
    (store.link keyring identifier publicKey).2.identifier? handle =
      if handle = (store.link keyring identifier publicKey).1 then some identifier
      else store.identifier? handle := by
  obtain ⟨name, hkeyring, hget⟩ := get?_link hmembers identifier publicKey handle
  have hfresh := link_fst_ne hmembers identifier publicKey
  unfold identifier?
  rw [hget]
  by_cases hhandle : handle = keyring
  · rw [if_pos hhandle, if_neg (by rw [hhandle]; exact hfresh.symm), hhandle, hkeyring]
  · rw [if_neg hhandle]
    by_cases hnew : handle = (store.link keyring identifier publicKey).1
    · rw [if_pos hnew, if_pos hnew]
    · rw [if_neg hnew, if_neg hnew]

end Linked

end TrustedKeyring.KeyStore
