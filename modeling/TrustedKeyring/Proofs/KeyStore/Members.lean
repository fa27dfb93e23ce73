import TrustedKeyring.Proofs.KeyStore.Layout

/-!
# Names and members of keyrings

What a key store has come to after a history of calls, read off the calls.  The names of its
keyrings are those that were asked for (`lookup_names_after`), and the members of a keyring are the
keys that were added to it, in this order (`memberList_after`).
-/

namespace TrustedKeyring.KeyStore

variable {crypto : Crypto} {store next : KeyStore} {keyring handle : Handle} {name : String}
  {members : List Handle}

/-! ## Names -/

theorem lookup_names_afterCall (crypto : Crypto) (store : KeyStore) (call : Call)
    (name : String) :
    ((store.afterCall crypto call).names.lookup name).isSome ↔
      (store.names.lookup name).isSome ∨ name ≠ "" ∧ call = .openKeyring name := by
  cases call with
  | openKeyring given =>
    simp only [afterCall, openKeyring, Call.openKeyring.injEq]
    by_cases hgiven : given = ""
    · have hno : ¬(name ≠ "" ∧ given = name) := by
        rintro ⟨hname, rfl⟩
        exact hname hgiven
      rw [if_pos hgiven, or_iff_left hno]
    · rw [if_neg hgiven]
      cases hlookup : store.names.lookup given with
      | some handle =>
        by_cases hname : name = given
        · simp [hname, hlookup]
        · simp [Ne.symm hname]
      | none =>
        show (((given, _) :: store.names).lookup name).isSome ↔ _
        by_cases hname : name = given
        · simp [hname, hgiven]
        · rw [List.lookup_cons, beq_false_of_ne hname]
          simp [Ne.symm hname]
  | search keyring kind description byEnd =>
    rcases store.search_eq keyring kind description byEnd with ⟨errno, heq⟩ | ⟨key, _, -, heq⟩
    · simp [afterCall, heq]
    · simp [afterCall, heq, takeReference, names_update]
  | release key => simp [afterCall, release, names_update]
  | add keyring kind payload =>
    rcases store.add_eq crypto keyring kind payload with ⟨errno, heq⟩ | ⟨_, _, _, -, -, -, heq⟩
    · simp [afterCall, heq]
    · simp [afterCall, heq, names_link]

theorem lookup_names_after (crypto : Crypto) (store : KeyStore) (calls : List Call)
    (name : String) :
    ((store.after crypto calls).names.lookup name).isSome ↔
      (store.names.lookup name).isSome ∨ name ≠ "" ∧ .openKeyring name ∈ calls := by
  induction calls generalizing store with
  | nil => simp [after]
  | cons call calls ih =>
    rw [after, ih, lookup_names_afterCall, List.mem_cons]
    have hcomm : call = .openKeyring name ↔ .openKeyring name = call := eq_comm
    tauto

/-! ## Members -/

def memberList (store : KeyStore) (keyring : Handle) : List Handle :=
  match store.members keyring with
  | .ok members => members
  | .error _ => []

def added? (crypto : Crypto) (store : KeyStore) (keyring : Handle) : Call → Option Handle
  | .add given kind payload =>
    if given = keyring then (store.add crypto keyring kind payload).1.toOption else none
  | _ => none

def additions (crypto : Crypto) (keyring : Handle) (store : KeyStore) : List Call → List Handle
  | [] => []
  | call :: calls =>
    (store.added? crypto keyring call).toList ++
      additions crypto keyring (store.afterCall crypto call) calls

theorem memberList_eq_of_members (hmembers : next.members keyring = store.members keyring) :
    next.memberList keyring = store.memberList keyring := by
  rw [memberList, hmembers]
  rfl

theorem memberList_of_members (hmembers : store.members keyring = .ok members) :
    store.memberList keyring = members := by
  rw [memberList, hmembers]

theorem memberList_eq_nil (hunused : store.get? keyring = none) :
    store.memberList keyring = [] := by
  rw [memberList, KeyStore.members, hunused]

theorem isSome_identifier? (store : KeyStore) (key : Handle) :
    (store.identifier? key).isSome = (store.publicKey? key).isSome := by
  unfold identifier? publicKey?
  cases store.get? key with
  | none => rfl
  | some entry => cases entry <;> rfl

theorem isMember_iff (store : KeyStore) (keyring key : Handle) :
    store.IsMember keyring key ↔ key ∈ store.memberList keyring := by
  unfold IsMember memberList
  cases store.members keyring with
  | ok members => simp
  | error errno => simp

theorem memberList_cases (store : KeyStore) (keyring : Handle) :
    store.memberList keyring = [] ∨ store.members keyring = .ok (store.memberList keyring) := by
  unfold memberList
  cases store.members keyring with
  | ok members => exact .inr rfl
  | error errno => exact .inl rfl

theorem memberList_openKeyring (store : KeyStore) (name : String) (keyring : Handle) :
    (store.openKeyring name).2.memberList keyring = store.memberList keyring := by
  unfold openKeyring
  by_cases hname : name = ""
  · rw [if_pos hname]
  · rw [if_neg hname]
    cases hlookup : store.names.lookup name with
    | some handle => rfl
    | none =>
      have hmembers := members_opened store name
        ((name, (store.allocate (.keyring name [])).1) :: store.names) keyring
      by_cases hnew : keyring = (store.allocate (.keyring name [])).1
      · have hunused : store.get? keyring = none := by rw [hnew, get?_allocated]
        rw [if_pos hnew] at hmembers
        rw [memberList_eq_nil hunused]
        exact memberList_of_members hmembers
      · rw [if_neg hnew] at hmembers
        exact memberList_eq_of_members hmembers

theorem memberList_afterCall (crypto : Crypto) (store : KeyStore) (call : Call)
    (keyring : Handle) :
    (store.afterCall crypto call).memberList keyring =
      store.memberList keyring ++ (store.added? crypto keyring call).toList := by
  cases call with
  | openKeyring name => simpa [added?, afterCall] using memberList_openKeyring store name keyring
  | search given kind description byEnd =>
    have hsearch := store.search_eq given kind description byEnd
    rcases hsearch with ⟨errno, heq⟩ | ⟨key, -, -, heq⟩
    · simp [afterCall, heq, added?]
    · have hsame := (sameContents_takeReference store key keyring).1
      simpa [afterCall, heq, added?] using memberList_eq_of_members hsame
  | release key =>
    have hsame := (sameContents_release store key keyring).1
    simpa [added?, afterCall] using memberList_eq_of_members hsame
  | add given kind payload =>
    have hadd := store.add_eq crypto given kind payload
    rcases hadd with ⟨errno, heq⟩ | ⟨members, identifier, publicKey, hmembers, -, -, heq⟩
    · by_cases hgiven : given = keyring
      · subst hgiven
        simp [afterCall, heq, added?, Except.toOption]
      · simp [afterCall, heq, added?, hgiven]
    · by_cases hgiven : given = keyring
      · subst hgiven
        simp [afterCall, heq, added?, Except.toOption, memberList, members_link hmembers, hmembers]
      · simp [afterCall, heq, added?, memberList, members_link hmembers, hgiven, Ne.symm hgiven]

theorem memberList_after (crypto : Crypto) (store : KeyStore) (calls : List Call)
    (keyring : Handle) :
    (store.after crypto calls).memberList keyring =
      store.memberList keyring ++ additions crypto keyring store calls := by
  induction calls generalizing store with
  | nil => simp [after, additions]
  | cons call calls ih => rw [after, ih, memberList_afterCall, additions, List.append_assoc]

/-- The members of a keyring are the keys that a history has added to it. -/
theorem memberList_after_empty (crypto : Crypto) (calls : List Call) (keyring : Handle) :
    (after crypto {} calls).memberList keyring = additions crypto keyring {} calls := by
  rw [memberList_after, memberList_eq_nil (get?_empty keyring), List.nil_append]

/-! ## Handles that are answered -/

theorem get?_eq_none_of_add {kind : KeyKind} {payload : Bytes}
    (h : (store.add crypto keyring kind payload).1 = .ok handle) : store.get? handle = none := by
  have hadd := store.add_eq crypto keyring kind payload
  rcases hadd with ⟨errno, heq⟩ | ⟨members, identifier, publicKey, -, -, -, heq⟩
  · rw [heq] at h
    cases h
  · rw [heq] at h
    cases h
    exact get?_link_fst store keyring identifier publicKey

theorem Layout.get?_of_openKeyring (hlayout : store.Layout)
    (h : (store.openKeyring name).1 = .ok handle) :
    store.keyringName? handle = some name ∨ store.get? handle = none := by
  unfold openKeyring at h
  by_cases hname : name = ""
  · rw [if_pos hname] at h
    cases h
  · rw [if_neg hname] at h
    cases hlookup : store.names.lookup name with
    | some found =>
      rw [hlookup] at h
      cases h
      exact .inl ((hlayout.named name handle).mp hlookup)
    | none =>
      rw [hlookup] at h
      cases h
      exact .inr (get?_allocated store (.keyring name []))

end TrustedKeyring.KeyStore
