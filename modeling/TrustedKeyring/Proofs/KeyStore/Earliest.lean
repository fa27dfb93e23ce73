import TrustedKeyring.Proofs.KeyStore.Digits
import TrustedKeyring.Proofs.KeyStore.Members
import TrustedKeyring.Proofs.TrustStore.Selection

/-!
# Earliest keys

A search of a keyring comes to the earliest of the keys that the description asks for, and counts
one reference more to it; a search that fails leaves the store as it was (`search_finds_earliest`).
-/

namespace TrustedKeyring.KeyStore

variable {crypto : Crypto} {store : KeyStore} {keyring key : Handle} {kind : KeyKind}
  {description : String} {byEnd : Bool} {members : List Handle}

def IsAskedFor (store : KeyStore) (description : String) (byEnd : Bool) (key : Handle) : Prop :=
  ∃ identifier, store.identifier? key = some identifier ∧ AsksFor description byEnd identifier

def IsEarliest (store : KeyStore) (description : String) (byEnd : Bool) (handles : List Handle)
    (key : Handle) : Prop :=
  ∃ earlier later, handles = earlier ++ key :: later ∧
    (∀ other ∈ earlier, ¬store.IsAskedFor description byEnd other) ∧
    store.IsAskedFor description byEnd key

theorem selects_iff (store : KeyStore) (description : String) (byEnd : Bool) (key : Handle) :
    store.selects description byEnd key = true ↔ store.IsAskedFor description byEnd key := by
  unfold selects IsAskedFor
  cases store.identifier? key with
  | none => simp
  | some identifier => simp [isMatch_iff]

theorem find?_selects_eq_some_iff :
    members.find? (store.selects description byEnd) = some key ↔
      store.IsEarliest description byEnd members key := by
  simp only [List.find?_eq_some_iff_append, Bool.not_eq_true', Bool.eq_false_iff, ne_eq,
    selects_iff, IsEarliest]
  constructor
  · rintro ⟨hkey, earlier, later, hmembers, hearlier⟩
    exact ⟨earlier, later, hmembers, hearlier, hkey⟩
  · rintro ⟨earlier, later, hmembers, hearlier, hkey⟩
    exact ⟨hkey, earlier, later, hmembers, hearlier⟩

theorem find?_selects_eq_none_iff :
    members.find? (store.selects description byEnd) = none ↔
      ∀ key ∈ members, ¬store.IsAskedFor description byEnd key := by
  simp only [List.find?_eq_none, selects_iff]

/-- Whether there are members at all is told by the name of the keyring. -/
theorem members_eq_ite (store : KeyStore) (keyring : Handle) :
    store.members keyring =
      if (store.keyringName? keyring).isSome then .ok (store.memberList keyring)
      else .error Errno.ENOTDIR := by
  unfold memberList keyringName? KeyStore.members
  cases store.get? keyring with
  | none => rfl
  | some entry => cases entry <;> rfl

theorem members_of_isSome_keyringName? (h : (store.keyringName? keyring).isSome) :
    store.members keyring = .ok (store.memberList keyring) := by
  rw [members_eq_ite, if_pos h]

/-- Only a keyring has members. -/
theorem isSome_keyringName?_of_mem (h : key ∈ store.memberList keyring) :
    (store.keyringName? keyring).isSome := by
  by_contra hother
  rw [memberList, members_eq_ite, if_neg hother] at h
  cases h

/-! ## Answers -/

/-- A search answers by the kind of the handle, then by the kind of key, and then by the members
of the keyring. -/
theorem search_fst_eq (store : KeyStore) (keyring : Handle) (kind : KeyKind)
    (description : String) (byEnd : Bool) :
    (store.search keyring kind description byEnd).1 =
      if (store.keyringName? keyring).isSome then
        if kind = .asymmetric then
          match (store.memberList keyring).find? (store.selects description byEnd) with
          | none => .error Errno.EAGAIN
          | some key => .ok key
        else .error Errno.EAGAIN
      else .error Errno.ENOTDIR := by
  rw [search, members_eq_ite]
  by_cases hkeyring : (store.keyringName? keyring).isSome = true
  · rw [if_pos hkeyring, if_pos hkeyring]
    by_cases hkind : kind = .asymmetric
    · rw [if_pos hkind]
      simp only [hkind, ne_eq, not_true_eq_false, if_false]
      cases (store.memberList keyring).find? (store.selects description byEnd) <;> rfl
    · rw [if_neg hkind]
      simp only [ne_eq, hkind, not_false_eq_true, if_true]
  · rw [if_neg hkeyring, if_neg hkeyring]

theorem search_fst_eq_ok_iff :
    (store.search keyring kind description byEnd).1 = .ok key ↔
      (store.keyringName? keyring).isSome ∧ kind = .asymmetric ∧
        store.IsEarliest description byEnd (store.memberList keyring) key := by
  rw [search_fst_eq, ← find?_selects_eq_some_iff]
  split_ifs with hkeyring hkind
  · cases (store.memberList keyring).find? (store.selects description byEnd) <;>
      simp [hkeyring, hkind]
  · simp [hkind]
  · simp [hkeyring]

theorem search_fst_eq_notdir_iff :
    (store.search keyring kind description byEnd).1 = .error Errno.ENOTDIR ↔
      store.keyringName? keyring = none := by
  have hother : Errno.EAGAIN ≠ Errno.ENOTDIR := by decide
  rw [search_fst_eq, ← Option.not_isSome_iff_eq_none]
  split_ifs with hkeyring hkind
  · cases (store.memberList keyring).find? (store.selects description byEnd) <;>
      simp [hkeyring, hother]
  · simp [hkeyring, hother]
  · simp [hkeyring]

theorem search_fst_eq_again_iff :
    (store.search keyring kind description byEnd).1 = .error Errno.EAGAIN ↔
      (store.keyringName? keyring).isSome ∧
        (kind ≠ .asymmetric ∨
          ∀ key ∈ store.memberList keyring, ¬store.IsAskedFor description byEnd key) := by
  have hother : Errno.ENOTDIR ≠ Errno.EAGAIN := by decide
  rw [search_fst_eq, ← find?_selects_eq_none_iff]
  split_ifs with hkeyring hkind
  · cases (store.memberList keyring).find? (store.selects description byEnd) <;>
      simp [hkeyring, hkind]
  · simp [hkeyring, hkind]
  · simp [hkeyring, hother]

/-! ## What a search leaves -/

theorem search_snd_of_error {errno : Errno}
    (h : (store.search keyring kind description byEnd).1 = .error errno) :
    (store.search keyring kind description byEnd).2 = store := by
  rcases store.search_eq keyring kind description byEnd with ⟨_, heq⟩ | ⟨found, _, -, heq⟩
  · rw [heq]
  · rw [heq] at h
    cases h

/-- A search that finds a key counts one reference more to it, and that is all it changes. -/
theorem search_snd_of_ok (h : (store.search keyring kind description byEnd).1 = .ok key) :
    ∃ identifier publicKey references,
      store.get? key = some (.key identifier publicKey references) ∧
      (store.search keyring kind description byEnd).2.names = store.names ∧
      ∀ other, (store.search keyring kind description byEnd).2.get? other =
        if other = key then some (.key identifier publicKey (references + 1))
        else store.get? other := by
  rcases store.search_eq keyring kind description byEnd with ⟨_, heq⟩ | ⟨found, entry, hkey, heq⟩
  · rw [heq] at h
    cases h
  · rw [heq] at h ⊢
    cases h
    obtain ⟨references, hget⟩ := hkey.get?_eq
    refine ⟨entry.1, entry.2, references, hget, names_update store key _, ?_⟩
    intro other
    show (store.takeReference key).get? other = _
    rw [takeReference, get?_update]
    by_cases hother : other = key
    · rw [if_pos hother, if_pos hother, hother, hget]
      rfl
    · rw [if_neg hother, if_neg hother]

/-- What a search comes to, after every history of calls.  A handle that is no keyring's is refused,
whatever kind of key is searched; so is then another kind; otherwise the search comes to the
earliest of the keys added to the keyring that the description asks for, if there is one.  That key
has one reference more, and nothing else changes; a refused search changes nothing.  A description
asks for a key by digits of either case only; what asks for all digits asks by the end, too, and so
does every tail of what asks by the end. -/
theorem search_finds_earliest (crypto : Crypto) (calls : List Call) (keyring : Handle)
    (kind : KeyKind) (description : String) (byEnd : Bool) :
    let store := after crypto {} calls
    let added := additions crypto keyring {} calls
    let searched := store.search keyring kind description byEnd
    (searched.1 = .error Errno.ENOTDIR ↔ store.keyringName? keyring = none) ∧
    (searched.1 = .error Errno.EAGAIN ↔ (store.keyringName? keyring).isSome ∧
      (kind ≠ .asymmetric ∨ ∀ key ∈ added, ¬store.IsAskedFor description byEnd key)) ∧
    (∀ key, searched.1 = .ok key ↔ (store.keyringName? keyring).isSome ∧ kind = .asymmetric ∧
      store.IsEarliest description byEnd added key) ∧
    (∀ errno, searched.1 = .error errno → searched.2 = store) ∧
    (∀ key, searched.1 = .ok key → ∃ identifier publicKey references,
      store.get? key = some (.key identifier publicKey references) ∧
      searched.2.names = store.names ∧
      ∀ other, searched.2.get? other =
        if other = key then some (.key identifier publicKey (references + 1))
        else store.get? other) ∧
    (∀ identifier, isMatch identifier description byEnd = true ↔
      AsksFor description byEnd identifier) ∧
    (∀ identifier text, description = "id:" ++ text →
      (∃ c ∈ text.toList, Hex.value? c = none) → isMatch identifier description byEnd = false) ∧
    (∀ identifier, isMatch identifier description false = true →
      isMatch identifier description true = true) ∧
    ∀ identifier head tail, description = "id:" ++ (head ++ tail) → tail ≠ "" →
      isMatch identifier description true = true →
        isMatch identifier ("id:" ++ tail) true = true := by
  intro store added searched
  have hadded : store.memberList keyring = added := memberList_after_empty crypto calls keyring
  rw [← hadded]
  refine ⟨search_fst_eq_notdir_iff, search_fst_eq_again_iff, fun _ => search_fst_eq_ok_iff,
    fun _ => search_snd_of_error, fun _ => search_snd_of_ok,
    fun identifier => isMatch_iff identifier description byEnd, ?_, ?_, ?_⟩
  · rintro identifier text rfl ⟨c, hc, hdigit⟩
    rw [Bool.eq_false_iff, ne_eq, isMatch_iff]
    intro hasks
    have hsome := hasks.isSome_value? hc
    rw [hdigit] at hsome
    cases hsome
  · intro identifier
    rw [isMatch_iff, isMatch_iff]
    exact asksFor_end_of_full
  · rintro identifier head tail rfl htail
    rw [isMatch_iff, isMatch_iff]
    intro hasks
    exact hasks.tail htail

open Shadowing in
/-- Three digits in either case, with which the identifiers of both keys end, find the earlier one;
two of them do so as well, and a letter that is no digit finds nothing. -/
theorem search_finds_earliest_threeDigits :
    let calls : List Call :=
      [.openKeyring ".five", .add ⟨1⟩ .asymmetric first, .add ⟨1⟩ .asymmetric second]
    let store := after Crypto.standard {} calls
    let searched := store.search ⟨1⟩ .asymmetric "id:aFE" true
    searched.1 = .ok ⟨2⟩ ∧
      store.IsEarliest "id:aFE" true (additions Crypto.standard ⟨1⟩ {} calls) ⟨2⟩ ∧
      searched.2.references? ⟨2⟩ = (store.references? ⟨2⟩).map (· + 1) ∧
      searched.2.get? ⟨3⟩ = store.get? ⟨3⟩ ∧
      isMatch [0x01, 0x0B, 0xAD, 0xCA, 0xFE] "id:FE" true = true ∧
      (store.search ⟨1⟩ .asymmetric "id:aGE" true).2 = store ∧
      isMatch [0x01, 0x0B, 0xAD, 0xCA, 0xFE] "id:aGE" true = false := by
  intro calls store searched
  have hfound : searched.1 = .ok ⟨2⟩ := by decide +kernel
  have hrefused : (store.search ⟨1⟩ .asymmetric "id:aGE" true).1 = .error Errno.EAGAIN := by
    decide +kernel
  have hmatch : isMatch [0x01, 0x0B, 0xAD, 0xCA, 0xFE] "id:aFE" true = true := by decide
  obtain ⟨-, -, hok, -, hleft, -, -, -, htail⟩ :=
    search_finds_earliest Crypto.standard calls ⟨1⟩ .asymmetric "id:aFE" true
  obtain ⟨-, -, -, hkept, -, -, hother, -, -⟩ :=
    search_finds_earliest Crypto.standard calls ⟨1⟩ .asymmetric "id:aGE" true
  obtain ⟨-, -, hearliest⟩ := (hok ⟨2⟩).mp hfound
  obtain ⟨identifier, publicKey, references, hget, -, hnext⟩ := hleft ⟨2⟩ hfound
  refine ⟨hfound, hearliest, ?_, ?_, htail _ "a" "FE" (by decide) (by decide) hmatch,
    hkept _ hrefused, hother _ "aGE" (by decide) ⟨'G', by decide, by decide⟩⟩
  · have hcounted := hnext ⟨2⟩
    rw [if_pos rfl] at hcounted
    rw [references?, references?, hcounted, hget]
    rfl
  · have hsame := hnext ⟨3⟩
    rwa [if_neg (by decide)] at hsame

end TrustedKeyring.KeyStore
