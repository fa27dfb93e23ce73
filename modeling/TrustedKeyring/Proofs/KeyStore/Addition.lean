import TrustedKeyring.Proofs.KeyStore.Earliest

/-!
# Additions to a key store

An addition is refused for the first fault that it has, and then leaves the store as it was, or it
makes a key that is the last member of its keyring and changes nothing else
(`add_all_or_nothing`).
-/

namespace TrustedKeyring.KeyStore

variable {crypto : Crypto} {store : KeyStore} {keyring handle other : Handle} {kind : KeyKind}
  {payload identifier : Bytes} {publicKey : PublicKey} {errno : Errno}

/-- Whether a payload is a certificate with this public key, which goes by this identifier: the
subject key identifier of the certificate, or else the fingerprint of the key. -/
def Provides (crypto : Crypto) (payload identifier : Bytes) (publicKey : PublicKey) : Prop :=
  ∃ certificate, crypto.readCertificate payload = some certificate ∧
    certificate.publicKey = some publicKey ∧
    certificate.subjectKeyId.getD (crypto.fingerprint publicKey.encode) = identifier

def HasMember (store : KeyStore) (keyring : Handle) (identifier : Bytes) : Prop :=
  ∃ member ∈ store.memberList keyring, store.identifier? member = some identifier

/-- The first fault of an addition: the kind of key, a payload without a usable key, a handle that
is no keyring's, or an identifier that the keyring has. -/
inductive FirstFault (crypto : Crypto) (store : KeyStore) (keyring : Handle) (kind : KeyKind)
    (payload : Bytes) : Errno → Prop
  | kind (hkind : kind ≠ .asymmetric) :
      FirstFault crypto store keyring kind payload Errno.EINVAL
  | payload (hkind : kind = .asymmetric)
      (hunusable : ∀ certificate, crypto.readCertificate payload = some certificate →
        certificate.publicKey = none) :
      FirstFault crypto store keyring kind payload Errno.EBADMSG
  | keyring (hkind : kind = .asymmetric) {identifier : Bytes} {publicKey : PublicKey}
      (hprovides : Provides crypto payload identifier publicKey)
      (hnone : store.keyringName? keyring = none) :
      FirstFault crypto store keyring kind payload Errno.ENOTDIR
  | identifier (hkind : kind = .asymmetric) {identifier : Bytes} {publicKey : PublicKey}
      (hprovides : Provides crypto payload identifier publicKey)
      (hpresent : store.HasMember keyring identifier) :
      FirstFault crypto store keyring kind payload Errno.EEXIST

theorem material?_eq_some_iff :
    material? crypto payload = some (identifier, publicKey) ↔
      Provides crypto payload identifier publicKey := by
  rw [Accepted.material?_eq, Accepted.entry?]
  simp only [Option.bind_eq_some_iff, Option.map_eq_some_iff, Prod.mk.injEq]
  constructor
  · rintro ⟨certificate, hread, key, hkey, hidentifier, rfl⟩
    exact ⟨certificate, hread, hkey, hidentifier⟩
  · rintro ⟨certificate, hread, hkey, hidentifier⟩
    exact ⟨certificate, hread, publicKey, hkey, hidentifier, rfl⟩

/-- A payload makes no key if it is no certificate, or one without a usable key, whether it has a
subject key identifier or not. -/
theorem material?_eq_none_iff :
    material? crypto payload = none ↔
      ∀ certificate, crypto.readCertificate payload = some certificate →
        certificate.publicKey = none := by
  rw [Accepted.material?_eq, Accepted.entry?]
  simp only [Option.bind_eq_none_iff, Option.map_eq_none_iff]

theorem any_identifier?_iff (store : KeyStore) (keyring : Handle) (identifier : Bytes) :
    ((store.memberList keyring).any fun member => store.identifier? member == some identifier) =
      true ↔ store.HasMember keyring identifier := by
  simp only [List.any_eq_true, beq_iff_eq, HasMember]

/-! ## Answers -/

section Answers

variable (hprovides : Provides crypto payload identifier publicKey)
include hprovides

theorem add_of_provides (store : KeyStore) (keyring : Handle) :
    store.add crypto keyring .asymmetric payload =
      match store.members keyring with
      | .error errno => (.error errno, store)
      | .ok members =>
        if members.any fun member => store.identifier? member == some identifier then
          (.error Errno.EEXIST, store)
        else
          (.ok (store.link keyring identifier publicKey).1,
            (store.link keyring identifier publicKey).2) := by
  unfold add
  rw [material?_eq_some_iff.mpr hprovides]
  rfl

theorem add_of_not_keyring (hnone : store.keyringName? keyring = none) :
    store.add crypto keyring .asymmetric payload = (.error Errno.ENOTDIR, store) := by
  rw [add_of_provides hprovides, members_eq_ite, hnone]
  rfl

theorem add_of_hasMember (hpresent : store.HasMember keyring identifier) :
    store.add crypto keyring .asymmetric payload = (.error Errno.EEXIST, store) := by
  obtain ⟨member, hmember, -⟩ := id hpresent
  rw [add_of_provides hprovides,
    members_of_isSome_keyringName? (isSome_keyringName?_of_mem hmember)]
  exact if_pos ((any_identifier?_iff store keyring identifier).mpr hpresent)

theorem add_of_not_hasMember (hkeyring : (store.keyringName? keyring).isSome)
    (habsent : ¬store.HasMember keyring identifier) :
    store.add crypto keyring .asymmetric payload =
      (.ok (store.link keyring identifier publicKey).1,
        (store.link keyring identifier publicKey).2) := by
  rw [add_of_provides hprovides, members_of_isSome_keyringName? hkeyring]
  exact if_neg (mt (any_identifier?_iff store keyring identifier).mp habsent)

end Answers

/-- An addition that has a fault is refused for the first one, and leaves the store as it was. -/
theorem FirstFault.add_eq (h : FirstFault crypto store keyring kind payload errno) :
    store.add crypto keyring kind payload = (.error errno, store) := by
  cases h with
  | kind hkind => rw [add, if_pos hkind]
  | payload hkind hunusable =>
    rw [hkind]
    simp only [add, material?_eq_none_iff.mpr hunusable, ne_eq, not_true_eq_false, if_false]
  | keyring hkind hprovides hnone =>
    rw [hkind]
    exact add_of_not_keyring hprovides hnone
  | identifier hkind hprovides hpresent =>
    rw [hkind]
    exact add_of_hasMember hprovides hpresent

/-- An addition without a fault provides a key that its keyring does not have yet. -/
theorem exists_firstFault_or (crypto : Crypto) (store : KeyStore) (keyring : Handle)
    (kind : KeyKind) (payload : Bytes) :
    (∃ errno, FirstFault crypto store keyring kind payload errno) ∨
      kind = .asymmetric ∧ (store.keyringName? keyring).isSome ∧
        ∃ identifier publicKey, Provides crypto payload identifier publicKey ∧
          ¬store.HasMember keyring identifier := by
  by_cases hkind : kind = .asymmetric
  · cases hmaterial : material? crypto payload with
    | none => exact .inl ⟨_, .payload hkind (material?_eq_none_iff.mp hmaterial)⟩
    | some made =>
      have hprovides := material?_eq_some_iff.mp hmaterial
      cases hname : store.keyringName? keyring with
      | none => exact .inl ⟨_, .keyring hkind hprovides hname⟩
      | some name =>
        by_cases hpresent : store.HasMember keyring made.1
        · exact .inl ⟨_, .identifier hkind hprovides hpresent⟩
        · exact .inr ⟨hkind, rfl, made.1, made.2, hprovides, hpresent⟩
  · exact .inl ⟨_, .kind hkind⟩

theorem add_fst_eq_error_iff :
    (store.add crypto keyring kind payload).1 = .error errno ↔
      FirstFault crypto store keyring kind payload errno := by
  constructor
  · intro h
    rcases exists_firstFault_or crypto store keyring kind payload with
      ⟨given, hfault⟩ | ⟨rfl, hkeyring, identifier, publicKey, hprovides, habsent⟩
    · rw [hfault.add_eq] at h
      cases h
      exact hfault
    · rw [add_of_not_hasMember hprovides hkeyring habsent] at h
      cases h
  · intro h
    rw [h.add_eq]

/-- An addition that succeeds links the key that its payload provides. -/
theorem add_of_fst_eq_ok (h : (store.add crypto keyring kind payload).1 = .ok handle) :
    kind = .asymmetric ∧ (store.keyringName? keyring).isSome ∧
      ∃ identifier publicKey, Provides crypto payload identifier publicKey ∧
        ¬store.HasMember keyring identifier ∧
        store.link keyring identifier publicKey =
          (handle, (store.add crypto keyring kind payload).2) := by
  rcases exists_firstFault_or crypto store keyring kind payload with
    ⟨errno, hfault⟩ | ⟨rfl, hkeyring, identifier, publicKey, hprovides, habsent⟩
  · rw [hfault.add_eq] at h
    cases h
  · have hadd := add_of_not_hasMember hprovides hkeyring habsent
    rw [hadd] at h
    refine ⟨rfl, hkeyring, identifier, publicKey, hprovides, habsent, ?_⟩
    rw [hadd, ← Except.ok.inj h]

theorem exists_add_fst_eq_ok_iff :
    (∃ handle, (store.add crypto keyring kind payload).1 = .ok handle) ↔
      kind = .asymmetric ∧ (store.keyringName? keyring).isSome ∧
        ∃ identifier publicKey, Provides crypto payload identifier publicKey ∧
          ¬store.HasMember keyring identifier := by
  constructor
  · rintro ⟨handle, h⟩
    obtain ⟨hkind, hkeyring, identifier, publicKey, hprovides, habsent, -⟩ := add_of_fst_eq_ok h
    exact ⟨hkind, hkeyring, identifier, publicKey, hprovides, habsent⟩
  · rintro ⟨rfl, hkeyring, identifier, publicKey, hprovides, habsent⟩
    rw [add_of_not_hasMember hprovides hkeyring habsent]
    exact ⟨_, rfl⟩

/-- An addition that succeeds makes a key with one reference, which is the last member of its
keyring, and that is all it changes. -/
theorem add_snd_of_fst_eq_ok (h : (store.add crypto keyring kind payload).1 = .ok handle) :
    ∃ name members identifier publicKey,
      Provides crypto payload identifier publicKey ∧
      store.get? keyring = some (.keyring name members) ∧ store.get? handle = none ∧
      (store.add crypto keyring kind payload).2.names = store.names ∧
      ∀ other, (store.add crypto keyring kind payload).2.get? other =
        if other = keyring then some (.keyring name (members ++ [handle]))
        else if other = handle then some (.key identifier publicKey 1)
        else store.get? other := by
  obtain ⟨-, hkeyring, identifier, publicKey, hprovides, -, hlink⟩ := add_of_fst_eq_ok h
  have hmembers := members_of_isSome_keyringName? hkeyring
  have hhandle : (store.link keyring identifier publicKey).1 = handle := congrArg Prod.fst hlink
  have hnext : (store.link keyring identifier publicKey).2 =
      (store.add crypto keyring kind payload).2 := congrArg Prod.snd hlink
  rw [← hnext, ← hhandle]
  obtain ⟨name, hname⟩ := get?_eq_of_members hmembers
  refine ⟨name, _, identifier, publicKey, hprovides, hname,
    get?_link_fst store keyring identifier publicKey,
    names_link store keyring identifier publicKey, ?_⟩
  intro other
  obtain ⟨same, hsame, hget⟩ := get?_link hmembers identifier publicKey other
  rw [hname] at hsame
  cases hsame
  exact hget

/-! ## Other keyrings -/

section Others

variable {next : KeyStore}

theorem FirstFault.of_members_eq (h : FirstFault crypto store keyring kind payload errno)
    (hname : next.keyringName? keyring = store.keyringName? keyring)
    (hmember : ∀ identifier, store.HasMember keyring identifier →
      next.HasMember keyring identifier) :
    FirstFault crypto next keyring kind payload errno := by
  cases h with
  | kind hkind => exact .kind hkind
  | payload hkind hunusable => exact .payload hkind hunusable
  | keyring hkind hprovides hnone => exact .keyring hkind hprovides (hname.trans hnone)
  | identifier hkind hprovides hpresent =>
    exact .identifier hkind hprovides (hmember _ hpresent)

/-- A new key is no member of another keyring, and takes nothing away there. -/
theorem hasMember_link (hsound : store.Sound) (hkeyring : (store.keyringName? keyring).isSome)
    (hother : other ≠ keyring) (identifier : Bytes) (publicKey : PublicKey) (given : Bytes) :
    (store.link keyring identifier publicKey).2.HasMember other given ↔
      store.HasMember other given := by
  have hmembers := members_of_isSome_keyringName? hkeyring
  have hlist : (store.link keyring identifier publicKey).2.memberList other =
      store.memberList other := by
    apply memberList_eq_of_members
    rw [members_link hmembers, if_neg hother]
  have hold : ∀ member ∈ store.memberList other,
      (store.link keyring identifier publicKey).2.identifier? member =
        store.identifier? member := by
    intro member hmember
    have hnamed := isSome_keyringName?_of_mem hmember
    have hlt := hsound.lt_link (members_of_isSome_keyringName? hnamed) hmember keyring identifier
      publicKey
    rw [identifier?_link hmembers, if_neg]
    intro hnew
    rw [← hnew] at hlt
    omega
  unfold HasMember
  rw [hlist]
  constructor
  · rintro ⟨member, hmember, hidentifier⟩
    exact ⟨member, hmember, (hold member hmember).symm.trans hidentifier⟩
  · rintro ⟨member, hmember, hidentifier⟩
    exact ⟨member, hmember, (hold member hmember).trans hidentifier⟩

/-- What is added to one keyring makes no difference to the faults of an addition to another. -/
theorem firstFault_add_iff (hsound : store.Sound) (hother : other ≠ keyring) {otherKind : KeyKind}
    {otherPayload : Bytes} :
    FirstFault crypto (store.add crypto keyring kind payload).2 other otherKind otherPayload errno ↔
      FirstFault crypto store other otherKind otherPayload errno := by
  rcases exists_firstFault_or crypto store keyring kind payload with
    ⟨given, hfault⟩ | ⟨rfl, hkeyring, identifier, publicKey, hprovides, habsent⟩
  · rw [hfault.add_eq]
  · rw [add_of_not_hasMember hprovides hkeyring habsent]
    have hname := keyringName?_link (members_of_isSome_keyringName? hkeyring) identifier publicKey
      other
    have hmember := hasMember_link hsound hkeyring hother identifier publicKey
    constructor
    · intro h
      exact h.of_members_eq hname.symm fun given => (hmember given).mp
    · intro h
      exact h.of_members_eq hname fun given => (hmember given).mpr

end Others

/-! ## Handles that were given out -/

def handle? (crypto : Crypto) (store : KeyStore) : Call → Option Handle
  | .openKeyring name => (store.openKeyring name).1.toOption
  | .search keyring kind description byEnd =>
    (store.search keyring kind description byEnd).1.toOption
  | .release _ => none
  | .add keyring kind payload => (store.add crypto keyring kind payload).1.toOption

def handles (crypto : Crypto) (store : KeyStore) : List Call → List Handle
  | [] => []
  | call :: calls =>
    (store.handle? crypto call).toList ++ handles crypto (store.afterCall crypto call) calls

theorem toOption_eq_some_iff {answer : Except Errno Handle} :
    answer.toOption = some handle ↔ answer = .ok handle := by
  cases answer <;> simp [Except.toOption]

/-- A handle that a call is answered with is in use from then on. -/
theorem isSome_get?_afterCall (hlayout : store.Layout) {call : Call}
    (h : store.handle? crypto call = some handle) :
    ((store.afterCall crypto call).get? handle).isSome := by
  cases call with
  | openKeyring name =>
    obtain ⟨members, hget⟩ := get?_eq_of_keyringName?
      (hlayout.keyringName?_openKeyring (toOption_eq_some_iff.mp h))
    rw [afterCall, hget]
    rfl
  | search keyring kind description byEnd =>
    obtain ⟨identifier, publicKey, references, -, -, hget⟩ :=
      search_snd_of_ok (toOption_eq_some_iff.mp h)
    rw [afterCall, hget, if_pos rfl]
    rfl
  | release key => cases h
  | add keyring kind payload =>
    obtain ⟨-, hkeyring, identifier, publicKey, -, -, hlink⟩ :=
      add_of_fst_eq_ok (toOption_eq_some_iff.mp h)
    have hkey := isKey_link (members_of_isSome_keyringName? hkeyring) identifier publicKey
    rw [hlink] at hkey
    obtain ⟨references, hget⟩ := hkey.get?_eq
    rw [afterCall, hget]
    rfl

theorem Extends.isSome_get? {next : KeyStore} (h : store.Extends next)
    (hhandle : (store.get? handle).isSome) : (next.get? handle).isSome := by
  obtain ⟨entry, hentry⟩ := Option.isSome_iff_exists.mp hhandle
  obtain ⟨grown, hgrown, -⟩ := h handle entry hentry
  rw [hgrown]
  rfl

/-- The handles that a history has given out are in use at its end. -/
theorem isSome_get?_of_mem_handles (hlayout : store.Layout) {calls : List Call}
    (h : handle ∈ handles crypto store calls) :
    ((store.after crypto calls).get? handle).isSome := by
  induction calls generalizing store with
  | nil => cases h
  | cons call calls ih =>
    rcases List.mem_append.mp h with hfirst | hrest
    · have hgiven := isSome_get?_afterCall hlayout (Option.mem_toList.mp hfirst)
      exact (extends_of_steps (steps_after crypto _ calls)).isSome_get? hgiven
    · exact ih (layout_of_step (step_afterCall crypto store call) hlayout) hrest

/-- The handle of a new key is the next one after those in use. -/
theorem lt_of_add_fst_eq_ok (h : (store.add crypto keyring kind payload).1 = .ok handle)
    {given : Handle} (hgiven : (store.get? given).isSome) : given.value < handle.value := by
  obtain ⟨-, -, identifier, publicKey, -, -, hlink⟩ := add_of_fst_eq_ok h
  have hhandle : (store.link keyring identifier publicKey).1 = handle := congrArg Prod.fst hlink
  have hle := ((isSome_get?_iff store given).mp hgiven).2
  rw [← hhandle]
  exact Nat.lt_succ_of_le hle

/-- What an addition comes to, after every history of calls.  The first fault that it has decides,
and a refused addition leaves the whole store as it was.  An addition without a fault gives out a
handle that is larger than all that were given out before; the keyring has it as its last member,
it stands for the key of the certificate with one reference, and nothing else changes.  How
additions to other keyrings are answered does not change either. -/
theorem add_all_or_nothing (crypto : Crypto) (calls : List Call) (keyring : Handle)
    (kind : KeyKind) (payload : Bytes) :
    let store := after crypto {} calls
    let added := store.add crypto keyring kind payload
    (∀ errno, added.1 = .error errno ↔ FirstFault crypto store keyring kind payload errno) ∧
    ((∃ handle, added.1 = .ok handle) ↔ kind = .asymmetric ∧
      (store.keyringName? keyring).isSome ∧
        ∃ identifier publicKey, Provides crypto payload identifier publicKey ∧
          ¬store.HasMember keyring identifier) ∧
    (∀ errno, added.1 = .error errno → added.2 = store) ∧
    (∀ handle, added.1 = .ok handle →
      (∀ given ∈ handles crypto {} calls, given.value < handle.value) ∧
      ∃ name members identifier publicKey,
        Provides crypto payload identifier publicKey ∧
        store.get? keyring = some (.keyring name members) ∧ store.get? handle = none ∧
        added.2.names = store.names ∧
        ∀ other, added.2.get? other =
          if other = keyring then some (.keyring name (members ++ [handle]))
          else if other = handle then some (.key identifier publicKey 1)
          else store.get? other) ∧
    ∀ other, other ≠ keyring → ∀ otherKind otherPayload errno,
      (added.2.add crypto other otherKind otherPayload).1 = .error errno ↔
        (store.add crypto other otherKind otherPayload).1 = .error errno := by
  intro store added
  have hlayout : store.Layout := layout_of_steps (steps_after crypto {} calls) layout_empty
  refine ⟨fun _ => add_fst_eq_error_iff, exists_add_fst_eq_ok_iff, ?_, ?_, ?_⟩
  · intro errno herror
    show (store.add crypto keyring kind payload).2 = store
    rw [(add_fst_eq_error_iff.mp herror).add_eq]
  · intro handle hok
    refine ⟨?_, add_snd_of_fst_eq_ok hok⟩
    intro given hgiven
    exact lt_of_add_fst_eq_ok hok (isSome_get?_of_mem_handles layout_empty hgiven)
  · intro other hother otherKind otherPayload errno
    rw [add_fst_eq_error_iff, add_fst_eq_error_iff]
    exact firstFault_add_iff hlayout.sound hother

open Shadowing in
/-- A certificate is refused by the keyring that has it, and accepted by another one. -/
theorem add_all_or_nothing_twoKeyrings :
    let calls : List Call :=
      [.openKeyring ".five", .openKeyring ".six", .add ⟨1⟩ .asymmetric first]
    let store := after Crypto.standard {} calls
    let refused := store.add Crypto.standard ⟨1⟩ .asymmetric first
    let accepted := store.add Crypto.standard ⟨2⟩ .asymmetric first
    FirstFault Crypto.standard store ⟨1⟩ .asymmetric first Errno.EEXIST ∧ refused.2 = store ∧
      accepted.1 = .ok ⟨4⟩ ∧ accepted.2.memberList ⟨2⟩ = [⟨4⟩] ∧
      accepted.2.get? ⟨3⟩ = store.get? ⟨3⟩ ∧
      (∀ given ∈ handles Crypto.standard {} calls, given.value < 4) ∧
      (accepted.2.add Crypto.standard ⟨1⟩ .asymmetric first).1 = .error Errno.EEXIST := by
  intro calls store refused accepted
  have hrefused : refused.1 = .error Errno.EEXIST := by decide +kernel
  have haccepted : accepted.1 = .ok ⟨4⟩ := by decide +kernel
  obtain ⟨hfault, -, hkept, -, -⟩ :=
    add_all_or_nothing Crypto.standard calls ⟨1⟩ .asymmetric first
  obtain ⟨-, -, -, hlinked, hothers⟩ :=
    add_all_or_nothing Crypto.standard calls ⟨2⟩ .asymmetric first
  obtain ⟨hlarger, name, members, identifier, publicKey, -, hkeyring, -, -, hget⟩ :=
    hlinked ⟨4⟩ haccepted
  have hempty : store.memberList ⟨2⟩ = [] := by decide +kernel
  have hother : accepted.2.get? ⟨3⟩ = store.get? ⟨3⟩ := hget ⟨3⟩
  refine ⟨(hfault _).mp hrefused, hkept _ hrefused, haccepted, ?_, hother, hlarger,
    (hothers ⟨1⟩ (by decide) _ _ _).mpr hrefused⟩
  have hnext : accepted.2.get? ⟨2⟩ = some (.keyring name (members ++ [⟨4⟩])) := hget ⟨2⟩
  rw [memberList, KeyStore.members, hkeyring] at hempty
  rw [memberList, KeyStore.members, hnext]
  exact congrArg (· ++ [⟨4⟩]) hempty

end TrustedKeyring.KeyStore
