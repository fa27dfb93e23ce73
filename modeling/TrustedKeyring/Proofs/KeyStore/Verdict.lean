import TrustedKeyring.Proofs.KeyStore.Answers
import TrustedKeyring.Proofs.Verifier.Unique
import TrustedKeyring.TrustStore

/-!
# Verdicts of a key store

What a verifier comes to when a key store answers its calls is decided by the entries that its
keyring holds.  A verification goes by the first entry that is published under the identifier of the
certificate (`CheckTrace.eq_verification`), and a provisioning puts an entry at the end
(`ProvisionTrace.eq_provisioning`).
-/

namespace TrustedKeyring

open TrustStore (collaborators)

variable {crypto : Crypto} {state last : KeyStore} {keyring : Handle}
  {entries more : List (Bytes × PublicKey)} {calls rest : List Exchange} {id : KeyId}
  {certificate : Certificate} {digest : Bytes} {digestLength : Nat}

namespace KeyStore

/-- What a search of a handle goes through: the entries that the keyring holds, or nothing if the
handle is no keyring's. -/
inductive Reads (store : KeyStore) (keyring : Handle) : List (Bytes × PublicKey) → Prop
  | held {entries : List (Bytes × PublicKey)} (hholds : store.Holds keyring entries) :
      Reads store keyring entries
  | nothing {errno : Errno} (hmembers : store.members keyring = .error errno) :
      Reads store keyring []

def verification (crypto : Crypto) (entries : List (Bytes × PublicKey))
    (certificate : Certificate) (digest : Bytes) (digestLength : Nat) : Outcome Refusal Int32 :=
  if certificate.header.hashNumber < 20 then
    match published? entries certificate.header.keyId with
    | none => .error (.error .noKey)
    | some entry => .ok (signatureCode crypto entry.2 certificate digest digestLength)
  else .error (.error (.unknownAlgorithm certificate.header.hashNumber))

def provisioning (crypto : Crypto) (entries : List (Bytes × PublicKey)) (data : Bytes) :
    Outcome Refusal Unit × List (Bytes × PublicKey) :=
  if data = [] then (.error (.error (.invalidArgument "empty certificate")), entries)
  else
    match material? crypto data with
    | none => (.error (.error (.provisionFailed Errno.EBADMSG)), entries)
    | some entry =>
      if entries.any fun old => old.1 == entry.1 then
        (.error (.error (.provisionFailed Errno.EEXIST)), entries)
      else (.ok (), entries ++ [entry])

theorem verification_of_known (hknown : certificate.header.hashNumber < 20) :
    verification crypto entries certificate digest digestLength =
      match published? entries certificate.header.keyId with
      | none => .error (.error .noKey)
      | some entry => .ok (signatureCode crypto entry.2 certificate digest digestLength) :=
  if_pos hknown

theorem verification_of_unknown (hunknown : ¬certificate.header.hashNumber < 20) :
    verification crypto entries certificate digest digestLength =
      .error (.error (.unknownAlgorithm certificate.header.hashNumber)) :=
  if_neg hunknown

theorem published?_append (entries more : List (Bytes × PublicKey)) (id : KeyId) :
    published? (entries ++ more) id = (published? entries id).or (published? more id) :=
  List.find?_append

theorem ne_of_published?_eq_none (h : published? entries id = none) :
    ∀ entry ∈ entries, Crypto.shortKeyId entry.1 ≠ id := by
  intro entry hentry hid
  have hmiss := List.find?_eq_none.mp h entry hentry
  exact hmiss (decide_eq_true hid)

/-- Entries that come later only matter where there was no key. -/
theorem verification_append (h : verification crypto entries certificate digest digestLength ≠
      .error (.error .noKey)) (more : List (Bytes × PublicKey)) :
    verification crypto (entries ++ more) certificate digest digestLength =
      verification crypto entries certificate digest digestLength := by
  by_cases hknown : certificate.header.hashNumber < 20
  · rw [verification_of_known hknown] at h ⊢
    rw [verification_of_known hknown, published?_append]
    cases hfirst : published? entries certificate.header.keyId with
    | none => simp [hfirst] at h
    | some entry => rfl
  · rw [verification_of_unknown hknown, verification_of_unknown hknown]

theorem search_of_reads (hreads : state.Reads keyring entries) (id : KeyId) :
    (published? entries id = none ∧ ∃ errno ∈ unusableKey,
      state.search keyring .asymmetric id.description true = (.error errno, state)) ∨
    ∃ entry key, published? entries id = some entry ∧ state.IsKey key entry ∧
      state.search keyring .asymmetric id.description true =
        (.ok key, state.takeReference key) := by
  cases hreads with
  | held hholds =>
    rcases search_of_holds hholds id with ⟨hnone, heq⟩ | hfound
    · exact .inl ⟨hnone, Errno.EAGAIN, by decide, heq⟩
    · exact .inr hfound
  | @nothing errno hmembers =>
    refine .inl ⟨rfl, errno, ?_, ?_⟩
    · rw [errno_of_members hmembers]
      decide
    · rw [search, hmembers]

/-- An addition to a keyring is refused as a provisioning is, or puts its entry at the end. -/
theorem add_cases (hholds : state.Holds keyring entries) {data : Bytes} (hdata : data ≠ []) :
    (∃ errno, state.add crypto keyring .asymmetric data = (.error errno, state) ∧
      provisioning crypto entries data =
        (.error (.error (.provisionFailed errno)), entries)) ∨
    ∃ key next, state.add crypto keyring .asymmetric data = (.ok key, next) ∧
      (provisioning crypto entries data).1 = .ok () ∧
      next.Holds keyring (provisioning crypto entries data).2 := by
  have hadd := add_of_holds hholds crypto data
  rw [provisioning, if_neg hdata]
  cases hmaterial : material? crypto data with
  | none =>
    rw [hmaterial] at hadd
    exact .inl ⟨Errno.EBADMSG, hadd, rfl⟩
  | some entry =>
    rw [hmaterial] at hadd
    dsimp only at hadd ⊢
    by_cases hpresent : (entries.any fun old => old.1 == entry.1) = true
    · rw [if_pos hpresent] at hadd ⊢
      exact .inl ⟨Errno.EEXIST, hadd, rfl⟩
    · rw [if_neg hpresent] at hadd ⊢
      obtain ⟨key, next, heq, hnext⟩ := hadd
      exact .inr ⟨key, next, heq, rfl, hnext⟩

end KeyStore

/-! ## Searches and checks -/

/-- A search that a store has answered: for a published key, it has given the first one and counts
a reference to it. -/
theorem SearchTrace.of_reads {outcome : Outcome Refusal Handle}
    (h : SearchTrace keyring id calls outcome) (hreads : state.Reads keyring entries)
    (hanswer : (collaborators crypto).Answer state (calls ++ rest) last) :
    (KeyStore.published? entries id = none ∧ outcome = .error (.error .noKey) ∧
      (collaborators crypto).Answer state rest last) ∨
    ∃ entry key, KeyStore.published? entries id = some entry ∧ outcome = .ok key ∧
      state.IsKey key entry ∧
      (collaborators crypto).Answer (state.takeReference key) rest last := by
  -- each trace is one call of the same search, whose answer the store determines
  obtain ⟨answer, rfl⟩ := h.exists_answer
  obtain ⟨hsearch, hrest⟩ := hanswer
  change answer = KeyStore.reply (state.search keyring .asymmetric
    ("id:" ++ String.ofList (Hex.encode id.toBytes)) true).1 at hsearch
  change (collaborators crypto).Answer (state.search keyring .asymmetric
    ("id:" ++ String.ofList (Hex.encode id.toBytes)) true).2 rest last at hrest
  rw [← id.description_eq] at hsearch hrest
  rcases KeyStore.search_of_reads hreads id with
    ⟨hnone, errno, hunusable, heq⟩ | ⟨entry, key, hsome, hkey, heq⟩
  · rw [heq] at hsearch hrest
    subst hsearch
    refine .inl ⟨hnone, ?_, hrest⟩
    cases h with
    | unusable => rfl
    | failed hother => exact absurd hunusable hother
  · rw [heq] at hsearch hrest
    subst hsearch
    refine .inr ⟨entry, key, hsome, ?_, hkey, hrest⟩
    cases h with
    | found => rfl

/-- A store that has answered the calls of a verification has found and checked by what the handle
reads, and counts no more references than before. -/
theorem CheckTrace.eq_verification {outcome : Outcome Refusal Int32}
    (h : CheckTrace keyring certificate digest digestLength calls outcome)
    (hreads : state.Reads keyring entries)
    (hanswer : (collaborators crypto).Answer state calls last) :
    outcome = KeyStore.verification crypto entries certificate digest digestLength ∧
      KeyStore.SameContents state last := by
  by_cases hknown : certificate.header.hashNumber < 20
  · rw [KeyStore.verification_of_known hknown]
    obtain ⟨searches, found, rest, rfl, hsearch, hrest⟩ := h.of_known hknown
    rcases hsearch.of_reads hreads hanswer with
      ⟨hnone, rfl, hlast⟩ | ⟨entry, key, hsome, rfl, hkey, hchecked⟩
    · obtain ⟨rfl, rfl⟩ := hrest
      rw [hnone, show last = state from hlast]
      exact ⟨rfl, KeyStore.sameContents_refl state⟩
    · obtain ⟨answer, rfl, rfl⟩ := hrest
      obtain ⟨hcheck, hreleased, hlast⟩ := hchecked
      have htaken := KeyStore.sameContents_takeReference state key
      change answer = .ok ((state.takeReference key).check crypto key
        ⟨digest, digestLength, none, []⟩ certificate certificate.header) at hcheck
      change last = (state.takeReference key).release key at hlast
      rw [KeyStore.check_of_isKey (htaken.isKey hkey)] at hcheck
      rw [hsome, hcheck, hlast]
      exact ⟨rfl, htaken.trans (KeyStore.sameContents_release _ key)⟩
  · obtain ⟨rfl, rfl⟩ := h.of_unknown hknown
    rw [KeyStore.verification_of_unknown hknown, show last = state from hanswer]
    exact ⟨rfl, KeyStore.sameContents_refl state⟩

/-! ## Additions -/

/-- A store that has answered the calls of a provisioning has added by what the keyring holds. -/
theorem ProvisionTrace.eq_provisioning {verifier : Verifier} {anchor : TrustAnchor} {data : Bytes}
    {outcome : Outcome Refusal Unit} (h : ProvisionTrace verifier data anchor calls outcome)
    (hbound : anchor.binding = some ⟨keyring, verifier.config.keyringName, verifier.owner⟩)
    (hholds : state.Holds keyring entries)
    (hanswer : (collaborators crypto).Answer state calls last) :
    outcome = (KeyStore.provisioning crypto entries data).1 ∧
      last.Holds keyring (KeyStore.provisioning crypto entries data).2 := by
  -- the anchor admits the verifier, so what is left are the ways an addition can go
  cases h with
  | unset hunset => rw [hunset] at hbound; cases hbound
  | refused hother hadmission =>
    rw [hbound] at hother
    cases hother
    exact absurd hadmission not_admission_error
  | empty _ hdata =>
    rw [KeyStore.provisioning, if_pos hdata, show last = state from hanswer]
    exact ⟨rfl, hholds⟩
  | added hother hdata key =>
    rw [hbound] at hother
    cases hother
    obtain ⟨hreply, -, hlast⟩ := hanswer
    have hgiven : (state.add crypto keyring .asymmetric data).1 = .ok key :=
      KeyStore.reply_eq_ok_iff.mp hreply.symm
    change last = (state.add crypto keyring .asymmetric data).2.release key at hlast
    rcases KeyStore.add_cases hholds hdata with ⟨errno, heq, -⟩ | ⟨given, next, heq, hok, hnext⟩
    · rw [heq] at hgiven
      cases hgiven
    · rw [heq] at hlast
      rw [hok, hlast]
      exact ⟨rfl, (KeyStore.sameContents_release next key).holds hnext⟩
  | failed hother hdata errno =>
    rw [hbound] at hother
    cases hother
    obtain ⟨hreply, hlast⟩ := hanswer
    have hgiven : (state.add crypto keyring .asymmetric data).1 = .error errno :=
      KeyStore.reply_eq_error_iff.mp hreply.symm
    change last = (state.add crypto keyring .asymmetric data).2 at hlast
    rcases KeyStore.add_cases hholds hdata with ⟨given, heq, hrefused⟩ | ⟨given, next, heq, -⟩
    · rw [heq] at hgiven hlast
      cases hgiven
      rw [hrefused, hlast]
      exact ⟨rfl, hholds⟩
    · rw [heq] at hgiven
      cases hgiven
  | panicked => exact absurd hanswer.1.symm KeyStore.reply_ne_panic

end TrustedKeyring
