import TrustedKeyring.Proofs.KeyStore.Verdict
import TrustedKeyring.Proofs.TrustStore.Reference
import TrustedKeyring.Proofs.Verifier.Ensures

/-!
# Traces that a key store has answered

The verdict and the addition of a key store are those of the list of accepted certificates that its
keyring holds, so a provisioning whose calls it has answered adds as that list does. A load that is
answered by a store without keyrings binds its anchor to an empty keyring.
-/

namespace TrustedKeyring

open TrustStore (Answer)

variable {crypto : Crypto} {state last : KeyStore} {keyring : Handle} {accepted : Accepted}
  {calls more : List Exchange} {anchor : TrustAnchor} {verifier : Verifier}

theorem Accepted.material?_eq (crypto : Crypto) (data : Bytes) :
    KeyStore.material? crypto data = Accepted.entry? crypto data := by
  unfold KeyStore.material? Accepted.entry? Crypto.keyIdentifier?
  cases crypto.readCertificate data with
  | none => rfl
  | some certificate =>
    rcases certificate with ⟨subjectKeyId, publicKey⟩
    cases subjectKeyId <;> cases publicKey <;> rfl

/-- The hashes of the list are those of the store. -/
theorem Accepted.hash?_eq : ∀ number : Nat,
    Accepted.hash? number =
      (HashAlgorithm.all[number]?.filter HashAlgorithm.isCheckable).map
        fun algorithm => (algorithm, algorithm.digestSize)
  | 0 | 1 | 2 | 3 | 4 | 5 | 6 | 7 | 8 | 9 | 10 | 11 | 12 | 13 | 14 | 15 | 16 | 17 | 18 | 19 => rfl
  | _ + 20 => rfl

/-- The code of a signature over the whole digest is the one of the list. -/
theorem Accepted.code_eq (crypto : Crypto) (key : PublicKey) (certificate : Certificate)
    (digest : Bytes) :
    KeyStore.signatureCode crypto key certificate digest digest.length =
      Accepted.code crypto key certificate digest := by
  have hhash : Accepted.hash? certificate.header.hashNumber.toNat =
      (certificate.header.algorithm?.filter HashAlgorithm.isCheckable).map
        fun algorithm => (algorithm, algorithm.digestSize) :=
    Accepted.hash?_eq _
  unfold KeyStore.signatureCode Accepted.code
  rw [hhash, KeyStore.declared?_forDigest]
  cases certificate.header.algorithm? with
  | none => rfl
  | some algorithm =>
    cases hcheckable : algorithm.isCheckable with
    | false =>
      rw [Option.filter_some_neg (by simp [hcheckable])]
      exact if_pos hcheckable
    | true =>
      rw [Option.filter_some_pos hcheckable]
      exact if_neg (by simp [hcheckable])

theorem Accepted.verify_eq (crypto : Crypto) (accepted : Accepted) (certificate : Certificate)
    (digest : Bytes) :
    (TrustStore.outcome (KeyStore.verification crypto accepted certificate digest
      digest.length)).map Answer.code = accepted.verify crypto certificate digest := by
  have hfirst : (accepted.find? fun entry =>
      Crypto.shortKeyId entry.1 = certificate.header.keyId) =
        KeyStore.published? accepted certificate.header.keyId := rfl
  rw [Accepted.verify, hfirst]
  by_cases hknown : certificate.header.hashNumber < 20
  · rw [KeyStore.verification_of_known hknown, if_neg (UInt8.not_le.mpr hknown)]
    cases KeyStore.published? accepted certificate.header.keyId with
    | none => rfl
    | some entry =>
      dsimp only
      rw [← Accepted.code_eq]
      rfl
  · rw [KeyStore.verification_of_unknown hknown, if_pos (UInt8.not_lt.mp hknown)]
    rfl

theorem Accepted.add_eq (crypto : Crypto) (accepted : Accepted) (data : Bytes) :
    (TrustStore.outcome (KeyStore.provisioning crypto accepted data).1).map
        (fun _ => Answer.added) = (accepted.add crypto data).1 ∧
      (KeyStore.provisioning crypto accepted data).2 = (accepted.add crypto data).2 := by
  unfold KeyStore.provisioning Accepted.add
  by_cases hdata : data = []
  · rw [if_pos hdata, if_pos hdata]
    exact ⟨rfl, rfl⟩
  · rw [if_neg hdata, if_neg hdata, Accepted.material?_eq]
    cases Accepted.entry? crypto data with
    | none => exact ⟨rfl, rfl⟩
    | some entry =>
      simp only [List.any_eq_true, beq_iff_eq, List.mem_map]
      by_cases hpresent : ∃ old ∈ accepted, old.1 = entry.1
      · rw [if_pos hpresent, if_pos hpresent]
        exact ⟨rfl, rfl⟩
      · rw [if_neg hpresent, if_neg hpresent]
        exact ⟨rfl, rfl⟩

/-- A store that has answered the calls of a provisioning has added as its list does. -/
theorem ProvisionTrace.of_holds {data : Bytes} {outcome : Outcome Refusal Unit}
    (h : ProvisionTrace verifier data anchor calls outcome)
    (hbound : anchor.binding = some ⟨keyring, verifier.config.keyringName, verifier.owner⟩)
    (hholds : state.Holds keyring accepted)
    (hanswer : (TrustStore.collaborators crypto).Answer state calls last) :
    (TrustStore.outcome outcome).map (fun _ => Answer.added) = (accepted.add crypto data).1 ∧
      last.Holds keyring (accepted.add crypto data).2 := by
  obtain ⟨houtcome, hlast⟩ := h.eq_provisioning hbound hholds hanswer
  obtain ⟨hadded, hlist⟩ := Accepted.add_eq crypto accepted data
  rw [houtcome, ← hlist]
  exact ⟨hadded, hlast⟩

/-- A store without keyrings that is asked for one makes it, and it is empty. -/
theorem KeyStore.holds_of_openKeyring {name : String} {state : KeyStore}
    (h : KeyStore.openKeyring {} name = (.ok keyring, state)) : state.Holds keyring [] := by
  unfold KeyStore.openKeyring at h
  by_cases hname : name = ""
  · rw [if_pos hname] at h
    cases h
  · rw [if_neg hname] at h
    cases h
    exact ⟨[], rfl, .nil⟩

/-- An unset anchor that may be loaded from such a store is bound to an empty keyring. -/
theorem LoadTrace.of_empty {name : String} {owner : Option ServiceId}
    {outcome : Outcome Refusal Handle} {after : TrustAnchor}
    (h : LoadTrace name owner anchor calls outcome after) (hunset : anchor.binding = none)
    (howned : anchor.isProcess = false ∨ owner ≠ none) (hname : name ≠ "")
    (hanswer : (TrustStore.collaborators crypto).Answer {} calls last) :
    ∃ keyring, outcome = .ok keyring ∧ after.binding = some ⟨keyring, name, owner⟩ ∧
      last.Holds keyring [] := by
  have hopen : ({} : KeyStore).openKeyring name =
      (.ok ⟨1⟩, ⟨[.keyring name []], [(name, ⟨1⟩)]⟩) := by
    rw [KeyStore.openKeyring, if_neg hname]
    rfl
  rcases h.of_owned hunset howned with ⟨answer, rfl, hend⟩
  rcases hanswer with ⟨hreply, hlast⟩
  change answer = KeyStore.reply (KeyStore.openKeyring {} name).1 at hreply
  change last = (KeyStore.openKeyring {} name).2 at hlast
  rw [hopen] at hreply hlast
  subst hreply hlast
  rcases Prod.mk.inj hend with ⟨houtcome, hafter⟩
  rw [houtcome, hafter]
  exact ⟨⟨1⟩, rfl, rfl, KeyStore.holds_of_openKeyring hopen⟩

end TrustedKeyring
