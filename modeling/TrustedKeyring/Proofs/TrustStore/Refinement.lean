import TrustedKeyring.Proofs.TrustStore.Requests

/-!
# Refinement of trust stores

A trust store answers like the list of the certificates that it has accepted
(`answers_of_represents`), and a new one like the empty list (`answers_new`).
-/

namespace TrustedKeyring

variable {accepted : Accepted}

/-- One answer of a store is that of its list, and the list goes on standing for the store. -/
theorem answer_of_represents {store : TrustStore} (h : store.Represents accepted) (crypto : Crypto)
    (call : TrustStore.Call) :
    (store.answer crypto call).1 = (accepted.answer crypto call).1 ∧
      (store.answer crypto call).2.Represents (accepted.answer crypto call).2 := by
  rw [TrustStore.answer_eq_serve]
  cases call with
  | addCertificate data =>
    obtain ⟨hreply, hnext⟩ := TrustStore.serve_addCertificate h crypto data
    obtain ⟨hadded, hlist⟩ := Accepted.add_eq crypto accepted data
    rw [hlist] at hnext
    rw [TrustStore.Call.request, hreply, TrustStore.outcome_map]
    exact ⟨hadded, hnext⟩
  | verify certificate digest =>
    obtain ⟨hreply, hnext⟩ :=
      TrustStore.serve_verify h crypto certificate digest digest.length
    rw [TrustStore.Call.request, hreply, TrustStore.outcome_map]
    exact ⟨Accepted.verify_eq crypto accepted certificate digest, hnext⟩

/-- A store answers a history of calls as its list does. -/
theorem answers_of_represents {store : TrustStore} (h : store.Represents accepted)
    (crypto : Crypto) (calls : List TrustStore.Call) :
    store.answers crypto calls = accepted.answers crypto calls := by
  induction calls generalizing store accepted with
  | nil => rfl
  | cons call calls ih =>
    rcases answer_of_represents h crypto call with ⟨hanswer, hnext⟩
    rw [TrustStore.answers, Accepted.answers, hanswer, ih hnext]

/-- A verifier of an unset anchor loads an empty keyring from an empty store. -/
theorem represents_load (crypto : Crypto) (verifier : Verifier)
    (hname : verifier.config.keyringName ≠ "") :
    ∃ handle store, TrustStore.perform crypto ⟨verifier, ⟨{}, {}⟩⟩ verifier.load =
      (.ok handle, store) ∧ store.Represents [] := by
  have htrace : LoadTrace verifier.config.keyringName verifier.owner {} _ _ _ :=
    (ensures_load verifier.config.keyringName verifier.owner {}).run
      (TrustStore.collaborators crypto) {}
  obtain ⟨keyring, houtcome, hbound, hholds⟩ := htrace.of_empty rfl (.inl rfl) hname
    (Operation.answer_run (TrustStore.collaborators crypto) verifier.load ⟨{}, {}⟩)
  refine ⟨keyring, _, Prod.ext ?_ rfl, keyring, hbound, hholds⟩
  exact congrArg TrustStore.outcome houtcome

/-- A verifier of an unset anchor is built for every name with a character that is not blank. -/
theorem ofAnchor_unset (name : String) :
    Verifier.ofAnchor ⟨name⟩ {} =
      if name.toList.any (fun c => !Text.isBlank c) then .ok ⟨⟨name⟩, none⟩
      else .error (.badConfig "keyring name must not be empty") := by
  have hblank : Text.allBlank name.toList = !name.toList.any fun c => !Text.isBlank c := by
    rw [Text.allBlank, List.not_any_eq_all_not]
    simp only [Bool.not_not]
  unfold Verifier.ofAnchor Config.validate
  rw [hblank]
  cases name.toList.any fun c => !Text.isBlank c <;> rfl

/-- Without a name, a store is made for the default one. -/
theorem TrustStore.new_eq_new_some (crypto : Crypto) (name : Option String) :
    TrustStore.new crypto name = TrustStore.new crypto (some (name.getD ".five")) := by
  cases name <;> rfl

/-- A new store answers every history of calls as the empty list does.  There is one for every name
with a character that is not blank. -/
theorem answers_new (crypto : Crypto) (name : Option String) :
    if (name.getD ".five").toList.any (fun c => !Text.isBlank c) then
      ∃ store, TrustStore.new crypto name = .ok store ∧
        ∀ calls, store.answers crypto calls = Accepted.answers crypto [] calls
    else
      TrustStore.new crypto name =
        .error (.error ⟨22, "configuration: keyring name must not be empty"⟩) := by
  rw [TrustStore.new_eq_new_some]
  generalize name.getD ".five" = text
  unfold TrustStore.new
  dsimp only
  rw [ofAnchor_unset]
  cases hname : text.toList.any fun c => !Text.isBlank c with
  | false => rfl
  | true =>
    have hnonempty : text ≠ "" := by
      intro hempty
      rw [hempty] at hname
      cases hname
    obtain ⟨handle, store, hload, hrepresents⟩ :=
      represents_load crypto ⟨⟨text⟩, none⟩ hnonempty
    rw [if_pos rfl, if_pos rfl]
    dsimp only
    rw [hload]
    exact ⟨store, rfl, answers_of_represents hrepresents crypto⟩

end TrustedKeyring
