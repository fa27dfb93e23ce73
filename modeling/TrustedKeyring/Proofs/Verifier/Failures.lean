import TrustedKeyring.Proofs.Verifier.Loaded

/-!
# Failures over a key store

The outcomes that the operations of a verifier can have when a key store answers their calls.  A
store refuses to load a keyring only without a name, its searches fail for no other reason than that
there is no key, its additions are refused for the certificate alone, and a check never lacks the
key that was found.
-/

namespace TrustedKeyring

open TrustStore (collaborators)

variable {α β : Type} {crypto : Crypto} {state last : KeyStore} {calls : List Exchange}
  {verifier : Verifier} {anchor after : TrustAnchor} {unnamed unnamed' : Prop}

/-- Whether an outcome is one that an operation over a key store can have; `unnamed` is what has to
be the case for a keyring not to be loaded. -/
def Attainable (unnamed : Prop) (allowed : α → Prop) : Outcome Refusal α → Prop
  | .ok value => allowed value
  | .error (.error (.loadFailed _)) => unnamed
  | .error (.error (.searchFailed _)) => False
  | .error (.error (.provisionFailed errno)) => errno = Errno.EBADMSG ∨ errno = Errno.EEXIST
  | .error (.error _) => True
  | .error (.panic _) => False

namespace Attainable

variable {allowed : α → Prop} {allowed' : β → Prop}

theorem of_error {failure : Failure Refusal}
    (h : Attainable unnamed allowed (.error failure)) (himp : unnamed → unnamed') :
    Attainable unnamed' allowed' (.error failure) := by
  cases failure with
  | panic message => exact h
  | error refusal =>
    cases refusal with
    | loadFailed errno => exact himp h
    | _ => exact h

theorem map {outcome : Outcome Refusal α} (h : Attainable unnamed allowed outcome) (f : α → β)
    (himp : unnamed → unnamed') (hallowed : ∀ value, allowed value → allowed' (f value)) :
    Attainable unnamed' allowed' (outcome.map f) := by
  cases outcome with
  | error failure => exact h.of_error himp
  | ok value => exact hallowed value h

end Attainable

/-! ## Traces -/

theorem Admission.attainable {name : String} {owner : Option ServiceId} {binding : Binding}
    {outcome : Outcome Refusal Handle} (h : Admission name owner binding outcome) :
    Attainable unnamed (fun _ => True) outcome := by
  cases h <;> trivial

theorem LoadTrace.attainable {name : String} {owner : Option ServiceId}
    {outcome : Outcome Refusal Handle} (h : LoadTrace name owner anchor calls outcome after)
    (hanswer : (collaborators crypto).Answer state calls last) :
    Attainable (name = "") (fun _ => True) outcome := by
  cases h with
  | bound _ hadmission => exact hadmission.attainable
  | ownerless | loaded => trivial
  | failed _ _ errno =>
    have hrefused : (state.openKeyring name).1 = .error errno :=
      KeyStore.reply_eq_error_iff.mp hanswer.1.symm
    -- a store gives a keyring to every name
    show name = ""
    by_contra hname
    obtain ⟨handle, hopened⟩ := state.openKeyring_of_ne hname
    rw [hopened] at hrefused
    cases hrefused
  | panicked => exact absurd hanswer.1.symm KeyStore.reply_ne_panic

theorem PeekTrace.attainable {name : String} {owner : Option ServiceId}
    {outcome : Outcome Refusal (Option Handle)} (h : PeekTrace name owner anchor outcome) :
    Attainable unnamed (fun _ => True) outcome := by
  cases h with
  | unset => trivial
  | bound _ hadmission => exact hadmission.attainable.map some (fun h => h) fun _ _ => trivial

theorem SearchTrace.attainable {keyring : Handle} {id : KeyId} {outcome : Outcome Refusal Handle}
    (h : SearchTrace keyring id calls outcome) (hsound : state.Sound)
    (hanswer : (collaborators crypto).Answer state calls last) :
    Attainable unnamed (fun _ => True) outcome := by
  obtain ⟨entries, hreads⟩ := hsound.exists_reads keyring
  rw [← List.append_nil calls] at hanswer
  rcases h.of_reads hreads hanswer with ⟨-, rfl, -⟩ | ⟨entry, key, -, rfl, -⟩ <;> trivial

theorem FindTrace.attainable {id : KeyId} {outcome : Outcome Refusal Handle}
    (h : FindTrace verifier id anchor calls outcome) (hsound : state.Sound)
    (hanswer : (collaborators crypto).Answer state calls last) :
    Attainable unnamed (fun _ => True) outcome := by
  cases h with
  | unset => trivial
  | refused _ hadmission => exact hadmission.attainable.of_error fun h => h
  | searched _ hsearch => exact hsearch.attainable hsound hanswer

theorem KeyStore.attainable_verification (entries : List (Bytes × PublicKey))
    (certificate : Certificate) (digest : Bytes) (digestLength : Nat) :
    Attainable unnamed (· ∈ KeyStore.keyCodes)
      (verification crypto entries certificate digest digestLength) := by
  by_cases hknown : certificate.header.hashNumber < 20
  · rw [verification_of_known hknown]
    cases published? entries certificate.header.keyId with
    | none => trivial
    | some entry => exact signatureCode_mem crypto entry.2 certificate digest digestLength
  · rw [verification_of_unknown hknown]
    trivial

theorem VerifyTrace.attainable {certificate : Certificate} {digest : Bytes} {digestLength : Nat}
    {outcome : Outcome Refusal Int32}
    (h : VerifyTrace verifier certificate digest digestLength anchor calls outcome after)
    (hsound : state.Sound) (hanswer : (collaborators crypto).Answer state calls last) :
    Attainable (verifier.config.keyringName = "") (· ∈ KeyStore.keyCodes) outcome := by
  cases h with
  | notLoaded hload => exact (hload.attainable hanswer).of_error fun h => h
  | @loaded loads checks keyring outcome after hload hcheck =>
    obtain ⟨between, hloads, hchecks⟩ := Collaborators.answer_append.mp hanswer
    have hbetween := KeyStore.sound_of_steps (KeyStore.steps_of_answer hloads) hsound
    obtain ⟨entries, hreads⟩ := hbetween.exists_reads keyring
    rw [(hcheck.eq_verification hreads hchecks).1]
    exact KeyStore.attainable_verification entries certificate digest digestLength

theorem KeyStore.attainable_provisioning (entries : List (Bytes × PublicKey)) (data : Bytes) :
    Attainable unnamed (fun _ => True) (provisioning crypto entries data).1 := by
  unfold provisioning
  split
  · trivial
  · split
    · exact .inl rfl
    · split
      · exact .inr rfl
      · trivial

/-- An anchor that is bound to a keyring of the store is provisioned but for the certificate. -/
theorem ProvisionTrace.attainable {data : Bytes} {outcome : Outcome Refusal Unit}
    (h : ProvisionTrace verifier data anchor calls outcome)
    (hholds : ∀ keyring,
      anchor.binding = some ⟨keyring, verifier.config.keyringName, verifier.owner⟩ →
        ∃ entries, state.Holds keyring entries)
    (hanswer : (collaborators crypto).Answer state calls last) :
    Attainable unnamed (fun _ => True) outcome := by
  have hbound : ∀ keyring,
      anchor.binding = some ⟨keyring, verifier.config.keyringName, verifier.owner⟩ →
        Attainable unnamed (fun _ => True) outcome := by
    intro keyring hbound
    obtain ⟨entries, hentries⟩ := hholds keyring hbound
    rw [(h.eq_provisioning hbound hentries hanswer).1]
    exact KeyStore.attainable_provisioning entries data
  cases h with
  | unset => trivial
  | refused _ hadmission => exact hadmission.attainable.of_error fun h => h
  | empty hother | added hother | failed hother | panicked hother => exact hbound _ hother

/-- A source that cannot be read is not the store's failure. -/
theorem CertificateSource.attainable_of_read {allowed : α → Prop} {host : Host}
    (source : CertificateSource) {refusal : Refusal} (h : source.read host = .error refusal) :
    Attainable unnamed allowed (.error (.error refusal)) := by
  cases source with
  | file path =>
    simp only [read] at h
    cases hfile : host.readFile path with
    | error errno =>
      rw [hfile] at h
      cases h
      trivial
    | ok content =>
      rw [hfile] at h
      cases h
  | environment name =>
    simp only [read] at h
    split at h
    · split at h
      · cases h
      · cases h
        trivial
    · cases h
      trivial

/-! ## Missing keys -/

theorem KeyStore.published?_of_verification {entries : List (Bytes × PublicKey)}
    {certificate : Certificate} {digest : Bytes} {digestLength : Nat}
    (h : verification crypto entries certificate digest digestLength = .error (.error .noKey)) :
    published? entries certificate.header.keyId = none := by
  by_cases hknown : certificate.header.hashNumber < 20
  · rw [verification_of_known hknown] at h
    cases hfound : published? entries certificate.header.keyId with
    | none => rfl
    | some entry => simp [hfound] at h
  · rw [verification_of_unknown hknown] at h
    cases h

/-- A verification that finds no key has searched the keyring of its anchor for it. -/
theorem VerifyTrace.published?_eq_none {certificate : Certificate} {digest : Bytes}
    {digestLength : Nat} {outcome : Outcome Refusal Int32}
    (h : VerifyTrace verifier certificate digest digestLength anchor calls outcome after)
    (hbuilt : verifier.Built anchor) (hsound : state.Sound)
    (hanswer : (collaborators crypto).Answer state calls last)
    (hnoKey : outcome = .error (.error .noKey)) :
    ∃ binding entries, after.binding = some binding ∧ last.Reads binding.handle entries ∧
      KeyStore.published? entries certificate.header.keyId = none := by
  rcases h.refused_or_verdict hbuilt hsound hanswer with
    ⟨binding, failure, -, rfl, hadmission⟩ | ⟨keyring, entries, hbound, hreads, rfl⟩
  · -- an anchor that is bound for others does not refuse for want of a key
    cases hnoKey
    cases hadmission
  · exact ⟨_, entries, hbound, hreads, KeyStore.published?_of_verification hnoKey⟩

theorem FindTrace.published?_eq_none {wanted : KeyId} {outcome : Outcome Refusal Handle}
    (h : FindTrace verifier wanted anchor calls outcome) (hsound : state.Sound)
    (hanswer : (collaborators crypto).Answer state calls last)
    (hnoKey : outcome = .error (.error .noKey)) :
    anchor.binding = none ∨
      ∃ binding entries, anchor.binding = some binding ∧ last.Reads binding.handle entries ∧
        KeyStore.published? entries wanted = none := by
  cases h with
  | unset hunset => exact .inl hunset
  | refused hbound hadmission =>
    cases hnoKey
    cases hadmission
  | @searched keyring calls outcome hbound hsearch =>
    obtain ⟨entries, hreads⟩ := hsound.exists_reads keyring
    rw [← List.append_nil calls] at hanswer
    rcases hsearch.of_reads hreads hanswer with ⟨hnone, -, hlast⟩ | ⟨entry, key, -, hfound, -⟩
    · rw [show last = state from hlast]
      exact .inr ⟨_, entries, hbound, hreads, hnone⟩
    · rw [hfound] at hnoKey
      cases hnoKey

/-! ## Runs -/

section Runs

variable (crypto : Crypto) (world : World KeyStore)

theorem attainable_load (name : String) (owner : Option ServiceId) :
    Attainable (name = "") (fun _ => True)
      ((TrustAnchor.load name owner).run (collaborators crypto) world).outcome := by
  have htrace := (ensures_load name owner world.anchor).run (collaborators crypto) world.state
  have hanswer := Operation.answer_run (collaborators crypto) (TrustAnchor.load name owner) world
  exact htrace.attainable hanswer

theorem attainable_peek (name : String) (owner : Option ServiceId) :
    Attainable unnamed (fun _ => True)
      ((TrustAnchor.peek name owner).run (collaborators crypto) world).outcome := by
  have htrace := ((ensures_peek name owner world.anchor).run (collaborators crypto)
    world.state).1
  exact htrace.attainable

theorem attainable_search (keyring : Option Handle) (id : KeyId) (hsound : world.state.Sound) :
    Attainable unnamed (fun _ => True)
      ((findKey keyring id).run (collaborators crypto) world).outcome := by
  cases keyring with
  | none => trivial
  | some keyring =>
    have htrace := ((ensures_search keyring id world.anchor).run (collaborators crypto)
      world.state).1
    have hanswer := Operation.answer_run (collaborators crypto) (findKey (some keyring) id) world
    exact htrace.attainable hsound hanswer

theorem attainable_findKey (verifier : Verifier) (id : KeyId) (hsound : world.state.Sound) :
    Attainable unnamed (fun _ => True)
      ((verifier.findKey id).run (collaborators crypto) world).outcome := by
  have htrace := ((ensures_findKey verifier id world.anchor).run (collaborators crypto)
    world.state).1
  have hanswer := Operation.answer_run (collaborators crypto) (verifier.findKey id) world
  exact htrace.attainable hsound hanswer

theorem attainable_verify (verifier : Verifier) (certificate : Certificate) (digest : Bytes)
    (digestLength : Nat) (hsound : world.state.Sound) :
    Attainable (verifier.config.keyringName = "") (· ∈ KeyStore.keyCodes)
      ((verifier.verify certificate digest digestLength).run (collaborators crypto)
        world).outcome := by
  have htrace := (ensures_verify verifier certificate digest digestLength world.anchor).run
    (collaborators crypto) world.state
  have hanswer := Operation.answer_run (collaborators crypto)
    (verifier.verify certificate digest digestLength) world
  exact htrace.attainable hsound hanswer

theorem attainable_provision (verifier : Verifier) (data : Bytes)
    (hholds : ∀ binding, world.anchor.binding = some binding →
      ∃ entries, world.state.Holds binding.handle entries) :
    Attainable unnamed (fun _ => True)
      ((verifier.provision data).run (collaborators crypto) world).outcome := by
  have htrace := ((ensures_provision verifier data world.anchor).run (collaborators crypto)
    world.state).1
  have hanswer := Operation.answer_run (collaborators crypto) (verifier.provision data) world
  exact htrace.attainable (fun keyring hbound => hholds _ hbound) hanswer

theorem attainable_provisionFrom (verifier : Verifier) (host : Host) (source : CertificateSource)
    (hholds : ∀ binding, world.anchor.binding = some binding →
      ∃ entries, world.state.Holds binding.handle entries) :
    Attainable unnamed (fun _ => True)
      ((verifier.provisionFrom host source).run (collaborators crypto) world).outcome := by
  cases hsource : source.read host with
  | error refusal =>
    rw [verifier.provisionFrom_of_error hsource]
    exact source.attainable_of_read hsource
  | ok data =>
    rw [verifier.provisionFrom_of_ok hsource]
    exact attainable_provision crypto world verifier data hholds

end Runs

end TrustedKeyring
