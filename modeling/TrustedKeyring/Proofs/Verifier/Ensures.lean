import TrustedKeyring.Proofs.Verifier.Trace

/-!
# Operations of a verifier

Every operation of a verifier goes by one of its traces, whatever it is answered.
-/

namespace TrustedKeyring

variable {anchor : TrustAnchor}

theorem ensures_search (keyring : Handle) (id : KeyId) (anchor : TrustAnchor) :
    (findKey (some keyring) id).Ensures anchor fun calls outcome after =>
      SearchTrace keyring id calls outcome ∧ after = anchor := by
  simp only [findKey, bind, Operation.perform, Operation.andThen, Operation.Ensures]
  rw [id.description_eq]
  intro answer
  rcases answer with (errno | message) | key
  · by_cases herrno : errno ∈ unusableKey
    · have hfolded : meansNoKey errno = true := List.contains_iff_mem.mpr herrno
      simp only [hfolded, if_true]
      exact ⟨.unusable herrno, rfl⟩
    · have hkept : meansNoKey errno = false := by
        rw [← Bool.not_eq_true]
        exact fun h => herrno (List.contains_iff_mem.mp h)
      simp only [hkept, Bool.false_eq_true, if_false]
      exact ⟨.failed herrno, rfl⟩
  · exact ⟨.panicked message, rfl⟩
  · exact ⟨.found key, rfl⟩

/-- What a verifier does with the handle that a look at its anchor gives is what it does after the
refusals of an unset or foreign anchor. -/
theorem ensures_keyring_bind {α : Type} (verifier : Verifier)
    (next : Option Handle → Operation α)
    {post : List Exchange → Outcome Refusal α → TrustAnchor → Prop}
    (hunset : anchor.binding = none → (next none).Ensures anchor post)
    (hrefused : ∀ binding failure, anchor.binding = some binding →
      Admission verifier.config.keyringName verifier.owner binding (.error failure) →
      post [] (.error failure) anchor)
    (hadmitted : ∀ keyring,
      anchor.binding = some ⟨keyring, verifier.config.keyringName, verifier.owner⟩ →
      (next (some keyring)).Ensures anchor post) :
    (verifier.keyring >>= next).Ensures anchor post := by
  refine Operation.Ensures.bind ((ensures_peek _ _ anchor).mono ?_)
  rintro calls outcome after ⟨hpeek, rfl, rfl⟩
  cases hpeek with
  | unset h => exact hunset h
  | @bound binding outcome hbound hanswer =>
    cases outcome with
    | error failure => exact hrefused binding failure hbound hanswer
    | ok keyring => exact hadmitted keyring (hbound.trans (congrArg some hanswer.binding_eq))

theorem ensures_findKey (verifier : Verifier) (id : KeyId) (anchor : TrustAnchor) :
    (verifier.findKey id).Ensures anchor fun calls outcome after =>
      FindTrace verifier id anchor calls outcome ∧ after = anchor := by
  apply ensures_keyring_bind
  · exact fun hunset => ⟨.unset hunset, rfl⟩
  · exact fun binding failure hbound hanswer => ⟨.refused hbound hanswer, rfl⟩
  · intro keyring hbound
    refine (ensures_search keyring id anchor).mono ?_
    rintro calls outcome after ⟨hsearch, rfl⟩
    exact ⟨.searched hbound hsearch, rfl⟩

theorem ensures_provision (verifier : Verifier) (data : Bytes) (anchor : TrustAnchor) :
    (verifier.provision data).Ensures anchor fun calls outcome after =>
      ProvisionTrace verifier data anchor calls outcome ∧ after = anchor := by
  apply ensures_keyring_bind
  · exact fun hunset => ⟨.unset hunset, rfl⟩
  · exact fun binding failure hbound hanswer => ⟨.refused hbound hanswer, rfl⟩
  · intro keyring hbound
    by_cases hdata : data = []
    · subst hdata
      exact ⟨.empty hbound rfl, rfl⟩
    · have hfull : data.isEmpty = false := by rw [List.isEmpty_eq_false_iff]; exact hdata
      simp only [hfull, Bool.false_eq_true, if_false, bind, Operation.perform, Operation.andThen,
        Operation.Ensures]
      intro answer
      rcases answer with (errno | message) | key
      · exact ⟨.failed hbound hdata errno, rfl⟩
      · exact ⟨.panicked hbound hdata message, rfl⟩
      · exact ⟨.added hbound hdata key, rfl⟩

theorem Verifier.provisionFrom_of_ok (verifier : Verifier) {host : Host}
    {source : CertificateSource} {data : Bytes} (h : source.read host = .ok data) :
    verifier.provisionFrom host source = verifier.provision data := by
  unfold provisionFrom
  rw [h]
  rfl

/-- A source that cannot be read is refused before the anchor is looked at. -/
theorem Verifier.provisionFrom_of_error (verifier : Verifier) {host : Host}
    {source : CertificateSource} {refusal : Refusal} (h : source.read host = .error refusal) :
    verifier.provisionFrom host source = Operation.refuse refusal := by
  unfold provisionFrom
  rw [h]
  rfl

/-- What a loaded verifier does with a certificate: the gate, the search and the check. -/
theorem ensures_check (verifier : Verifier) (certificate : Certificate) (digest : Bytes)
    (digestLength : Nat) {keyring : Handle}
    (hbound : anchor.binding = some ⟨keyring, verifier.config.keyringName, verifier.owner⟩) :
    (do
      Operation.ofExcept certificate.header.gate
      let key ← verifier.findKey certificate.header.keyId
      let reply ← Operation.perform
        (.check key (.forDigest digest digestLength) certificate certificate.header)
      Operation.perform (.release key)
      match reply with
      | .ok code => pure code
      | .error (.panic message) => Operation.unwind message : Operation Int32).Ensures anchor
      fun calls outcome after =>
        CheckTrace keyring certificate digest digestLength calls outcome ∧ after = anchor := by
  by_cases hknown : certificate.header.hashNumber < 20
  · have hgate : certificate.header.gate = .ok () := if_pos (decide_eq_true hknown)
    rw [hgate]
    change ((verifier.findKey certificate.header.keyId) >>= _).Ensures anchor _
    refine Operation.Ensures.bind ((ensures_findKey verifier _ anchor).mono ?_)
    rintro calls outcome after ⟨hfind, rfl⟩
    have hsearch := hfind.search_of_binding_eq hbound
    cases outcome with
    | error failure => exact ⟨.notFound hknown hsearch, rfl⟩
    | ok key =>
      intro answer
      rcases answer with (impossible | message) | code
      · cases impossible
      · exact ⟨.panicked hknown hsearch message, rfl⟩
      · exact ⟨.checked hknown hsearch code, rfl⟩
  · have hgate : certificate.header.gate =
        .error (.unknownAlgorithm certificate.header.hashNumber) :=
      if_neg fun h => hknown (of_decide_eq_true h)
    rw [hgate]
    exact ⟨.unknownAlgorithm (UInt8.not_lt.mp hknown), rfl⟩

theorem ensures_verify (verifier : Verifier) (certificate : Certificate) (digest : Bytes)
    (digestLength : Nat) (anchor : TrustAnchor) :
    (verifier.verify certificate digest digestLength).Ensures anchor
      (VerifyTrace verifier certificate digest digestLength anchor) := by
  refine Operation.Ensures.bind ((ensures_load _ _ anchor).mono ?_)
  intro loads outcome after hload
  cases outcome with
  | error failure => exact .notLoaded hload
  | ok keyring =>
    refine (ensures_check verifier certificate digest digestLength hload.binding_eq).mono ?_
    rintro calls outcome after ⟨hcheck, rfl⟩
    exact .loaded hload hcheck

end TrustedKeyring
