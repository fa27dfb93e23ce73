import TrustedKeyring.Proofs.Deployment.Session
import TrustedKeyring.Proofs.Verifier.Failures

/-!
# Failures in a session

What can go wrong in a session over one key store whose verifiers were built
(`failures_unreachable`): most ways in which a key service can fail do not come about, and a
verifier with a loaded anchor lacks a key only if its keyring does.
-/

namespace TrustedKeyring

open TrustStore (collaborators)

variable {crypto : Crypto} {host : Host}

namespace Request

def sought? : Request → Option (AnchorRef × KeyId)
  | .verify member certificate _ _ => some (member.anchor, certificate.header.keyId)
  | .verifyDigest _ _ certificate _ _ => some (.shared, certificate.header.keyId)
  | .findKey member id => some (member.anchor, id)
  | _ => none

def IsUnnamed (request : Request) : Prop :=
  ∃ anchor loader, request = .loadAnchor anchor loader ∧ loader.name = ""

end Request

def Reply.IsOfKey (reply : Reply) : Prop :=
  ∀ code, reply = .code code → code ∈ KeyStore.keyCodes

/-! ## Keyrings of anchors -/

namespace KeyStore

variable {store : KeyStore} {keyring : Handle} {name : String}
  {entries : List (Bytes × PublicKey)}

theorem Sound.holds_of_keyringName? (h : store.Sound)
    (hname : store.keyringName? keyring = some name) : ∃ entries, store.Holds keyring entries := by
  obtain ⟨members, hget⟩ := get?_eq_of_keyringName? hname
  have hmembers : store.members keyring = .ok members := by rw [KeyStore.members, hget]
  exact h.exists_holds hmembers

/-- What a keyring reads is what it holds. -/
theorem Reads.holds (h : store.Reads keyring entries)
    (hname : store.keyringName? keyring = some name) : store.Holds keyring entries := by
  cases h with
  | held hholds => exact hholds
  | nothing hmembers =>
    obtain ⟨members, hget⟩ := get?_eq_of_keyringName? hname
    rw [KeyStore.members, hget] at hmembers
    cases hmembers

end KeyStore

namespace Deployment

variable {deployment : Deployment KeyStore} {ref : AnchorRef} {place : AnchorPlace}
  {request : Request}

def Builds (deployment : Deployment KeyStore) (request : Request) : Prop :=
  ∀ member ∈ request.member?, ∃ place, deployment.place? member.anchor = some place ∧
    member.verifier.Built (deployment.anchor member.anchor)

/-- Whether the anchor that a reference leads to holds no key that is published under the
identifier.  Nothing is said of an anchor that is unset. -/
def Lacks (deployment : Deployment KeyStore) (ref : AnchorRef) (id : KeyId) : Prop :=
  ∀ binding, (deployment.anchor ref).binding = some binding →
    ∃ entries, deployment.state.Holds binding.handle entries ∧
      ∀ entry ∈ entries, Crypto.shortKeyId entry.1 ≠ id

theorem anchor_of_place?_eq_none {σ : Type} {deployment : Deployment σ}
    (h : deployment.place? ref = none) : deployment.anchor ref = {} := by
  cases ref with
  | shared => cases h
  | numbered number =>
    unfold place? at h
    unfold anchor
    match hentry : deployment.anchors[number]? with
    | none => simp only [hentry]
    | some .shared => simp only [hentry] at h; cases h
    | some (.own _) => simp only [hentry] at h; cases h

theorem Wired.keyringName?_eq (h : deployment.Wired) {binding : Binding}
    (hbound : (deployment.anchor ref).binding = some binding) :
    deployment.state.keyringName? binding.handle = some binding.keyring := by
  cases hplace : deployment.place? ref with
  | none =>
    rw [anchor_of_place?_eq_none hplace] at hbound
    cases hbound
  | some place =>
    rw [anchor_of_place? hplace] at hbound
    exact h.named place binding hbound

theorem Wired.exists_holds (h : deployment.Wired) {binding : Binding}
    (hbound : (deployment.anchor ref).binding = some binding) :
    ∃ entries, deployment.state.Holds binding.handle entries :=
  h.layout.sound.holds_of_keyringName? (h.keyringName?_eq hbound)

/-! ## What requests can come to -/

theorem attainable_hold {service : ServiceId} {step : Step KeyStore Handle} {unnamed : Prop}
    (h : Attainable unnamed (fun _ => True) step.outcome) :
    Attainable unnamed Reply.IsOfKey (hold service step).outcome := by
  unfold hold
  cases houtcome : step.outcome with
  | error failure =>
    rw [houtcome] at h
    exact h.of_error fun h => h
  | ok key =>
    intro code hcode
    cases hcode

/-- Every outcome of a request is attainable over a key store. -/
theorem attainable_perform (hwired : deployment.Wired) (hbuilt : deployment.Builds request) :
    Attainable request.IsUnnamed Reply.IsOfKey
      (deployment.perform (KeyStore.environment crypto host) request).outcome := by
  have hsound := hwired.layout.sound
  have hnamed : ∀ member ∈ request.member?, member.verifier.config.keyringName ≠ "" := by
    intro member hmember
    obtain ⟨place, -, hmade⟩ := hbuilt member hmember
    exact hmade.keyringName_ne
  have hhandle : ∀ handle, Reply.IsOfKey (.handle handle) := fun _ _ hcode => nomatch hcode
  have hdone : Reply.IsOfKey .done := fun _ hcode => nomatch hcode
  have hcodes : ∀ code ∈ KeyStore.keyCodes, Reply.IsOfKey (.code code) := by
    intro given hgiven code hcode
    cases hcode
    exact hgiven
  cases request with
  | load member =>
    exact (attainable_load crypto _ _ _).map Reply.handle
      (fun hname => absurd hname (hnamed member rfl)) fun handle _ => hhandle handle
  | loadAnchor anchor loader =>
    exact (attainable_load crypto _ _ _).map Reply.handle
      (fun hname => ⟨anchor, loader, rfl, hname⟩) fun handle _ => hhandle handle
  | peek anchor name owner =>
    exact (attainable_peek crypto _ _ _).map Reply.handle? (fun h => h)
      fun _ _ _ hcode => nomatch hcode
  | verify member certificate digest digestLength =>
    exact (attainable_verify crypto _ _ _ _ _ hsound).map Reply.code
      (fun hname => absurd hname (hnamed member rfl)) hcodes
  | verifyDigest service primitive certificate digest digestLength =>
    exact (attainable_verify crypto _ ⟨{}, some service⟩ _ _ _ hsound).map Reply.code
      (fun hname => absurd hname (show ".five" ≠ "" by decide)) hcodes
  | findKey member id => exact attainable_hold (attainable_findKey crypto _ _ _ hsound)
  | resolve keyring service id => exact attainable_hold (attainable_search crypto _ _ _ hsound)
  | release slot =>
    rw [perform_release]
    cases deployment.heldIn? slot with
    | none | some => exact hdone
  | provision member data =>
    exact (attainable_provision crypto _ _ _ fun _ hbound => hwired.exists_holds hbound).map
      (fun _ => Reply.done) (fun h => h) fun _ _ => hdone
  | provisionFrom member source =>
    exact (attainable_provisionFrom crypto _ _ _ _
      fun _ hbound => hwired.exists_holds hbound).map (fun _ => Reply.done) (fun h => h)
        fun _ _ => hdone

/-! ## Missing keys -/

theorem eq_of_hold_error {service : ServiceId} {step : Step KeyStore Handle}
    {failure : Failure Refusal} (h : (hold service step).outcome = .error failure) :
    step.outcome = .error failure ∧ (hold service step).deployment = step.deployment := by
  unfold hold at h ⊢
  split at h
  next other houtcome =>
    cases h
    rw [houtcome]
    exact ⟨rfl, rfl⟩
  next => cases h

theorem outcome_of_map_error {α β : Type} {step : Step KeyStore α} {f : α → β}
    {failure : Failure Refusal} (h : (step.map f).outcome = .error failure) :
    step.outcome = .error failure := by
  unfold Step.map at h
  cases houtcome : step.outcome with
  | error other =>
    rw [houtcome] at h
    cases h
    rfl
  | ok value =>
    rw [houtcome] at h
    cases h

theorem Wired.lacks (h : deployment.Wired) {binding : Binding} {id : KeyId}
    {entries : List (Bytes × PublicKey)}
    (hbound : (deployment.anchor ref).binding = some binding)
    (hreads : deployment.state.Reads binding.handle entries)
    (hnone : KeyStore.published? entries id = none) : deployment.Lacks ref id := by
  intro other hother
  rw [hbound] at hother
  cases hother
  exact ⟨entries, hreads.holds (h.keyringName?_eq hbound), KeyStore.ne_of_published?_eq_none hnone⟩

/-- A verification that finds no key has loaded its anchor, whose keyring holds none. -/
theorem lacks_verify {verifier : Verifier} {service : ServiceId} {primitive : PrimitiveId}
    {certificate : Certificate} {digest : Bytes} {digestLength : Nat}
    (hsound : deployment.state.Sound) (hplace : deployment.place? ref = some place)
    (hbuilt : verifier.Built (deployment.anchor ref)) :
    let step := deployment.run (KeyStore.environment crypto host) ref service primitive
      (verifier.verify certificate digest digestLength)
    step.deployment.Wired → step.outcome = .error (.error .noKey) →
      (step.deployment.anchor ref).binding ≠ none ∧
        step.deployment.Lacks ref certificate.header.keyId := by
  intro step hwired hnoKey
  have htrace := (ensures_verify verifier certificate digest digestLength
    (deployment.anchor ref)).run (collaborators crypto) deployment.state
  have hanswer := Operation.answer_run (collaborators crypto)
    (verifier.verify certificate digest digestLength) ⟨deployment.anchor ref, deployment.state⟩
  obtain ⟨binding, entries, hbound, hreads, hnone⟩ :=
    htrace.published?_eq_none hbuilt hsound hanswer hnoKey
  have hafter : (step.deployment.anchor ref).binding = some binding := by
    rw [show step.deployment.anchor ref = _ from anchor_run hplace _ _ _ _]
    exact hbound
  constructor
  · rw [hafter]
    exact Option.some_ne_none binding
  · exact hwired.lacks hafter hreads hnone

theorem lacks_findKey {verifier : Verifier} {service : ServiceId} {primitive : PrimitiveId}
    {id : KeyId} (hsound : deployment.state.Sound)
    (hplace : deployment.place? ref = some place) :
    let step := deployment.run (KeyStore.environment crypto host) ref service primitive
      (verifier.findKey id)
    step.deployment.Wired → step.outcome = .error (.error .noKey) →
      step.deployment.Lacks ref id := by
  intro step hwired hnoKey binding hbound
  obtain ⟨htrace, hkept⟩ := (ensures_findKey verifier id
    (deployment.anchor ref)).run (collaborators crypto) deployment.state
  have hanswer := Operation.answer_run (collaborators crypto) (verifier.findKey id)
    ⟨deployment.anchor ref, deployment.state⟩
  have hafter : step.deployment.anchor ref = deployment.anchor ref :=
    (anchor_run hplace _ _ _ _).trans hkept
  rcases htrace.published?_eq_none hsound hanswer hnoKey with
    hunset | ⟨other, entries, hother, hreads, hnone⟩
  · rw [hafter, hunset] at hbound
    cases hbound
  · rw [← hafter] at hother
    exact hwired.lacks hother hreads hnone binding hbound

/-- A request that finds no key has looked in an anchor that holds none, or in an unset one that it
would not load. -/
theorem lacks_perform (hwired : deployment.Wired) (hbuilt : deployment.Builds request)
    {id : KeyId} (hsought : request.sought? = some (ref, id)) :
    let step := deployment.perform (KeyStore.environment crypto host) request
    step.outcome = .error (.error .noKey) →
      ((step.deployment.anchor ref).binding = none → ∃ member, request = .findKey member id) ∧
        step.deployment.Lacks ref id := by
  intro step hnoKey
  have hafter : step.deployment.Wired := wired_act hwired (.request request)
  have hsound := hwired.layout.sound
  cases request with
  | verify member certificate digest digestLength =>
    cases hsought
    obtain ⟨place, hplace, hmade⟩ := hbuilt member rfl
    obtain ⟨hbound, hlacks⟩ := lacks_verify hsound hplace hmade hafter
      (outcome_of_map_error hnoKey)
    exact ⟨fun hunset => absurd hunset hbound, hlacks⟩
  | verifyDigest service primitive certificate digest digestLength =>
    cases hsought
    have hmade : Verifier.Built ⟨{}, some service⟩ (deployment.anchor .shared) :=
      .ofShared (show Verifier.ofShared {} service = .ok _ from rfl)
    have hplace : deployment.place? .shared = some .shared := rfl
    obtain ⟨hbound, hlacks⟩ := lacks_verify hsound hplace hmade hafter
      (outcome_of_map_error hnoKey)
    exact ⟨fun hunset => absurd hunset hbound, hlacks⟩
  | findKey member id =>
    cases hsought
    obtain ⟨place, hplace, -⟩ := hbuilt member rfl
    obtain ⟨houtcome, hkept⟩ := eq_of_hold_error hnoKey
    rw [show step.deployment = _ from hkept] at hafter ⊢
    exact ⟨fun _ => ⟨member, rfl⟩, lacks_findKey hsound hplace hafter houtcome⟩
  | load | resolve | release | provision | provisionFrom | loadAnchor | peek => cases hsought

/-- In a session over one key store that starts with unset anchors, whatever has happened in it: a
verifier that was built always loads its anchor, no search fails but for a missing key, a
certificate is only refused for what it is, and a check never lacks its key.  A verifier is left
without a key only if the keyring of its anchor holds none under the identifier, or if nothing was
loaded. -/
theorem failures_unreachable (crypto : Crypto) (host : Host) (start : Deployment KeyStore)
    (hfresh : start.Fresh) (acts : List Act) (request : Request)
    (hbuilt : (start.afterActs crypto host acts).Builds request) :
    let step := (start.afterActs crypto host acts).perform (KeyStore.environment crypto host)
      request
    (∀ errno, step.outcome = .error (.error (.loadFailed errno)) → request.IsUnnamed) ∧
    (∀ errno, step.outcome ≠ .error (.error (.searchFailed errno))) ∧
    (∀ errno, step.outcome = .error (.error (.provisionFailed errno)) →
      errno = Errno.EBADMSG ∨ errno = Errno.EEXIST) ∧
    (∀ message, step.outcome ≠ .error (.panic message)) ∧
    (∀ code, step.outcome = .ok (.code code) → code ∈ ([0, -129, -65, -74] : List Int32)) ∧
    ∀ ref id, request.sought? = some (ref, id) → step.outcome = .error (.error .noKey) →
      ((step.deployment.anchor ref).binding = none → ∃ member, request = .findKey member id) ∧
        step.deployment.Lacks ref id := by
  intro step
  have hwired : (start.afterActs crypto host acts).Wired := wired_afterActs hfresh.wired acts
  have hattained : Attainable request.IsUnnamed Reply.IsOfKey step.outcome :=
    attainable_perform hwired hbuilt
  refine ⟨?_, ?_, ?_, ?_, ?_, ?_⟩
  · intro errno houtcome
    rwa [houtcome] at hattained
  · intro errno houtcome
    rw [houtcome] at hattained
    exact hattained
  · intro errno houtcome
    rwa [houtcome] at hattained
  · intro message houtcome
    rw [houtcome] at hattained
    exact hattained
  · intro code houtcome
    rw [houtcome] at hattained
    exact hattained code rfl
  · intro ref id hsought hnoKey
    exact lacks_perform hwired hbuilt hsought hnoKey

/-- A verifier of an own anchor whose keyring has one key, under another identifier. -/
theorem failures_unreachable_otherKey :
    let crypto : Crypto :=
      { Crypto.standard with readX509 := fun data => some ⟨some data, some (.raw .ed25519 [])⟩ }
    let host : Host := ⟨fun _ => .error none, fun _ => none⟩
    let member : Member := ⟨⟨{}, none⟩, .numbered 0, 0, 0⟩
    let certificate : Certificate := ⟨.forAlgorithm .sha256 ⟨7⟩, []⟩
    let start : Deployment KeyStore := { state := {}, anchors := [.own {}] }
    let here := start.afterActs crypto host
      [.call (.openKeyring "other"), .request (.load member),
        .request (.provision member [0, 0, 0, 5])]
    let step := here.perform (KeyStore.environment crypto host)
      (.verify member certificate [1, 2] 2)
    start.Fresh ∧ here.Builds (.verify member certificate [1, 2] 2) ∧
      step.outcome = .error (.error .noKey) ∧
      (step.deployment.anchor (.numbered 0)).binding = some ⟨⟨2⟩, ".five", none⟩ ∧
      step.deployment.state.Holds ⟨2⟩ [([0, 0, 0, 5], .raw .ed25519 [])] ∧
      step.deployment.Lacks (.numbered 0) ⟨7⟩ := by
  intro crypto host member certificate start here step
  have hfresh : start.Fresh := by
    refine ⟨rfl, ?_⟩
    intro place
    rcases place with _ | _ | number <;> rfl
  have hbuilt : here.Builds (.verify member certificate [1, 2] 2) := by
    intro given hgiven
    cases hgiven
    exact ⟨.own 0, rfl, .ofAnchor (show Verifier.ofAnchor {} {} = .ok _ by decide) rfl⟩
  have hnoKey : step.outcome = .error (.error .noKey) := by decide
  have hstate : step.deployment.state =
      { entries := [.keyring "other" [], .keyring ".five" [⟨3⟩],
          .key [0, 0, 0, 5] (.raw .ed25519 []) 0]
        names := [(".five", ⟨2⟩), ("other", ⟨1⟩)] } := by
    decide
  have hholds : step.deployment.state.Holds ⟨2⟩ [([0, 0, 0, 5], .raw .ed25519 [])] := by
    rw [hstate]
    exact ⟨[⟨3⟩], rfl, .cons ⟨rfl, rfl⟩ .nil⟩
  obtain ⟨-, -, -, -, -, hlacks⟩ := failures_unreachable crypto host start hfresh
    [.call (.openKeyring "other"), .request (.load member),
      .request (.provision member [0, 0, 0, 5])]
    (.verify member certificate [1, 2] 2) hbuilt
  exact ⟨hfresh, hbuilt, hnoKey, by decide, hholds, (hlacks (.numbered 0) ⟨7⟩ rfl hnoKey).2⟩

end Deployment

end TrustedKeyring
