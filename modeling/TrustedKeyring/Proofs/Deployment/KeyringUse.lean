import TrustedKeyring.Proofs.Deployment.WriteOnce
import TrustedKeyring.Proofs.Verifier.Keyring

/-!
# Keyrings that requests pass on

Each request passes on the keyring that its anchor holds for the visitor, or one that it has opened
(`keyringUse_perform`).  A verifier that was built for the shared anchor presents the key service
that it calls.
-/

namespace TrustedKeyring

variable {σ α : Type}

def Member.IsShared (member : Member) : Prop :=
  ∃ config service primitive,
    Deployment.newSharedMember config service primitive = .ok member

def Request.member? : Request → Option Member
  | .load member | .verify member _ _ _ | .findKey member _ | .provision member _
  | .provisionFrom member _ => some member
  | .verifyDigest _ _ _ _ _ | .resolve _ _ _ | .release _ | .loadAnchor _ _ | .peek _ _ _ => none

def Request.isDirect : Request → Bool
  | .loadAnchor _ _ | .peek _ _ _ => true
  | _ => false

theorem Member.IsShared.visitor_eq {member : Member} (h : member.IsShared) (isLoader : Bool) :
    member.visitor isLoader = ⟨.shared, member.verifier.config.keyringName, some member.service,
      member.service, isLoader⟩ := by
  rcases h with ⟨config, service, primitive, h⟩
  unfold Deployment.newSharedMember Verifier.ofShared at h
  cases hvalid : config.validate with
  | error refusal => rw [hvalid] at h; cases h
  | ok _ => rw [hvalid] at h; cases h; rfl

namespace Deployment

variable {environment : Environment σ} {deployment : Deployment σ} {ref : AnchorRef}
  {operation : Operation α} {request : Request} {visitor : Visitor}

/-- Whether the verifier of a request, if it leads to the shared anchor, was built for it. -/
def BuiltFor (deployment : Deployment σ) (request : Request) : Prop :=
  ∀ member ∈ request.member?, deployment.place? member.anchor = some .shared → member.IsShared

/-! ## Places -/

theorem place?_run (deployment : Deployment σ) (environment : Environment σ) (ref : AnchorRef)
    (service : ServiceId) (primitive : PrimitiveId) (operation : Operation α) :
    (deployment.run environment ref service primitive operation).deployment.place? =
      deployment.place? := by
  funext other
  refine Eq.trans ?_ (place?_setAnchor deployment (operation.run
    (environment.collaborators service primitive)
    ⟨deployment.anchor ref, deployment.state⟩).world.anchor ref other)
  cases other <;> rfl

theorem place?_hold (service : ServiceId) (step : Step σ Handle) :
    (hold service step).deployment.place? = step.deployment.place? := by
  unfold hold
  split
  · rfl
  · funext other
    cases other <;> rfl

theorem place?_perform (environment : Environment σ) (deployment : Deployment σ)
    (request : Request) :
    (deployment.perform environment request).deployment.place? = deployment.place? := by
  cases request with
  | findKey | resolve => exact (place?_hold _ _).trans (place?_run _ _ _ _ _ _)
  | release slot =>
    rw [perform_release]
    cases deployment.heldIn? slot with
    | none => rfl
    | some held =>
      funext other
      cases other <;> rfl
  | _ => exact place?_run _ _ _ _ _ _

theorem place?_after (environment : Environment σ) (deployment : Deployment σ)
    (requests : List Request) :
    (deployment.after environment requests).place? = deployment.place? := by
  induction requests generalizing deployment with
  | nil => rfl
  | cons request requests ih => exact (ih _).trans (place?_perform environment deployment request)

theorem builtFor_of_place?_eq {other : Deployment σ} (h : other.place? = deployment.place?) :
    other.BuiltFor request ↔ deployment.BuiltFor request := by
  unfold BuiltFor
  rw [h]

/-! ## Keyrings that requests pass on -/

theorem keyringUse_run {name : String} {owner : Option ServiceId} {place : AnchorPlace}
    (h : operation.Ensures (deployment.anchor ref) fun calls outcome _ =>
      KeyringUse name owner (deployment.anchor ref) calls outcome)
    (hplace : deployment.place? ref = some place) (environment : Environment σ)
    (service : ServiceId) (primitive : PrimitiveId) :
    let step := deployment.run environment ref service primitive operation
    KeyringUse name owner (deployment.anchorIn place) step.calls step.outcome := by
  intro step
  rw [calls_run, ← anchor_of_place? hplace]
  exact h.run (environment.collaborators service primitive) deployment.state

theorem calls_hold (service : ServiceId) (step : Step σ Handle) :
    (hold service step).calls = step.calls := by
  unfold Step.calls
  rw [events_hold]

theorem isForeign_hold (service : ServiceId) (step : Step σ Handle) :
    isForeign (hold service step).outcome = isForeign step.outcome := by
  unfold hold
  cases houtcome : step.outcome with
  | error failure => exact isForeign_error failure
  | ok key => rfl

theorem keyringUse_provision (verifier : Verifier) (data : Bytes) (anchor : TrustAnchor) :
    (verifier.provision data).Ensures anchor fun calls outcome _ =>
      KeyringUse verifier.config.keyringName verifier.owner anchor calls outcome := by
  refine (ensures_provision verifier data anchor).mono ?_
  rintro calls outcome after ⟨htrace, -⟩
  exact htrace.keyringUse

theorem keyringUse_verify (verifier : Verifier) (certificate : Certificate) (digest : Bytes)
    (digestLength : Nat) (anchor : TrustAnchor) :
    (verifier.verify certificate digest digestLength).Ensures anchor fun calls outcome _ =>
      KeyringUse verifier.config.keyringName verifier.owner anchor calls outcome :=
  (ensures_verify verifier certificate digest digestLength anchor).mono
    fun _ _ _ htrace => htrace.keyringUse

theorem keyringUse_perform {place : AnchorPlace} (environment : Environment σ)
    (hvisitor : deployment.visitorIn? place request = some visitor)
    (hread : request.sourceFault? environment.host = none) :
    let step := deployment.perform environment request
    KeyringUse visitor.name visitor.owner (deployment.anchorIn place) step.calls step.outcome := by
  intro step
  rcases visitorIn?_eq_some_iff.mp hvisitor with ⟨hrequest, hplace⟩
  cases request with
  | load member =>
    cases hrequest
    have huse := (ensures_load member.verifier.config.keyringName member.verifier.owner
      (deployment.anchor member.anchor)).mono fun _ _ _ htrace => htrace.keyringUse
    exact (keyringUse_run huse hplace environment _ _).change (isForeign_map _ _)
  | verify member certificate digest digestLength =>
    cases hrequest
    exact (keyringUse_run (keyringUse_verify _ _ _ _ _) hplace environment _ _).change
      (isForeign_map _ _)
  | verifyDigest service primitive certificate digest digestLength =>
    cases hrequest
    exact (keyringUse_run (keyringUse_verify ⟨{}, some service⟩ _ _ _ _) hplace environment _
      _).change (isForeign_map _ _)
  | findKey member id =>
    cases hrequest
    have huse := (ensures_findKey member.verifier id (deployment.anchor member.anchor)).mono
      fun _ _ _ htrace => htrace.1.keyringUse
    change KeyringUse _ _ _ (hold member.service _).calls _
    rw [calls_hold]
    exact (keyringUse_run huse hplace environment _ _).change (isForeign_hold _ _)
  | provision member data =>
    cases hrequest
    exact (keyringUse_run (keyringUse_provision _ _ _) hplace environment _ _).change
      (isForeign_map _ _)
  | provisionFrom member source =>
    cases hrequest
    cases hsource : source.read environment.host with
    | error refusal => rw [Request.sourceFault?, hsource] at hread; cases hread
    | ok data =>
      have huse := keyringUse_provision member.verifier data (deployment.anchor member.anchor)
      rw [← member.verifier.provisionFrom_of_ok hsource] at huse
      exact (keyringUse_run huse hplace environment _ _).change (isForeign_map _ _)
  | loadAnchor anchor loader =>
    cases hrequest
    have huse := (ensures_load loader.name (if loader.isOwner then some loader.service else none)
      (deployment.anchor anchor)).mono fun _ _ _ htrace => htrace.keyringUse
    exact (keyringUse_run huse hplace environment _ _).change (isForeign_map _ _)
  | peek anchor name owner =>
    cases hrequest
    have huse : (TrustAnchor.peek name owner).Ensures (deployment.anchor anchor)
        fun calls outcome _ => KeyringUse name owner (deployment.anchor anchor) calls outcome := by
      refine (ensures_peek name owner (deployment.anchor anchor)).mono ?_
      rintro calls outcome after ⟨htrace, rfl, -⟩
      exact htrace.keyringUse
    exact (keyringUse_run huse hplace environment _ _).change (isForeign_map _ _)
  | resolve | release => cases hrequest

/-- Callers that use an anchor themselves are given its handle and pass it to nobody. -/
theorem keyring?_of_isDirect (environment : Environment σ) (hdirect : request.isDirect = true)
    (call : Exchange) (hcall : call ∈ (deployment.perform environment request).calls) :
    call.keyring? = none := by
  cases request with
  | loadAnchor anchor loader =>
    change call ∈ (deployment.run environment _ _ _ _).calls at hcall
    rw [calls_run] at hcall
    exact ((ensures_load loader.name _ _).run _ _).keyring?_eq_none call hcall
  | peek anchor name owner =>
    change call ∈ (deployment.run environment _ _ _ _).calls at hcall
    rw [calls_run, ((ensures_peek name owner (deployment.anchor anchor)).run _ _).2.1] at hcall
    cases hcall
  | _ => cases hdirect

/-! ## Owners of the shared anchor -/

/-- A verifier that uses the shared anchor presents its own key service. -/
theorem owner_of_builtFor (hbuilt : deployment.BuiltFor request)
    (hvisitor : deployment.visitorIn? .shared request = some visitor)
    (hdirect : request.isDirect = false) : visitor.owner = some visitor.service := by
  rcases visitorIn?_eq_some_iff.mp hvisitor with ⟨hrequest, hplace⟩
  cases request with
  | load member | verify member | findKey member | provision member | provisionFrom member =>
    cases hrequest
    rw [(hbuilt member rfl hplace).visitor_eq]
  | verifyDigest => cases hrequest; rfl
  | resolve | release => cases hrequest
  | loadAnchor | peek => cases hdirect

/-- Whoever loads an anchor as its owner is the key service that it is loaded through. -/
theorem owner_of_isLoader (hbuilt : deployment.BuiltFor request)
    (hvisitor : deployment.visitorIn? .shared request = some visitor)
    (hloads : visitor.isLoader = true) (howner : visitor.owner ≠ none) :
    visitor.owner = some visitor.service := by
  cases hdirect : request.isDirect with
  | false => exact owner_of_builtFor hbuilt hvisitor hdirect
  | true =>
    rcases visitorIn?_eq_some_iff.mp hvisitor with ⟨hrequest, -⟩
    cases request with
    | loadAnchor anchor loader =>
      cases hrequest
      dsimp only at howner ⊢
      split at howner
      · rw [if_pos ‹_›]
      · exact absurd rfl howner
    | peek => cases hrequest; cases hloads
    | _ => cases hdirect

end Deployment

end TrustedKeyring
