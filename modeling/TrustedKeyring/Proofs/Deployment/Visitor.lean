import TrustedKeyring.Proofs.Deployment.Place
import TrustedKeyring.Proofs.TrustAnchor.Visit

/-!
# Visitors of anchors

Each request but the search of a given keyring and the release of a key visits one anchor, as a
caller with a keyring name and an owner.
-/

namespace TrustedKeyring

structure Visitor where
  anchor : AnchorRef
  name : String
  owner : Option ServiceId
  service : ServiceId
  isLoader : Bool
deriving DecidableEq, Repr

def Member.visitor (member : Member) (isLoader : Bool) : Visitor :=
  ⟨member.anchor, member.verifier.config.keyringName, member.verifier.owner, member.service,
    isLoader⟩

namespace Request

def visitor? : Request → Option Visitor
  | .load member | .verify member _ _ _ => some (member.visitor true)
  | .verifyDigest service _ _ _ _ => some ⟨.shared, ".five", some service, service, true⟩
  | .findKey member _ | .provision member _ | .provisionFrom member _ =>
    some (member.visitor false)
  | .loadAnchor anchor loader =>
    some ⟨anchor, loader.name, if loader.isOwner then some loader.service else none,
      loader.service, true⟩
  | .peek anchor name owner => some ⟨anchor, name, owner, 0, false⟩
  | .resolve _ _ _ | .release _ => none

def sourceFault? (host : Host) : Request → Option Refusal
  | .provisionFrom _ source =>
    match source.read host with
    | .ok _ => none
    | .error refusal => some refusal
  | _ => none

/-- How a request shows which handle was found in its anchor. -/
def Shows (request : Request) (handle : Option Handle) (calls : List Exchange)
    (outcome : Outcome Refusal Reply) : Prop :=
  match request, handle with
  | .load _, some handle => calls = [] ∧ outcome = .ok (.handle handle)
  | .loadAnchor _ _, some handle => calls = [] ∧ outcome = .ok (.handle handle)
  | .peek _ _ _, handle => calls = [] ∧ outcome = .ok (.handle? handle)
  | .findKey _ _, none => outcome = .error (.error .noKey)
  | .provision _ _, none =>
    outcome = .error (.error (.invalidArgument "trust anchor is not loaded"))
  | .provisionFrom _ _, none =>
    outcome = .error (.error (.invalidArgument "trust anchor is not loaded"))
  | _, _ => True

end Request

namespace Deployment

variable {σ α : Type} {environment : Environment σ} {deployment : Deployment σ}
  {place : AnchorPlace} {ref : AnchorRef} {operation : Operation α}

def Step.calls (step : Step σ α) : List Exchange :=
  (step.events.map Event.exchange).filter fun exchange => exchange.request.isCall

def Step.openings (step : Step σ α) : List Exchange :=
  step.calls.filter Exchange.isOpening

/-- What a request does with the anchor in a place: it visits it, or leaves it as it is. -/
inductive AnchorStep (environment : Environment σ) (deployment : Deployment σ)
    (place : AnchorPlace) (request : Request) (step : Step σ Reply) : Prop
  | visit {visitor : Visitor} (hvisitor : request.visitor? = some visitor)
      (hplace : deployment.place? visitor.anchor = some place)
      (hread : request.sourceFault? environment.host = none)
      (hservice : ∀ event ∈ step.events, event.service = visitor.service)
      (hvisit : Visit visitor.name visitor.owner visitor.isLoader request.Shows
        (deployment.anchorIn place) step.calls step.outcome (step.deployment.anchorIn place))
  | unread {visitor : Visitor} {refusal : Refusal} (hvisitor : request.visitor? = some visitor)
      (hlooks : visitor.isLoader = false)
      (hfault : request.sourceFault? environment.host = some refusal)
      (hcalls : step.calls = []) (houtcome : step.outcome = .error (.error refusal))
      (hkept : step.deployment.anchorIn place = deployment.anchorIn place)
  | elsewhere {visitor : Visitor} (hvisitor : request.visitor? = some visitor)
      (hplace : deployment.place? visitor.anchor ≠ some place)
      (hkept : step.deployment.anchorIn place = deployment.anchorIn place)
  | apart (hvisitor : request.visitor? = none) (hopenings : step.openings = [])
      (hkept : step.deployment.anchorIn place = deployment.anchorIn place)

theorem calls_run (deployment : Deployment σ) (environment : Environment σ) (ref : AnchorRef)
    (service : ServiceId) (primitive : PrimitiveId) (operation : Operation α) :
    (deployment.run environment ref service primitive operation).calls =
      (operation.run (environment.collaborators service primitive)
        ⟨deployment.anchor ref, deployment.state⟩).calls := by
  simp only [Step.calls, run, List.map_map, Run.calls]
  congr 1
  exact List.map_id _

theorem service_run {service : ServiceId} {primitive : PrimitiveId} {event : Event}
    (h : event ∈ (deployment.run environment ref service primitive operation).events) :
    event.service = service := by
  rcases List.mem_map.mp h with ⟨exchange, -, rfl⟩
  rfl

/-- A step replaces the anchor that its operation is about. -/
theorem anchorIn_run (deployment : Deployment σ) (environment : Environment σ) (ref : AnchorRef)
    (service : ServiceId) (primitive : PrimitiveId) (operation : Operation α)
    (place : AnchorPlace) :
    (deployment.run environment ref service primitive operation).deployment.anchorIn place =
      (deployment.setAnchor (operation.run (environment.collaborators service primitive)
        ⟨deployment.anchor ref, deployment.state⟩).world.anchor ref).anchorIn place := by
  cases place <;> rfl

theorem anchorIn_run_of_ne {service : ServiceId} {primitive : PrimitiveId}
    (hplace : deployment.place? ref ≠ some place) :
    (deployment.run environment ref service primitive operation).deployment.anchorIn place =
      deployment.anchorIn place := by
  rw [anchorIn_run]
  cases hother : deployment.place? ref with
  | none => rw [setAnchor_of_place?_eq_none hother]
  | some other =>
    rw [anchorIn_setAnchor hother, if_neg]
    intro heq
    exact hplace (by rw [hother, heq])

/-- An operation that leaves its anchor as it is changes none. -/
theorem anchorIn_run_of_ensures
    (h : operation.Ensures (deployment.anchor ref) fun _ _ after =>
      after = deployment.anchor ref) (environment : Environment σ) (service : ServiceId)
    (primitive : PrimitiveId) :
    (deployment.run environment ref service primitive operation).deployment.anchorIn place =
      deployment.anchorIn place := by
  by_cases hplace : deployment.place? ref = some place
  · rw [anchorIn_run, anchorIn_setAnchor hplace, if_pos rfl, ← anchor_of_place? hplace]
    exact h.run _ _
  · exact anchorIn_run_of_ne hplace

/-- A visit of an operation is one of the step that runs it. -/
theorem visit_run {name : String} {owner : Option ServiceId} {isLoader : Bool}
    {shows : Option Handle → List Exchange → Outcome Refusal α → Prop}
    (h : operation.Ensures (deployment.anchor ref)
      (Visit name owner isLoader shows (deployment.anchor ref)))
    (hplace : deployment.place? ref = some place) (environment : Environment σ)
    (service : ServiceId) (primitive : PrimitiveId) :
    let step := deployment.run environment ref service primitive operation
    Visit name owner isLoader shows (deployment.anchorIn place) step.calls step.outcome
      (step.deployment.anchorIn place) := by
  intro step
  have hrun := h.run (environment.collaborators service primitive) deployment.state
  change Visit _ _ _ _ _ (deployment.run environment ref service primitive operation).calls _
    ((deployment.run environment ref service primitive operation).deployment.anchorIn place)
  rw [calls_run, anchorIn_run, anchorIn_setAnchor hplace, if_pos rfl, ← anchor_of_place? hplace]
  exact hrun

end Deployment

end TrustedKeyring
