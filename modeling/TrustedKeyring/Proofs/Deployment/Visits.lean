import TrustedKeyring.Proofs.Deployment.History
import TrustedKeyring.Proofs.Deployment.Visitor

/-!
# Requests as visits

What each request does with the anchor in a place (`anchorStep_perform`).
-/

namespace TrustedKeyring.Deployment

variable {σ α : Type} {environment : Environment σ} {deployment : Deployment σ}
  {place : AnchorPlace} {ref : AnchorRef} {operation : Operation α}

/-- A step that runs the operation of a visitor, and passes its failures on. -/
theorem anchorStep_of_visit {request : Request} {visitor : Visitor} {primitive : PrimitiveId}
    {step : Step σ Reply} {shows : Option Handle → List Exchange → Outcome Refusal α → Prop}
    (hvisitor : request.visitor? = some visitor)
    (hread : request.sourceFault? environment.host = none)
    (h : operation.Ensures (deployment.anchor visitor.anchor)
      (Visit visitor.name visitor.owner visitor.isLoader shows (deployment.anchor visitor.anchor)))
    (hevents : step.events =
      (deployment.run environment visitor.anchor visitor.service primitive operation).events)
    (hanchor : step.deployment.anchorIn place = (deployment.run environment visitor.anchor
      visitor.service primitive operation).deployment.anchorIn place)
    (hfailure : ∀ failure, (deployment.run environment visitor.anchor visitor.service primitive
      operation).outcome = .error failure → step.outcome = .error failure)
    (hshows : ∀ handle calls, shows handle calls (deployment.run environment visitor.anchor
      visitor.service primitive operation).outcome → request.Shows handle calls step.outcome) :
    AnchorStep environment deployment place request step := by
  by_cases hplace : deployment.place? visitor.anchor = some place
  · have hcalls : step.calls = (deployment.run environment visitor.anchor visitor.service primitive
        operation).calls := by
      unfold Step.calls
      rw [hevents]
    refine .visit hvisitor hplace hread ?_ ?_
    · intro event hevent
      rw [hevents] at hevent
      exact service_run hevent
    · rw [hcalls, hanchor]
      exact (visit_run h hplace environment visitor.service primitive).change hfailure hshows
  · exact .elsewhere hvisitor hplace (hanchor.trans (anchorIn_run_of_ne hplace))

theorem outcome_map_of_error {β : Type} {step : Step σ α} {f : α → β} {failure : Failure Refusal}
    (h : step.outcome = .error failure) : (step.map f).outcome = .error failure := by
  unfold Step.map
  rw [h]
  rfl

theorem outcome_hold_of_error {service : ServiceId} {step : Step σ Handle}
    {failure : Failure Refusal} (h : step.outcome = .error failure) :
    (hold service step).outcome = .error failure := by
  unfold hold
  rw [h]

theorem events_hold (service : ServiceId) (step : Step σ Handle) :
    (hold service step).events = step.events := by
  unfold hold
  split <;> rfl

theorem anchorIn_hold (service : ServiceId) (step : Step σ Handle) (place : AnchorPlace) :
    (hold service step).deployment.anchorIn place = step.deployment.anchorIn place := by
  unfold hold
  split
  · rfl
  · cases place <;> rfl

/-- A request that is answered with the handle of a load shows it. -/
theorem shows_of_load (request : Request)
    (hnone : ∀ calls outcome, request.Shows none calls outcome)
    (hsome : ∀ handle, request.Shows (some handle) [] (.ok (.handle handle)))
    {handle : Option Handle} {calls : List Exchange} {outcome : Outcome Refusal Handle}
    (h : ∀ given ∈ handle, calls = [] ∧ outcome = .ok given) :
    request.Shows handle calls (outcome.map .handle) := by
  cases handle with
  | none => exact hnone calls _
  | some handle =>
    rcases h handle rfl with ⟨rfl, rfl⟩
    exact hsome handle

/-- A request that an unset anchor refuses shows it by its refusal. -/
theorem shows_of_unset {refusal : Refusal} (request : Request)
    (hnone : ∀ calls, request.Shows none calls (.error (.error refusal)))
    (hsome : ∀ handle calls outcome, request.Shows (some handle) calls outcome)
    {handle : Option Handle} {calls : List Exchange} {outcome : Outcome Refusal α}
    {reply : Outcome Refusal Reply}
    (hreply : outcome = .error (.error refusal) → reply = .error (.error refusal))
    (h : showsUnset refusal handle calls outcome) : request.Shows handle calls reply := by
  cases handle with
  | none => rw [hreply (h rfl)]; exact hnone calls
  | some handle => exact hsome handle calls reply

/-- A request that visits no anchor, by an operation that loads and writes none. -/
theorem anchorStep_of_ensures {request : Request} {service : ServiceId}
    {primitive : PrimitiveId} {step : Step σ Reply} (hvisitor : request.visitor? = none)
    (h : operation.Ensures (deployment.anchor ref) fun calls _ after =>
      calls.filter Exchange.isOpening = [] ∧ after = deployment.anchor ref)
    (hevents : step.events =
      (deployment.run environment ref service primitive operation).events)
    (hanchor : step.deployment.anchorIn place =
      (deployment.run environment ref service primitive operation).deployment.anchorIn place) :
    AnchorStep environment deployment place request step := by
  refine .apart hvisitor ?_ ?_
  · have hcalls : step.calls =
        (deployment.run environment ref service primitive operation).calls := by
      unfold Step.calls
      rw [hevents]
    rw [Step.openings, hcalls, calls_run]
    exact (h.run (environment.collaborators service primitive) deployment.state).1
  · rw [hanchor]
    exact anchorIn_run_of_ensures (h.mono fun _ _ _ hkept => hkept.2) environment service primitive

/-- A source that cannot be read is refused before the anchor is looked at. -/
theorem anchorStep_provisionFrom (environment : Environment σ) (deployment : Deployment σ)
    (place : AnchorPlace) (member : Member) (source : CertificateSource) :
    AnchorStep environment deployment place (.provisionFrom member source)
      (deployment.perform environment (.provisionFrom member source)) := by
  cases hsource : source.read environment.host with
  | error refusal =>
    have hunread := member.verifier.provisionFrom_of_error hsource
    have hkept : (member.verifier.provisionFrom environment.host source).Ensures
        (deployment.anchor member.anchor) fun _ _ after =>
          after = deployment.anchor member.anchor := by
      rw [hunread]
      rfl
    refine .unread rfl rfl (by rw [Request.sourceFault?, hsource]) ?_ ?_
      (anchorIn_run_of_ensures hkept environment member.service member.primitive)
    · simp only [perform, runMember, hunread]
      rfl
    · simp only [perform, runMember, hunread]
      rfl
  | ok data =>
    have hread := member.verifier.provisionFrom_of_ok hsource
    have hvisit := visit_provision member.verifier data (deployment.anchor member.anchor)
    rw [← hread] at hvisit
    exact anchorStep_of_visit rfl (by rw [Request.sourceFault?, hsource]) hvisit rfl rfl
      (fun _ => outcome_map_of_error) fun _ _ =>
        shows_of_unset (.provisionFrom member source) (fun _ => rfl) (fun _ _ _ => trivial)
          outcome_map_of_error

/-- What each request does with the anchor in a place. -/
theorem anchorStep_perform (environment : Environment σ) (deployment : Deployment σ)
    (place : AnchorPlace) (request : Request) :
    AnchorStep environment deployment place request (deployment.perform environment request) := by
  cases request with
  | load member =>
    exact anchorStep_of_visit rfl rfl (visit_load _ _ _) rfl rfl (fun _ => outcome_map_of_error)
      fun _ _ => shows_of_load (.load member) (fun _ _ => trivial) fun _ => ⟨rfl, rfl⟩
  | loadAnchor anchor loader =>
    exact anchorStep_of_visit rfl rfl (visit_load _ _ _) rfl rfl (fun _ => outcome_map_of_error)
      fun _ _ => shows_of_load (.loadAnchor anchor loader) (fun _ _ => trivial) fun _ => ⟨rfl, rfl⟩
  | verify member certificate digest digestLength =>
    exact anchorStep_of_visit rfl rfl (visit_verify _ _ _ _ _) rfl rfl
      (fun _ => outcome_map_of_error) fun _ _ _ => trivial
  | verifyDigest service primitive certificate digest digestLength =>
    have hbuilt : Verifier.ofShared {} service = .ok ⟨{}, some service⟩ := by
      unfold Verifier.ofShared
      rw [show Config.validate {} = .ok () by decide]
      rfl
    have hvisit : (verifyDigest service certificate digest digestLength).Ensures
        (deployment.anchor .shared)
        (Visit ".five" (some service) true (fun _ _ _ => True) (deployment.anchor .shared)) := by
      unfold verifyDigest
      rw [hbuilt]
      exact visit_verify _ certificate digest digestLength _
    exact anchorStep_of_visit rfl rfl hvisit rfl rfl (fun _ => outcome_map_of_error)
      fun _ _ _ => trivial
  | findKey member id =>
    exact anchorStep_of_visit rfl rfl (visit_findKey _ _ _) (events_hold _ _)
      (anchorIn_hold _ _ place) (fun _ => outcome_hold_of_error) fun _ _ =>
        shows_of_unset (.findKey member id) (fun _ => rfl) (fun _ _ _ => trivial)
          outcome_hold_of_error
  | provision member data =>
    exact anchorStep_of_visit rfl rfl (visit_provision _ _ _) rfl rfl
      (fun _ => outcome_map_of_error) fun _ _ =>
        shows_of_unset (.provision member data) (fun _ => rfl) (fun _ _ _ => trivial)
          outcome_map_of_error
  | provisionFrom member source =>
    exact anchorStep_provisionFrom environment deployment place member source
  | peek anchor name owner =>
    exact anchorStep_of_visit rfl rfl (visit_peek _ _ _) rfl rfl (fun _ => outcome_map_of_error)
      fun _ _ hshown => ⟨hshown.1, congrArg (Except.map Reply.handle?) hshown.2⟩
  -- neither a search with a given handle nor a release looks at an anchor
  | resolve keyring service id =>
    refine anchorStep_of_ensures rfl ?_ (events_hold _ _) (anchorIn_hold _ _ place)
    cases keyring with
    | none => exact ⟨rfl, rfl⟩
    | some keyring =>
      refine (ensures_search keyring id _).mono ?_
      rintro calls outcome after ⟨hsearch, rfl⟩
      exact ⟨hsearch.filter_isOpening, rfl⟩
  | release slot =>
    rw [perform_release]
    cases deployment.heldIn? slot with
    | none => exact .apart rfl rfl rfl
    | some held => exact .apart rfl rfl (by cases place <;> rfl)

end TrustedKeyring.Deployment
