import TrustedKeyring.Proofs.Deployment.References
import TrustedKeyring.Proofs.Deployment.Session
import TrustedKeyring.Proofs.Verifier.Twin

/-!
# Agreement of verifiers

A verifier of the shared anchor and one of an anchor of the caller's, over the same key service and
signature primitive, cannot be told apart by what they are used for (`observations_eq`).  A
verification without a verifier is one of a verifier of the shared anchor (`perform_verifyDigest`).
-/

namespace TrustedKeyring

variable {σ α β : Type} {owner : ServiceId} {number : Nat}

/-- Something that a verifier is used for; a key that it has found is released by its slot. -/
inductive Usage where
  | load
  | verify (certificate : Certificate) (digest : Bytes) (digestLength : Nat)
  | findKey (id : KeyId)
  | release (slot : Nat)
  | provision (data : Bytes)
  | provisionFrom (source : CertificateSource)
deriving DecidableEq, Repr

def Usage.request (member : Member) : Usage → Request
  | .load => .load member
  | .verify certificate digest digestLength => .verify member certificate digest digestLength
  | .findKey id => .findKey member id
  | .release slot => .release slot
  | .provision data => .provision member data
  | .provisionFrom source => .provisionFrom member source

def TrustAnchor.bound? (anchor : TrustAnchor) : Option (Handle × String) :=
  anchor.binding.map fun binding => (binding.handle, binding.keyring)

theorem TrustAnchor.Mirrors.bound?_eq {anchor mirror : TrustAnchor}
    (h : anchor.Mirrors owner mirror) : anchor.bound? = mirror.bound? := by
  cases h <;> rfl

namespace Deployment

def Step.callEvents (step : Step σ α) : List Event :=
  step.events.filter fun event => event.exchange.request.isCall

structure Observation where
  outcome : Outcome Refusal Reply
  calls : List Event
  bound : Option (Handle × String)

def observations (environment : Environment σ) (ref : AnchorRef) (deployment : Deployment σ) :
    List Request → List Observation
  | [] => []
  | request :: requests =>
    let step := deployment.perform environment request
    ⟨step.outcome, step.callEvents, (step.deployment.anchor ref).bound?⟩ ::
      observations environment ref step.deployment requests

/-- Deployments in the same state and with the same keys held, where the shared anchor of the one
mirrors the caller's anchor of the other. -/
structure Paired (owner : ServiceId) (number : Nat) (deployment twin : Deployment σ) : Prop where
  state : deployment.state = twin.state
  held : deployment.held = twin.held
  place : twin.place? (.numbered number) = some (.own number)
  anchor : deployment.shared.Mirrors owner (twin.anchor (.numbered number))

structure Step.Agrees (owner : ServiceId) (number : Nat) (step twin : Step σ α) : Prop where
  outcome : step.outcome = twin.outcome
  calls : step.callEvents = twin.callEvents
  deployment : step.deployment.Paired owner number twin.deployment

variable {deployment twin : Deployment σ}

theorem callEvents_run (deployment : Deployment σ) (environment : Environment σ) (ref : AnchorRef)
    (service : ServiceId) (primitive : PrimitiveId) (operation : Operation α) :
    (deployment.run environment ref service primitive operation).callEvents =
      (operation.run (environment.collaborators service primitive)
        ⟨deployment.anchor ref, deployment.state⟩).calls.map fun exchange =>
          ⟨service, primitive, exchange⟩ :=
  List.filter_map

/-- Twin operations agree. -/
theorem Paired.agrees_run (h : deployment.Paired owner number twin)
    {operation other : Operation α} (htwin : operation.Twin owner other)
    (environment : Environment σ) (service : ServiceId) (primitive : PrimitiveId) :
    (deployment.run environment .shared service primitive operation).Agrees owner number
      (twin.run environment (.numbered number) service primitive other) := by
  have hrun := htwin.run h.anchor (environment.collaborators service primitive) twin.state
  have hstate : deployment.state = twin.state := h.state
  refine ⟨?_, ?_, ?_, ?_, ?_, ?_⟩
  · change (operation.run _ ⟨deployment.shared, deployment.state⟩).outcome = _
    rw [hstate]
    exact hrun.outcome
  · rw [callEvents_run, callEvents_run, hstate]
    exact congrArg (List.map _) hrun.calls
  · change (operation.run _ ⟨deployment.shared, deployment.state⟩).world.state = _
    rw [hstate]
    exact hrun.state
  · rw [held_run, held_run, h.held]
  · rw [place?_run]
    exact h.place
  · rw [anchor_run h.place]
    change (operation.run _ ⟨deployment.shared, deployment.state⟩).world.anchor.Mirrors owner _
    rw [hstate]
    exact hrun.anchor

theorem Step.Agrees.map {step other : Step σ α} (h : step.Agrees owner number other) (f : α → β) :
    (step.map f).Agrees owner number (other.map f) where
  outcome := congrArg (Except.map f) h.outcome
  calls := h.calls
  deployment := h.deployment

theorem Step.Agrees.hold {step other : Step σ Handle} (h : step.Agrees owner number other)
    (service : ServiceId) :
    (hold service step).Agrees owner number (Deployment.hold service other) := by
  obtain ⟨outcome, next, events⟩ := step
  obtain ⟨outcome', next', events'⟩ := other
  obtain ⟨houtcome, hcalls, hnext⟩ := h
  cases houtcome
  cases outcome with
  | error failure => exact ⟨rfl, hcalls, hnext⟩
  | ok key =>
    have hheld : next.held = next'.held := hnext.held
    refine ⟨?_, hcalls, hnext.state, ?_, hnext.place, hnext.anchor⟩
    · exact congrArg (fun held => Except.ok (Reply.held (List.length held) key)) hheld
    · exact congrArg (fun held => held ++ [some ⟨service, key⟩]) hheld

/-- A key is put back through the service that it came from, with no anchor in between. -/
theorem Paired.agrees_release (h : deployment.Paired owner number twin)
    (environment : Environment σ) (slot : Nat) :
    (deployment.perform environment (.release slot)).Agrees owner number
      (twin.perform environment (.release slot)) := by
  have hheld : deployment.heldIn? slot = twin.heldIn? slot := by rw [heldIn?, h.held, heldIn?]
  rw [perform_release, perform_release, hheld]
  cases twin.heldIn? slot with
  | none => exact ⟨rfl, rfl, h⟩
  | some key =>
    refine ⟨rfl, rfl, ?_, ?_, h.place, h.anchor⟩
    · exact congrArg ((environment.service key.service).release key.key) h.state
    · exact congrArg (fun held => held.set slot none) h.held

/-- Whatever the verifiers are used for, they agree. -/
theorem Paired.agrees_perform (h : deployment.Paired owner number twin)
    (environment : Environment σ) (config : Config) (primitive : PrimitiveId) (usage : Usage) :
    (deployment.perform environment
        (usage.request ⟨⟨config, some owner⟩, .shared, owner, primitive⟩)).Agrees owner number
      (twin.perform environment
        (usage.request ⟨⟨config, none⟩, .numbered number, owner, primitive⟩)) := by
  cases usage with
  | load =>
    exact (h.agrees_run (twin_load owner config.keyringName) environment owner primitive).map _
  | verify certificate digest digestLength =>
    exact (h.agrees_run (Verifier.twin_verify config owner certificate digest digestLength)
      environment owner primitive).map _
  | findKey id =>
    exact (h.agrees_run (Verifier.twin_findKey config owner id) environment owner primitive).hold
      owner
  | release slot => exact h.agrees_release environment slot
  | provision data =>
    exact (h.agrees_run (Verifier.twin_provision config owner data) environment owner
      primitive).map _
  | provisionFrom source =>
    exact (h.agrees_run (Verifier.twin_provisionFrom config owner environment.host source)
      environment owner primitive).map _

/-- Whatever verifiers are used for one after the other, the same is seen of them. -/
theorem Paired.observations_eq (h : deployment.Paired owner number twin)
    (environment : Environment σ) (config : Config) (primitive : PrimitiveId)
    (usages : List Usage) :
    deployment.observations environment .shared
        (usages.map (Usage.request ⟨⟨config, some owner⟩, .shared, owner, primitive⟩)) =
      twin.observations environment (.numbered number)
        (usages.map (Usage.request ⟨⟨config, none⟩, .numbered number, owner, primitive⟩)) := by
  induction usages generalizing deployment twin with
  | nil => rfl
  | cons usage usages ih =>
    have hstep := h.agrees_perform environment config primitive usage
    have hbound := hstep.deployment.anchor.bound?_eq
    rw [List.map_cons, List.map_cons, observations, observations, ih hstep.deployment,
      hstep.outcome, hstep.calls]
    exact congrArg (fun bound => Observation.mk _ _ bound :: _) hbound

/-! ## Verifications without a verifier -/

theorem verifyDigest_eq (owner : ServiceId) (certificate : Certificate) (digest : Bytes)
    (digestLength : Nat) :
    verifyDigest owner certificate digest digestLength =
      (⟨{}, some owner⟩ : Verifier).verify certificate digest digestLength := by
  have hbuilt : Verifier.ofShared {} owner = .ok ⟨{}, some owner⟩ :=
    Verifier.ofShared_eq_ok_iff.mpr ⟨by decide, rfl⟩
  rw [verifyDigest, hbuilt]
  rfl

/-- A verification without a verifier is one of a verifier of the shared anchor. -/
theorem perform_verifyDigest (environment : Environment σ) (deployment : Deployment σ)
    (service : ServiceId) (primitive : PrimitiveId) (certificate : Certificate) (digest : Bytes)
    (digestLength : Nat) :
    deployment.perform environment
        (.verifyDigest service primitive certificate digest digestLength) =
      deployment.perform environment
        (.verify ⟨⟨{}, some service⟩, .shared, service, primitive⟩ certificate digest
          digestLength) := by
  simp only [perform, runMember, verifyDigest_eq]

theorem observations_verifyDigest (environment : Environment σ) (ref : AnchorRef)
    (deployment : Deployment σ) (service : ServiceId) (primitive : PrimitiveId)
    (checks : List (Certificate × Bytes × Nat)) :
    deployment.observations environment ref (checks.map fun check =>
        .verifyDigest service primitive check.1 check.2.1 check.2.2) =
      deployment.observations environment ref (checks.map fun check =>
        .verify ⟨⟨{}, some service⟩, .shared, service, primitive⟩ check.1 check.2.1 check.2.2) := by
  induction checks generalizing deployment with
  | nil => rfl
  | cons check checks ih =>
    simp only [List.map_cons, observations, perform_verifyDigest, ih]

/-- Before anything has happened, a deployment is paired with itself. -/
theorem paired_of_unset {start : Deployment σ} {anchor : TrustAnchor}
    (hshared : start.shared.binding = none) (hanchor : start.anchors[number]? = some (.own anchor))
    (hunset : anchor.binding = none) (hown : anchor.isProcess = false) (owner : ServiceId) :
    start.Paired owner number start := by
  have hplace : start.place? (.numbered number) = some (.own number) := by
    simp only [place?, hanchor]
  have hnumbered : start.anchor (.numbered number) = anchor := by
    simp only [Deployment.anchor, hanchor]
  refine ⟨rfl, rfl, hplace, ?_⟩
  rw [hnumbered]
  obtain ⟨binding, isPoisoned, isProcess⟩ := anchor
  obtain ⟨state, ⟨bound, wasPoisoned, isShared⟩, anchors, members, held⟩ := start
  cases hshared
  cases hunset
  cases hown
  exact .unset ..

/-- The three ways to verify cannot be told apart.  Whatever the key service and the signature
primitive answer, with values, errors or panics, a verifier of the unset shared anchor and one of an
unset anchor of the caller's, made for the same keyring name, come to the same with everything that
they are used for, make the same calls and bind their anchors alike; and for the default name, so do
verifications that are each made without a verifier. -/
theorem verifiers_agree (environment : Environment σ) (start : Deployment σ) {config : Config}
    {number : Nat} {anchor : TrustAnchor} (hvalid : config.validate = .ok ())
    (hshared : start.shared.binding = none) (hanchor : start.anchors[number]? = some (.own anchor))
    (hunset : anchor.binding = none) (hown : anchor.isProcess = false) (service : ServiceId)
    (primitive : PrimitiveId) :
    ∃ member own, newSharedMember config service primitive = .ok member ∧
      start.newMember config (.numbered number) service primitive = .ok own ∧
      (∀ usages : List Usage,
        start.observations environment .shared (usages.map (Usage.request member)) =
          start.observations environment (.numbered number) (usages.map (Usage.request own))) ∧
      (config = {} → ∀ checks : List (Certificate × Bytes × Nat),
        let free := start.observations environment .shared (checks.map fun check =>
          .verifyDigest service primitive check.1 check.2.1 check.2.2)
        free = start.observations environment .shared (checks.map fun check =>
            .verify member check.1 check.2.1 check.2.2) ∧
          free = start.observations environment (.numbered number) (checks.map fun check =>
            .verify own check.1 check.2.1 check.2.2)) := by
  have hpaired := paired_of_unset hshared hanchor hunset hown service
  have hagree := hpaired.observations_eq environment config primitive
  have hnumbered : start.anchor (.numbered number) = anchor := by
    simp only [Deployment.anchor, hanchor]
  refine ⟨⟨⟨config, some service⟩, .shared, service, primitive⟩,
    ⟨⟨config, none⟩, .numbered number, service, primitive⟩, ?_, ?_, hagree, ?_⟩
  · rw [newSharedMember, Verifier.ofShared_eq_ok_iff.mpr ⟨hvalid, rfl⟩]
    rfl
  · rw [newMember, hnumbered, Verifier.ofAnchor_eq_ok_iff.mpr ⟨hvalid, hown, rfl⟩]
    rfl
  · rintro rfl checks free
    have hfree := observations_verifyDigest environment .shared start service primitive checks
    have hchecks := hagree (checks.map fun check => .verify check.1 check.2.1 check.2.2)
    rw [List.map_map, List.map_map] at hchecks
    exact ⟨hfree, hfree.trans hchecks⟩

/-- A key service that fails at first, then panics, and only then loads the keyring. -/
theorem verifiers_agree_failingLoads :
    let service : KeyService Nat :=
      ⟨fun _ calls =>
          (match calls with
            | 0 => .error (.error Errno.EAGAIN)
            | 1 => .error (.panic "no service")
            | _ => .ok ⟨7⟩, calls + 1),
        fun _ _ _ _ calls => (.ok ⟨9⟩, calls + 1), fun _ calls => calls + 1,
        fun _ _ _ calls => (.error (.error Errno.EEXIST), calls + 1)⟩
    let environment : Environment Nat :=
      ⟨fun _ => service, fun _ => ⟨fun _ _ _ _ calls => (.ok 1, calls + 1)⟩,
        ⟨fun _ => .error none, fun _ => none⟩⟩
    let start : Deployment Nat := ⟨0, .shared, [.own {}], [], []⟩
    let certificate : Certificate := ⟨.forAlgorithm .sha256 ⟨5⟩, [7]⟩
    let checks : List (Certificate × Bytes × Nat) := List.replicate 3 (certificate, [], 0)
    let free := start.observations environment .shared (checks.map fun check =>
      .verifyDigest 4 0 check.1 check.2.1 check.2.2)
    let mixed : List Usage := [.load, .findKey ⟨5⟩, .load, .load, .findKey ⟨5⟩, .release 0,
      .provision [1], .verify certificate [] 0]
    free.map Observation.outcome =
        [.error (.error (.loadFailed Errno.EAGAIN)), .error (.panic "no service"),
          .ok (.code 1)] ∧
      free.map Observation.bound = [none, none, some (⟨7⟩, ".five")] ∧
      ∃ member own, newSharedMember {} 4 0 = .ok member ∧
        start.newMember {} (.numbered 0) 4 0 = .ok own ∧
        start.observations environment .shared (mixed.map (Usage.request member)) =
          start.observations environment (.numbered 0) (mixed.map (Usage.request own)) ∧
        free = start.observations environment .shared (checks.map fun check =>
          .verify member check.1 check.2.1 check.2.2) ∧
        free = start.observations environment (.numbered 0) (checks.map fun check =>
          .verify own check.1 check.2.1 check.2.2) := by
  intro service environment start certificate checks free mixed
  have houtcomes : free.map Observation.outcome =
      [.error (.error (.loadFailed Errno.EAGAIN)), .error (.panic "no service"),
        .ok (.code 1)] := by
    decide +kernel
  have hbound : free.map Observation.bound = [none, none, some (⟨7⟩, ".five")] := by
    decide +kernel
  have hvalid : Config.validate {} = .ok () := by decide
  have hanchor : start.anchors[0]? = some (.own {}) := rfl
  obtain ⟨member, own, hmember, hown, husages, hfree⟩ :=
    verifiers_agree environment start hvalid rfl hanchor rfl rfl 4 0
  exact ⟨houtcomes, hbound, member, own, hmember, hown, husages mixed, hfree rfl checks⟩

end Deployment

end TrustedKeyring
