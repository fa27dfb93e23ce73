import TrustedKeyring.Interleaving
import TrustedKeyring.Verifier

/-!
# Deployments

Any number of verifiers and trust anchors over key services and signature primitives that share one
state.  A deployment performs requests one after the other; keys that were requested stay held
until they are released.
-/

namespace TrustedKeyring

inductive AnchorEntry where
  | shared
  | own (anchor : TrustAnchor)
deriving DecidableEq, Repr

inductive AnchorRef where
  | shared
  | numbered (number : Nat)
deriving DecidableEq, Repr

structure Member where
  verifier : Verifier
  anchor : AnchorRef
  service : ServiceId
  primitive : PrimitiveId
deriving DecidableEq, Repr

structure HeldKey where
  service : ServiceId
  key : Handle
deriving DecidableEq, Repr

def HeldKey.describe (held : HeldKey) : String :=
  "ResolvedKey \x7b handle: " ++ held.key.describe ++ " \x7d"

structure Deployment (σ : Type) where
  state : σ
  shared : TrustAnchor := .shared
  anchors : List AnchorEntry := []
  members : List Member := []
  held : List (Option HeldKey) := []

structure Loader where
  service : ServiceId
  name : String
  isOwner : Bool
deriving DecidableEq, Repr

def Loader.operation (loader : Loader) : Operation Handle :=
  TrustAnchor.load loader.name (if loader.isOwner then some loader.service else none)

inductive Request where
  | load (member : Member)
  | verify (member : Member) (certificate : Certificate) (digest : Bytes) (digestLength : Nat)
  | verifyDigest (service : ServiceId) (primitive : PrimitiveId) (certificate : Certificate)
      (digest : Bytes) (digestLength : Nat)
  | findKey (member : Member) (id : KeyId)
  | resolve (keyring : Option Handle) (service : ServiceId) (id : KeyId)
  | release (slot : Nat)
  | provision (member : Member) (data : Bytes)
  | provisionFrom (member : Member) (source : CertificateSource)
  | loadAnchor (anchor : AnchorRef) (loader : Loader)
  | peek (anchor : AnchorRef) (name : String) (owner : Option ServiceId)
deriving DecidableEq, Repr

inductive Reply where
  | done
  | handle (handle : Handle)
  | code (code : Int32)
  | held (slot : Nat) (handle : Handle)
  | handle? (handle : Option Handle)
deriving DecidableEq, Repr

namespace Deployment

variable {σ : Type}

/-- The anchor that a reference leads to.  A number that was not given out leads to an unset
anchor. -/
def anchor (deployment : Deployment σ) : AnchorRef → TrustAnchor
  | .shared => deployment.shared
  | .numbered number =>
    match deployment.anchors[number]? with
    | some (.own anchor) => anchor
    | some .shared => deployment.shared
    | none => {}

def setAnchor (deployment : Deployment σ) (anchor : TrustAnchor) : AnchorRef → Deployment σ
  | .shared => { deployment with shared := anchor }
  | .numbered number =>
    match deployment.anchors[number]? with
    | some (.own _) =>
      { deployment with anchors := deployment.anchors.set number (.own anchor) }
    | some .shared => { deployment with shared := anchor }
    | none => deployment

def addAnchor (deployment : Deployment σ) (entry : AnchorEntry) : Deployment σ :=
  { deployment with anchors := deployment.anchors ++ [entry] }

def newMember (deployment : Deployment σ) (config : Config) (anchor : AnchorRef)
    (service : ServiceId) (primitive : PrimitiveId) : Except Refusal Member :=
  (Verifier.ofAnchor config (deployment.anchor anchor)).map fun verifier =>
    ⟨verifier, anchor, service, primitive⟩

def newSharedMember (config : Config) (service : ServiceId) (primitive : PrimitiveId) :
    Except Refusal Member :=
  (Verifier.ofShared config service).map fun verifier => ⟨verifier, .shared, service, primitive⟩

def addMember (deployment : Deployment σ) (member : Member) : Deployment σ :=
  { deployment with members := deployment.members ++ [member] }

structure Step (σ α : Type) where
  outcome : Outcome Refusal α
  deployment : Deployment σ
  events : List Event

def Step.map {α β : Type} (f : α → β) (step : Step σ α) : Step σ β :=
  ⟨step.outcome.map f, step.deployment, step.events⟩

def run {α : Type} (environment : Environment σ) (anchor : AnchorRef) (service : ServiceId)
    (primitive : PrimitiveId) (operation : Operation α) (deployment : Deployment σ) : Step σ α :=
  let run := operation.run (environment.collaborators service primitive)
    ⟨deployment.anchor anchor, deployment.state⟩
  ⟨run.outcome, { deployment.setAnchor run.world.anchor anchor with state := run.world.state },
    run.exchanges.map fun exchange => ⟨service, primitive, exchange⟩⟩

def runMember {α : Type} (environment : Environment σ) (member : Member)
    (operation : Operation α) (deployment : Deployment σ) : Step σ α :=
  deployment.run environment member.anchor member.service member.primitive operation

def hold (service : ServiceId) (step : Step σ Handle) : Step σ Reply :=
  match step.outcome with
  | .error failure => ⟨.error failure, step.deployment, step.events⟩
  | .ok key =>
    ⟨.ok (.held step.deployment.held.length key),
      { step.deployment with held := step.deployment.held ++ [some ⟨service, key⟩] },
      step.events⟩

def perform (environment : Environment σ) (deployment : Deployment σ) :
    Request → Step σ Reply
  | .load member =>
    (deployment.runMember environment member member.verifier.load).map .handle
  | .verify member certificate digest digestLength =>
    (deployment.runMember environment member
      (member.verifier.verify certificate digest digestLength)).map .code
  | .verifyDigest service primitive certificate digest digestLength =>
    (deployment.run environment .shared service primitive
      (TrustedKeyring.verifyDigest service certificate digest digestLength)).map .code
  | .findKey member id =>
    hold member.service (deployment.runMember environment member (member.verifier.findKey id))
  -- nothing of this concerns the anchor, so that any will do
  | .resolve keyring service id =>
    hold service (deployment.run environment .shared service 0 (findKey keyring id))
  | .release slot =>
    match deployment.held[slot]? with
    | some (some key) =>
      let step := deployment.run environment .shared key.service 0
        (Operation.perform (.release key.key))
      ⟨step.outcome.map fun _ => .done,
        { step.deployment with held := step.deployment.held.set slot none }, step.events⟩
    | _ => ⟨.ok .done, deployment, []⟩
  | .provision member data =>
    (deployment.runMember environment member (member.verifier.provision data)).map
      fun _ => .done
  | .provisionFrom member source =>
    (deployment.runMember environment member
      (member.verifier.provisionFrom environment.host source)).map fun _ => .done
  | .loadAnchor anchor loader =>
    (deployment.run environment anchor loader.service 0 loader.operation).map .handle
  | .peek anchor name owner =>
    (deployment.run environment anchor 0 0 (TrustAnchor.peek name owner)).map .handle?

/-- How two callers take turns that load an anchor at the same time: the second one begins while
the first one's service loads the keyring, and each ends when it can. -/
def raceSchedule : List Nat :=
  let turns (number count : Nat) : List Nat := List.replicate count number
  turns 0 3 ++ turns 1 6 ++ turns 0 3 ++ turns 1 6

def race (environment : Environment σ) (deployment : Deployment σ) (anchor : AnchorRef)
    (first second : Loader) : Scene σ Handle × Deployment σ × List Event :=
  let scene : Scene σ Handle :=
    { state := deployment.state
      slots := [⟨deployment.anchor anchor, none⟩]
      threads :=
        [⟨0, first.service, 0, first.operation⟩, ⟨0, second.service, 0, second.operation⟩] }
  -- a turn that comes too early or too late does nothing
  let (scene, events) := scene.run environment raceSchedule
  (scene, { deployment.setAnchor (scene.anchor 0) anchor with state := scene.state }, events)

end Deployment

end TrustedKeyring
