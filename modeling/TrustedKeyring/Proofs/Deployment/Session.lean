import TrustedKeyring.Proofs.Deployment.KeyringUse
import TrustedKeyring.Proofs.KeyStore.Concurrent
import TrustedKeyring.Proofs.KeyStore.Layout
import TrustedKeyring.Proofs.Verifier.Loaded

/-!
# Sessions of a deployment over one key store

Requests and calls of the store itself, one after the other, when every key service and signature
primitive is one over the same key store.  A session that starts with unset anchors keeps them wired
to the store: an anchor is only ever bound to the store's keyring of its name
(`wired_afterActs`).
-/

namespace TrustedKeyring

open TrustStore (collaborators)

variable {crypto : Crypto} {host : Host}

namespace KeyStore

variable {state last : KeyStore} {calls : List Exchange} {name : String} {handle : Handle}

/-- A keyring that a store has answered with bears the name that was asked for, then and later. -/
theorem keyringName?_of_answer (h : (collaborators crypto).Answer state calls last)
    (hlayout : state.Layout) (hcall : ⟨.openKeyring name, .ok handle⟩ ∈ calls) :
    last.keyringName? handle = some name := by
  induction calls generalizing state with
  | nil => cases hcall
  | cons call calls ih =>
    rcases List.mem_cons.mp hcall with rfl | hlater
    · obtain ⟨hreply, hrest⟩ := h
      have hopened : (state.openKeyring name).1 = .ok handle := reply_eq_ok_iff.mp hreply.symm
      change (collaborators crypto).Answer (state.openKeyring name).2 calls last at hrest
      have hext := extends_of_steps (steps_of_answer hrest)
      exact hext.keyringName?_eq (hlayout.keyringName?_openKeyring hopened)
    · obtain ⟨next, hserve, hrest⟩ := Collaborators.answer_cons.mp h
      exact ih hrest (layout_of_steps (steps_of_serve? hserve) hlayout) hlater

end KeyStore

namespace Deployment

variable {deployment : Deployment KeyStore}

/-- Something that happens to a deployment over a key store: a request, or a call of the store that
comes from outside. -/
inductive Act where
  | request (request : Request)
  | call (call : KeyStore.Call)
deriving DecidableEq, Repr

def act (crypto : Crypto) (host : Host) (deployment : Deployment KeyStore) :
    Act → Deployment KeyStore
  | .request request =>
    (deployment.perform (KeyStore.environment crypto host) request).deployment
  | .call call => { deployment with state := deployment.state.afterCall crypto call }

def afterActs (crypto : Crypto) (host : Host) (deployment : Deployment KeyStore) :
    List Act → Deployment KeyStore
  | [] => deployment
  | first :: acts => afterActs crypto host (deployment.act crypto host first) acts

structure Fresh (deployment : Deployment KeyStore) : Prop where
  state : deployment.state = {}
  unset : ∀ place, (deployment.anchorIn place).binding = none

/-- The tables of the store fit together, and every anchor that is bound is bound to the keyring
that bears its name. -/
structure Wired (deployment : Deployment KeyStore) : Prop where
  layout : deployment.state.Layout
  named : ∀ place binding, (deployment.anchorIn place).binding = some binding →
    deployment.state.keyringName? binding.handle = some binding.keyring

/-! ## Calls of requests -/

theorem state_hold {σ : Type} (service : ServiceId) (step : Step σ Handle) :
    (hold service step).deployment.state = step.deployment.state := by
  unfold hold
  split <;> rfl

theorem answer_run {α : Type} (crypto : Crypto) (host : Host) (deployment : Deployment KeyStore)
    (ref : AnchorRef) (service : ServiceId) (primitive : PrimitiveId) (operation : Operation α) :
    let step := deployment.run (KeyStore.environment crypto host) ref service primitive operation
    (collaborators crypto).Answer deployment.state step.calls step.deployment.state := by
  intro step
  rw [calls_run]
  exact Operation.answer_run (collaborators crypto) operation
    ⟨deployment.anchor ref, deployment.state⟩

theorem answer_hold {service : ServiceId} {step : Step KeyStore Handle} {state : KeyStore}
    (h : (collaborators crypto).Answer state step.calls step.deployment.state) :
    (collaborators crypto).Answer state (hold service step).calls
      (hold service step).deployment.state := by
  rw [calls_hold, state_hold]
  exact h

/-- The calls of a request are answered by the store, one after the other. -/
theorem answer_perform (crypto : Crypto) (host : Host) (deployment : Deployment KeyStore)
    (request : Request) :
    let step := deployment.perform (KeyStore.environment crypto host) request
    (collaborators crypto).Answer deployment.state step.calls step.deployment.state := by
  cases request with
  | findKey | resolve => exact answer_hold (answer_run crypto host deployment _ _ _ _)
  | release slot =>
    rw [perform_release]
    cases deployment.heldIn? slot with
    | none => rfl
    | some held =>
      exact answer_run crypto host deployment .shared held.service 0
        (Operation.perform (.release held.key))
  | _ => exact answer_run crypto host deployment _ _ _ _

theorem steps_act (crypto : Crypto) (host : Host) (deployment : Deployment KeyStore)
    (first : Act) :
    KeyStore.Steps crypto deployment.state (deployment.act crypto host first).state := by
  cases first with
  | request request => exact KeyStore.steps_of_answer (answer_perform crypto host _ request)
  | call call => exact .single (KeyStore.step_afterCall crypto deployment.state call)

theorem steps_afterActs (crypto : Crypto) (host : Host) (deployment : Deployment KeyStore)
    (acts : List Act) :
    KeyStore.Steps crypto deployment.state (deployment.afterActs crypto host acts).state := by
  induction acts generalizing deployment with
  | nil => exact .refl
  | cons first acts ih => exact (steps_act crypto host deployment first).trans (ih _)

theorem place?_act (crypto : Crypto) (host : Host) (deployment : Deployment KeyStore)
    (first : Act) : (deployment.act crypto host first).place? = deployment.place? := by
  cases first with
  | request request => exact place?_perform _ deployment request
  | call call =>
    funext ref
    cases ref <;> rfl

/-- The anchor that an operation leaves is the one that its reference leads to. -/
theorem anchor_run {α σ : Type} {deployment : Deployment σ} {ref : AnchorRef}
    {place : AnchorPlace} (hplace : deployment.place? ref = some place)
    (environment : Environment σ) (service : ServiceId) (primitive : PrimitiveId)
    (operation : Operation α) :
    (deployment.run environment ref service primitive operation).deployment.anchor ref =
      (operation.run (environment.collaborators service primitive)
        ⟨deployment.anchor ref, deployment.state⟩).world.anchor := by
  have hsame : (deployment.run environment ref service primitive operation).deployment.place? ref =
      some place := by
    rw [place?_run]
    exact hplace
  rw [anchor_of_place? hsame, anchorIn_run, anchorIn_setAnchor hplace, if_pos rfl]

/-! ## Wiring -/

theorem Fresh.wired (h : deployment.Fresh) : deployment.Wired where
  layout := by
    rw [h.state]
    exact KeyStore.layout_empty
  named place binding hbound := by
    rw [h.unset place] at hbound
    cases hbound

theorem anchorIn_call (call : KeyStore.Call) (place : AnchorPlace) :
    (deployment.act crypto host (.call call)).anchorIn place = deployment.anchorIn place := by
  cases place <;> rfl

theorem wired_act (hwired : deployment.Wired) (first : Act) :
    (deployment.act crypto host first).Wired := by
  have hsteps := steps_act crypto host deployment first
  have hext := KeyStore.extends_of_steps hsteps
  refine ⟨KeyStore.layout_of_steps hsteps hwired.layout, ?_⟩
  intro place binding hbound
  cases first with
  | call call =>
    rw [anchorIn_call] at hbound
    exact hext.keyringName?_eq (hwired.named place binding hbound)
  | request request =>
    cases anchorStep_perform (KeyStore.environment crypto host) deployment place request with
    | visit _ _ _ _ hvisit =>
      rcases hvisit.binding_or_opening hbound with hbefore | ⟨-, -, handle, rfl, hcall⟩
      · exact hext.keyringName?_eq (hwired.named place binding hbefore)
      · exact KeyStore.keyringName?_of_answer (answer_perform crypto host deployment request)
          hwired.layout hcall
    | unread _ _ _ _ _ hkept | elsewhere _ _ hkept | apart _ _ hkept =>
      have hbefore : (deployment.anchorIn place).binding = some binding := by
        rw [← hkept]
        exact hbound
      exact hext.keyringName?_eq (hwired.named place binding hbefore)

/-- Whatever happens in a session, the anchors stay wired to the store. -/
theorem wired_afterActs (hwired : deployment.Wired) (acts : List Act) :
    (deployment.afterActs crypto host acts).Wired := by
  induction acts generalizing deployment with
  | nil => exact hwired
  | cons first acts ih => exact ih (wired_act hwired first)

end Deployment

end TrustedKeyring
