import TrustedKeyring.Deployment

/-!
# Histories of a deployment

The requests that a deployment performs one after the other, and what they leave.
-/

namespace TrustedKeyring.Deployment

variable {σ : Type}

def after (environment : Environment σ) (deployment : Deployment σ) :
    List Request → Deployment σ
  | [] => deployment
  | request :: requests =>
    after environment (deployment.perform environment request).deployment requests

def events (environment : Environment σ) (deployment : Deployment σ) : List Request → List Event
  | [] => []
  | request :: requests =>
    (deployment.perform environment request).events ++
      events environment (deployment.perform environment request).deployment requests

/-- Replacing an anchor leaves the keys that are held. -/
theorem held_setAnchor (deployment : Deployment σ) (anchor : TrustAnchor) (ref : AnchorRef) :
    (deployment.setAnchor anchor ref).held = deployment.held := by
  cases ref with
  | shared => rfl
  | numbered number =>
    unfold setAnchor
    dsimp only
    split <;> rfl

def heldIn? (deployment : Deployment σ) (slot : Nat) : Option HeldKey :=
  deployment.held[slot]?.join

theorem heldIn?_eq_some_iff {deployment : Deployment σ} {slot : Nat} {held : HeldKey} :
    deployment.heldIn? slot = some held ↔ deployment.held[slot]? = some (some held) :=
  Option.join_eq_some_iff

/-- A release gives the key of its slot back to the service that it came from, and empties the slot;
an empty slot, and one that was never filled, have nothing to give back. -/
theorem perform_release (environment : Environment σ) (deployment : Deployment σ) (slot : Nat) :
    deployment.perform environment (.release slot) =
      match deployment.heldIn? slot with
      | some held =>
        ⟨.ok .done,
          { deployment with
            state := (environment.service held.service).release held.key deployment.state
            held := deployment.held.set slot none },
          [⟨held.service, 0, ⟨.release held.key, ()⟩⟩]⟩
      | none => ⟨.ok .done, deployment, []⟩ := by
  cases hslot : deployment.held[slot]? with
  | none => simp only [perform, heldIn?, hslot, Option.join_none]
  | some entry =>
    cases entry with
    | none => simp only [perform, heldIn?, hslot, Option.join_some]
    | some held =>
      simp only [perform, heldIn?, hslot, Option.join_some]
      rfl

end TrustedKeyring.Deployment
