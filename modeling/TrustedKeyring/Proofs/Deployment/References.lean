import TrustedKeyring.Proofs.Deployment.History
import TrustedKeyring.Proofs.Deployment.Ledger

/-!
# Conservation of references

Of the references that a key service has given out for a key, those that have not been returned are
the ones that callers hold (`references_conserved`).
-/

namespace TrustedKeyring

namespace Deployment

variable {σ : Type}

def live (deployment : Deployment σ) (service : ServiceId) (key : Handle) : Nat :=
  deployment.held.count (some ⟨service, key⟩)

/-- An operation of one service leaves the keys of the others alone. -/
theorem settle_run {α : Type} {operation : Operation α} {anchor : AnchorRef}
    {deployment : Deployment σ} {handing : Handle → Outcome Refusal α → Nat}
    (h : operation.Settles (deployment.anchor anchor) handing) (environment : Environment σ)
    (user : ServiceId) (primitive : PrimitiveId) (service : ServiceId) (key : Handle)
    (owed : Nat) :
    Effect.settle owed ((deployment.run environment anchor user primitive operation).events.map
      (Event.effect service key)) =
      some (owed + if user = service then
        handing key (deployment.run environment anchor user primitive operation).outcome
        else 0) := by
  have hrun := h.run (environment.collaborators user primitive) deployment.state key owed
  unfold Run.calls at hrun
  rw [settle_calls] at hrun
  rw [run, List.map_map]
  by_cases huser : user = service
  · rw [if_pos huser, ← hrun]
    congr 2
    funext exchange
    exact if_pos huser
  · rw [if_neg huser]
    apply Effect.settle_of_forall_neither
    intro effect heffect
    rcases List.mem_map.mp heffect with ⟨exchange, -, rfl⟩
    exact if_neg huser

theorem held_run {α : Type} (deployment : Deployment σ) (environment : Environment σ)
    (anchor : AnchorRef) (service : ServiceId) (primitive : PrimitiveId)
    (operation : Operation α) :
    (deployment.run environment anchor service primitive operation).deployment.held =
      deployment.held :=
  held_setAnchor deployment _ anchor

/-- What a step settles: it starts with the references that are held and ends with those that are
held after it. -/
def Step.Settled {α : Type} (step : Step σ α) (deployment : Deployment σ) : Prop :=
  ∀ service key, Effect.settle (deployment.live service key)
    (step.events.map (Event.effect service key)) = some (step.deployment.live service key)

/-- An operation that hands nothing on leaves what is held. -/
theorem settled_run {α : Type} {operation : Operation α} {anchor : AnchorRef}
    {deployment : Deployment σ}
    (h : operation.Settles (deployment.anchor anchor) fun _ _ => 0)
    (environment : Environment σ) (user : ServiceId) (primitive : PrimitiveId) :
    (deployment.run environment anchor user primitive operation).Settled deployment := by
  intro service key
  rw [settle_run h, live, live, held_run, ite_self, Nat.add_zero]

/-- A key that an operation hands on is held afterwards. -/
theorem settled_hold {operation : Operation Handle} {anchor : AnchorRef}
    {deployment : Deployment σ} (h : operation.Settles (deployment.anchor anchor) handed)
    (environment : Environment σ) (user : ServiceId) (primitive : PrimitiveId) :
    (hold user (deployment.run environment anchor user primitive operation)).Settled
      deployment := by
  intro service key
  have hsettle := settle_run h environment user primitive service key
    (deployment.live service key)
  have hheld := held_run deployment environment anchor user primitive operation
  revert hsettle hheld
  generalize deployment.run environment anchor user primitive operation = step
  rcases step with ⟨outcome, next, events⟩
  intro hsettle hheld
  cases outcome with
  | error failure =>
    change Effect.settle _ (events.map (Event.effect service key)) = some (next.held.count _)
    dsimp only at hsettle hheld
    rw [hsettle, hheld, handed, ite_self]
    rfl
  | ok given =>
    change Effect.settle _ (events.map (Event.effect service key)) =
      some ((next.held ++ [some (⟨user, given⟩ : HeldKey)]).count _)
    dsimp only at hsettle hheld
    have hcount : [some (⟨user, given⟩ : HeldKey)].count (some ⟨service, key⟩) =
        if user = service then handed key (.ok given) else 0 := by
      rw [List.count_singleton]
      by_cases huser : user = service <;> by_cases hkey : given = key <;>
        simp [handed, huser, hkey]
    rw [hsettle, hheld, List.count_append, hcount, live]

/-- A key that is released is no longer held, and it was its last reference that went back. -/
theorem settled_release {deployment : Deployment σ} {slot : Nat} {held : HeldKey}
    (hheld : deployment.heldIn? slot = some held) (environment : Environment σ) :
    (deployment.perform environment (.release slot)).Settled deployment := by
  intro service key
  have hslot := heldIn?_eq_some_iff.mp hheld
  rcases List.getElem?_eq_some_iff.mp hslot with ⟨hlt, hget⟩
  rw [perform_release, hheld]
  change Effect.settle _ [Event.effect service key ⟨held.service, 0, ⟨.release held.key, ()⟩⟩] =
    some ((deployment.held.set slot none).count _)
  rw [List.count_set hlt, hget]
  by_cases hsame : held = ⟨service, key⟩
  · subst hsame
    have hpos : 0 < deployment.live service key :=
      List.count_pos_iff.mpr (List.mem_of_getElem? hslot)
    have heffect : Event.effect service key ⟨service, 0, ⟨.release key, ()⟩⟩ = .returns := by
      rw [Event.effect, if_pos rfl]
      exact if_pos rfl
    rw [heffect, live, if_pos (beq_self_eq_true _), if_neg (by simp)]
    unfold live at hpos
    revert hpos
    generalize deployment.held.count (some ⟨service, key⟩) = count
    intro hpos
    cases count with
    | zero => omega
    | succ count => rfl
  · have heffect : Event.effect service key ⟨held.service, 0, ⟨.release held.key, ()⟩⟩ =
        .neither := by
      by_cases hservice : held.service = service
      · rw [Event.effect, if_pos hservice]
        exact if_neg fun hkey => hsame (by rw [← hservice, ← hkey])
      · exact if_neg hservice
    rw [heffect, Effect.settle_neither, if_neg (by simpa using hsame), if_neg (by simp)]
    rfl

/-- Every request settles what it gives and returns against the keys that are held. -/
theorem settled_perform (environment : Environment σ) (deployment : Deployment σ)
    (request : Request) : (deployment.perform environment request).Settled deployment := by
  cases request with
  | load member => exact settled_run (settles_load _ _ _) environment _ _
  | verify member certificate digest digestLength =>
    exact settled_run (settles_verify _ _ _ _ _) environment _ _
  | verifyDigest service primitive certificate digest digestLength =>
    exact settled_run (settles_verifyDigest _ _ _ _ _) environment _ _
  | findKey member id => exact settled_hold (settles_findKey _ _ _) environment _ _
  | resolve keyring service id => exact settled_hold (settles_resolve _ _ _) environment _ _
  | release slot =>
    cases hheld : deployment.heldIn? slot with
    | none =>
      rw [perform_release, hheld]
      exact fun _ _ => rfl
    | some held => exact settled_release hheld environment
  | provision member data => exact settled_run (settles_provision _ _ _) environment _ _
  | provisionFrom member source =>
    exact settled_run (settles_provisionFrom _ _ _ _) environment _ _
  | loadAnchor anchor loader => exact settled_run (settles_load _ _ _) environment _ _
  | peek anchor name owner => exact settled_run (settles_peek _ _ _) environment _ _

theorem settle_events (environment : Environment σ) (deployment : Deployment σ)
    (requests : List Request) (service : ServiceId) (key : Handle) :
    Effect.settle (deployment.live service key)
      ((deployment.events environment requests).map (Event.effect service key)) =
        some ((deployment.after environment requests).live service key) := by
  induction requests generalizing deployment with
  | nil => rfl
  | cons request requests ih =>
    rw [events, after, List.map_append, Effect.settle_append,
      settled_perform environment deployment request service key]
    exact ih _

/-- From the beginning on, and whatever the requests are and how they end, a key service has given
out as many references to a key as have been returned to it and are held, and none is returned that
is not owed. -/
theorem references_conserved (environment : Environment σ) (state : σ) (shared : TrustAnchor)
    (anchors : List AnchorEntry) (members : List Member) (requests : List Request)
    (service : ServiceId) (key : Handle) :
    let start : Deployment σ := ⟨state, shared, anchors, members, []⟩
    let effects := (start.events environment requests).map (Event.effect service key)
    effects.count .gives = effects.count .returns +
        (start.after environment requests).held.count (some ⟨service, key⟩) ∧
      ∀ n, (effects.take n).count .returns ≤ (effects.take n).count .gives := by
  intro start effects
  have hsettle : Effect.settle 0 effects =
      some ((start.after environment requests).held.count (some ⟨service, key⟩)) :=
    settle_events environment start requests service key
  have hcount := Effect.count_eq_of_settle hsettle
  refine ⟨by omega, ?_⟩
  intro n
  have hprefix := Effect.count_take_le_of_settle hsettle n
  omega

end Deployment

end TrustedKeyring
