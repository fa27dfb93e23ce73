import TrustedKeyring.Proofs.Deployment.History
import TrustedKeyring.Proofs.Deployment.Visits

/-!
# Write-once anchors

An anchor is bound by the first load that succeeds, and to nothing else after that.  Every load of a
keyring has failed but the one that bound the anchor (`anchor_written_once`).
-/

namespace TrustedKeyring

def isFailedLoad {α : Type} : Outcome Refusal α → Bool
  | .error (.error (.loadFailed _)) => true
  | .error (.panic _) => true
  | _ => false

/-- A visit that loads a keyring fails and leaves the anchor unset, or binds it. -/
theorem Visit.length_openings {α : Type} {name : String} {owner : Option ServiceId}
    {isLoader : Bool} {shows : Option Handle → List Exchange → Outcome Refusal α → Prop}
    {anchor after : TrustAnchor} {calls : List Exchange} {outcome : Outcome Refusal α}
    (h : Visit name owner isLoader shows anchor calls outcome after) :
    (calls.filter Exchange.isOpening).length =
      (if isLoader && isFailedLoad outcome && after.binding.isNone then 1 else 0) +
        if anchor.binding.isNone && after.binding.isSome then 1 else 0 := by
  rcases anchor with ⟨bound, isPoisoned, isProcess⟩
  cases h with
  | refused hbound => cases hbound; simp
  | admitted hbound hcalls => cases hbound; simp [hcalls]
  | unset hunset hlooks => cases hunset; cases hlooks; rfl
  | ownerless hunset hloads | failed hunset hloads | panicked hunset hloads =>
    cases hunset
    cases hloads
    rfl
  | @loaded calls outcome hunset hloads _ handle hcalls =>
    cases hunset
    have hopenings : (⟨.openKeyring name, .ok handle⟩ :: calls).filter Exchange.isOpening =
        [⟨.openKeyring name, .ok handle⟩] := by
      change _ :: calls.filter Exchange.isOpening = _
      rw [hcalls]
    rw [hopenings]
    simp

namespace Deployment

variable {σ : Type} {environment : Environment σ} {deployment : Deployment σ}
  {place : AnchorPlace} {request : Request} {step : Step σ Reply}

def visitorIn? (deployment : Deployment σ) (place : AnchorPlace) (request : Request) :
    Option Visitor :=
  request.visitor?.filter fun visitor => deployment.place? visitor.anchor = some place

def openingCount (environment : Environment σ) (deployment : Deployment σ) (place : AnchorPlace) :
    List Request → Nat
  | [] => 0
  | request :: requests =>
    let step := deployment.perform environment request
    (if (deployment.visitorIn? place request).isSome then step.openings.length else 0) +
      openingCount environment step.deployment place requests

def failedLoadCount (environment : Environment σ) (deployment : Deployment σ)
    (place : AnchorPlace) : List Request → Nat
  | [] => 0
  | request :: requests =>
    let step := deployment.perform environment request
    (if (deployment.visitorIn? place request).any Visitor.isLoader && isFailedLoad step.outcome &&
        (step.deployment.anchorIn place).binding.isNone then 1 else 0) +
      failedLoadCount environment step.deployment place requests

/-- The requests that visit an anchor which is bound are answered by their keyring names and
owners, and load nothing. -/
def AnswersFor (environment : Environment σ) (deployment : Deployment σ) (place : AnchorPlace)
    (binding : Binding) : Prop :=
  ∀ request visitor, deployment.visitorIn? place request = some visitor →
    request.sourceFault? environment.host = none →
      let step := deployment.perform environment request
      ∃ answer, Admission visitor.name visitor.owner binding answer ∧ step.openings = [] ∧
        match answer with
        | .ok handle => request.Shows (some handle) step.calls step.outcome
        | .error failure => step.calls = [] ∧ step.outcome = .error failure

theorem visitorIn?_eq_some_iff {visitor : Visitor} :
    deployment.visitorIn? place request = some visitor ↔
      request.visitor? = some visitor ∧ deployment.place? visitor.anchor = some place := by
  rw [visitorIn?, Option.filter_eq_some_iff, decide_eq_true_iff]

theorem AnchorStep.binding_eq {binding : Binding}
    (h : AnchorStep environment deployment place request step)
    (hbound : (deployment.anchorIn place).binding = some binding) :
    (step.deployment.anchorIn place).binding = some binding := by
  cases h with
  | visit _ _ _ _ hvisit => exact hvisit.binding_eq hbound
  | unread _ _ _ _ _ hkept | elsewhere _ _ hkept | apart _ _ hkept => rw [hkept, hbound]

/-- A request that loads a keyring for an anchor fails and leaves it unset, or binds it. -/
theorem AnchorStep.length_openings (h : AnchorStep environment deployment place request step) :
    (if (deployment.visitorIn? place request).isSome then step.openings.length else 0) =
      (if (deployment.visitorIn? place request).any Visitor.isLoader &&
          isFailedLoad step.outcome && (step.deployment.anchorIn place).binding.isNone
        then 1 else 0) +
        if (deployment.anchorIn place).binding.isNone &&
          (step.deployment.anchorIn place).binding.isSome then 1 else 0 := by
  cases h with
  | @visit visitor hvisitor hplace _ _ hvisit =>
    rw [visitorIn?_eq_some_iff.mpr ⟨hvisitor, hplace⟩]
    exact hvisit.length_openings
  | @unread visitor refusal hvisitor hlooks _ hcalls _ hkept =>
    have hnone : step.openings = [] := by rw [Step.openings, hcalls]; rfl
    have hlooking : (deployment.visitorIn? place request).any Visitor.isLoader = false := by
      rw [visitorIn?, hvisitor, Option.filter]
      split
      · exact hlooks
      · rfl
    rw [hnone, hlooking, hkept]
    cases (deployment.anchorIn place).binding <;> simp
  | @elsewhere visitor hvisitor hplace hkept =>
    have hnone : deployment.visitorIn? place request = none := by
      rw [visitorIn?, hvisitor, Option.filter, if_neg (by simpa using hplace)]
    rw [hnone, hkept]
    cases (deployment.anchorIn place).binding <;> rfl
  | apart hvisitor _ hkept =>
    have hnone : deployment.visitorIn? place request = none := by
      rw [visitorIn?, hvisitor, Option.filter_none]
    rw [hnone, hkept]
    cases (deployment.anchorIn place).binding <;> rfl

theorem binding_after (environment : Environment σ) {binding : Binding}
    (h : (deployment.anchorIn place).binding = some binding) (requests : List Request) :
    ((deployment.after environment requests).anchorIn place).binding = some binding := by
  induction requests generalizing deployment with
  | nil => exact h
  | cons request requests ih =>
    exact ih ((anchorStep_perform environment deployment place request).binding_eq h)

theorem openingCount_eq (environment : Environment σ) (deployment : Deployment σ)
    (place : AnchorPlace) (requests : List Request) :
    deployment.openingCount environment place requests =
      deployment.failedLoadCount environment place requests +
        if (deployment.anchorIn place).binding.isNone &&
            ((deployment.after environment requests).anchorIn place).binding.isSome
          then 1 else 0 := by
  induction requests generalizing deployment with
  | nil =>
    rw [openingCount, failedLoadCount, after]
    cases (deployment.anchorIn place).binding <;> rfl
  | cons request requests ih =>
    have hstep := anchorStep_perform environment deployment place request
    rw [openingCount, failedLoadCount, after]
    rw [hstep.length_openings, ih]
    -- the anchor is bound at most once, in this step or in one after it
    cases hbefore : (deployment.anchorIn place).binding with
    | some binding =>
      rw [hstep.binding_eq hbefore]
      simp only [Option.isNone_some, Bool.false_and, Bool.false_eq_true, if_false]
      omega
    | none =>
      cases hbetween : ((deployment.perform environment request).deployment.anchorIn place).binding
        with
      | none =>
        simp only [Option.isNone_none, Option.isSome_none, Bool.and_false, Bool.and_true,
          Bool.true_and, Bool.false_eq_true, if_false]
        omega
      | some binding =>
        rw [binding_after environment hbetween]
        simp only [Option.isNone_none, Option.isNone_some, Option.isSome_some, Bool.and_false,
          Bool.and_true, Bool.false_eq_true, if_true, if_false]
        omega

theorem answersFor_of_binding_eq (environment : Environment σ) {binding : Binding}
    (h : (deployment.anchorIn place).binding = some binding) :
    deployment.AnswersFor environment place binding := by
  intro request visitor hvisitor hread step
  rcases visitorIn?_eq_some_iff.mp hvisitor with ⟨hvisitor, hplace⟩
  have hstep := anchorStep_perform environment deployment place request
  cases hstep with
  | @visit other hother _ _ _ hvisit =>
    rw [hvisitor] at hother
    cases hother
    exact hvisit.exists_admission h
  | unread _ _ hfault => rw [hread] at hfault; cases hfault
  | elsewhere hother hne =>
    rw [hvisitor] at hother
    cases hother
    exact absurd hplace hne
  | apart hnone => rw [hvisitor] at hnone; cases hnone

/-- After every history of requests: the next request visits the anchor in a place, or leaves it; if
the anchor is bound, it stays bound to the same handle, keyring name and owner, and answers for
them; and the loads of keyrings for it have all failed but the one that has bound it, if one has. -/
theorem anchor_written_once (environment : Environment σ) (start : Deployment σ)
    (place : AnchorPlace) (requests : List Request) :
    let here := start.after environment requests
    (∀ request, AnchorStep environment here place request (here.perform environment request)) ∧
      (∀ binding ∈ (here.anchorIn place).binding, ∀ more,
        ((here.after environment more).anchorIn place).binding = some binding ∧
          (here.after environment more).AnswersFor environment place binding) ∧
      start.openingCount environment place requests =
        start.failedLoadCount environment place requests +
          if (start.anchorIn place).binding.isNone && (here.anchorIn place).binding.isSome
            then 1 else 0 := by
  intro here
  refine ⟨anchorStep_perform environment here place, ?_,
    openingCount_eq environment start place requests⟩
  intro binding hbinding more
  have hlater := binding_after environment (Option.mem_def.mp hbinding) more
  exact ⟨hlater, answersFor_of_binding_eq environment hlater⟩

end Deployment

end TrustedKeyring
