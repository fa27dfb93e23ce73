import TrustedKeyring.Deployment

/-!
# Places of anchors

A number can be another name of the shared anchor.  Two references lead to the same anchor exactly
if they lead to the same place, and what becomes of an anchor concerns no other place.
-/

namespace TrustedKeyring

inductive AnchorPlace where
  | shared
  | own (number : Nat)
deriving DecidableEq, Repr

namespace Deployment

variable {σ : Type} {deployment : Deployment σ} {ref : AnchorRef} {place : AnchorPlace}

def place? (deployment : Deployment σ) : AnchorRef → Option AnchorPlace
  | .shared => some .shared
  | .numbered number =>
    match deployment.anchors[number]? with
    | some (.own _) => some (.own number)
    | some .shared => some .shared
    | none => none

def anchorIn (deployment : Deployment σ) : AnchorPlace → TrustAnchor
  | .shared => deployment.shared
  | .own number =>
    match deployment.anchors[number]? with
    | some (.own anchor) => anchor
    | _ => {}

theorem anchor_of_place? (h : deployment.place? ref = some place) :
    deployment.anchor ref = deployment.anchorIn place := by
  cases ref with
  | shared => cases h; rfl
  | numbered number =>
    unfold place? at h
    unfold anchor
    match hentry : deployment.anchors[number]? with
    | none => simp only [hentry] at h; cases h
    | some .shared => simp only [hentry] at h ⊢; cases h; rfl
    | some (.own anchor) => simp only [hentry] at h; cases h; simp only [anchorIn, hentry]

/-- Replacing an anchor replaces what is in its place. -/
theorem anchorIn_setAnchor (h : deployment.place? ref = some place) (anchor : TrustAnchor)
    (other : AnchorPlace) :
    (deployment.setAnchor anchor ref).anchorIn other =
      if other = place then anchor else deployment.anchorIn other := by
  cases ref with
  | shared => cases h; cases other <;> rfl
  | numbered number =>
    unfold place? at h
    unfold setAnchor
    -- a number may lead to the shared anchor, which is another place
    match hentry : deployment.anchors[number]? with
    | none => simp only [hentry] at h; cases h
    | some .shared => simp only [hentry] at h ⊢; cases h; cases other <;> rfl
    | some (.own old) =>
      simp only [hentry] at h ⊢
      cases h
      rcases List.getElem?_eq_some_iff.mp hentry with ⟨hlt, -⟩
      cases other with
      | shared => rfl
      | own otherNumber =>
        by_cases hother : otherNumber = number
        · subst hother
          simp only [anchorIn, List.getElem?_set_self hlt, if_true]
        · have hplace : AnchorPlace.own otherNumber ≠ .own number := by
            intro heq
            exact hother (AnchorPlace.own.inj heq)
          rw [if_neg hplace]
          simp only [anchorIn, List.getElem?_set_ne (Ne.symm hother)]

/-- A number that was not given out leads nowhere, and nothing is replaced through it. -/
theorem setAnchor_of_place?_eq_none (h : deployment.place? ref = none) (anchor : TrustAnchor) :
    deployment.setAnchor anchor ref = deployment := by
  cases ref with
  | shared => cases h
  | numbered number =>
    unfold place? at h
    unfold setAnchor
    match hentry : deployment.anchors[number]? with
    | none => simp only [hentry]
    | some .shared => simp only [hentry] at h; cases h
    | some (.own old) => simp only [hentry] at h; cases h

/-- References lead where they led before, whatever the anchors become. -/
theorem place?_setAnchor (deployment : Deployment σ) (anchor : TrustAnchor)
    (ref other : AnchorRef) :
    (deployment.setAnchor anchor ref).place? other = deployment.place? other := by
  cases other with
  | shared => rfl
  | numbered otherNumber =>
    cases ref with
    | shared => rfl
    | numbered number =>
      unfold setAnchor
      match hentry : deployment.anchors[number]? with
      | none => simp only [hentry]
      | some .shared => simp only [hentry]; rfl
      | some (.own old) =>
        rcases List.getElem?_eq_some_iff.mp hentry with ⟨hlt, -⟩
        simp only [hentry]
        by_cases hother : number = otherNumber
        · subst hother
          simp only [place?, List.getElem?_set_self hlt, hentry]
        · simp only [place?, List.getElem?_set_ne hother]

end Deployment

end TrustedKeyring
