import TrustedKeyring.Proofs.Verifier.Ensures
import TrustedKeyring.Proofs.Verifier.Unique
import TrustedKeyring.TrustStore

/-!
# Runs of a verification

A verifier is built for the shared anchor with an owner, or for an anchor of its own without one.
Run with any collaborators, it makes the calls of the only trace of its anchor that has the answers
which the collaborators give (`run_verify`).
-/

namespace TrustedKeyring

/-- How a verifier of an anchor comes about.  An anchor keeps whether it is the shared one, and may
be bound or poisoned after the verifier was built. -/
inductive Verifier.Built (verifier : Verifier) (anchor : TrustAnchor) : Prop
  | ofShared {config : Config} {owner : ServiceId}
      (hbuilt : Verifier.ofShared config owner = .ok verifier)
  | ofAnchor {config : Config} {first : TrustAnchor}
      (hbuilt : Verifier.ofAnchor config first = .ok verifier)
      (hsame : anchor.isProcess = first.isProcess)

theorem Verifier.ofShared_eq_ok_iff {config : Config} {owner : ServiceId} {verifier : Verifier} :
    Verifier.ofShared config owner = .ok verifier ↔
      config.validate = .ok () ∧ verifier = ⟨config, some owner⟩ := by
  unfold ofShared
  cases config.validate with
  | error refusal => simp [Except.map]
  | ok valid => simp [Except.map, eq_comm]

theorem Verifier.ofAnchor_eq_ok_iff {config : Config} {anchor : TrustAnchor}
    {verifier : Verifier} :
    Verifier.ofAnchor config anchor = .ok verifier ↔
      config.validate = .ok () ∧ anchor.isProcess = false ∧ verifier = ⟨config, none⟩ := by
  unfold ofAnchor
  cases config.validate with
  | error refusal => simp
  | ok valid => cases anchor.isProcess <;> simp [eq_comm]

/-- A verifier that was built is not refused for want of an owner. -/
theorem Verifier.Built.isSome_owner {verifier : Verifier} {anchor : TrustAnchor}
    (h : verifier.Built anchor) (hshared : anchor.isProcess = true) :
    verifier.owner.isSome = true := by
  cases h with
  | ofShared hbuilt =>
    obtain ⟨-, rfl⟩ := Verifier.ofShared_eq_ok_iff.mp hbuilt
    rfl
  | ofAnchor hbuilt hsame =>
    obtain ⟨-, howned, -⟩ := Verifier.ofAnchor_eq_ok_iff.mp hbuilt
    rw [← hsame, hshared] at howned
    cases howned

/-- Only a load without an owner asks for one. -/
theorem VerifyTrace.owner_eq_none {verifier : Verifier} {certificate : Certificate}
    {digest : Bytes} {digestLength : Nat} {anchor after : TrustAnchor} {calls : List Exchange}
    {outcome : Outcome Refusal Int32}
    (h : VerifyTrace verifier certificate digest digestLength anchor calls outcome after)
    (howner : outcome = .error (.error ownerRequired)) :
    anchor.isProcess = true ∧ verifier.owner = none := by
  cases h with
  | notLoaded hload =>
    cases hload with
    | ownerless _ hshared hnone => exact ⟨hshared, hnone⟩
    | bound _ hanswer => cases hanswer <;> cases howner
    | failed | panicked => cases howner
  | loaded _ hcheck =>
    cases hcheck with
    | notFound _ hsearch => cases hsearch <;> cases howner
    | unknownAlgorithm | checked | panicked => cases howner

/-- The calls, the outcome and the anchor of a verification are those of a trace, with the answers
that the collaborators give, and there is no other such trace.  A verifier that was built is not
asked for an owner. -/
theorem run_verify {σ : Type} (others : Collaborators σ) (state : σ) (verifier : Verifier)
    (certificate : Certificate) (digest : Bytes) (digestLength : Nat) (anchor : TrustAnchor)
    (hbuilt : verifier.Built anchor) :
    let run := (verifier.verify certificate digest digestLength).run others ⟨anchor, state⟩
    VerifyTrace verifier certificate digest digestLength anchor run.calls run.outcome
        run.world.anchor ∧
      others.Answer state run.calls run.world.state ∧
      (∀ calls outcome after last,
        VerifyTrace verifier certificate digest digestLength anchor calls outcome after →
          others.Answer state calls last →
            calls = run.calls ∧ outcome = run.outcome ∧ after = run.world.anchor) ∧
      run.outcome ≠ .error (.error ownerRequired) := by
  intro run
  have htrace : VerifyTrace verifier certificate digest digestLength anchor run.calls run.outcome
      run.world.anchor :=
    (ensures_verify verifier certificate digest digestLength anchor).run others state
  have hanswer : others.Answer state run.calls run.world.state :=
    Operation.answer_run others _ ⟨anchor, state⟩
  refine ⟨htrace, hanswer, ?_, ?_⟩
  · intro calls outcome after last hother hanswered
    exact hother.unique htrace hanswered hanswer
  · intro howner
    rcases htrace.owner_eq_none howner with ⟨hshared, hnone⟩
    have hsome := hbuilt.isSome_owner hshared
    rw [hnone] at hsome
    cases hsome

/-- A verifier of an unset anchor, with a key store whose keyring has the key.  The key is found,
used for the check and put back. -/
theorem run_verify_foundKey :
    let crypto : Crypto :=
      { Crypto.standard with verify := fun _ _ _ signature => some (signature == [7]) }
    let verifier : Verifier := ⟨{}, none⟩
    let certificate : Certificate := ⟨.forAlgorithm .sha256 ⟨5⟩, [7]⟩
    let digest : Bytes := List.replicate 32 0
    let opened := (KeyStore.openKeyring {} ".five").2
    let state := (opened.link ⟨1⟩ [0, 0, 0, 5] (.raw .ed25519 [])).2
    let others := TrustStore.collaborators crypto
    let run := (verifier.verify certificate digest 32).run others ⟨{}, state⟩
    verifier.Built {} ∧
      run.calls.map (fun call => call.request) =
        [.openKeyring ".five", .search ⟨1⟩ .asymmetric "id:00000005" true,
          .check ⟨2⟩ (.forDigest digest 32) certificate certificate.header, .release ⟨2⟩] ∧
      run.outcome = .ok 0 ∧ run.world.state.references? ⟨2⟩ = some 1 ∧
      VerifyTrace verifier certificate digest 32 {} run.calls run.outcome run.world.anchor ∧
      others.Answer state run.calls run.world.state ∧
      (∀ calls outcome after last,
        VerifyTrace verifier certificate digest 32 {} calls outcome after →
          others.Answer state calls last →
            calls = run.calls ∧ outcome = run.outcome ∧ after = run.world.anchor) ∧
      run.outcome ≠ .error (.error ownerRequired) := by
  intro crypto verifier certificate digest opened state others run
  have hbuilt : verifier.Built {} :=
    .ofAnchor (show Verifier.ofAnchor {} {} = .ok _ by decide) rfl
  have hcalls : run.calls.map (fun call => call.request) =
      [.openKeyring ".five", .search ⟨1⟩ .asymmetric "id:00000005" true,
        .check ⟨2⟩ (.forDigest digest 32) certificate certificate.header, .release ⟨2⟩] := by
    decide
  have houtcome : run.outcome = .ok 0 := by decide
  have hreferences : run.world.state.references? ⟨2⟩ = some 1 := by decide
  exact ⟨hbuilt, hcalls, houtcome, hreferences,
    run_verify others state verifier certificate digest 32 {} hbuilt⟩

end TrustedKeyring
