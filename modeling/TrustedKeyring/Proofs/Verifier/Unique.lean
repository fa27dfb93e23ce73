import TrustedKeyring.Proofs.Verifier.Trace

/-!
# Traces by their answers

With the answers of given collaborators there is only one trace of a verification.
-/

namespace TrustedKeyring

variable {σ : Type} {others : Collaborators σ} {state last last' : σ} {name : String}
  {owner : Option ServiceId} {anchor after after' : TrustAnchor}
  {calls calls' more more' : List Exchange} {keyring : Handle}

theorem LoadTrace.unique {outcome outcome' : Outcome Refusal Handle}
    (h : LoadTrace name owner anchor calls outcome after)
    (h' : LoadTrace name owner anchor calls' outcome' after')
    (hanswer : others.Answer state (calls ++ more) last)
    (hanswer' : others.Answer state (calls' ++ more') last') :
    calls = calls' ∧ outcome = outcome' ∧ after = after' := by
  cases hbinding : anchor.binding with
  | some binding =>
    rcases h.of_bound hbinding with ⟨rfl, hadmission, rfl⟩
    rcases h'.of_bound hbinding with ⟨rfl, hadmission', rfl⟩
    exact ⟨rfl, hadmission.unique hadmission', rfl⟩
  | none =>
    by_cases howned : anchor.isProcess = false ∨ owner ≠ none
    · rcases h.of_owned hbinding howned with ⟨answer, rfl, hend⟩
      rcases h'.of_owned hbinding howned with ⟨answer', rfl, hend'⟩
      obtain rfl : answer = answer' := hanswer.answer_eq hanswer'
      rcases Prod.mk.inj (hend.trans hend'.symm) with ⟨houtcome, hafter⟩
      exact ⟨rfl, houtcome, hafter⟩
    · rcases h.of_ownerless hbinding howned with ⟨rfl, rfl, rfl⟩
      rcases h'.of_ownerless hbinding howned with ⟨rfl, rfl, rfl⟩
      exact ⟨rfl, rfl, rfl⟩

theorem SearchTrace.unique {id : KeyId} {outcome outcome' : Outcome Refusal Handle}
    (h : SearchTrace keyring id calls outcome) (h' : SearchTrace keyring id calls' outcome')
    (hanswer : others.Answer state (calls ++ more) last)
    (hanswer' : others.Answer state (calls' ++ more') last') :
    calls = calls' ∧ outcome = outcome' := by
  rcases h.exists_answer with ⟨answer, rfl⟩
  rcases h'.exists_answer with ⟨answer', rfl⟩
  obtain rfl : answer = answer' := hanswer.answer_eq hanswer'
  refine ⟨rfl, ?_⟩
  cases h with
  | found => cases h' with | found => rfl
  | unusable herrno =>
    cases h' with
    | unusable => rfl
    | failed hother => exact absurd herrno hother
  | failed herrno =>
    cases h' with
    | unusable hother => exact absurd hother herrno
    | failed => rfl
  | panicked => cases h' with | panicked => rfl

section Check

variable {certificate : Certificate} {digest : Bytes} {digestLength : Nat}
  {outcome outcome' : Outcome Refusal Int32}

def verdict : Outcome Empty Int32 → Outcome Refusal Int32
  | .ok code => .ok code
  | .error (.panic message) => .error (.panic message)

theorem CheckTrace.of_unknown (h : CheckTrace keyring certificate digest digestLength calls outcome)
    (hunknown : ¬certificate.header.hashNumber < 20) :
    calls = [] ∧ outcome = .error (.error (.unknownAlgorithm certificate.header.hashNumber)) := by
  cases h with
  | unknownAlgorithm => exact ⟨rfl, rfl⟩
  | notFound hknown | checked hknown | panicked hknown => exact absurd hknown hunknown

/-- A check with a known algorithm is a search, and a call of the primitive for the key it gives. -/
theorem CheckTrace.of_known (h : CheckTrace keyring certificate digest digestLength calls outcome)
    (hknown : certificate.header.hashNumber < 20) :
    ∃ searches found rest, calls = searches ++ rest ∧
      SearchTrace keyring certificate.header.keyId searches found ∧
      match found with
      | .error failure => rest = [] ∧ outcome = .error failure
      | .ok key => ∃ answer, rest = [⟨.check key ⟨digest, digestLength, none, []⟩ certificate
          certificate.header, answer⟩, ⟨.release key, ()⟩] ∧ outcome = verdict answer := by
  cases h with
  | unknownAlgorithm hunknown => exact absurd hknown (UInt8.not_lt.mpr hunknown)
  | notFound _ hsearch => exact ⟨_, _, [], (List.append_nil _).symm, hsearch, rfl, rfl⟩
  | checked _ hsearch code => exact ⟨_, _, _, rfl, hsearch, .ok code, rfl, rfl⟩
  | panicked _ hsearch message =>
    exact ⟨_, _, _, rfl, hsearch, .error (.panic message), rfl, rfl⟩

theorem CheckTrace.unique (h : CheckTrace keyring certificate digest digestLength calls outcome)
    (h' : CheckTrace keyring certificate digest digestLength calls' outcome')
    (hanswer : others.Answer state calls last) (hanswer' : others.Answer state calls' last') :
    calls = calls' ∧ outcome = outcome' := by
  by_cases hknown : certificate.header.hashNumber < 20
  · rcases h.of_known hknown with ⟨searches, found, rest, rfl, hsearch, hrest⟩
    rcases h'.of_known hknown with ⟨searches', found', rest', rfl, hsearch', hrest'⟩
    rcases hsearch.unique hsearch' hanswer hanswer' with ⟨rfl, rfl⟩
    cases found with
    | error failure =>
      rcases hrest with ⟨rfl, rfl⟩
      rcases hrest' with ⟨rfl, rfl⟩
      exact ⟨rfl, rfl⟩
    | ok key =>
      rcases hrest with ⟨answer, rfl, rfl⟩
      rcases hrest' with ⟨answer', rfl, rfl⟩
      rcases Collaborators.answer_append.mp hanswer with ⟨between, hfirst, hcheck⟩
      rcases Collaborators.answer_append.mp hanswer' with ⟨between', hfirst', hcheck'⟩
      obtain rfl : between = between' := hfirst.last_eq hfirst'
      obtain rfl : answer = answer' := hcheck.answer_eq hcheck'
      exact ⟨rfl, rfl⟩
  · rcases h.of_unknown hknown with ⟨rfl, rfl⟩
    rcases h'.of_unknown hknown with ⟨rfl, rfl⟩
    exact ⟨rfl, rfl⟩

theorem VerifyTrace.unique {verifier : Verifier}
    (h : VerifyTrace verifier certificate digest digestLength anchor calls outcome after)
    (h' : VerifyTrace verifier certificate digest digestLength anchor calls' outcome' after')
    (hanswer : others.Answer state calls last) (hanswer' : others.Answer state calls' last') :
    calls = calls' ∧ outcome = outcome' ∧ after = after' := by
  -- the loads agree, since they are answered alike, and after them the checks do
  cases h with
  | notLoaded hload =>
    rw [← List.append_nil calls] at hanswer
    cases h' with
    | notLoaded hload' =>
      rw [← List.append_nil calls'] at hanswer'
      rcases hload.unique hload' hanswer hanswer' with ⟨hcalls, houtcome, hafter⟩
      cases houtcome
      exact ⟨hcalls, rfl, hafter⟩
    | loaded hload' =>
      rcases hload.unique hload' hanswer hanswer' with ⟨-, houtcome, -⟩
      cases houtcome
  | loaded hload hcheck =>
    cases h' with
    | notLoaded hload' =>
      rw [← List.append_nil calls'] at hanswer'
      rcases hload.unique hload' hanswer hanswer' with ⟨-, houtcome, -⟩
      cases houtcome
    | loaded hload' hcheck' =>
      rcases hload.unique hload' hanswer hanswer' with ⟨rfl, houtcome, rfl⟩
      cases houtcome
      rcases Collaborators.answer_append.mp hanswer with ⟨between, hloads, hrest⟩
      rcases Collaborators.answer_append.mp hanswer' with ⟨between', hloads', hrest'⟩
      obtain rfl : between = between' := hloads.last_eq hloads'
      rcases hcheck.unique hcheck' hrest hrest' with ⟨rfl, rfl⟩
      exact ⟨rfl, rfl, rfl⟩

end Check

end TrustedKeyring
