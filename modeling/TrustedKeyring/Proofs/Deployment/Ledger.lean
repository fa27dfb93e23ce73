import TrustedKeyring.Proofs.Deployment.Effect
import TrustedKeyring.Proofs.Verifier.Ensures

/-!
# Operations and the references to keys

An operation that comes to a key hands its reference on to the caller; every other operation returns
what it was given (`Operation.Settles`).
-/

namespace TrustedKeyring

variable {keyring : Handle} {id : KeyId} {calls : List Exchange} {anchor after : TrustAnchor}
  {verifier : Verifier}

def handed (key : Handle) : Outcome Refusal Handle → Nat
  | .ok given => if given = key then 1 else 0
  | .error _ => 0

theorem settle_given (key given : Handle) (owed : Nat) :
    Effect.settle owed [if given = key then .gives else .neither] =
      some (owed + handed key (.ok given)) := by
  by_cases hkey : given = key
  · simp only [handed, if_pos hkey, Effect.settle]
  · simp only [handed, if_neg hkey, Effect.settle, Nat.add_zero]

/-- A key that is returned was handed on, whichever key it is. -/
theorem settle_release (key given : Handle) (owed : Nat) :
    Effect.settle (owed + handed key (.ok given)) [Exchange.effect key ⟨.release given, ()⟩] =
      some owed := by
  by_cases hkey : given = key
  · simp only [Exchange.effect, handed, if_pos hkey, Effect.settle]
  · simp only [Exchange.effect, handed, if_neg hkey, Effect.settle_neither, Effect.settle,
      Nat.add_zero]

theorem LoadTrace.settle_eq {name : String} {owner : Option ServiceId}
    {outcome : Outcome Refusal Handle} (h : LoadTrace name owner anchor calls outcome after)
    (key : Handle) (owed : Nat) :
    Effect.settle owed (calls.map (Exchange.effect key)) = some owed := by
  cases h <;> simp only [List.map_nil, List.map_cons, Exchange.effect, Effect.settle]

theorem SearchTrace.settle_eq {outcome : Outcome Refusal Handle}
    (h : SearchTrace keyring id calls outcome) (key : Handle) (owed : Nat) :
    Effect.settle owed (calls.map (Exchange.effect key)) = some (owed + handed key outcome) := by
  cases h with
  | found given => exact settle_given key given owed
  | unusable | failed | panicked =>
    simp only [List.map_nil, List.map_cons, Exchange.effect, Effect.settle, handed, Nat.add_zero]

theorem FindTrace.settle_eq {outcome : Outcome Refusal Handle}
    (h : FindTrace verifier id anchor calls outcome) (key : Handle) (owed : Nat) :
    Effect.settle owed (calls.map (Exchange.effect key)) = some (owed + handed key outcome) := by
  cases h with
  | unset | refused => rfl
  | searched _ hsearch => exact hsearch.settle_eq key owed

theorem CheckTrace.settle_eq {certificate : Certificate} {digest : Bytes} {digestLength : Nat}
    {outcome : Outcome Refusal Int32}
    (h : CheckTrace keyring certificate digest digestLength calls outcome) (key : Handle)
    (owed : Nat) : Effect.settle owed (calls.map (Exchange.effect key)) = some owed := by
  -- however the check ends, the key that the search has given is released after it
  cases h with
  | unknownAlgorithm => rfl
  | notFound _ hsearch => exact hsearch.settle_eq key owed
  | checked _ hsearch | panicked _ hsearch =>
    rw [List.map_append, Effect.settle_append, hsearch.settle_eq key owed, Option.bind_some]
    exact (Effect.settle_neither _ _).trans (settle_release key _ owed)

theorem VerifyTrace.settle_eq {certificate : Certificate} {digest : Bytes} {digestLength : Nat}
    {outcome : Outcome Refusal Int32}
    (h : VerifyTrace verifier certificate digest digestLength anchor calls outcome after)
    (key : Handle) (owed : Nat) :
    Effect.settle owed (calls.map (Exchange.effect key)) = some owed := by
  cases h with
  | notLoaded hload => exact hload.settle_eq key owed
  | loaded hload hcheck =>
    rw [List.map_append, Effect.settle_append, hload.settle_eq key owed, Option.bind_some]
    exact hcheck.settle_eq key owed

theorem ProvisionTrace.settle_eq {data : Bytes} {outcome : Outcome Refusal Unit}
    (h : ProvisionTrace verifier data anchor calls outcome) (key : Handle) (owed : Nat) :
    Effect.settle owed (calls.map (Exchange.effect key)) = some owed := by
  cases h with
  | unset | refused | empty => rfl
  | added _ _ given =>
    rw [List.map_cons, Effect.settle_cons]
    change (Effect.settle owed [if given = key then .gives else .neither]).bind _ = _
    rw [settle_given, Option.bind_some]
    exact settle_release key given owed
  | failed | panicked =>
    simp only [List.map_nil, List.map_cons, Exchange.effect, Effect.settle]

/-- Whatever is answered to an operation, what it owes afterwards is more by what its outcome hands
on, and it returns nothing that is not owed. -/
def Operation.Settles {α : Type} (operation : Operation α) (anchor : TrustAnchor)
    (handing : Handle → Outcome Refusal α → Nat) : Prop :=
  operation.Ensures anchor fun calls outcome _ => ∀ key owed,
    Effect.settle owed (calls.map (Exchange.effect key)) = some (owed + handing key outcome)

theorem settles_ofExcept_bind {α β : Type} {result : Except Refusal α} {next : α → Operation β}
    {handing : Handle → Outcome Refusal β → Nat}
    (herror : ∀ key refusal, handing key (.error (.error refusal)) = 0)
    (hnext : ∀ value, (next value).Settles anchor handing) :
    (Operation.ofExcept result >>= next).Settles anchor handing := by
  refine Operation.Ensures.bind (Operation.ensures_ofExcept _ _ ?_)
  cases result with
  | error refusal =>
    intro key owed
    rw [herror]
    rfl
  | ok value => exact hnext value

theorem settles_load (name : String) (owner : Option ServiceId) (anchor : TrustAnchor) :
    (TrustAnchor.load name owner).Settles anchor fun _ _ => 0 :=
  (ensures_load name owner anchor).mono fun _ _ _ h => h.settle_eq

theorem settles_peek (name : String) (owner : Option ServiceId) (anchor : TrustAnchor) :
    (TrustAnchor.peek name owner).Settles anchor fun _ _ => 0 := by
  refine (ensures_peek name owner anchor).mono ?_
  rintro calls outcome after ⟨-, rfl, -⟩ key owed
  rfl

theorem settles_resolve (keyring : Option Handle) (id : KeyId) (anchor : TrustAnchor) :
    (findKey keyring id).Settles anchor handed := by
  cases keyring with
  | none => exact fun key owed => rfl
  | some keyring =>
    refine (ensures_search keyring id anchor).mono ?_
    rintro calls outcome after ⟨hsearch, -⟩
    exact hsearch.settle_eq

theorem settles_findKey (verifier : Verifier) (id : KeyId) (anchor : TrustAnchor) :
    (verifier.findKey id).Settles anchor handed :=
  (ensures_findKey verifier id anchor).mono fun _ _ _ h => h.1.settle_eq

theorem settles_verify (verifier : Verifier) (certificate : Certificate) (digest : Bytes)
    (digestLength : Nat) (anchor : TrustAnchor) :
    (verifier.verify certificate digest digestLength).Settles anchor fun _ _ => 0 :=
  (ensures_verify verifier certificate digest digestLength anchor).mono fun _ _ _ h => h.settle_eq

theorem settles_verifyDigest (owner : ServiceId) (certificate : Certificate) (digest : Bytes)
    (digestLength : Nat) (anchor : TrustAnchor) :
    (verifyDigest owner certificate digest digestLength).Settles anchor fun _ _ => 0 :=
  settles_ofExcept_bind (fun _ _ => rfl) fun verifier =>
    settles_verify verifier certificate digest digestLength anchor

theorem settles_provision (verifier : Verifier) (data : Bytes) (anchor : TrustAnchor) :
    (verifier.provision data).Settles anchor fun _ _ => 0 :=
  (ensures_provision verifier data anchor).mono fun _ _ _ h => h.1.settle_eq

theorem settles_provisionFrom (verifier : Verifier) (host : Host) (source : CertificateSource)
    (anchor : TrustAnchor) : (verifier.provisionFrom host source).Settles anchor fun _ _ => 0 :=
  settles_ofExcept_bind (fun _ _ => rfl) fun data => settles_provision verifier data anchor

end TrustedKeyring
