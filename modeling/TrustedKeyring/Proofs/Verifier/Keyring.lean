import TrustedKeyring.Proofs.TrustAnchor.Visit

/-!
# Keyrings that are passed on

A search or an addition names a keyring by its handle.  An operation of a verifier passes on the
handle that its anchor holds for the caller, or the one that it has just been given for the caller's
keyring name, and no other.
-/

namespace TrustedKeyring

variable {α : Type} {name : String} {owner : Option ServiceId} {anchor after : TrustAnchor}
  {calls : List Exchange} {keyring : Handle} {verifier : Verifier}

def Exchange.keyring? (exchange : Exchange) : Option Handle :=
  match exchange.request with
  | .search keyring _ _ _ | .add keyring _ _ => some keyring
  | _ => none

def isForeign : Outcome Refusal α → Bool
  | .error (.error (.otherKeyring _ _)) | .error (.error .otherService) => true
  | _ => false

/-- What calls and an outcome have in common that serve a caller with a keyring. -/
structure Serves (keyring : Handle) (calls : List Exchange) (outcome : Outcome Refusal α) :
    Prop where
  passed : ∀ call ∈ calls, ∀ handle ∈ call.keyring?, handle = keyring
  admitted : isForeign outcome = false

/-- The keyring that an operation passes on: the one that the anchor holds for the caller, one that
was opened for it, or none. -/
inductive KeyringUse (name : String) (owner : Option ServiceId) (anchor : TrustAnchor) :
    List Exchange → Outcome Refusal α → Prop
  | held {keyring : Handle} {calls : List Exchange} {outcome : Outcome Refusal α}
      (hbound : anchor.binding = some ⟨keyring, name, owner⟩)
      (hserves : Serves keyring calls outcome) : KeyringUse name owner anchor calls outcome
  | opened {keyring : Handle} {calls : List Exchange} {outcome : Outcome Refusal α}
      (hunset : anchor.binding = none) (hserves : Serves keyring calls outcome) :
      KeyringUse name owner anchor (⟨.openKeyring name, .ok keyring⟩ :: calls) outcome
  | unused {calls : List Exchange} {outcome : Outcome Refusal α}
      (hbound : ∀ keyring, anchor.binding ≠ some ⟨keyring, name, owner⟩)
      (hnone : ∀ call ∈ calls, call.keyring? = none) : KeyringUse name owner anchor calls outcome

theorem Serves.append {first last : List Exchange} {outcome : Outcome Refusal Handle}
    {outcome' : Outcome Refusal α} (hfirst : Serves keyring first outcome)
    (hlast : Serves keyring last outcome') : Serves keyring (first ++ last) outcome' := by
  refine ⟨?_, hlast.admitted⟩
  intro call hcall
  rcases List.mem_append.mp hcall with hcall | hcall
  · exact hfirst.passed call hcall
  · exact hlast.passed call hcall

/-- Only the refusals for another keyring name or another key service are foreign. -/
theorem Serves.change {β : Type} {outcome : Outcome Refusal α} {outcome' : Outcome Refusal β}
    (h : Serves keyring calls outcome) (hforeign : isForeign outcome' = isForeign outcome) :
    Serves keyring calls outcome' :=
  ⟨h.passed, hforeign.trans h.admitted⟩

theorem KeyringUse.change {β : Type} {outcome : Outcome Refusal α} {outcome' : Outcome Refusal β}
    (h : KeyringUse name owner anchor calls outcome)
    (hforeign : isForeign outcome' = isForeign outcome) :
    KeyringUse name owner anchor calls outcome' := by
  cases h with
  | held hbound hserves => exact .held hbound (hserves.change hforeign)
  | opened hunset hserves => exact .opened hunset (hserves.change hforeign)
  | unused hbound hnone => exact .unused hbound hnone

theorem isForeign_error {β : Type} (failure : Failure Refusal) :
    isForeign (.error failure : Outcome Refusal β) =
      isForeign (.error failure : Outcome Refusal α) := by
  rcases failure with refusal | message
  · cases refusal <;> rfl
  · rfl

theorem isForeign_map {β : Type} (f : α → β) (outcome : Outcome Refusal α) :
    isForeign (outcome.map f) = isForeign outcome := by
  cases outcome with
  | error failure => exact isForeign_error failure
  | ok value => rfl

/-- An anchor that refuses a caller does not hold a keyring for it. -/
theorem Admission.binding_ne {binding : Binding} {failure : Failure Refusal}
    (h : Admission name owner binding (.error failure)) (hbound : anchor.binding = some binding)
    (keyring : Handle) : anchor.binding ≠ some ⟨keyring, name, owner⟩ := by
  intro heq
  rw [hbound] at heq
  cases heq
  exact not_admission_error h

/-- A caller that is refused or finds nothing is served with no keyring. -/
theorem KeyringUse.of_refused {binding : Binding} {failure : Failure Refusal}
    {outcome : Outcome Refusal α} (hbound : anchor.binding = some binding)
    (hanswer : Admission name owner binding (.error failure)) :
    KeyringUse name owner anchor [] outcome :=
  .unused (hanswer.binding_ne hbound) (List.forall_mem_nil _)

theorem KeyringUse.of_unset {outcome : Outcome Refusal α} (hunset : anchor.binding = none)
    (hnone : ∀ call ∈ calls, call.keyring? = none) :
    KeyringUse name owner anchor calls outcome :=
  .unused (fun _ => by rw [hunset]; exact nofun) hnone

theorem Exchange.isCall_of_keyring? (exchange : Exchange)
    (h : exchange.keyring? = some keyring) : exchange.request.isCall = true := by
  rcases exchange with ⟨request, answer⟩
  cases request with
  | search | add => rfl
  | _ => cases h

/-- An anchor that is bound for the caller serves it with its own handle. -/
theorem KeyringUse.serves_of_binding_eq {outcome : Outcome Refusal α}
    (h : KeyringUse name owner anchor calls outcome)
    (hbound : anchor.binding = some ⟨keyring, name, owner⟩) : Serves keyring calls outcome := by
  cases h with
  | held hother hserves =>
    rw [hbound] at hother
    cases hother
    exact hserves
  | opened hunset => rw [hunset] at hbound; cases hbound
  | unused hne => exact absurd hbound (hne keyring)

/-! ## Traces -/

theorem LoadTrace.keyringUse {outcome : Outcome Refusal Handle}
    (h : LoadTrace name owner anchor calls outcome after) :
    KeyringUse name owner anchor calls outcome := by
  cases h with
  | @bound binding outcome hbound hanswer =>
    cases outcome with
    | error failure => exact .of_refused hbound hanswer
    | ok keyring =>
      rw [hanswer.binding_eq] at hbound
      exact .held hbound ⟨List.forall_mem_nil _, rfl⟩
  | ownerless hunset => exact .of_unset hunset (List.forall_mem_nil _)
  | failed hunset | panicked hunset =>
    exact .of_unset hunset (List.forall_mem_singleton.mpr rfl)
  | loaded hunset => exact .opened hunset ⟨List.forall_mem_nil _, rfl⟩

/-- A load passes no keyring on. -/
theorem LoadTrace.keyring?_eq_none {outcome : Outcome Refusal Handle}
    (h : LoadTrace name owner anchor calls outcome after) (call : Exchange) (hcall : call ∈ calls) :
    call.keyring? = none := by
  cases h with
  | bound | ownerless => cases hcall
  | failed | panicked | loaded => rw [List.mem_singleton.mp hcall]; rfl

theorem SearchTrace.serves {id : KeyId} {outcome : Outcome Refusal Handle}
    (h : SearchTrace keyring id calls outcome) : Serves keyring calls outcome := by
  rcases h.exists_answer with ⟨answer, rfl⟩
  refine ⟨List.forall_mem_singleton.mpr ?_, ?_⟩
  · intro handle hhandle
    exact (Option.some.inj hhandle).symm
  · cases h <;> rfl

theorem CheckTrace.serves {certificate : Certificate} {digest : Bytes} {digestLength : Nat}
    {outcome : Outcome Refusal Int32}
    (h : CheckTrace keyring certificate digest digestLength calls outcome) :
    Serves keyring calls outcome := by
  -- neither the check nor the release names a keyring
  have hlast : ∀ (key : Handle) (answer : Outcome Empty Int32),
      ∀ call ∈ [⟨.check key ⟨digest, digestLength, none, []⟩ certificate certificate.header,
          answer⟩, ⟨.release key, ()⟩], ∀ handle ∈ Exchange.keyring? call, handle = keyring := by
    intro key answer
    refine List.forall_mem_cons.mpr ⟨?_, List.forall_mem_singleton.mpr ?_⟩
    · intro handle hhandle
      cases hhandle
    · intro handle hhandle
      cases hhandle
  cases h with
  | unknownAlgorithm => exact ⟨List.forall_mem_nil _, rfl⟩
  | notFound _ hsearch => exact hsearch.serves.change (isForeign_error _)
  | checked _ hsearch code => exact hsearch.serves.append ⟨hlast _ _, rfl⟩
  | panicked _ hsearch message => exact hsearch.serves.append ⟨hlast _ _, rfl⟩

theorem VerifyTrace.keyringUse {certificate : Certificate} {digest : Bytes} {digestLength : Nat}
    {outcome : Outcome Refusal Int32}
    (h : VerifyTrace verifier certificate digest digestLength anchor calls outcome after) :
    KeyringUse verifier.config.keyringName verifier.owner anchor calls outcome := by
  cases h with
  | notLoaded hload => exact hload.keyringUse.change (isForeign_error _)
  | loaded hload hcheck =>
    cases hload with
    | bound hbound hanswer =>
      rw [hanswer.binding_eq] at hbound
      exact .held hbound hcheck.serves
    | loaded hunset => exact .opened hunset hcheck.serves

theorem FindTrace.keyringUse {id : KeyId} {outcome : Outcome Refusal Handle}
    (h : FindTrace verifier id anchor calls outcome) :
    KeyringUse verifier.config.keyringName verifier.owner anchor calls outcome := by
  cases h with
  | unset hunset => exact .of_unset hunset (List.forall_mem_nil _)
  | refused hbound hanswer => exact .of_refused hbound hanswer
  | searched hbound hsearch => exact .held hbound hsearch.serves

theorem ProvisionTrace.keyringUse {data : Bytes} {outcome : Outcome Refusal Unit}
    (h : ProvisionTrace verifier data anchor calls outcome) :
    KeyringUse verifier.config.keyringName verifier.owner anchor calls outcome := by
  cases h with
  | unset hunset => exact .of_unset hunset (List.forall_mem_nil _)
  | refused hbound hanswer => exact .of_refused hbound hanswer
  | empty hbound => exact .held hbound ⟨List.forall_mem_nil _, rfl⟩
  | added hbound =>
    refine .held hbound ⟨List.forall_mem_cons.mpr ⟨?_, List.forall_mem_singleton.mpr ?_⟩, rfl⟩
    · intro handle hhandle
      exact (Option.some.inj hhandle).symm
    · intro handle hhandle
      cases hhandle
  | failed hbound | panicked hbound =>
    refine .held hbound ⟨List.forall_mem_singleton.mpr ?_, rfl⟩
    intro handle hhandle
    exact (Option.some.inj hhandle).symm

theorem PeekTrace.keyringUse {outcome : Outcome Refusal (Option Handle)}
    (h : PeekTrace name owner anchor outcome) : KeyringUse name owner anchor [] outcome := by
  cases h with
  | unset hunset => exact .of_unset hunset (List.forall_mem_nil _)
  | @bound binding outcome hbound hanswer =>
    cases outcome with
    | error failure => exact .of_refused hbound hanswer
    | ok keyring =>
      rw [hanswer.binding_eq] at hbound
      exact .held hbound ⟨List.forall_mem_nil _, rfl⟩

end TrustedKeyring
