import TrustedKeyring.Proofs.Operation.Calls
import TrustedKeyring.TrustAnchor

/-!
# Traces of a trust anchor

What a load of an anchor and a look at it can come to: the calls, the outcome and the anchor that
is left (`ensures_load`, `ensures_peek`).
-/

namespace TrustedKeyring

variable {name : String} {owner : Option ServiceId} {anchor after : TrustAnchor}
  {calls : List Exchange}

/-- How a bound anchor answers a caller, by the caller's keyring name and owner. -/
inductive Admission (name : String) (owner : Option ServiceId) (binding : Binding) :
    Outcome Refusal Handle → Prop
  | otherKeyring (hkeyring : binding.keyring ≠ name) :
      Admission name owner binding (.error (.error (.otherKeyring binding.keyring name)))
  | otherService (hkeyring : binding.keyring = name) (howner : binding.owner ≠ owner) :
      Admission name owner binding (.error (.error .otherService))
  | admitted (hkeyring : binding.keyring = name) (howner : binding.owner = owner) :
      Admission name owner binding (.ok binding.handle)

/-- The ways in which a load of an anchor can go: its calls with their answers, its outcome, and
the anchor afterwards. -/
inductive LoadTrace (name : String) (owner : Option ServiceId) (anchor : TrustAnchor) :
    List Exchange → Outcome Refusal Handle → TrustAnchor → Prop
  | bound {binding : Binding} {outcome : Outcome Refusal Handle}
      (hbound : anchor.binding = some binding) (hanswer : Admission name owner binding outcome) :
      LoadTrace name owner anchor [] outcome anchor
  | ownerless (hunset : anchor.binding = none) (hshared : anchor.isProcess = true)
      (howner : owner = none) :
      LoadTrace name owner anchor [] (.error (.error ownerRequired)) anchor
  | failed (hunset : anchor.binding = none) (howned : anchor.isProcess = false ∨ owner ≠ none)
      (errno : Errno) :
      LoadTrace name owner anchor [⟨.openKeyring name, .error (.error errno)⟩]
        (.error (.error (.loadFailed errno))) anchor
  | panicked (hunset : anchor.binding = none) (howned : anchor.isProcess = false ∨ owner ≠ none)
      (message : String) :
      LoadTrace name owner anchor [⟨.openKeyring name, .error (.panic message)⟩]
        (.error (.panic message)) { anchor with isPoisoned := true }
  | loaded (hunset : anchor.binding = none) (howned : anchor.isProcess = false ∨ owner ≠ none)
      (handle : Handle) :
      LoadTrace name owner anchor [⟨.openKeyring name, .ok handle⟩] (.ok handle)
        { anchor with binding := some ⟨handle, name, owner⟩ }

inductive PeekTrace (name : String) (owner : Option ServiceId) (anchor : TrustAnchor) :
    Outcome Refusal (Option Handle) → Prop
  | unset (hunset : anchor.binding = none) : PeekTrace name owner anchor (.ok none)
  | bound {binding : Binding} {outcome : Outcome Refusal Handle}
      (hbound : anchor.binding = some binding) (hanswer : Admission name owner binding outcome) :
      PeekTrace name owner anchor (outcome.map some)

theorem admission_check (binding : Binding) (name : String) (owner : Option ServiceId) :
    Admission name owner binding ((binding.check name owner).mapError .error) := by
  unfold Binding.check
  by_cases hkeyring : binding.keyring = name
  · rw [if_neg (not_not_intro hkeyring)]
    by_cases howner : binding.owner = owner
    · rw [if_neg (not_not_intro howner)]
      exact .admitted hkeyring howner
    · rw [if_pos howner]
      exact .otherService hkeyring howner
  · rw [if_pos hkeyring]
    exact .otherKeyring hkeyring

/-- A caller that an anchor admits has the name and the owner of its binding. -/
theorem Admission.binding_eq {binding : Binding} {handle : Handle}
    (h : Admission name owner binding (.ok handle)) : binding = ⟨handle, name, owner⟩ := by
  cases h with
  | admitted hkeyring howner => rw [← hkeyring, ← howner]

/-- A caller with the name and the owner of a binding is admitted. -/
theorem not_admission_error {handle : Handle} {failure : Failure Refusal} :
    ¬Admission name owner ⟨handle, name, owner⟩ (.error failure) := by
  intro h
  cases h with
  | otherKeyring hkeyring => exact hkeyring rfl
  | otherService _ howner => exact howner rfl

theorem Admission.unique {binding : Binding} {outcome outcome' : Outcome Refusal Handle}
    (h : Admission name owner binding outcome) (h' : Admission name owner binding outcome') :
    outcome = outcome' := by
  cases h with
  | otherKeyring hkeyring =>
    cases h' with
    | otherKeyring => rfl
    | otherService heq | admitted heq => exact absurd heq hkeyring
  | otherService hkeyring howner =>
    cases h' with
    | otherKeyring hne => exact absurd hkeyring hne
    | otherService => rfl
    | admitted _ heq => exact absurd heq howner
  | admitted hkeyring howner =>
    cases h' with
    | otherKeyring hne => exact absurd hkeyring hne
    | otherService _ hne => exact absurd howner hne
    | admitted => rfl

theorem Operation.ensures_ofExcept {α : Type} (result : Except Refusal α) (anchor : TrustAnchor)
    {post : List Exchange → Outcome Refusal α → TrustAnchor → Prop}
    (h : post [] (result.mapError .error) anchor) :
    (Operation.ofExcept result).Ensures anchor post := by
  cases result <;> exact h

theorem ensures_load (name : String) (owner : Option ServiceId) (anchor : TrustAnchor) :
    (TrustAnchor.load name owner).Ensures anchor (LoadTrace name owner anchor) := by
  rcases anchor with ⟨binding, isPoisoned, isProcess⟩
  cases binding with
  | some binding =>
    exact Operation.ensures_ofExcept _ _ (.bound rfl (admission_check binding name owner))
  | none =>
    simp only [TrustAnchor.load, Operation.perform, bind, Operation.andThen, Operation.Ensures]
    by_cases hownerless : (isProcess && owner.isNone) = true
    · rw [if_pos hownerless]
      simp only [Bool.and_eq_true, Option.isNone_iff_eq_none] at hownerless
      exact .ownerless rfl hownerless.1 hownerless.2
    · rw [if_neg hownerless]
      have howned : isProcess = false ∨ owner ≠ none := by
        cases isProcess with
        | false => exact .inl rfl
        | true => exact .inr fun hnone => hownerless (by rw [hnone]; rfl)
      simp only [Operation.Ensures]
      intro answer
      rcases answer with (errno | message) | handle
      · simp only [Operation.Ensures, Operation.refuse, Bool.or_false]
        exact .failed rfl howned errno
      · simp only [Operation.Ensures, Operation.unwind, Bool.or_true]
        exact .panicked rfl howned message
      · simp only [Operation.Ensures, pure, Bool.or_false]
        exact .loaded rfl howned handle

theorem ensures_peek (name : String) (owner : Option ServiceId) (anchor : TrustAnchor) :
    (TrustAnchor.peek name owner).Ensures anchor fun calls outcome after =>
      PeekTrace name owner anchor outcome ∧ calls = [] ∧ after = anchor := by
  rcases anchor with ⟨binding, isPoisoned, isProcess⟩
  cases binding with
  | some binding =>
    refine Operation.ensures_ofExcept _ _ ⟨?_, rfl, rfl⟩
    have hanswer := admission_check binding name owner
    have hmap : ((binding.check name owner).map some).mapError Failure.error =
        ((binding.check name owner).mapError Failure.error).map some := by
      cases binding.check name owner <;> rfl
    rw [hmap]
    exact .bound rfl hanswer
  | none => exact ⟨.unset rfl, rfl, rfl⟩

/-- A load that gives a handle leaves the anchor bound to it for this caller. -/
theorem LoadTrace.binding_eq {calls : List Exchange} {handle : Handle}
    (h : LoadTrace name owner anchor calls (.ok handle) after) :
    after.binding = some ⟨handle, name, owner⟩ := by
  cases h with
  | bound hbound hanswer => rw [hbound, hanswer.binding_eq]
  | loaded => rfl

theorem LoadTrace.of_bound {binding : Binding} {outcome : Outcome Refusal Handle}
    (h : LoadTrace name owner anchor calls outcome after) (hbound : anchor.binding = some binding) :
    calls = [] ∧ Admission name owner binding outcome ∧ after = anchor := by
  cases h with
  | bound hother hanswer =>
    rw [hbound] at hother
    cases hother
    exact ⟨rfl, hanswer, rfl⟩
  | ownerless hunset | failed hunset | panicked hunset | loaded hunset =>
    rw [hunset] at hbound
    cases hbound

theorem LoadTrace.of_ownerless {outcome : Outcome Refusal Handle}
    (h : LoadTrace name owner anchor calls outcome after) (hunset : anchor.binding = none)
    (hownerless : ¬(anchor.isProcess = false ∨ owner ≠ none)) :
    calls = [] ∧ outcome = .error (.error ownerRequired) ∧ after = anchor := by
  cases h with
  | bound hbound => rw [hunset] at hbound; cases hbound
  | ownerless => exact ⟨rfl, rfl, rfl⟩
  | failed _ howned | panicked _ howned | loaded _ howned => exact absurd howned hownerless

/-- A load of an unset anchor that may be loaded is one call, whose answer decides the rest. -/
theorem LoadTrace.of_owned {outcome : Outcome Refusal Handle}
    (h : LoadTrace name owner anchor calls outcome after) (hunset : anchor.binding = none)
    (howned : anchor.isProcess = false ∨ owner ≠ none) :
    ∃ answer, calls = [⟨.openKeyring name, answer⟩] ∧
      (outcome, after) = match answer with
        | .ok handle => (.ok handle, { anchor with binding := some ⟨handle, name, owner⟩ })
        | .error (.error errno) => (.error (.error (.loadFailed errno)), anchor)
        | .error (.panic message) =>
          (.error (.panic message), { anchor with isPoisoned := true }) := by
  cases h with
  | bound hbound => rw [hunset] at hbound; cases hbound
  | ownerless _ hshared hnone =>
    rcases howned with hprivate | hsome
    · rw [hshared] at hprivate; cases hprivate
    · exact absurd hnone hsome
  | failed | panicked | loaded => exact ⟨_, rfl, rfl⟩

end TrustedKeyring
