import TrustedKeyring.Proofs.Operation.Calls

/-!
# Twin operations

Operations that do the same but for what they read of their anchors and bind them to: the one for
an owner, as with the shared anchor, and the other for nobody, as with an anchor of the caller's.
While their anchors mirror each other, such twins make the same calls and come to the same
(`Twin.run`).
-/

namespace TrustedKeyring

variable {σ α β : Type} {owner : ServiceId} {anchor mirror : TrustAnchor}

/-- Anchors that are both unset, or bound to the same keyring, the one for an owner and the other,
which is not the shared one, for nobody. -/
inductive TrustAnchor.Mirrors (owner : ServiceId) : TrustAnchor → TrustAnchor → Prop
  | unset (isPoisoned isProcess wasPoisoned : Bool) :
      Mirrors owner ⟨none, isPoisoned, isProcess⟩ ⟨none, wasPoisoned, false⟩
  | bound (handle : Handle) (name : String) (isPoisoned isProcess wasPoisoned : Bool) :
      Mirrors owner ⟨some ⟨handle, name, some owner⟩, isPoisoned, isProcess⟩
        ⟨some ⟨handle, name, none⟩, wasPoisoned, false⟩

def Interaction.isBlind : Interaction → Bool
  | readAnchor | bind _ => false
  | _ => true

structure Run.Mirrors (owner : ServiceId) (run twin : Run σ α) : Prop where
  outcome : run.outcome = twin.outcome
  calls : run.calls = twin.calls
  state : run.world.state = twin.world.state
  anchor : run.world.anchor.Mirrors owner twin.world.anchor

namespace Operation

/-- Operations that make the same interactions, except that the one binds its anchor for an owner
and the other for nobody, and that go on alike after what they read of anchors that mirror each
other. -/
inductive Twin (owner : ServiceId) : Operation α → Operation α → Prop
  | done (outcome : Outcome Refusal α) : Twin owner (.done outcome) (.done outcome)
  | readAnchor {next next' : TrustAnchor → Operation α}
      (h : ∀ anchor mirror, anchor.Mirrors owner mirror → Twin owner (next anchor) (next' mirror)) :
      Twin owner (.interact .readAnchor next) (.interact .readAnchor next')
  | bind (handle : Handle) (name : String) {next next' : Binding → Operation α}
      (h : ∀ handle name,
        Twin owner (next ⟨handle, name, some owner⟩) (next' ⟨handle, name, none⟩)) :
      Twin owner (.interact (.bind ⟨handle, name, some owner⟩) next)
        (.interact (.bind ⟨handle, name, none⟩) next')
  | same {request : Interaction} {next next' : request.Answer → Operation α}
      (hblind : request.isBlind = true) (h : ∀ answer, Twin owner (next answer) (next' answer)) :
      Twin owner (.interact request next) (.interact request next')

namespace Twin

variable {operation twin : Operation α} {next next' : α → Operation β}

theorem andThen (h : operation.Twin owner twin)
    (hnext : ∀ value, (next value).Twin owner (next' value)) :
    (operation >>= next).Twin owner (twin >>= next') := by
  change (operation.andThen next).Twin owner (twin.andThen next')
  induction h with
  | done outcome =>
    cases outcome with
    | error failure => exact .done (.error failure)
    | ok value => exact hnext value
  | readAnchor _ ih => exact .readAnchor ih
  | bind handle name _ ih => exact .bind handle name ih
  | same hblind _ ih => exact .same hblind ih

theorem of_perform {request : Interaction} (hblind : request.isBlind = true) :
    (perform request).Twin owner (perform request) :=
  .same hblind fun answer => .done (.ok answer)

theorem of_ofExcept (result : Except Refusal α) :
    (ofExcept result).Twin owner (ofExcept result) := by
  cases result with
  | error refusal => exact .done (.error (.error refusal))
  | ok value => exact .done (.ok value)

/-- What is no call adds nothing to what the rest of an operation is compared by. -/
theorem mirrors_of_not_isCall {request request' : Interaction} (hlocal : request.isCall = false)
    (hlocal' : request'.isCall = false) {others : Collaborators σ}
    {next : request.Answer → Operation α} {next' : request'.Answer → Operation α}
    {world world' : World σ}
    (h : ((next (request.answer others world).1).run others (request.answer others world).2).Mirrors
      owner ((next' (request'.answer others world').1).run others
        (request'.answer others world').2)) :
    ((interact request next).run others world).Mirrors owner
      ((interact request' next').run others world') where
  outcome := h.outcome
  calls := by
    rw [calls_interact_of_not_isCall hlocal, calls_interact_of_not_isCall hlocal', h.calls]
  state := h.state
  anchor := h.anchor

/-- A call is answered alike, whatever the anchors. -/
theorem mirrors_of_isCall {request : Interaction} (hcall : request.isCall = true)
    {others : Collaborators σ} {next next' : request.Answer → Operation α} {state : σ}
    (h : ∀ answer after, ((next answer).run others ⟨anchor, after⟩).Mirrors owner
      ((next' answer).run others ⟨mirror, after⟩)) :
    ((interact request next).run others ⟨anchor, state⟩).Mirrors owner
      ((interact request next').run others ⟨mirror, state⟩) := by
  obtain ⟨answer, after, hserve⟩ := request.exists_serve? hcall others state
  have hrest := h answer after
  have hanswer : request.answer others ⟨anchor, state⟩ = (answer, ⟨anchor, after⟩) :=
    Interaction.answer_of_serve? hserve
  have hanswer' : request.answer others ⟨mirror, state⟩ = (answer, ⟨mirror, after⟩) :=
    Interaction.answer_of_serve? hserve
  refine ⟨?_, ?_, ?_, ?_⟩
  · simp only [Operation.run, hanswer, hanswer', hrest.outcome]
  · simp only [calls_interact_of_isCall hcall, hanswer, hanswer', hrest.calls]
  · simp only [Operation.run, hanswer, hanswer', hrest.state]
  · simpa only [Operation.run, hanswer, hanswer'] using hrest.anchor

/-- Twins on anchors that mirror each other run alike, whoever the collaborators are. -/
theorem run (h : operation.Twin owner twin) (hmirrors : anchor.Mirrors owner mirror)
    (others : Collaborators σ) (state : σ) :
    (operation.run others ⟨anchor, state⟩).Mirrors owner (twin.run others ⟨mirror, state⟩) := by
  -- the twins read mirroring anchors and bind them alike; all else they do is the same
  induction h generalizing anchor mirror state with
  | done outcome => exact ⟨rfl, rfl, rfl, hmirrors⟩
  | readAnchor _ ih =>
    exact mirrors_of_not_isCall rfl rfl (ih anchor mirror hmirrors hmirrors state)
  | bind handle name _ ih =>
    apply mirrors_of_not_isCall rfl rfl
    cases hmirrors with
    | unset => exact ih handle name (.bound ..) state
    | bound bound keyring => exact ih bound keyring (.bound ..) state
  | @same request next next' hblind _ ih =>
    cases hcall : request.isCall with
    | true => exact mirrors_of_isCall hcall fun answer after => ih answer hmirrors after
    | false =>
      apply mirrors_of_not_isCall hcall hcall
      cases request with
      | lock => exact ih () hmirrors state
      | unlock poisoning =>
        cases hmirrors with
        | unset => exact ih () (.unset ..) state
        | bound => exact ih () (.bound ..) state
      | readAnchor | bind _ => cases hblind
      | _ => cases hcall

end Twin

end Operation

end TrustedKeyring
