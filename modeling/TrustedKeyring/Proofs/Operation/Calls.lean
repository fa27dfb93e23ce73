import TrustedKeyring.Operation

/-!
# Calls of collaborators

Of the interactions of an operation only some reach its collaborators; the others concern its
anchor.  `Operation.Ensures` says what an operation keeps to whatever its collaborators answer, and
`Operation.Ensures.run` carries this over to a run with any collaborators.
-/

namespace TrustedKeyring

variable {σ α β : Type}

def Interaction.isCall : Interaction → Bool
  | openKeyring _ | search _ _ _ _ | release _ | add _ _ _ | check _ _ _ _ => true
  | readAnchor | lock | bind _ | unlock _ => false

def Run.calls (run : Run σ α) : List Exchange :=
  run.exchanges.filter fun exchange => exchange.request.isCall

def Collaborators.serve? (others : Collaborators σ) (state : σ) :
    (request : Interaction) → Option (request.Answer × σ)
  | .openKeyring name => some (others.service.openKeyring name state)
  | .search keyring kind description byEnd =>
    some (others.service.search keyring kind description byEnd state)
  | .release key => some ((), others.service.release key state)
  | .add keyring kind payload => some (others.service.add keyring kind payload state)
  | .check key query certificate header =>
    some (others.primitive.check key query certificate header state)
  | .readAnchor | .lock | .bind _ | .unlock _ => none

/-- Whether the collaborators give the answers in a list of calls, each in the state that the calls
before it have left, and which state is left at the end. -/
def Collaborators.Answer (others : Collaborators σ) : σ → List Exchange → σ → Prop
  | state, [], last => last = state
  | state, ⟨request, answer⟩ :: calls, last =>
    match others.serve? state request with
    | some reply => answer = reply.1 ∧ others.Answer reply.2 calls last
    | none => False

theorem Collaborators.answer_cons {others : Collaborators σ} {state last : σ}
    {request : Interaction} {answer : request.Answer} {calls : List Exchange} :
    others.Answer state (⟨request, answer⟩ :: calls) last ↔
      ∃ next, others.serve? state request = some (answer, next) ∧
        others.Answer next calls last := by
  rw [Collaborators.Answer]
  cases others.serve? state request with
  | none => simp
  | some reply =>
    obtain ⟨reply, next⟩ := reply
    constructor
    · rintro ⟨rfl, hrest⟩
      exact ⟨next, rfl, hrest⟩
    · rintro ⟨after, hserve, hrest⟩
      cases hserve
      exact ⟨rfl, hrest⟩

/-- The same call, made in the same state, has the same answer. -/
theorem Collaborators.Answer.answer_eq {others : Collaborators σ} {state last last' : σ}
    {request : Interaction} {answer answer' : request.Answer} {calls calls' : List Exchange}
    (h : others.Answer state (⟨request, answer⟩ :: calls) last)
    (h' : others.Answer state (⟨request, answer'⟩ :: calls') last') : answer = answer' := by
  obtain ⟨next, hserve, -⟩ := answer_cons.mp h
  obtain ⟨next', hserve', -⟩ := answer_cons.mp h'
  rw [hserve] at hserve'
  exact (Prod.mk.inj (Option.some.inj hserve')).1

theorem Collaborators.Answer.last_eq {others : Collaborators σ} {state last last' : σ}
    {calls : List Exchange} (h : others.Answer state calls last)
    (h' : others.Answer state calls last') : last = last' := by
  induction calls generalizing state with
  | nil => exact Eq.trans h (Eq.symm h')
  | cons call calls ih =>
    obtain ⟨next, hserve, hrest⟩ := answer_cons.mp h
    obtain ⟨next', hserve', hrest'⟩ := answer_cons.mp h'
    rw [hserve] at hserve'
    cases hserve'
    exact ih hrest hrest'

theorem Collaborators.answer_append {others : Collaborators σ} {state last : σ}
    {first more : List Exchange} :
    others.Answer state (first ++ more) last ↔
      ∃ between, others.Answer state first between ∧ others.Answer between more last := by
  induction first generalizing state with
  | nil =>
    constructor
    · exact fun h => ⟨state, rfl, h⟩
    · rintro ⟨between, rfl, h⟩
      exact h
  | cons call first ih =>
    obtain ⟨request, answer⟩ := call
    rw [List.cons_append, answer_cons]
    simp only [answer_cons, ih]
    constructor
    · rintro ⟨next, hserve, between, hfirst, hmore⟩
      exact ⟨between, ⟨next, hserve, hfirst⟩, hmore⟩
    · rintro ⟨between, ⟨next, hserve, hfirst⟩, hmore⟩
      exact ⟨next, hserve, between, hfirst, hmore⟩

/-- A call is answered by the collaborators alone, and leaves the anchor as it is. -/
theorem Interaction.answer_of_serve? {request : Interaction} {others : Collaborators σ}
    {world : World σ} {answer : request.Answer} {next : σ}
    (h : others.serve? world.state request = some (answer, next)) :
    request.answer others world = (answer, ⟨world.anchor, next⟩) := by
  cases request with
  | readAnchor | lock | bind _ | unlock _ => cases h
  | release key =>
    cases h
    rfl
  | _ => simp only [Interaction.answer, Option.some.inj h]

theorem Interaction.exists_serve? {request : Interaction} (hcall : request.isCall = true)
    (others : Collaborators σ) (state : σ) :
    ∃ answer next, others.serve? state request = some (answer, next) := by
  cases request with
  | readAnchor | lock | bind _ | unlock _ => cases hcall
  | _ => exact ⟨_, _, rfl⟩

/-- What is no call leaves the state of the collaborators as it is. -/
theorem Interaction.state_of_not_isCall {request : Interaction} (hlocal : request.isCall = false)
    (others : Collaborators σ) (world : World σ) :
    (request.answer others world).2.state = world.state := by
  cases request with
  | bind binding => simp only [answer]; split <;> rfl
  | readAnchor | lock | unlock _ => rfl
  | _ => cases hlocal

theorem Operation.calls_interact_of_isCall {request : Interaction} (hcall : request.isCall = true)
    (others : Collaborators σ) (next : request.Answer → Operation α) (world : World σ) :
    ((interact request next).run others world).calls =
      ⟨request, (request.answer others world).1⟩ ::
        ((next (request.answer others world).1).run others
          (request.answer others world).2).calls :=
  List.filter_cons_of_pos hcall

theorem Operation.calls_interact_of_not_isCall {request : Interaction}
    (hlocal : request.isCall = false) (others : Collaborators σ)
    (next : request.Answer → Operation α) (world : World σ) :
    ((interact request next).run others world).calls =
      ((next (request.answer others world).1).run others
        (request.answer others world).2).calls :=
  List.filter_cons_of_neg (by simp [hlocal])

/-- The answers in a run are those that its collaborators give. -/
theorem Operation.answer_run (others : Collaborators σ) (operation : Operation α)
    (world : World σ) :
    others.Answer world.state (operation.run others world).calls
      (operation.run others world).world.state := by
  induction operation generalizing world with
  | done outcome => exact rfl
  | interact request next ih =>
    cases hcall : request.isCall with
    | true =>
      obtain ⟨answer, after, hserve⟩ := request.exists_serve? hcall others world.state
      rw [calls_interact_of_isCall hcall, Collaborators.answer_cons]
      simp only [Operation.run, Interaction.answer_of_serve? hserve]
      exact ⟨after, hserve, ih answer ⟨world.anchor, after⟩⟩
    | false =>
      rw [calls_interact_of_not_isCall hcall, ← request.state_of_not_isCall hcall others world]
      exact ih _ _

namespace Operation

/-- Whatever the collaborators answer, an operation that starts with the anchor ends with calls,
an outcome and an anchor that satisfy the postcondition. -/
def Ensures : Operation α → TrustAnchor →
    (List Exchange → Outcome Refusal α → TrustAnchor → Prop) → Prop
  | done outcome, anchor, post => post [] outcome anchor
  | interact .readAnchor next, anchor, post => (next anchor).Ensures anchor post
  | interact .lock next, anchor, post => (next ()).Ensures anchor post
  | interact (.bind binding) next, anchor, post =>
    match anchor.binding with
    | some bound => (next bound).Ensures anchor post
    | none => (next binding).Ensures { anchor with binding := some binding } post
  | interact (.unlock poisoning) next, anchor, post =>
    (next ()).Ensures { anchor with isPoisoned := anchor.isPoisoned || poisoning } post
  | interact (.openKeyring name) next, anchor, post =>
    ∀ answer, (next answer).Ensures anchor fun calls => post (⟨.openKeyring name, answer⟩ :: calls)
  | interact (.search keyring kind description byEnd) next, anchor, post =>
    ∀ answer, (next answer).Ensures anchor fun calls =>
      post (⟨.search keyring kind description byEnd, answer⟩ :: calls)
  | interact (.release key) next, anchor, post =>
    (next ()).Ensures anchor fun calls => post (⟨.release key, ()⟩ :: calls)
  | interact (.add keyring kind payload) next, anchor, post =>
    ∀ answer, (next answer).Ensures anchor fun calls =>
      post (⟨.add keyring kind payload, answer⟩ :: calls)
  | interact (.check key query certificate header) next, anchor, post =>
    ∀ answer, (next answer).Ensures anchor fun calls =>
      post (⟨.check key query certificate header, answer⟩ :: calls)

namespace Ensures

variable {operation : Operation α} {anchor : TrustAnchor}
  {post weaker : List Exchange → Outcome Refusal α → TrustAnchor → Prop}

theorem mono (h : operation.Ensures anchor post)
    (himp : ∀ calls outcome after, post calls outcome after → weaker calls outcome after) :
    operation.Ensures anchor weaker := by
  induction operation generalizing anchor post weaker with
  | done outcome => exact himp _ _ _ h
  | interact request next ih =>
    cases request with
    | readAnchor | lock | unlock _ => exact ih _ h himp
    | bind binding =>
      simp only [Ensures] at h ⊢
      split at h <;> exact ih _ h himp
    | release key => exact ih _ h fun calls => himp _
    | _ => exact fun answer => ih _ (h answer) fun calls => himp _

/-- What the second part of an operation keeps to is asked for of the anchor, and after the calls,
that the first part leaves; a failure of the first part is one of the whole. -/
theorem bind {next : α → Operation β}
    {last : List Exchange → Outcome Refusal β → TrustAnchor → Prop}
    (h : operation.Ensures anchor fun calls outcome after =>
      match outcome with
      | .ok value => (next value).Ensures after fun more => last (calls ++ more)
      | .error failure => last calls (.error failure) after) :
    (operation >>= next).Ensures anchor last := by
  change (operation.andThen next).Ensures anchor last
  induction operation generalizing anchor last with
  | done outcome => cases outcome <;> exact h
  | interact request answered ih =>
    cases request with
    | readAnchor | lock | unlock _ => exact ih _ h
    | bind binding =>
      simp only [Ensures, andThen] at h ⊢
      split at h <;> exact ih _ h
    | release key => exact ih _ h
    | _ => exact fun answer => ih _ (h answer)

/-- A run keeps to what its operation ensures, whoever the collaborators are. -/
theorem run (h : operation.Ensures anchor post) (others : Collaborators σ) (state : σ) :
    post (operation.run others ⟨anchor, state⟩).calls
      (operation.run others ⟨anchor, state⟩).outcome
      (operation.run others ⟨anchor, state⟩).world.anchor := by
  induction operation generalizing anchor state post with
  | done outcome => exact h
  | interact request next ih =>
    cases request with
    | readAnchor | lock | unlock _ => exact ih _ h _
    | bind binding =>
      rcases anchor with ⟨bound, isPoisoned, isProcess⟩
      cases bound <;> exact ih _ h _
    | release key => exact ih () h _
    | _ => exact ih _ (h _) _

end Ensures

end Operation

end TrustedKeyring
