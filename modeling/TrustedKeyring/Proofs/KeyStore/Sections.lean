import TrustedKeyring.Proofs.KeyStore.References
import TrustedKeyring.TrustStore

/-!
# Sections of a key store

The calls of a verifier reach a key store once, by a search or an addition.  Before, a call only
reads its anchor; afterwards it only checks a signature with the key that it has been given and
gives the reference back, and what it comes to is settled.
-/

namespace TrustedKeyring

variable {α : Type} {crypto : Crypto} {anchor : TrustAnchor} {binding : Binding}
  {store next : KeyStore} {key : Handle} {turns : Nat} {operation : Operation α}

/-- Whether an interaction enters a section of a key store in which keyrings or keys are found or
made.  A payload without a key is refused outside. -/
def Interaction.isSection (crypto : Crypto) : Interaction → Bool
  | openKeyring _ | search _ _ _ _ => true
  | add _ kind payload => kind == .asymmetric && (KeyStore.material? crypto payload).isSome
  | _ => false

def Interaction.keepsSlot : Interaction → Bool
  | lock | bind _ | unlock _ => false
  | readAnchor | openKeyring _ | search _ _ _ _ | release _ | add _ _ _ | check _ _ _ _ => true

namespace Operation

def alone (crypto : Crypto) (anchor : TrustAnchor) (operation : Operation α) (store : KeyStore) :
    Outcome Refusal α :=
  (operation.run (TrustStore.collaborators crypto) ⟨anchor, store⟩).outcome

def leaves (crypto : Crypto) (anchor : TrustAnchor) (operation : Operation α) (store : KeyStore) :
    KeyStore :=
  (operation.run (TrustStore.collaborators crypto) ⟨anchor, store⟩).world.state

def key? : Operation α → Option Handle
  | interact (.check key _ _ _) _ => some key
  | interact (.release key) _ => some key
  | _ => none

def owes (operation : Operation α) (key : Handle) : Nat :=
  if operation.key? = some key then 1 else 0

/-- An operation with a reference to a key, which ends within a number of turns: it checks
signatures with the key at most, and gives the reference back at last. -/
inductive Returns (key : Handle) : Nat → Operation α → Prop
  | checks {turns : Nat} {query : SignatureQuery} {certificate : Certificate} {header : Header}
      {next : Outcome Empty Int32 → Operation α} (h : ∀ answer, Returns key turns (next answer)) :
      Returns key (turns + 1) (.interact (.check key query certificate header) next)
  | releases {turns : Nat} {next : Unit → Operation α} {outcome : Outcome Refusal α}
      (h : next () = .done outcome) : Returns key (turns + 1) (.interact (.release key) next)

/-- An operation that has not been to the key store: it reads its anchor at most, goes there once,
and ends within a number of turns. -/
inductive Sectioned (anchor : TrustAnchor) : Nat → Operation α → Prop
  | ended (turns : Nat) (outcome : Outcome Refusal α) : Sectioned anchor turns (.done outcome)
  | reads {turns : Nat} {next : TrustAnchor → Operation α}
      (h : Sectioned anchor turns (next anchor)) :
      Sectioned anchor (turns + 1) (.interact .readAnchor next)
  | searches {turns : Nat} {keyring : Handle} {kind : KeyKind} {description : String}
      {byEnd : Bool} {next : Outcome Errno Handle → Operation α}
      (hfailed : ∀ failure, ∃ outcome, next (.error failure) = .done outcome)
      (hfound : ∀ key, Returns key turns (next (.ok key))) :
      Sectioned anchor (turns + 1) (.interact (.search keyring kind description byEnd) next)
  | adds {turns : Nat} {keyring : Handle} {kind : KeyKind} {payload : Bytes}
      {next : Outcome Errno Handle → Operation α}
      (hfailed : ∀ failure, ∃ outcome, next (.error failure) = .done outcome)
      (hadded : ∀ key, Returns key turns (next (.ok key))) :
      Sectioned anchor (turns + 1) (.interact (.add keyring kind payload) next)

inductive Settled (store : KeyStore) : Nat → Operation α → Prop
  | ended (turns : Nat) (outcome : Outcome Refusal α) : Settled store turns (.done outcome)
  | returns {key : Handle} {turns : Nat} {operation : Operation α}
      (hreturns : Returns key turns operation) (hkey : ∃ entry, store.IsKey key entry) :
      Settled store turns operation

/-! ## Calls of a verifier -/

theorem sectioned_ofExcept_bind {β : Type} {result : Except Refusal β} {next : β → Operation α}
    (h : ∀ value, result = .ok value → Sectioned anchor turns (next value)) :
    Sectioned anchor turns (ofExcept result >>= next) := by
  cases result with
  | error refusal => exact .ended turns _
  | ok value => exact h value rfl

theorem sectioned_load_bind (hbound : anchor.binding = some binding) (name : String)
    (owner : Option ServiceId) {next : Handle → Operation α}
    (h : ∀ handle, Sectioned anchor turns (next handle)) :
    Sectioned anchor (turns + 1) (TrustAnchor.load name owner >>= next) := by
  refine .reads ?_
  simp only [andThen, hbound]
  exact sectioned_ofExcept_bind fun handle _ => h handle

theorem sectioned_keyring_bind (hbound : anchor.binding = some binding) (verifier : Verifier)
    {next : Option Handle → Operation α}
    (h : ∀ handle, Sectioned anchor turns (next (some handle))) :
    Sectioned anchor (turns + 1) (verifier.keyring >>= next) := by
  refine .reads ?_
  simp only [andThen, hbound]
  refine sectioned_ofExcept_bind fun handle hhandle => ?_
  cases hcheck : binding.check verifier.config.keyringName verifier.owner with
  | error refusal => rw [hcheck] at hhandle; cases hhandle
  | ok given => rw [hcheck] at hhandle; cases hhandle; exact h given

theorem sectioned_verify (hbound : anchor.binding = some binding) (verifier : Verifier)
    (certificate : Certificate) (digest : Bytes) (digestLength : Nat) :
    Sectioned anchor 5 (verifier.verify certificate digest digestLength) := by
  refine sectioned_load_bind hbound _ _ fun _ => sectioned_ofExcept_bind fun _ _ => ?_
  change Sectioned anchor 4 ((verifier.keyring.andThen _).andThen _)
  rw [andThen_assoc]
  refine sectioned_keyring_bind hbound verifier fun keyring => .searches ?_ ?_
  · intro failure
    rcases failure with errno | message <;> exact ⟨_, rfl⟩
  · intro key
    refine .checks fun answer => ?_
    rcases answer with (impossible | message) | code
    · cases impossible
    · exact .releases rfl
    · exact .releases rfl

theorem sectioned_provision (hbound : anchor.binding = some binding) (verifier : Verifier)
    (data : Bytes) : Sectioned anchor 3 (verifier.provision data) := by
  refine sectioned_keyring_bind hbound verifier fun keyring => ?_
  dsimp only
  split
  · exact .ended 2 _
  · refine .adds ?_ fun key => .releases rfl
    intro failure
    rcases failure with errno | message <;> exact ⟨_, rfl⟩

/-- The value of a call can be passed on in another form. -/
theorem Returns.map {β : Type} (f : α → β) (h : Returns key turns operation) :
    Returns key turns (f <$> operation) := by
  induction h with
  | checks _ ih => exact .checks ih
  | @releases turns next outcome h =>
    have hdone : f <$> next () = .done (outcome.map f) := by
      rw [h]
      cases outcome <;> rfl
    exact .releases hdone

theorem Sectioned.map {β : Type} (f : α → β) (h : Sectioned anchor turns operation) :
    Sectioned anchor turns (f <$> operation) := by
  have hfailed : ∀ {next : Outcome Errno Handle → Operation α},
      (∀ failure, ∃ outcome, next (.error failure) = .done outcome) →
        ∀ failure, ∃ outcome, f <$> next (.error failure) = .done outcome := by
    intro next hdone failure
    rcases hdone failure with ⟨outcome, heq⟩
    rw [heq]
    cases outcome <;> exact ⟨_, rfl⟩
  induction h with
  | ended turns outcome => cases outcome <;> exact .ended turns _
  | reads _ ih => exact .reads ih
  | searches hdone hfound => exact .searches (hfailed hdone) fun key => (hfound key).map f
  | adds hdone hadded => exact .adds (hfailed hdone) fun key => (hadded key).map f

/-! ## Single interactions -/

theorem Returns.key?_eq (h : Returns key turns operation) : operation.key? = some key := by
  cases h <;> rfl

theorem Returns.owes_eq (h : Returns key turns operation) (other : Handle) :
    operation.owes other = if other = key then 1 else 0 := by
  rw [owes, h.key?_eq]
  simp only [Option.some.injEq, eq_comm]

theorem Sectioned.key?_eq (h : Sectioned anchor turns operation) : operation.key? = none := by
  cases h <;> rfl

theorem Sectioned.owes_eq (h : Sectioned anchor turns operation) (key : Handle) :
    operation.owes key = 0 := by
  rw [owes, h.key?_eq]
  exact if_neg nofun

theorem Settled.extends (h : Settled store turns operation) (hext : store.Extends next) :
    Settled next turns operation := by
  cases h with
  | ended => exact .ended turns _
  | returns hreturns hkey =>
    rcases hkey with ⟨entry, hkey⟩
    exact .returns hreturns ⟨entry, hext.isKey hkey⟩

/-- What a check comes to depends on the store by the key alone. -/
theorem check_eq_of_isKey {entry : Bytes × PublicKey} (h : store.IsKey key entry)
    (h' : next.IsKey key entry) (query : SignatureQuery) (certificate : Certificate)
    (header : Header) : store.check crypto key query certificate header =
      next.check crypto key query certificate header := by
  unfold KeyStore.check
  rw [h.2, h'.2]

theorem Returns.alone_eq (h : Returns key turns operation) {entry : Bytes × PublicKey}
    (hkey : store.IsKey key entry) (hkey' : next.IsKey key entry) (crypto : Crypto)
    (anchor : TrustAnchor) : operation.alone crypto anchor next =
      operation.alone crypto anchor store := by
  induction h with
  | @checks turns query certificate header rest _ ih =>
    change (rest (.ok (next.check crypto key query certificate header))).alone crypto anchor
      next = (rest (.ok (store.check crypto key query certificate header))).alone crypto anchor
        store
    rw [check_eq_of_isKey hkey hkey']
    exact ih _
  | @releases turns rest outcome h =>
    change (rest ()).alone crypto anchor _ = (rest ()).alone crypto anchor _
    rw [h]
    rfl

/-- What an operation comes to is settled: nothing that happens to the store changes it. -/
theorem Settled.alone_eq (h : Settled store turns operation) (hext : store.Extends next)
    (crypto : Crypto) (anchor : TrustAnchor) :
    operation.alone crypto anchor next = operation.alone crypto anchor store := by
  cases h with
  | ended => rfl
  | returns hreturns hkey =>
    rcases hkey with ⟨entry, hkey⟩
    exact hreturns.alone_eq hkey (hext.isKey hkey) crypto anchor

/-- What an operation comes to is what the rest of it comes to after its first interaction. -/
theorem alone_interact {request : Interaction} {rest : request.Answer → Operation α}
    (hkeeps : request.keepsSlot = true) (crypto : Crypto) (anchor : TrustAnchor)
    (store : KeyStore) :
    let result := request.answer (TrustStore.collaborators crypto) ⟨anchor, store⟩
    (interact request rest).alone crypto anchor store =
        (rest result.1).alone crypto anchor result.2.state ∧
      (interact request rest).leaves crypto anchor store =
        (rest result.1).leaves crypto anchor result.2.state := by
  intro result
  have hanchor : result.2.anchor = anchor := by
    cases request with
    | lock | bind _ | unlock _ => cases hkeeps
    | _ => rfl
  change ((rest result.1).run _ result.2).outcome = ((rest result.1).run _ ⟨anchor, _⟩).outcome ∧
    ((rest result.1).run _ result.2).world.state = ((rest result.1).run _ ⟨anchor, _⟩).world.state
  rw [← hanchor]
  exact ⟨rfl, rfl⟩

/-- The key that an operation has is all that it asks about from then on. -/
theorem Settled.sameContents_leaves (h : Settled store turns operation) (crypto : Crypto)
    (anchor : TrustAnchor) : store.SameContents (operation.leaves crypto anchor store) := by
  cases h with
  | ended => exact KeyStore.sameContents_refl store
  | @returns key turns _ hreturns _ =>
    induction hreturns with
    | @checks turns query certificate header rest _ ih => exact ih _
    | @releases turns rest outcome h =>
      change store.SameContents ((rest ()).leaves crypto anchor (store.release key))
      rw [h]
      exact KeyStore.sameContents_release store key

inductive Gives (store : KeyStore) : Outcome Errno Handle → KeyStore → Prop
  | nothing (failure : Failure Errno) : Gives store (.error failure) store
  | key {key : Handle} {next : KeyStore} (hkey : ∃ entry, next.IsKey key entry)
      (hcount : ∀ other, next.referenceCount other =
        store.referenceCount other + if other = key then 1 else 0) : Gives store (.ok key) next

theorem gives_search (store : KeyStore) (keyring : Handle) (kind : KeyKind) (description : String)
    (byEnd : Bool) : Gives store
      (KeyStore.reply (store.search keyring kind description byEnd).1)
      (store.search keyring kind description byEnd).2 := by
  rcases store.search_eq keyring kind description byEnd with
    ⟨errno, heq⟩ | ⟨key, entry, hkey, heq⟩
  · rw [heq]
    exact .nothing (.error errno)
  · rw [heq]
    exact .key ⟨entry, (KeyStore.extends_takeReference store key).isKey hkey⟩
      (KeyStore.referenceCount_takeReference hkey)

theorem gives_add (crypto : Crypto) (store : KeyStore) (keyring : Handle) (kind : KeyKind)
    (payload : Bytes) : Gives store (KeyStore.reply (store.add crypto keyring kind payload).1)
      (store.add crypto keyring kind payload).2 := by
  rcases store.add_eq crypto keyring kind payload with
    ⟨errno, heq⟩ | ⟨members, identifier, publicKey, hmembers, -, -, heq⟩
  · rw [heq]
    exact .nothing (.error errno)
  · rw [heq]
    exact .key ⟨_, KeyStore.isKey_link hmembers identifier publicKey⟩
      (KeyStore.referenceCount_link hmembers identifier publicKey)

/-- A payload without a key is refused by every store alike. -/
theorem add_of_not_isSection {keyring : Handle} {kind : KeyKind} {payload : Bytes}
    (h : (Interaction.add keyring kind payload).isSection crypto = false) :
    ∃ errno, ∀ store : KeyStore, store.add crypto keyring kind payload = (.error errno, store) := by
  by_cases hkind : kind = .asymmetric
  · have hmaterial : KeyStore.material? crypto payload = none := by
      rw [Interaction.isSection, hkind] at h
      change (KeyStore.material? crypto payload).isSome = false at h
      exact Option.not_isSome_iff_eq_none.mp (by rw [h]; decide)
    refine ⟨Errno.EBADMSG, fun store => ?_⟩
    simp only [KeyStore.add, hkind, hmaterial, ne_eq, not_true_eq_false, if_false]
  · exact ⟨Errno.EINVAL, fun store => by rw [KeyStore.add, if_pos hkind]⟩

/-- What an operation does with the answer of its section settles it, and it owes the reference that
comes with a key. -/
theorem Gives.settled {answer : Outcome Errno Handle} {rest : Outcome Errno Handle → Operation α}
    (h : Gives store answer next)
    (hfailed : ∀ failure, ∃ outcome, rest (.error failure) = .done outcome)
    (hgiven : ∀ key, Returns key turns (rest (.ok key))) :
    Settled next turns (rest answer) ∧
      ∀ key, next.referenceCount key = store.referenceCount key + (rest answer).owes key := by
  cases h with
  | nothing failure =>
    rcases hfailed failure with ⟨outcome, hdone⟩
    rw [hdone]
    exact ⟨.ended turns outcome, fun _ => rfl⟩
  | @key given _ hkey hcount =>
    refine ⟨.returns (hgiven given) hkey, fun key => ?_⟩
    rw [(hgiven given).owes_eq, hcount]

/-- The first interaction of an operation that has not been to the key store: it goes there and is
settled, or it changes nothing and leaves open what the operation comes to.  The references that the
store counts from then on are those that the operation owes. -/
theorem Sectioned.interaction {request : Interaction} {rest : request.Answer → Operation α}
    (h : Sectioned anchor turns (.interact request rest)) (crypto : Crypto) (store : KeyStore) :
    let result := request.answer (TrustStore.collaborators crypto) ⟨anchor, store⟩
    request.keepsSlot = true ∧
    (∀ key, result.2.state.referenceCount key =
      store.referenceCount key + (rest result.1).owes key) ∧
    ∃ fewer, turns = fewer + 1 ∧
      if request.isSection crypto then Settled result.2.state fewer (rest result.1)
      else
        result.2.state = store ∧ Sectioned anchor fewer (rest result.1) ∧
          ∀ other, (interact request rest).alone crypto anchor other =
              (rest result.1).alone crypto anchor other ∧
            (interact request rest).leaves crypto anchor other =
              (rest result.1).leaves crypto anchor other := by
  intro result
  cases h with
  | @reads fewer rest h =>
    refine ⟨rfl, fun key => ?_, fewer, rfl, rfl, h, fun _ => ⟨rfl, rfl⟩⟩
    change _ = _ + (rest anchor).owes key
    rw [h.owes_eq]
    rfl
  | @searches fewer keyring kind description byEnd rest hfailed hfound =>
    have hgives := (gives_search store keyring kind description byEnd).settled hfailed hfound
    exact ⟨rfl, hgives.2, fewer, rfl, hgives.1⟩
  | @adds fewer keyring kind payload rest hfailed hadded =>
    have hgives := (gives_add crypto store keyring kind payload).settled hfailed hadded
    refine ⟨rfl, hgives.2, fewer, rfl, ?_⟩
    cases hsection : (Interaction.add keyring kind payload).isSection crypto with
    | true => exact hgives.1
    | false =>
      rcases add_of_not_isSection hsection with ⟨errno, hrefused⟩
      rcases hfailed (.error errno) with ⟨outcome, hdone⟩
      have hrest : ∀ other : KeyStore,
          rest (KeyStore.reply (other.add crypto keyring kind payload).1) = .done outcome ∧
            (other.add crypto keyring kind payload).2 = other := by
        intro other
        rw [hrefused]
        exact ⟨hdone, rfl⟩
      have hended : rest result.1 = .done outcome := (hrest store).1
      refine ⟨(hrest store).2, ?_, ?_⟩
      · rw [hended]
        exact .ended fewer outcome
      · intro other
        have hkeeps : (Interaction.add keyring kind payload).keepsSlot = true := rfl
        rcases @alone_interact α _ rest hkeeps crypto anchor other with ⟨halone, hleaves⟩
        rcases hrest other with ⟨hdone, hsame⟩
        rw [halone, hleaves, hended]
        change (rest (KeyStore.reply (other.add crypto keyring kind payload).1)).alone _ _
            (other.add crypto keyring kind payload).2 = _ ∧
          (rest (KeyStore.reply (other.add crypto keyring kind payload).1)).leaves _ _
            (other.add crypto keyring kind payload).2 = _
        rw [hdone, hsame]
        exact ⟨rfl, rfl⟩

/-- An interaction of an operation that is done with the key store leaves it so, and what it has
given back it owes no more. -/
theorem Settled.interaction {request : Interaction} {rest : request.Answer → Operation α}
    (h : Settled store turns (.interact request rest)) (crypto : Crypto) (anchor : TrustAnchor)
    (hcounted : ∀ key, (interact request rest).owes key ≤ store.referenceCount key) :
    let result := request.answer (TrustStore.collaborators crypto) ⟨anchor, store⟩
    request.keepsSlot = true ∧
    (∀ key, result.2.state.referenceCount key + (interact request rest).owes key =
      store.referenceCount key + (rest result.1).owes key) ∧
    ∃ fewer, turns = fewer + 1 ∧ request.isSection crypto = false ∧
      Settled result.2.state fewer (rest result.1) := by
  intro result
  cases h with
  | @returns key _ _ hreturns hkey =>
    have howes := hreturns.owes_eq
    cases hreturns with
    | @checks fewer query certificate header rest hrest =>
      refine ⟨rfl, fun other => ?_, fewer, rfl, rfl, .returns (hrest _) hkey⟩
      rw [(hrest _).owes_eq, howes]
      rfl
    | @releases fewer rest outcome hrest =>
      have hended : rest result.1 = .done outcome := hrest
      refine ⟨rfl, fun other => ?_, fewer, rfl, rfl, ?_⟩
      · have howed := hcounted other
        rw [howes] at howed ⊢
        have hleft : (rest result.1).owes other = 0 := by rw [hended]; rfl
        change (store.release key).referenceCount other + _ = _
        rw [KeyStore.referenceCount_release, hleft]
        omega
      · rw [hended]
        exact .ended fewer outcome

end Operation

end TrustedKeyring
