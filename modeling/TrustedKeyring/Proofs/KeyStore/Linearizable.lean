import TrustedKeyring.Deployment
import TrustedKeyring.Proofs.KeyStore.Concurrent

/-!
# Calls of verifiers at the same time

Verifications and additions of certificates over one key store, whose anchors are loaded.  However
the calls take turns, they answer as if each took place at once, in its section of the store
(`KeyStore.linearizable`).
-/

namespace TrustedKeyring

inductive StoreRequest where
  | verify (certificate : Certificate) (digest : Bytes) (digestLength : Nat)
  | addCertificate (data : Bytes)
deriving DecidableEq, Repr

structure StoreCall where
  anchor : Nat
  verifier : Verifier
  request : StoreRequest
deriving DecidableEq, Repr

namespace StoreCall

def operation (call : StoreCall) : Operation Reply :=
  match call.request with
  | .verify certificate digest digestLength =>
    Reply.code <$> call.verifier.verify certificate digest digestLength
  | .addCertificate data => (fun _ => Reply.done) <$> call.verifier.provision data

/-- Whether the call is refused outside of the store: for its algorithm, or for a certificate
without a key. -/
def Refused (crypto : Crypto) (call : StoreCall) : Prop :=
  match call.request with
  | .verify certificate _ _ => HashAlgorithm.isKnown certificate.header.hashNumber = false
  | .addCertificate data => data = [] ∨ KeyStore.material? crypto data = none

/-- Whether the call may insert a key with this identifier into the keyring. -/
def Inserts (crypto : Crypto) (anchor : TrustAnchor) (keyring : Handle) (identifier : Bytes)
    (call : StoreCall) : Prop :=
  ∃ binding data publicKey, anchor.binding = some binding ∧
    binding.check call.verifier.config.keyringName call.verifier.owner = .ok keyring ∧
    call.request = .addCertificate data ∧ data ≠ [] ∧
    KeyStore.material? crypto data = some (identifier, publicKey)

end StoreCall

namespace KeyStore

variable {crypto : Crypto} {store next : KeyStore} {keyring handle : Handle} {identifier : Bytes}
  {members : List Handle} {anchor : TrustAnchor} {call : StoreCall}

def HasIdentifier (store : KeyStore) (keyring : Handle) (identifier : Bytes) : Prop :=
  ∃ members, store.members keyring = .ok members ∧
    members.any (fun member => store.identifier? member == some identifier) = true

theorem Extends.identifier?_eq (h : store.Extends next)
    (hidentifier : store.identifier? handle = some identifier) :
    next.identifier? handle = some identifier := by
  unfold identifier? at hidentifier
  split at hidentifier
  next found publicKey references hget =>
    cases hidentifier
    rcases h handle _ hget with ⟨grown, hgrown, hgrows⟩
    cases hgrows
    rw [identifier?, hgrown]
  next => cases hidentifier

theorem Extends.hasIdentifier (h : store.Extends next)
    (hhas : store.HasIdentifier keyring identifier) : next.HasIdentifier keyring identifier := by
  rcases hhas with ⟨members, hmembers, hany⟩
  rcases h.members_eq hmembers with ⟨more, hmore⟩
  rcases List.any_eq_true.mp hany with ⟨member, hmem, hmember⟩
  refine ⟨members ++ more, hmore, List.any_eq_true.mpr ⟨member, List.mem_append_left _ hmem, ?_⟩⟩
  exact beq_iff_eq.mpr (h.identifier?_eq (beq_iff_eq.mp hmember))

theorem SameContents.hasIdentifier (h : SameContents store next)
    (hhas : next.HasIdentifier keyring identifier) : store.HasIdentifier keyring identifier := by
  rcases hhas with ⟨members, hmembers, hany⟩
  refine ⟨members, (h keyring).1.symm.trans hmembers, ?_⟩
  rw [← hany]
  exact List.any_congr rfl fun member => by rw [(h member).2.1]

theorem hasIdentifier_link (hmembers : store.members keyring = .ok members) (identifier : Bytes)
    (publicKey : PublicKey) :
    (store.link keyring identifier publicKey).2.HasIdentifier keyring identifier := by
  rcases get?_link hmembers identifier publicKey keyring with ⟨name, -, hget⟩
  rw [if_pos rfl] at hget
  refine ⟨members ++ [(store.link keyring identifier publicKey).1], by rw [KeyStore.members, hget],
    List.any_eq_true.mpr ⟨_, List.mem_append_right _ (List.mem_singleton_self _), ?_⟩⟩
  exact beq_iff_eq.mpr (isKey_link hmembers identifier publicKey).1

/-- An insertion into a keyring that has the identifier is refused, and otherwise it has it then. -/
theorem alone_of_inserts (h : call.Inserts crypto anchor keyring identifier)
    (hmembers : store.members keyring = .ok members) :
    (store.HasIdentifier keyring identifier ∧ call.operation.alone crypto anchor store =
        .error (.error (.provisionFailed Errno.EEXIST))) ∨
      (¬store.HasIdentifier keyring identifier ∧
        call.operation.alone crypto anchor store = .ok .done ∧
        (call.operation.leaves crypto anchor store).HasIdentifier keyring identifier) := by
  rcases h with ⟨binding, data, publicKey, hbinding, hcheck, hrequest, hdata, hmaterial⟩
  have hempty : data.isEmpty = false := List.isEmpty_eq_false_iff.mpr hdata
  -- on a bound anchor, the operation is one addition and the release of what it has given
  have hrun : ∀ answer next, store.add crypto keyring .asymmetric data = (answer, next) →
      call.operation.alone crypto anchor store = (match answer with
        | .ok _ => .ok .done
        | .error errno => .error (.error (.provisionFailed errno))) ∧
      call.operation.leaves crypto anchor store = (match answer with
        | .ok key => next.release key
        | .error _ => next) := by
    intro answer next hadd
    simp only [Operation.alone, Operation.leaves, StoreCall.operation, hrequest, Functor.map,
      Verifier.provision, Verifier.keyring, TrustAnchor.peek, bind, Operation.perform,
      Operation.andThen, Operation.run, Interaction.answer, hbinding, hcheck, Except.map,
      Operation.ofExcept, hempty, Bool.false_eq_true, if_false, TrustStore.collaborators, service,
      hadd]
    cases answer <;> exact ⟨rfl, rfl⟩
  cases hany : members.any fun member => store.identifier? member == some identifier with
  | true =>
    have hadd : store.add crypto keyring .asymmetric data = (.error Errno.EEXIST, store) := by
      simp only [add, hmaterial, hmembers, hany, ne_eq, not_true_eq_false, if_false, if_true]
    exact .inl ⟨⟨members, hmembers, hany⟩, (hrun _ _ hadd).1⟩
  | false =>
    have hadd : store.add crypto keyring .asymmetric data =
        (.ok (store.link keyring identifier publicKey).1,
          (store.link keyring identifier publicKey).2) := by
      simp only [add, hmaterial, hmembers, hany, ne_eq, not_true_eq_false, if_false,
        Bool.false_eq_true]
    rcases hrun _ _ hadd with ⟨halone, hleaves⟩
    refine .inr ⟨?_, halone, ?_⟩
    -- the store before the addition has no such member
    · rintro ⟨others, hothers, hhas⟩
      rw [hmembers] at hothers
      cases hothers
      rw [hany] at hhas
      cases hhas
    · rw [hleaves]
      exact (extends_release _ _).hasIdentifier (hasIdentifier_link hmembers identifier publicKey)

theorem alone_of_refused {binding : Binding} (hbound : anchor.binding = some binding)
    (h : call.Refused crypto) (store next : KeyStore) :
    call.operation.alone crypto anchor store = call.operation.alone crypto anchor next := by
  unfold StoreCall.Refused at h
  -- either the anchor refuses the caller, or the operation ends before the store is asked
  cases hcheck : binding.check call.verifier.config.keyringName call.verifier.owner with
  | error refusal =>
    unfold StoreCall.operation
    split <;>
    · simp only [Operation.alone, Functor.map, Verifier.verify, Verifier.load, TrustAnchor.load,
        Verifier.provision, Verifier.keyring, TrustAnchor.peek, bind, Operation.perform,
        Operation.andThen, Operation.run, Interaction.answer, hbound, hcheck, Except.map,
        Operation.ofExcept, Operation.refuse]
  | ok keyring =>
    unfold StoreCall.operation
    split at h
    next certificate digest digestLength hrequest =>
      simp only [Operation.alone, Functor.map, Verifier.verify, Verifier.load, TrustAnchor.load,
        bind, Operation.perform, Operation.andThen, Operation.run, Interaction.answer, hbound,
        hcheck, Operation.ofExcept, Operation.refuse, Header.gate, h, Bool.false_eq_true, if_false]
    next data hrequest =>
      simp only [Operation.alone, Functor.map, Verifier.provision, Verifier.keyring,
        TrustAnchor.peek, bind, Operation.perform, Operation.andThen, Operation.run,
        Interaction.answer, hbound, hcheck, Except.map, Operation.ofExcept]
      rcases h with rfl | hmaterial
      · rfl
      · cases data.isEmpty with
        | true => rfl
        | false =>
          have hadd : ∀ other : KeyStore, other.add crypto keyring .asymmetric data =
              (.error Errno.EBADMSG, other) := by
            intro other
            simp only [add, hmaterial, ne_eq, not_true_eq_false, if_false]
          simp only [Bool.false_eq_true, if_false, Operation.andThen, Operation.run,
            Interaction.answer, TrustStore.collaborators, service, hadd]
          rfl

/-! ## Scenes of calls -/

def scene (store : KeyStore) (anchors : List TrustAnchor) (calls : List StoreCall) :
    Scene KeyStore Reply where
  state := store
  slots := anchors.map fun anchor => ⟨anchor, none⟩
  threads := calls.map fun call => ⟨call.anchor, 0, 0, call.operation⟩

structure IsCall (anchors : List TrustAnchor) (calls : List StoreCall) (number : Nat)
    (call : StoreCall) (anchor : TrustAnchor) : Prop where
  call_eq : calls[number]? = some call
  anchor_eq : anchors[call.anchor]? = some anchor

def Loaded (anchors : List TrustAnchor) (calls : List StoreCall) : Prop :=
  ∀ call ∈ calls, ∃ anchor binding, anchors[call.anchor]? = some anchor ∧
    anchor.binding = some binding

variable {host : Host} {anchors : List TrustAnchor} {calls : List StoreCall}
  {schedule : List Nat} {number : Nat}

theorem sectioned_operation {binding : Binding} (hbound : anchor.binding = some binding)
    (call : StoreCall) : ∃ turns ≤ 5, call.operation.Sectioned anchor turns := by
  unfold StoreCall.operation
  split
  · exact ⟨5, Nat.le_refl 5, (Operation.sectioned_verify hbound _ _ _ _).map _⟩
  · exact ⟨3, by decide, (Operation.sectioned_provision hbound _ _).map _⟩

theorem IsCall.thread_eq (h : IsCall anchors calls number call anchor) (store : KeyStore) :
    (store.scene anchors calls).threads[number]? = some ⟨call.anchor, 0, 0, call.operation⟩ ∧
      (store.scene anchors calls).slots[call.anchor]? = some ⟨anchor, none⟩ := by
  constructor
  · change (calls.map _)[number]? = _
    rw [List.getElem?_map, h.call_eq]
    rfl
  · change (anchors.map _)[call.anchor]? = _
    rw [List.getElem?_map, h.anchor_eq]
    rfl

theorem IsCall.sectioned (h : IsCall anchors calls number call anchor)
    (hloaded : Loaded anchors calls) : ∃ turns ≤ 5, call.operation.Sectioned anchor turns := by
  rcases hloaded call (List.mem_of_getElem? h.call_eq) with ⟨other, binding, hother, hbound⟩
  rw [h.anchor_eq] at hother
  cases hother
  exact sectioned_operation hbound call

theorem concurrent_scene (hloaded : Loaded anchors calls) (store : KeyStore) :
    (store.scene anchors calls).Concurrent store := by
  have hthreads : ∀ thread ∈ (store.scene anchors calls).threads, ∃ slot turns,
      (store.scene anchors calls).slots[thread.slot]? = some slot ∧
        thread.rest.Sectioned slot.anchor turns := by
    intro thread hmem
    rcases List.mem_map.mp hmem with ⟨call, hcall, rfl⟩
    rcases hloaded call hcall with ⟨anchor, binding, hanchor, hbound⟩
    rcases sectioned_operation hbound call with ⟨turns, -, hsectioned⟩
    refine ⟨⟨anchor, none⟩, turns, ?_, hsectioned⟩
    change (anchors.map _)[call.anchor]? = _
    rw [List.getElem?_map, hanchor]
    rfl
  constructor
  · intro thread hmem
    rcases hthreads thread hmem with ⟨slot, turns, hslot, hsectioned⟩
    exact ⟨slot, turns, hslot, .calling hsectioned⟩
  · intro key
    have howed : (store.scene anchors calls).owed key = 0 := by
      refine List.countP_eq_zero.mpr fun thread hmem => ?_
      rcases hthreads thread hmem with ⟨slot, turns, -, hsectioned⟩
      rw [hsectioned.key?_eq]
      exact Bool.false_ne_true
    rw [howed]
    rfl

/-- What holds of calls that take turns by a schedule, with the sections that they enter and the
scene at the end. -/
structure Linearizable (crypto : Crypto) (store : KeyStore) (anchors : List TrustAnchor)
    (calls : List StoreCall) (schedule : List Nat) (sections : List Scene.Section)
    (final : Scene KeyStore Reply) : Prop where
  nodup : (sections.map Scene.Section.number).Nodup
  /-- Each section finds what the one before it has left, but for references. -/
  linked : Scene.Linked store sections final.state
  ends : ∀ number call anchor, IsCall anchors calls number call anchor →
    5 ≤ schedule.count number → ∃ outcome, final.outcome? number = some outcome
  /-- A call that has entered its section answers as if all of it took place there, and leaves what
  it would leave then.  The others answer as in any store, and change nothing. -/
  answers : ∀ number call anchor outcome, IsCall anchors calls number call anchor →
    final.outcome? number = some outcome →
    (∃ entered ∈ sections, entered.number = number ∧
        outcome = call.operation.alone crypto anchor entered.found ∧
        entered.left.SameContents (call.operation.leaves crypto anchor entered.found)) ∨
      ((∀ entered ∈ sections, entered.number ≠ number) ∧
        ∀ other, outcome = call.operation.alone crypto anchor other ∧
          call.operation.leaves crypto anchor other = other)
  refused : ∀ number call anchor outcome, IsCall anchors calls number call anchor →
    call.Refused crypto → final.outcome? number = some outcome →
    ∀ other, outcome = call.operation.alone crypto anchor other
  insertions : ∀ number call anchor outcome keyring identifier members,
    IsCall anchors calls number call anchor → call.Inserts crypto anchor keyring identifier →
    store.members keyring = .ok members → final.outcome? number = some outcome →
    outcome = .ok .done ∨ outcome = .error (.error (.provisionFailed Errno.EEXIST))
  unique : ∀ first firstCall firstAnchor second secondCall secondAnchor keyring identifier members,
    IsCall anchors calls first firstCall firstAnchor →
    IsCall anchors calls second secondCall secondAnchor →
    firstCall.Inserts crypto firstAnchor keyring identifier →
    secondCall.Inserts crypto secondAnchor keyring identifier →
    store.members keyring = .ok members → final.outcome? first = some (.ok .done) →
    final.outcome? second = some (.ok .done) → first = second
  /-- When all calls that have begun have ended, the references are those that were held before:
  none, if none were. -/
  references : (∀ number ∈ schedule, ∀ call anchor, IsCall anchors calls number call anchor →
      ∃ outcome, final.outcome? number = some outcome) →
    ∀ key, final.state.referenceCount key = store.referenceCount key

theorem members_run (hmembers : store.members keyring = .ok members) {entered : Scene.Section}
    (h : entered ∈ (store.scene anchors calls).sections crypto host schedule) :
    ∃ members, entered.found.members keyring = .ok members := by
  rcases (Scene.extends_found h).members_eq hmembers with ⟨more, hmore⟩
  exact ⟨members ++ more, hmore⟩

/-- What a call comes to is decided in its section, or is the same in every store. -/
theorem answers_of_loaded (hloaded : Loaded anchors calls)
    (h : IsCall anchors calls number call anchor) (store : KeyStore) (crypto : Crypto)
    (host : Host) (schedule : List Nat) {outcome : Outcome Refusal Reply}
    (houtcome : ((store.scene anchors calls).run (environment crypto host) schedule).1.outcome?
      number = some outcome) :
    (∃ entered ∈ (store.scene anchors calls).sections crypto host schedule,
        entered.number = number ∧
        outcome = call.operation.alone crypto anchor entered.found ∧
        entered.left.SameContents (call.operation.leaves crypto anchor entered.found)) ∨
      ((∀ entered ∈ (store.scene anchors calls).sections crypto host schedule,
          entered.number ≠ number) ∧
        ∀ other, outcome = call.operation.alone crypto anchor other ∧
          call.operation.leaves crypto anchor other = other) := by
  rcases h.sectioned hloaded with ⟨turns, -, hsectioned⟩
  rcases h.thread_eq store with ⟨hthread, hslot⟩
  rcases Scene.outcome_of_sectioned (concurrent_scene hloaded store) hthread hslot hsectioned crypto
    host schedule with ⟨entered, hmem, hnumber, hleft, halone⟩ | ⟨hnot, halone⟩
  · exact .inl ⟨entered, hmem, hnumber, halone outcome houtcome, hleft⟩
  · exact .inr ⟨hnot, halone outcome houtcome⟩

/-- An insertion that succeeds finds no key with its identifier, and leaves one. -/
theorem section_of_inserted (hloaded : Loaded anchors calls)
    (h : IsCall anchors calls number call anchor)
    (hinserts : call.Inserts crypto anchor keyring identifier)
    (hmembers : store.members keyring = .ok members)
    (houtcome : ((store.scene anchors calls).run (environment crypto host) schedule).1.outcome?
      number = some (.ok .done)) :
    ∃ entered ∈ (store.scene anchors calls).sections crypto host schedule,
      entered.number = number ∧ ¬entered.found.HasIdentifier keyring identifier ∧
        entered.left.HasIdentifier keyring identifier := by
  rcases answers_of_loaded hloaded h store crypto host schedule houtcome with
    ⟨entered, hmem, hnumber, halone, hleft⟩ | ⟨-, hsame⟩
  · rcases members_run hmembers hmem with ⟨found, hfound⟩
    rcases alone_of_inserts hinserts hfound with ⟨-, hrefused⟩ | ⟨hnot, -, hhas⟩
    · rw [hrefused] at halone
      cases halone
    · exact ⟨entered, hmem, hnumber, hnot, hleft.hasIdentifier hhas⟩
  · rcases hsame store with ⟨halone, hleaves⟩
    rcases alone_of_inserts hinserts hmembers with ⟨-, hrefused⟩ | ⟨hnot, -, hhas⟩
    · rw [hrefused] at halone
      cases halone
    · rw [hleaves] at hhas
      exact absurd hhas hnot

theorem eq_of_inserted {first second : Nat} {firstCall secondCall : StoreCall}
    {firstAnchor secondAnchor : TrustAnchor} (hloaded : Loaded anchors calls)
    (hfirst : IsCall anchors calls first firstCall firstAnchor)
    (hsecond : IsCall anchors calls second secondCall secondAnchor)
    (hfirstInserts : firstCall.Inserts crypto firstAnchor keyring identifier)
    (hsecondInserts : secondCall.Inserts crypto secondAnchor keyring identifier)
    (hmembers : store.members keyring = .ok members)
    (hfirstOutcome : ((store.scene anchors calls).run (environment crypto host)
      schedule).1.outcome? first = some (.ok .done))
    (hsecondOutcome : ((store.scene anchors calls).run (environment crypto host)
      schedule).1.outcome? second = some (.ok .done)) : first = second := by
  rcases section_of_inserted hloaded hfirst hfirstInserts hmembers hfirstOutcome with
    ⟨one, hone, rfl, honeNot, honeHas⟩
  rcases section_of_inserted hloaded hsecond hsecondInserts hmembers hsecondOutcome with
    ⟨other, hother, rfl, hotherNot, hotherHas⟩
  by_contra hne
  rcases Scene.extends_or_extends hone hother fun heq => hne (congrArg _ heq) with hext | hext
  · exact hotherNot (hext.hasIdentifier honeHas)
  · exact honeNot (hext.hasIdentifier hotherHas)

theorem referenceCount_run (hloaded : Loaded anchors calls) (store : KeyStore) (crypto : Crypto)
    (host : Host) (schedule : List Nat)
    (hended : ∀ number ∈ schedule, ∀ call anchor, IsCall anchors calls number call anchor →
      ∃ outcome, ((store.scene anchors calls).run (environment crypto host) schedule).1.outcome?
        number = some outcome) (key : Handle) :
    ((store.scene anchors calls).run (environment crypto host)
      schedule).1.state.referenceCount key = store.referenceCount key := by
  have hconcurrent := Scene.concurrent_run (concurrent_scene hloaded store) crypto host schedule
  refine hconcurrent.referenceCount_eq (fun thread hmem => ?_) key
  rcases List.getElem?_of_mem hmem with ⟨number, hthread⟩
  have hlt : number < calls.length := by
    have hlength := (List.getElem?_eq_some_iff.mp hthread).1
    rwa [Scene.length_threads_run, show (store.scene anchors calls).threads.length = calls.length
      from List.length_map _] at hlength
  have hcall : calls[number]? = some calls[number] := List.getElem?_eq_getElem hlt
  rcases hloaded _ (List.getElem_mem hlt) with ⟨anchor, binding, hanchor, hbound⟩
  have his : IsCall anchors calls number calls[number] anchor := ⟨hcall, hanchor⟩
  by_cases hbegun : number ∈ schedule
  · rcases hended number hbegun _ anchor his with ⟨outcome, houtcome⟩
    rcases Scene.outcome?_eq_some_iff.mp houtcome with ⟨other, hother, hdone⟩
    rw [hthread] at hother
    cases hother
    rw [hdone]
    rfl
  · rw [Scene.threads_run_of_not_mem _ _ hbegun, (his.thread_eq store).1] at hthread
    cases hthread
    rcases his.sectioned hloaded with ⟨turns, -, hsectioned⟩
    exact hsectioned.key?_eq

theorem linearizable (crypto : Crypto) (host : Host) (store : KeyStore)
    {anchors : List TrustAnchor} {calls : List StoreCall} (hloaded : Loaded anchors calls)
    (schedule : List Nat) : Linearizable crypto store anchors calls schedule
      ((store.scene anchors calls).sections crypto host schedule)
      ((store.scene anchors calls).run (environment crypto host) schedule).1 := by
  have hconcurrent := concurrent_scene hloaded store
  refine ⟨?nodup, ?linked, ?ends, ?answers, ?refused, ?insertions, ?unique, ?references⟩
  case nodup => exact Scene.nodup_sections hconcurrent crypto host schedule
  case linked => exact Scene.linked_sections crypto host (store.scene anchors calls) schedule
  case ends =>
    intro number call anchor h hturns
    rcases h.sectioned hloaded with ⟨turns, hle, hsectioned⟩
    rcases h.thread_eq store with ⟨hthread, hslot⟩
    exact Scene.outcome?_of_turns hconcurrent hthread hslot (.calling hsectioned) crypto host
      (Nat.le_trans hle hturns)
  case answers =>
    intro number call anchor outcome h houtcome
    exact answers_of_loaded hloaded h store crypto host schedule houtcome
  case refused =>
    intro number call anchor outcome h hrefused houtcome other
    rcases hloaded call (List.mem_of_getElem? h.call_eq) with ⟨loaded, binding, hanchor, hbound⟩
    rw [h.anchor_eq] at hanchor
    cases hanchor
    rcases answers_of_loaded hloaded h store crypto host schedule houtcome with
      ⟨entered, -, -, halone, -⟩ | ⟨-, hsame⟩
    · rw [halone]
      exact alone_of_refused hbound hrefused entered.found other
    · exact (hsame other).1
  case insertions =>
    intro number call anchor outcome keyring identifier members h hinserts hmembers houtcome
    -- refused outside of the store or decided in its section, the outcome is that of some store
    have hdecided : ∃ found members, KeyStore.members found keyring = .ok members ∧
        outcome = call.operation.alone crypto anchor found := by
      rcases answers_of_loaded hloaded h store crypto host schedule houtcome with
        ⟨entered, hmem, -, halone, -⟩ | ⟨-, hsame⟩
      · rcases members_run hmembers hmem with ⟨found, hfound⟩
        exact ⟨entered.found, found, hfound, halone⟩
      · exact ⟨store, members, hmembers, (hsame store).1⟩
    rcases hdecided with ⟨found, others, hothers, halone⟩
    rcases alone_of_inserts hinserts hothers with ⟨-, hrefused⟩ | ⟨-, hdone, -⟩
    · exact .inr (halone.trans hrefused)
    · exact .inl (halone.trans hdone)
  case unique =>
    intro first firstCall firstAnchor second secondCall secondAnchor keyring identifier members
      hfirst hsecond hfirstInserts hsecondInserts hmembers hfirstOutcome hsecondOutcome
    exact eq_of_inserted hloaded hfirst hsecond hfirstInserts hsecondInserts hmembers hfirstOutcome
      hsecondOutcome
  case references => exact referenceCount_run hloaded store crypto host schedule

/-- Two additions of one certificate and a verification with its key, under way at once. -/
theorem linearizable_sameCertificate :
    let crypto : Crypto :=
      { readX509 := fun data => some ⟨some data, some (.raw .ed25519 [])⟩
        readPem := fun _ => none
        fingerprint := fun data => data
        verify := fun _ _ _ signature => some (signature == [7]) }
    let host : Host := ⟨fun _ => .error none, fun _ => none⟩
    let store := (KeyStore.openKeyring {} ".five").2
    let anchors : List TrustAnchor := [.preloaded ".five" ⟨1⟩]
    let certificate : Certificate := ⟨.forAlgorithm .sha256 ⟨5⟩, [7]⟩
    let addition : StoreCall := ⟨0, ⟨{}, none⟩, .addCertificate [0, 0, 0, 5]⟩
    let verification : StoreCall := ⟨0, ⟨{}, none⟩, .verify certificate (List.replicate 32 0) 32⟩
    let calls := [addition, addition, verification]
    let schedule := [0, 2, 1, 2, 1, 2, 0, 1, 2, 2]
    let final := ((store.scene anchors calls).run (environment crypto host) schedule).1
    Loaded anchors calls ∧ final.outcome? 1 = some (.ok .done) ∧
      final.outcome? 0 = some (.error (.error (.provisionFailed Errno.EEXIST))) ∧
      final.outcome? 2 = some (.ok (.code 0)) ∧
      (∃ entered ∈ (store.scene anchors calls).sections crypto host schedule, entered.number = 2 ∧
        verification.operation.alone crypto (.preloaded ".five" ⟨1⟩) entered.found =
          .ok (.code 0)) ∧
      ∀ key, final.state.referenceCount key = 0 := by
  intro crypto host store anchors certificate addition verification calls schedule final
  have hloaded : Loaded anchors calls := by
    intro call hmem
    have hanchor : call.anchor = 0 := by
      simp only [calls, List.mem_cons, List.not_mem_nil, or_false] at hmem
      rcases hmem with rfl | rfl | rfl <;> rfl
    exact ⟨_, _, by rw [hanchor]; rfl, rfl⟩
  have hended : ∀ number ∈ schedule, (final.outcome? number).isSome = true := by decide +kernel
  have h := linearizable crypto host store hloaded schedule
  have hempty : ∀ key, store.referenceCount key = 0 := by
    rintro ⟨value⟩
    match value with
    | 0 | 1 | _ + 2 => rfl
  have hverified : final.outcome? 2 = some (.ok (.code 0)) := by decide +kernel
  refine ⟨hloaded, by decide +kernel, by decide +kernel, hverified, ?_, ?_⟩
  · rcases h.answers 2 verification _ _ ⟨rfl, rfl⟩ hverified with
      ⟨entered, hmem, hnumber, halone, -⟩ | ⟨-, hsame⟩
    · exact ⟨entered, hmem, hnumber, halone.symm⟩
    · have hmissing : verification.operation.alone crypto (.preloaded ".five" ⟨1⟩) store =
          .error (.error .noKey) := by decide +kernel
      cases (hsame store).1.trans hmissing
  · intro key
    rw [h.references ?_, hempty]
    intro number hmem _ _ _
    exact Option.isSome_iff_exists.mp (hended number hmem)

end KeyStore

end TrustedKeyring
