import TrustedKeyring.Proofs.Interleaving.Turn
import TrustedKeyring.TrustAnchor

/-!
# Stages of a load

A load of an anchor has at most six interactions, with a stage before each one.  Loads of one anchor
at the same time are a race; in each turn of a race one load gets from one stage to the next
(`Race.turn_step`).
-/

namespace TrustedKeyring

/-- A caller that loads an anchor: the service to load a keyring through, the name of the keyring,
and the owner that the anchor is bound to. -/
structure Caller where
  service : ServiceId
  name : String
  owner : Option ServiceId
deriving DecidableEq, Repr

inductive LoadStage where
  | looking
  | waiting
  | rechecking
  | opening
  | publishing (handle : Handle)
  | leaving (isPanicking : Bool) (outcome : Outcome Refusal Handle)
  | ended (outcome : Outcome Refusal Handle)

def Failure.isPanic {ε : Type} : Failure ε → Bool
  | .error _ => false
  | .panic _ => true

def Failure.ofOpening : Failure Errno → Failure Refusal
  | .error errno => .error (.loadFailed errno)
  | .panic message => .panic message

namespace Caller

def operation (caller : Caller) : Operation Handle :=
  TrustAnchor.load caller.name caller.owner

def answer (caller : Caller) (binding : Binding) : Outcome Refusal Handle :=
  (binding.check caller.name caller.owner).mapError .error

def binding (caller : Caller) (handle : Handle) : Binding :=
  ⟨handle, caller.name, caller.owner⟩

def isRefused (caller : Caller) (anchor : TrustAnchor) : Bool :=
  anchor.isProcess && caller.owner.isNone

/-! ## What is left of a load -/

def leave (isPanicking : Bool) (outcome : Outcome Refusal Handle) : Operation Handle :=
  .interact (.unlock isPanicking) fun _ => .done outcome

def publish (caller : Caller) (handle : Handle) : Operation Handle :=
  .interact (.bind (caller.binding handle)) fun binding => leave false (.ok binding.handle)

def openThrough (caller : Caller) : Operation Handle :=
  .interact (.openKeyring caller.name) fun
    | .ok handle => caller.publish handle
    | .error failure => leave failure.isPanic (.error failure.ofOpening)

def recheck (caller : Caller) : Operation Handle :=
  .interact .readAnchor fun anchor =>
    match anchor.binding with
    | some binding => leave false (caller.answer binding)
    | none => caller.openThrough

def wait (caller : Caller) : Operation Handle :=
  .interact .lock fun _ => caller.recheck

def look (caller : Caller) : Operation Handle :=
  .interact .readAnchor fun anchor =>
    match anchor.binding with
    | some binding => .done (caller.answer binding)
    | none =>
      if caller.isRefused anchor then .done (.error (.error ownerRequired)) else caller.wait

theorem ofExcept_check (caller : Caller) (binding : Binding) :
    Operation.ofExcept (binding.check caller.name caller.owner) =
      .done (caller.answer binding) := by
  unfold answer
  cases binding.check caller.name caller.owner <;> rfl

/-- A load has the stages that `look` goes through. -/
theorem operation_eq_look (caller : Caller) : caller.operation = caller.look := by
  unfold operation TrustAnchor.load
  refine congrArg (Operation.interact .readAnchor) (funext fun first => ?_)
  dsimp only [Operation.andThen]
  cases first.binding with
  | some binding => exact caller.ofExcept_check binding
  | none =>
    dsimp only
    by_cases hrefused : caller.isRefused first = true
    · rw [if_pos (show (first.isProcess && caller.owner.isNone) = true from hrefused),
        if_pos hrefused]
      rfl
    · rw [if_neg (show ¬(first.isProcess && caller.owner.isNone) = true from hrefused),
        if_neg hrefused]
      refine congrArg (Operation.interact .lock) (funext fun _ => ?_)
      refine congrArg (Operation.interact .readAnchor) (funext fun second => ?_)
      dsimp only [Operation.andThen]
      cases second.binding with
      | some binding =>
        refine congrArg (Operation.interact (.unlock false)) (funext fun _ => ?_)
        exact caller.ofExcept_check binding
      | none =>
        refine congrArg (Operation.interact (.openKeyring caller.name)) (funext fun answer => ?_)
        rcases answer with (errno | message) | handle <;> rfl

end Caller

namespace LoadStage

def rest (caller : Caller) : LoadStage → Operation Handle
  | looking => caller.look
  | waiting => caller.wait
  | rechecking => caller.recheck
  | opening => caller.openThrough
  | publishing handle => caller.publish handle
  | leaving isPanicking outcome => Caller.leave isPanicking outcome
  | ended outcome => .done outcome

def outcome? : LoadStage → Option (Outcome Refusal Handle)
  | leaving _ outcome | ended outcome => some outcome
  | looking | waiting | rechecking | opening | publishing _ => none

def isInside : LoadStage → Bool
  | rechecking | opening | publishing _ | leaving _ _ => true
  | looking | waiting | ended _ => false

inductive Step {σ : Type} (environment : Environment σ) (number : Nat) (caller : Caller)
    (slot : Slot) (state : σ) : LoadStage → Exchange → LoadStage → Slot → σ → Prop
  | answered {binding : Binding} (hbound : slot.anchor.binding = some binding) :
      Step environment number caller slot state .looking ⟨.readAnchor, slot.anchor⟩
        (.ended (caller.answer binding)) slot state
  | refused (hunset : slot.anchor.binding = none) (hrefused : caller.isRefused slot.anchor = true) :
      Step environment number caller slot state .looking ⟨.readAnchor, slot.anchor⟩
        (.ended (.error (.error ownerRequired))) slot state
  | waits (hunset : slot.anchor.binding = none) (hadmitted : caller.isRefused slot.anchor = false) :
      Step environment number caller slot state .looking ⟨.readAnchor, slot.anchor⟩ .waiting slot
        state
  | locks (hfree : slot.holder = none) :
      Step environment number caller slot state .waiting ⟨.lock, ()⟩ .rechecking
        ⟨slot.anchor, some number⟩ state
  | found {binding : Binding} (hbound : slot.anchor.binding = some binding) :
      Step environment number caller slot state .rechecking ⟨.readAnchor, slot.anchor⟩
        (.leaving false (caller.answer binding)) slot state
  | missed (hunset : slot.anchor.binding = none) :
      Step environment number caller slot state .rechecking ⟨.readAnchor, slot.anchor⟩ .opening slot
        state
  | opened {handle : Handle} {next : σ}
      (hopen : (environment.service caller.service).openKeyring caller.name state =
        (.ok handle, next)) :
      Step environment number caller slot state .opening ⟨.openKeyring caller.name, .ok handle⟩
        (.publishing handle) slot next
  | failed {failure : Failure Errno} {next : σ}
      (hopen : (environment.service caller.service).openKeyring caller.name state =
        (.error failure, next)) :
      Step environment number caller slot state .opening
        ⟨.openKeyring caller.name, .error failure⟩
        (.leaving failure.isPanic (.error failure.ofOpening)) slot next
  | published {handle : Handle} (hunset : slot.anchor.binding = none) :
      Step environment number caller slot state (.publishing handle)
        ⟨.bind (caller.binding handle), caller.binding handle⟩ (.leaving false (.ok handle))
        ⟨{ slot.anchor with binding := some (caller.binding handle) }, slot.holder⟩ state
  | kept {handle : Handle} {binding : Binding} (hbound : slot.anchor.binding = some binding) :
      Step environment number caller slot state (.publishing handle)
        ⟨.bind (caller.binding handle), binding⟩ (.leaving false (.ok binding.handle)) slot state
  | left (isPanicking : Bool) (outcome : Outcome Refusal Handle) :
      Step environment number caller slot state (.leaving isPanicking outcome)
        ⟨.unlock isPanicking, ()⟩ (.ended outcome)
        ⟨{ slot.anchor with isPoisoned := slot.anchor.isPoisoned || isPanicking }, none⟩ state

end LoadStage

structure Load where
  caller : Caller
  stage : LoadStage

def Load.thread (load : Load) : Thread Handle :=
  ⟨0, load.caller.service, 0, load.stage.rest load.caller⟩

structure Race (σ : Type) where
  state : σ
  slot : Slot
  loads : List Load

namespace Race

variable {σ : Type} {environment : Environment σ} {race : Race σ} {number : Nat} {load : Load}
  {request : Interaction} {next : request.Answer → Operation Handle} {stage : LoadStage}
  {slot : Slot} {state : σ} {exchange : Exchange}

def scene (race : Race σ) : Scene σ Handle :=
  ⟨race.state, [race.slot], race.loads.map Load.thread⟩

def moved (race : Race σ) (number : Nat) (caller : Caller) (stage : LoadStage) (slot : Slot)
    (state : σ) : Race σ :=
  ⟨state, slot, race.loads.set number ⟨caller, stage⟩⟩

inductive Turn (environment : Environment σ) (race : Race σ) (number : Nat) :
    Race σ → List Event → Prop
  | idle : Turn environment race number race []
  | moved {load : Load} {exchange : Exchange} {stage : LoadStage} {slot : Slot} {state : σ}
      (hload : race.loads[number]? = some load)
      (hstep : load.stage.Step environment number load.caller race.slot race.state exchange stage
        slot state) :
      Turn environment race number (race.moved number load.caller stage slot state)
        [⟨load.caller.service, 0, exchange⟩]

def answer (environment : Environment σ) (race : Race σ) (load : Load) (request : Interaction) :
    request.Answer × World σ :=
  request.answer (environment.collaborators load.caller.service 0) ⟨race.slot.anchor, race.state⟩

theorem taken_eq_moved
    (hstage : next (race.answer environment load request).1 = stage.rest load.caller) :
    let result := race.answer environment load request
    race.scene.taken environment number load.thread race.slot request next =
      (race.moved number load.caller stage
        ⟨result.2.anchor, race.slot.holderAfter number request⟩ result.2.state).scene := by
  intro result
  have hthreads :
      (race.loads.map Load.thread).set number { load.thread with rest := next result.1 } =
      (race.loads.set number ⟨load.caller, stage⟩).map Load.thread := by
    rw [List.map_set, hstage]
    rfl
  exact congrArg (Scene.mk result.2.state
    [⟨result.2.anchor, race.slot.holderAfter number request⟩]) hthreads

/-- The next interaction of a load takes it from its stage to another. -/
theorem exists_step (hrest : load.stage.rest load.caller = .interact request next)
    (hfree : request = .lock → race.slot.holder = none) (environment : Environment σ)
    (number : Nat) :
    let result := race.answer environment load request
    ∃ stage, next result.1 = stage.rest load.caller ∧
      load.stage.Step environment number load.caller race.slot race.state ⟨request, result.1⟩ stage
        ⟨result.2.anchor, race.slot.holderAfter number request⟩ result.2.state := by
  intro result
  rcases load with ⟨caller, stage⟩
  -- the interaction is the one of the stage; its answer tells the next one
  cases stage with
  | ended outcome => cases hrest
  | looking =>
    cases hrest
    cases hbinding : race.slot.anchor.binding with
    | some binding =>
      refine ⟨.ended (caller.answer binding), ?_, .answered hbinding⟩
      simp only [result, answer, Interaction.answer, hbinding]
      rfl
    | none =>
      cases hrefused : caller.isRefused race.slot.anchor with
      | true =>
        refine ⟨.ended (.error (.error ownerRequired)), ?_, .refused hbinding hrefused⟩
        simp only [result, answer, Interaction.answer, hbinding, hrefused]
        rfl
      | false =>
        refine ⟨.waiting, ?_, .waits hbinding hrefused⟩
        simp only [result, answer, Interaction.answer, hbinding, hrefused]
        rfl
  | waiting =>
    cases hrest
    exact ⟨.rechecking, rfl, .locks (hfree rfl)⟩
  | rechecking =>
    cases hrest
    cases hbinding : race.slot.anchor.binding with
    | some binding =>
      refine ⟨.leaving false (caller.answer binding), ?_, .found hbinding⟩
      simp only [result, answer, Interaction.answer, hbinding]
      rfl
    | none =>
      refine ⟨.opening, ?_, .missed hbinding⟩
      simp only [result, answer, Interaction.answer, hbinding]
      rfl
  | opening =>
    cases hrest
    rcases hopen : (environment.service caller.service).openKeyring caller.name race.state with
      ⟨answered, state⟩
    have hresult : result = (answered, ⟨race.slot.anchor, state⟩) := by
      simp only [result, answer, Interaction.answer, Environment.collaborators, hopen]
    rw [hresult]
    cases answered with
    | ok handle => exact ⟨.publishing handle, rfl, .opened hopen⟩
    | error failure =>
      exact ⟨.leaving failure.isPanic (.error failure.ofOpening), rfl, .failed hopen⟩
  | publishing handle =>
    cases hrest
    cases hbinding : race.slot.anchor.binding with
    | some binding =>
      have hresult : result = (binding, ⟨race.slot.anchor, race.state⟩) := by
        simp only [result, answer, Interaction.answer, hbinding]
      rw [hresult]
      exact ⟨.leaving false (.ok binding.handle), rfl, .kept hbinding⟩
    | none =>
      have hresult : result = (caller.binding handle,
          ⟨{ race.slot.anchor with binding := some (caller.binding handle) }, race.state⟩) := by
        simp only [result, answer, Interaction.answer, hbinding]
      rw [hresult]
      exact ⟨.leaving false (.ok handle), rfl, .published hbinding⟩
  | leaving isPanicking outcome =>
    cases hrest
    exact ⟨.ended outcome, rfl, .left isPanicking outcome⟩

theorem turn_step (environment : Environment σ) (race : Race σ) (number : Nat) :
    ∃ later events, race.scene.step environment number = (later.scene, events) ∧
      race.Turn environment number later events := by
  have hturn := race.scene.turn_step environment number
  generalize race.scene.step environment number = result at hturn ⊢
  cases hturn with
  | idle => exact ⟨race, [], rfl, .idle⟩
  | @taken thread slot request next hthread hslot hrest hfree =>
    change (race.loads.map Load.thread)[number]? = some thread at hthread
    rw [List.getElem?_map] at hthread
    rcases Option.map_eq_some_iff.mp hthread with ⟨load, hload, rfl⟩
    change some race.slot = some slot at hslot
    cases hslot
    rcases exists_step hrest hfree environment number with ⟨stage, hstage, hstep⟩
    refine ⟨_, _, ?_, .moved hload hstep⟩
    rw [taken_eq_moved hstage]
    rfl

end Race

end TrustedKeyring
