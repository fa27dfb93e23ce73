import Mathlib.Data.List.Nodup
import TrustedKeyring.Proofs.TrustAnchor.Serial

/-!
# Races of loads

What holds of loads of one anchor at any time.  The lock is held by the one load that is between its
two ends (`guarded_moved`).  The calls that have been decided so far have come to what they would
have come to one after the other, in the order in which they were decided (`linear_run`).
-/

namespace TrustedKeyring

variable {σ α : Type} {environment : Environment σ} {callers : List Caller}

/-! ## Decisions -/

def Operation.decision? : Operation α → Option (Outcome Refusal α)
  | done outcome => some outcome
  | interact (.unlock _) next =>
    match next () with
    | done outcome => some outcome
    | interact _ _ => none
  | interact _ _ => none

namespace Scene

def decision? (scene : Scene σ α) (number : Nat) : Option (Outcome Refusal α) :=
  (scene.threads[number]?).bind fun thread => thread.rest.decision?

def decides (environment : Environment σ) (scene : Scene σ α) (number : Nat) : Bool :=
  (scene.decision? number).isNone && ((scene.step environment number).1.decision? number).isSome

def decisions (environment : Environment σ) (scene : Scene σ α) : List Nat → List Nat
  | [] => []
  | turn :: schedule =>
    (if scene.decides environment turn then [turn] else []) ++
      (scene.step environment turn).1.decisions environment schedule

end Scene

namespace LoadStage

def isAdmitted : LoadStage → Bool
  | waiting | rechecking | opening | publishing _ => true
  | looking | leaving _ _ | ended _ => false

def isLoading : LoadStage → Bool
  | opening | publishing _ => true
  | looking | waiting | rechecking | leaving _ _ | ended _ => false

def handle? : LoadStage → Option Handle
  | publishing handle => some handle
  | looking | waiting | rechecking | opening | leaving _ _ | ended _ => none

theorem isInside_of_isLoading {stage : LoadStage} (h : stage.isLoading = true) :
    stage.isInside = true := by
  cases stage with
  | opening | publishing => rfl
  | looking | waiting | rechecking | leaving | ended => cases h

theorem isLoading_of_handle? {stage : LoadStage} {handle : Handle}
    (h : stage.handle? = some handle) : stage.isLoading = true := by
  cases stage with
  | publishing => rfl
  | looking | waiting | rechecking | opening | leaving | ended => cases h

theorem isAdmitted_of_isLoading {stage : LoadStage} (h : stage.isLoading = true) :
    stage.isAdmitted = true := by
  cases stage with
  | opening | publishing => rfl
  | looking | waiting | rechecking | leaving | ended => cases h

theorem outcome?_of_isLoading {stage : LoadStage} (h : stage.isLoading = true) :
    stage.outcome? = none := by
  cases stage with
  | opening | publishing => rfl
  | looking | waiting | rechecking | leaving | ended => cases h

theorem decision?_rest (caller : Caller) (stage : LoadStage) :
    (stage.rest caller).decision? = stage.outcome? := by
  cases stage <;> rfl

/-! ## Steps -/

variable {number : Nat} {caller : Caller} {slot slot' : Slot} {state state' : σ}
  {stage stage' : LoadStage} {exchange : Exchange}

theorem Step.isProcess_eq
    (h : stage.Step environment number caller slot state exchange stage' slot' state') :
    slot'.anchor.isProcess = slot.anchor.isProcess := by
  cases h <;> rfl

/-- A step leaves the binding of the anchor as it is, or binds an unset one. -/
theorem Step.binding_eq
    (h : stage.Step environment number caller slot state exchange stage' slot' state') :
    slot'.anchor.binding = slot.anchor.binding ∨
      (slot.anchor.binding = none ∧ stage.isLoading = true) := by
  cases h with
  | published hunset => exact .inr ⟨hunset, rfl⟩
  | _ => exact .inl rfl

theorem Step.anchor_eq
    (h : stage.Step environment number caller slot state exchange stage' slot' state')
    {anchor : TrustAnchor} (hread : exchange = ⟨.readAnchor, anchor⟩) : anchor = slot.anchor := by
  cases h <;> cases hread <;> rfl

theorem Step.holder_eq
    (h : stage.Step environment number caller slot state exchange stage' slot' state') :
    (slot'.holder = slot.holder ∧ stage'.isInside = stage.isInside) ∨
      (slot.holder = none ∧ slot'.holder = some number ∧ stage'.isInside = true) ∨
      (stage.isInside = true ∧ slot'.holder = none ∧ stage'.isInside = false) := by
  cases h with
  | locks hfree => exact .inr (.inl ⟨hfree, rfl, rfl⟩)
  | left => exact .inr (.inr ⟨rfl, rfl, rfl⟩)
  | _ => exact .inl ⟨rfl, rfl⟩

theorem Step.admitted
    (h : stage.Step environment number caller slot state exchange stage' slot' state')
    (hadmitted : stage'.isAdmitted = true) :
    stage.isAdmitted = true ∨ caller.isRefused slot.anchor = false := by
  cases h with
  | waits _ hnot => exact .inr hnot
  | locks | missed | opened => exact .inl rfl
  | answered | refused | found | failed | published | kept | left => cases hadmitted

theorem Step.unset
    (h : stage.Step environment number caller slot state exchange stage' slot' state')
    (hloading : stage'.isLoading = true) :
    slot' = slot ∧ (stage.isLoading = true ∨ slot.anchor.binding = none) := by
  cases h with
  | missed hunset => exact ⟨rfl, .inr hunset⟩
  | opened => exact ⟨rfl, .inl rfl⟩
  | answered | refused | waits | locks | found | failed | published | kept | left => cases hloading

end LoadStage

namespace Race

variable {race : Race σ} {number other : Nat} {load found : Load} {stage : LoadStage} {slot : Slot}
  {state : σ} {exchange : Exchange}

theorem decision?_scene (race : Race σ) (number : Nat) :
    race.scene.decision? number = (race.loads[number]?).bind fun load => load.stage.outcome? := by
  change ((race.loads.map Load.thread)[number]?).bind _ = _
  rw [List.getElem?_map]
  cases race.loads[number]? with
  | none => rfl
  | some load => exact LoadStage.decision?_rest load.caller load.stage

theorem loads_moved (race : Race σ) (number : Nat) (caller : Caller) (stage : LoadStage)
    (slot : Slot) (state : σ) : (race.moved number caller stage slot state).loads =
      race.loads.set number ⟨caller, stage⟩ :=
  rfl

theorem length_loads_moved (race : Race σ) (number : Nat) (caller : Caller) (stage : LoadStage)
    (slot : Slot) (state : σ) :
    (race.moved number caller stage slot state).loads.length = race.loads.length :=
  List.length_set

theorem loads_moved_self (hload : race.loads[number]? = some load) :
    (race.moved number load.caller stage slot state).loads[number]? =
      some ⟨load.caller, stage⟩ := by
  rcases List.getElem?_eq_some_iff.mp hload with ⟨hlt, -⟩
  exact List.getElem?_set_self hlt

theorem loads_moved_cases {caller : Caller}
    (h : (race.moved number caller stage slot state).loads[other]? = some found) :
    (other = number ∧ found = ⟨caller, stage⟩) ∨
      (other ≠ number ∧ race.loads[other]? = some found) := by
  by_cases hother : other = number
  · subst hother
    rcases List.getElem?_eq_some_iff.mp h with ⟨hlt, -⟩
    rw [length_loads_moved] at hlt
    rw [loads_moved, List.getElem?_set_self hlt] at h
    exact .inl ⟨rfl, (Option.some.inj h).symm⟩
  · rw [loads_moved, List.getElem?_set_ne (Ne.symm hother)] at h
    exact .inr ⟨hother, h⟩

/-! ## The lock -/

structure Guard (slot : Slot) (number : Nat) (load : Load) : Prop where
  locked : load.stage.isInside = true ↔ slot.holder = some number
  admitted : load.stage.isAdmitted = true → load.caller.isRefused slot.anchor = false
  unset : load.stage.isLoading = true → slot.anchor.binding = none

structure Guarded (race : Race σ) : Prop where
  guard : ∀ number load, race.loads[number]? = some load → Guard race.slot number load
  holder : ∀ number, race.slot.holder = some number → number < race.loads.length

/-- Two loads that hold the lock are one. -/
theorem Guarded.eq_of_isInside (h : race.Guarded) (hload : race.loads[number]? = some load)
    (hfound : race.loads[other]? = some found) (hinside : load.stage.isInside = true)
    (hinside' : found.stage.isInside = true) : number = other := by
  have hholder := (h.guard number load hload).locked.mp hinside
  rw [(h.guard other found hfound).locked.mp hinside'] at hholder
  exact (Option.some.inj hholder).symm

theorem guard_moved (h : race.Guarded) (hload : race.loads[number]? = some load)
    (hstep : load.stage.Step environment number load.caller race.slot race.state exchange stage
      slot state)
    (hfound : (race.moved number load.caller stage slot state).loads[other]? = some found) :
    Guard slot other found := by
  have hself := h.guard number load hload
  have hrefused : ∀ caller : Caller, caller.isRefused slot.anchor =
      caller.isRefused race.slot.anchor := by
    intro caller
    rw [Caller.isRefused, hstep.isProcess_eq]
    rfl
  rcases loads_moved_cases hfound with ⟨rfl, rfl⟩ | ⟨hother, hfound⟩
  -- the load that has moved
  · refine ⟨?_, ?_, ?_⟩
    · rcases hstep.holder_eq with ⟨hholder, hinside⟩ | ⟨-, hholder, hinside⟩ | ⟨-, hholder, hinside⟩
      · rw [hholder, ← hself.locked]
        exact iff_of_eq (congrArg (· = true) hinside)
      · exact iff_of_true hinside hholder
      · rw [hholder]
        exact iff_of_false (by rw [hinside]; exact Bool.false_ne_true) nofun
    · intro hadmitted
      rw [hrefused]
      exact (hstep.admitted hadmitted).elim hself.admitted id
    · intro hloading
      rcases hstep.unset hloading with ⟨hslot, hunset⟩
      rw [hslot]
      exact hunset.elim hself.unset id
  -- another load, which has the lock only if it had it before
  · have hthere := h.guard other found hfound
    refine ⟨?_, ?_, ?_⟩
    · rcases hstep.holder_eq with ⟨hholder, -⟩ | ⟨hfree, hholder, -⟩ | ⟨hinside, hholder, -⟩
      · rw [hholder]
        exact hthere.locked
      · rw [hthere.locked, hfree, hholder]
        exact iff_of_false nofun fun heq => hother (Option.some.inj heq).symm
      · rw [hthere.locked, hself.locked.mp hinside, hholder]
        exact iff_of_false (fun heq => hother (Option.some.inj heq).symm) nofun
    · intro hadmitted
      rw [hrefused]
      exact hthere.admitted hadmitted
    · intro hloading
      rcases hstep.binding_eq with hbinding | ⟨-, hloading'⟩
      · rw [hbinding]
        exact hthere.unset hloading
      · exact absurd (h.eq_of_isInside hfound hload (LoadStage.isInside_of_isLoading hloading)
          (LoadStage.isInside_of_isLoading hloading')) hother

theorem guarded_moved (h : race.Guarded) (hload : race.loads[number]? = some load)
    (hstep : load.stage.Step environment number load.caller race.slot race.state exchange stage
      slot state) : (race.moved number load.caller stage slot state).Guarded := by
  refine ⟨fun other found hfound => guard_moved h hload hstep hfound, ?_⟩
  intro other hholder
  rw [length_loads_moved]
  rcases hstep.holder_eq with ⟨hsame, -⟩ | ⟨-, htaken, -⟩ | ⟨-, hleft, -⟩
  · exact h.holder other (hsame.symm.trans hholder)
  · cases htaken.symm.trans hholder
    exact (List.getElem?_eq_some_iff.mp hload).1
  · cases hleft.symm.trans hholder

/-! ## Decided calls -/

structure Decided (race : Race σ) (order : List Nat)
    (answers : List (Nat × Outcome Refusal Handle)) : Prop where
  nodup : order.Nodup
  member : ∀ number ∈ order, number < race.loads.length
  answered : ∀ number load outcome, race.loads[number]? = some load →
    load.stage.outcome? = some outcome → number ∈ order ∧ (number, outcome) ∈ answers
  undecided : ∀ number load, race.loads[number]? = some load → load.stage.outcome? = none →
    number ∉ order

variable {order : List Nat} {answers : List (Nat × Outcome Refusal Handle)}

theorem Decided.moved (h : race.Decided order answers) (hload : race.loads[number]? = some load)
    (hsame : stage.outcome? = load.stage.outcome?) :
    (race.moved number load.caller stage slot state).Decided order answers := by
  refine ⟨h.nodup, ?_, ?_, ?_⟩
  · intro other hother
    rw [length_loads_moved]
    exact h.member other hother
  · intro other found outcome hfound houtcome
    rcases loads_moved_cases hfound with ⟨rfl, rfl⟩ | ⟨-, hfound⟩
    · exact h.answered other load outcome hload (hsame.symm.trans houtcome)
    · exact h.answered other found outcome hfound houtcome
  · intro other found hfound hnone
    rcases loads_moved_cases hfound with ⟨rfl, rfl⟩ | ⟨-, hfound⟩
    · exact h.undecided other load hload (hsame.symm.trans hnone)
    · exact h.undecided other found hfound hnone

theorem Decided.concat {outcome : Outcome Refusal Handle} (h : race.Decided order answers)
    (hload : race.loads[number]? = some load) (hnone : load.stage.outcome? = none)
    (hsome : stage.outcome? = some outcome) :
    (race.moved number load.caller stage slot state).Decided (order ++ [number])
      (answers ++ [(number, outcome)]) := by
  have hlt := (List.getElem?_eq_some_iff.mp hload).1
  have hnew := h.undecided number load hload hnone
  refine ⟨?_, ?_, ?_, ?_⟩
  · rw [← List.concat_eq_append]
    exact (List.nodup_concat order number).mpr ⟨hnew, h.nodup⟩
  · rw [length_loads_moved]
    exact List.forall_mem_append.mpr ⟨h.member, List.forall_mem_singleton.mpr hlt⟩
  · intro other found answer hfound hanswer
    rcases loads_moved_cases hfound with ⟨rfl, rfl⟩ | ⟨-, hfound⟩
    · rw [hsome] at hanswer
      cases hanswer
      exact ⟨List.mem_append_right _ (List.mem_singleton_self _),
        List.mem_append_right _ (List.mem_singleton_self _)⟩
    · rcases h.answered other found answer hfound hanswer with ⟨hmem, hanswered⟩
      exact ⟨List.mem_append_left _ hmem, List.mem_append_left _ hanswered⟩
  · intro other found hfound hother
    rcases loads_moved_cases hfound with ⟨rfl, rfl⟩ | ⟨hne, hfound⟩
    · rw [hsome] at hother
      cases hother
    · intro hmem
      rcases List.mem_append.mp hmem with hmem | hmem
      · exact h.undecided other found hfound hother hmem
      · exact hne (List.mem_singleton.mp hmem)

/-! ## Calls of services -/

/-- How the calls of services and the state that they have left go together with those that the
decided calls have made: they are the same, but for a keyring that a load has been given and has not
bound the anchor to. -/
inductive Agrees (environment : Environment σ) (race : Race σ) (opened : List Event)
    (serial : Serial σ) : Prop
  | settled (hnone : ∀ (number : Nat) (load : Load), race.loads[number]? = some load →
        load.stage.handle? = none)
      (hstate : race.state = serial.world.state) (hopened : opened = serial.openings) :
      Agrees environment race opened serial
  | pending {number : Nat} {load : Load} {handle : Handle}
      (hload : race.loads[number]? = some load) (hhandle : load.stage.handle? = some handle)
      (hopen : (environment.service load.caller.service).openKeyring load.caller.name
        serial.world.state = (.ok handle, race.state))
      (hopened : opened = serial.openings ++ [load.caller.opening (.ok handle)]) :
      Agrees environment race opened serial

variable {opened : List Event} {serial later : Serial σ}

theorem Agrees.moved (h : race.Agrees environment opened serial)
    (hload : race.loads[number]? = some load) (hbefore : load.stage.handle? = none)
    (hafter : stage.handle? = none) (hstate : later.world.state = serial.world.state)
    (hopenings : later.openings = serial.openings) :
    (race.moved number load.caller stage slot race.state).Agrees environment opened later := by
  cases h with
  | settled hnone hsame hopened =>
    refine .settled ?_ (hsame.trans hstate.symm) (hopened.trans hopenings.symm)
    intro other found hfound
    rcases loads_moved_cases hfound with ⟨rfl, rfl⟩ | ⟨-, hfound⟩
    · exact hafter
    · exact hnone other found hfound
  | @pending other found handle hfound hhandle hopen hopened =>
    have hother : number ≠ other := by
      rintro rfl
      rw [hload] at hfound
      cases hfound
      rw [hbefore] at hhandle
      cases hhandle
    have hthere : (race.moved number load.caller stage slot race.state).loads[other]? =
        some found := (List.getElem?_set_ne hother).trans hfound
    refine .pending hthere hhandle ?_ ?_
    · rw [hstate]
      exact hopen
    · rw [hopenings]
      exact hopened

theorem Agrees.mem (h : race.Agrees environment opened serial) {event : Event}
    (hevent : event ∈ serial.openings) : event ∈ opened := by
  cases h with
  | settled _ _ hopened => exact hopened ▸ hevent
  | pending _ _ _ hopened => exact hopened ▸ List.mem_append_left _ hevent

/-- While a load is about to call its service, nothing is pending. -/
theorem Agrees.of_opening (h : race.Agrees environment opened serial) (hguarded : race.Guarded)
    (hload : race.loads[number]? = some load) (hopening : load.stage = .opening) :
    (∀ (number : Nat) (load : Load), race.loads[number]? = some load → load.stage.handle? = none) ∧
      race.state = serial.world.state ∧ opened = serial.openings := by
  cases h with
  | settled hnone hstate hopened => exact ⟨hnone, hstate, hopened⟩
  | @pending other found handle hfound hhandle hopen hopened =>
    have hinside : load.stage.isInside = true := by rw [hopening]; rfl
    have hsame := hguarded.eq_of_isInside hload hfound hinside
      (LoadStage.isInside_of_isLoading (LoadStage.isLoading_of_handle? hhandle))
    subst hsame
    rw [hload] at hfound
    cases hfound
    rw [hopening] at hhandle
    cases hhandle

/-- The load that has a handle to bind the anchor to is the one that is pending. -/
theorem Agrees.of_handle {handle : Handle} (h : race.Agrees environment opened serial)
    (hguarded : race.Guarded) (hload : race.loads[number]? = some load)
    (hhandle : load.stage.handle? = some handle) :
    (∀ other found, race.loads[other]? = some found → other ≠ number →
        found.stage.handle? = none) ∧
      (environment.service load.caller.service).openKeyring load.caller.name serial.world.state =
        (.ok handle, race.state) ∧
      opened = serial.openings ++ [load.caller.opening (.ok handle)] := by
  have hinside := LoadStage.isInside_of_isLoading (LoadStage.isLoading_of_handle? hhandle)
  cases h with
  | settled hnone =>
    rw [hnone number load hload] at hhandle
    cases hhandle
  | @pending other found handle' hfound hhandle' hopen hopened =>
    have hinside' := LoadStage.isInside_of_isLoading (LoadStage.isLoading_of_handle? hhandle')
    have hsame := hguarded.eq_of_isInside hload hfound hinside hinside'
    subst hsame
    rw [hload] at hfound
    cases hfound
    rw [hhandle] at hhandle'
    cases hhandle'
    refine ⟨?_, hopen, hopened⟩
    intro other found hfound hother
    cases hnone : found.stage.handle? with
    | none => rfl
    | some handle =>
      have hinside'' := LoadStage.isInside_of_isLoading (LoadStage.isLoading_of_handle? hnone)
      exact absurd (hguarded.eq_of_isInside hfound hload hinside'' hinside) hother

/-! ## The order of decisions -/

structure Linear (environment : Environment σ) (callers : List Caller) (race : Race σ)
    (events : List Event) (order : List Nat) (serial : Serial σ) : Prop where
  guarded : race.Guarded
  callers_eq : race.loads.map Load.caller = callers
  isProcess_eq : race.slot.anchor.isProcess = serial.world.anchor.isProcess
  binding_eq : race.slot.anchor.binding = serial.world.anchor.binding
  decided : race.Decided order serial.answers
  agrees : race.Agrees environment (openingsOf events) serial

variable {events : List Event}

theorem callers_moved (hload : race.loads[number]? = some load) :
    (race.moved number load.caller stage slot state).loads.map Load.caller =
      race.loads.map Load.caller := by
  have hcaller : (race.loads.map Load.caller)[number]? = some load.caller := by
    rw [List.getElem?_map, hload]
    rfl
  rcases List.getElem?_eq_some_iff.mp hcaller with ⟨hlt, hsame⟩
  rw [loads_moved, List.map_set]
  change (race.loads.map Load.caller).set number load.caller = _
  rw [← hsame, List.set_getElem_self]

theorem openingsOf_concat_of_quiet (hquiet : exchange.isOpening = false) (service : ServiceId) :
    openingsOf (events ++ [⟨service, 0, exchange⟩]) = openingsOf events := by
  simp only [openingsOf, List.filter_append, List.filter_cons, hquiet, Bool.false_eq_true, if_false,
    List.filter_nil, List.append_nil]

theorem openingsOf_concat_opening (caller : Caller) (answer : Outcome Errno Handle) :
    openingsOf (events ++ [caller.opening answer]) =
      openingsOf events ++ [caller.opening answer] :=
  List.filter_append _ _

/-- A step that decides a call by the anchor as it is serves it without a call of its service. -/
theorem Linear.concat (h : race.Linear environment callers events order serial)
    (hload : race.loads[number]? = some load)
    (hguarded : (race.moved number load.caller stage race.slot race.state).Guarded)
    (hquiet : exchange.isOpening = false) {outcome : Outcome Refusal Handle}
    (hnone : load.stage.outcome? = none) (hsome : stage.outcome? = some outcome)
    (hbefore : load.stage.handle? = none) (hafter : stage.handle? = none) :
    (race.moved number load.caller stage race.slot race.state).Linear environment callers
      (events ++ [⟨load.caller.service, 0, exchange⟩]) (order ++ [number])
      ⟨serial.answers ++ [(number, outcome)], serial.openings, serial.world⟩ := by
  refine ⟨hguarded, (callers_moved hload).trans h.callers_eq, h.isProcess_eq, h.binding_eq,
    h.decided.concat hload hnone hsome, ?_⟩
  rw [openingsOf_concat_of_quiet hquiet]
  exact h.agrees.moved hload hbefore hafter rfl rfl

/-- A step decides a call, which is then served after those that were decided before; or it leaves
open what the call comes to. -/
theorem linear_moved (h : race.Linear environment callers events order serial)
    (hload : race.loads[number]? = some load)
    (hstep : load.stage.Step environment number load.caller race.slot race.state exchange stage
      slot state) :
    let later := race.moved number load.caller stage slot state
    let events' := events ++ [⟨load.caller.service, 0, exchange⟩]
    (load.stage.outcome? = none ∧ stage.outcome?.isSome ∧
        later.Linear environment callers events' (order ++ [number])
          (serial.serve environment callers number)) ∨
      (stage.outcome? = load.stage.outcome? ∧
        later.Linear environment callers events' order serial) := by
  intro later events'
  have hguarded := guarded_moved h.guarded hload hstep
  have hguard := h.guarded.guard number load hload
  have hcallers : later.loads.map Load.caller = callers := (callers_moved hload).trans h.callers_eq
  have hisProcess : slot.anchor.isProcess = serial.world.anchor.isProcess :=
    hstep.isProcess_eq.trans h.isProcess_eq
  have hcaller : callers[number]? = some load.caller := by
    rw [← h.callers_eq, List.getElem?_map, hload]
    rfl
  have hserialRefused : load.caller.isRefused serial.world.anchor =
      load.caller.isRefused race.slot.anchor := by
    rw [Caller.isRefused, ← h.isProcess_eq]
    rfl
  have hquiet (hnot : exchange.isOpening = false) : openingsOf events' = openingsOf events :=
    openingsOf_concat_of_quiet hnot load.caller.service
  rcases load with ⟨caller, before⟩
  -- a call is decided where its load is answered, refused, has failed or has published
  cases hstep with
  | answered hbound =>
    rw [h.binding_eq] at hbound
    refine .inl ⟨rfl, rfl, ?_⟩
    rw [Serial.serve_of_bound hcaller hbound]
    exact h.concat hload hguarded rfl rfl rfl rfl rfl
  | refused hunset hrefused =>
    rw [h.binding_eq] at hunset
    refine .inl ⟨rfl, rfl, ?_⟩
    rw [Serial.serve_of_refused hcaller hunset (hserialRefused.trans hrefused)]
    exact h.concat hload hguarded rfl rfl rfl rfl rfl
  | found hbound =>
    rw [h.binding_eq] at hbound
    refine .inl ⟨rfl, rfl, ?_⟩
    rw [Serial.serve_of_bound hcaller hbound]
    exact h.concat hload hguarded rfl rfl rfl rfl rfl
  | waits | locks | missed | left =>
    refine .inr ⟨rfl, hguarded, hcallers, hisProcess, h.binding_eq, h.decided.moved hload rfl, ?_⟩
    rw [hquiet rfl]
    exact h.agrees.moved hload rfl rfl rfl rfl
  | opened hopen =>
    -- no other keyring is awaiting publication, since the lock is held here
    rcases h.agrees.of_opening h.guarded hload rfl with ⟨-, hstate, hopened⟩
    rw [hstate] at hopen
    refine .inr ⟨rfl, hguarded, hcallers, hisProcess, h.binding_eq, h.decided.moved hload rfl,
      .pending (loads_moved_self hload) rfl hopen ?_⟩
    rw [← hopened]
    exact openingsOf_concat_opening caller _
  | failed hopen =>
    rcases h.agrees.of_opening h.guarded hload rfl with ⟨hnone, hstate, hopened⟩
    have hunset := hguard.unset rfl
    have hadmitted := hguard.admitted rfl
    rw [hstate] at hopen
    rw [h.binding_eq] at hunset
    refine .inl ⟨rfl, rfl, ?_⟩
    rw [Serial.serve_of_failed hcaller hunset (hserialRefused.trans hadmitted) hopen]
    refine ⟨hguarded, hcallers, hisProcess, h.binding_eq, h.decided.concat hload rfl rfl,
      .settled ?_ rfl ?_⟩
    · intro other found hfound
      rcases loads_moved_cases hfound with ⟨rfl, rfl⟩ | ⟨-, hfound⟩
      · rfl
      · exact hnone other found hfound
    · rw [← hopened]
      exact openingsOf_concat_opening caller _
  | @published handle hunset =>
    rcases h.agrees.of_handle h.guarded hload rfl with ⟨hnone, hopen, hopened⟩
    have hadmitted := hguard.admitted rfl
    rw [h.binding_eq] at hunset
    refine .inl ⟨rfl, rfl, ?_⟩
    rw [Serial.serve_of_opened hcaller hunset (hserialRefused.trans hadmitted) hopen]
    refine ⟨hguarded, hcallers, hisProcess, rfl, h.decided.concat hload rfl rfl,
      .settled ?_ rfl ?_⟩
    · intro other found hfound
      rcases loads_moved_cases hfound with ⟨rfl, rfl⟩ | ⟨hne, hfound⟩
      · rfl
      · exact hnone other found hfound hne
    · rw [hquiet rfl]
      exact hopened
  | kept hbound =>
    rw [hguard.unset rfl] at hbound
    cases hbound

variable {start : World σ}

theorem linear_step (h : race.Linear environment callers events order
      (.ofOrder environment callers start order)) (number : Nat) :
    let decided := if race.scene.decides environment number then [number] else []
    ∃ (later : Race σ) (more : List Event),
      race.scene.step environment number = (later.scene, more) ∧
      later.Linear environment callers (events ++ more) (order ++ decided)
        (.ofOrder environment callers start (order ++ decided)) := by
  intro decided
  rcases race.turn_step environment number with ⟨later, more, hstep, hturn⟩
  refine ⟨later, more, hstep, ?_⟩
  have hdecides : race.scene.decides environment number = ((race.scene.decision? number).isNone &&
      (later.scene.decision? number).isSome) := by
    rw [Scene.decides, hstep]
  rw [decision?_scene, decision?_scene] at hdecides
  cases hturn with
  | idle =>
    have hnot : decided = [] := by
      refine if_neg (Bool.eq_false_iff.mp (hdecides.trans ?_))
      cases (race.loads[number]?).bind fun load => load.stage.outcome? <;> rfl
    rw [hnot, List.append_nil, List.append_nil]
    exact h
  | @moved load exchange stage slot state hload hmoved =>
    rw [hload, loads_moved_self hload] at hdecides
    change _ = (load.stage.outcome?.isNone && stage.outcome?.isSome) at hdecides
    rcases linear_moved h hload hmoved with ⟨hnone, hsome, hlinear⟩ | ⟨hsame, hlinear⟩
    · have hyes : decided = [number] := by
        refine if_pos (hdecides.trans ?_)
        rw [hnone, hsome]
        rfl
      rw [hyes, Serial.ofOrder_concat]
      exact hlinear
    · have hnot : decided = [] := by
        refine if_neg (Bool.eq_false_iff.mp (hdecides.trans ?_))
        rw [hsame]
        cases load.stage.outcome? <;> rfl
      rw [hnot, List.append_nil]
      exact hlinear

/-- At any time the calls that have been decided have come to what they come to one after the other,
in the order in which they were decided. -/
theorem linear_run (h : race.Linear environment callers events order
      (.ofOrder environment callers start order)) (schedule : List Nat) :
    ∃ (later : Race σ) (more : List Event),
      race.scene.run environment schedule = (later.scene, more) ∧
      later.Linear environment callers (events ++ more)
        (order ++ race.scene.decisions environment schedule)
        (.ofOrder environment callers start
          (order ++ race.scene.decisions environment schedule)) := by
  induction schedule generalizing race events order with
  | nil =>
    refine ⟨race, [], rfl, ?_⟩
    rw [Scene.decisions, List.append_nil, List.append_nil]
    exact h
  | cons turn schedule ih =>
    rcases linear_step h turn with ⟨between, first, hstep, hbetween⟩
    rcases ih hbetween with ⟨later, rest, hrun, hlater⟩
    refine ⟨later, first ++ rest, ?_, ?_⟩
    · rw [Scene.run, hstep]
      simp only [hrun]
    · rw [Scene.decisions, hstep, ← List.append_assoc, ← List.append_assoc]
      exact hlater

end Race

end TrustedKeyring
