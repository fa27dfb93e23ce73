import TrustedKeyring.Proofs.TrustAnchor.Progress

/-!
# Loads at the same time

Any number of callers load one anchor at the same time, each through its service, with its name and
its owner.  However they take turns, the keyring is loaded once at most, and what they come to is
what they come to one after the other (`TrustAnchor.safe_loads`).
-/

namespace TrustedKeyring

variable {σ α : Type} {environment : Environment σ} {callers : List Caller} {start : World σ}
  {number : Nat} {schedule : List Nat}

def TrustAnchor.loading (callers : List Caller) (start : World σ) : Scene σ Handle where
  state := start.state
  slots := [⟨start.anchor, none⟩]
  threads := callers.map fun caller => ⟨0, caller.service, 0, caller.operation⟩

def Event.isPublication (event : Event) : Bool :=
  match event.exchange.request with
  | .bind _ => true
  | _ => false

def Scene.IsOpening (scene : Scene σ α) (number : Nat) : Prop :=
  ∃ thread name next, scene.threads[number]? = some thread ∧
    thread.rest = .interact (.openKeyring name) next

theorem Scene.decisions_append (environment : Environment σ) (scene : Scene σ α)
    (before after : List Nat) : scene.decisions environment (before ++ after) =
      scene.decisions environment before ++
        (scene.run environment before).1.decisions environment after := by
  induction before generalizing scene with
  | nil => rfl
  | cons turn before ih =>
    change _ ++ (scene.step environment turn).1.decisions environment (before ++ after) = _
    rw [ih, ← List.append_assoc]
    rfl

namespace Race

/-! ## The start -/

def begin (callers : List Caller) (start : World σ) : Race σ :=
  ⟨start.state, ⟨start.anchor, none⟩, callers.map fun caller => ⟨caller, .looking⟩⟩

theorem scene_begin (callers : List Caller) (start : World σ) :
    (begin callers start).scene = TrustAnchor.loading callers start := by
  have hthreads : (callers.map fun caller => Load.mk caller .looking).map Load.thread =
      callers.map fun caller => ⟨0, caller.service, 0, caller.operation⟩ := by
    rw [List.map_map]
    refine List.map_congr_left fun caller _ => ?_
    rw [caller.operation_eq_look]
    rfl
  exact congrArg (Scene.mk start.state [⟨start.anchor, none⟩]) hthreads

theorem looking_of_begin {load : Load} (h : (begin callers start).loads[number]? = some load) :
    callers[number]? = some load.caller ∧ load.stage = .looking := by
  rw [begin, List.getElem?_map] at h
  rcases Option.map_eq_some_iff.mp h with ⟨caller, hcaller, rfl⟩
  exact ⟨hcaller, rfl⟩

theorem decision?_loading (callers : List Caller) (start : World σ) (number : Nat) :
    (TrustAnchor.loading callers start).decision? number = none := by
  rw [← scene_begin, decision?_scene]
  cases hload : (begin callers start).loads[number]? with
  | none => rfl
  | some load =>
    rw [Option.bind_some, (looking_of_begin hload).2]
    rfl

theorem linear_begin (environment : Environment σ) (callers : List Caller) (start : World σ) :
    (begin callers start).Linear environment callers [] []
      (.ofOrder environment callers start []) := by
  have hcallers : (begin callers start).loads.map Load.caller = callers := by
    rw [begin, List.map_map]
    exact List.map_id callers
  refine ⟨⟨?_, nofun⟩, hcallers, rfl, rfl, ⟨.nil, nofun, ?_, fun _ _ _ _ => List.not_mem_nil⟩,
    .settled ?_ rfl rfl⟩
  · intro number load hload
    have hlooking := (looking_of_begin hload).2
    refine ⟨?_, ?_, ?_⟩ <;> rw [hlooking]
    · exact iff_of_false Bool.false_ne_true nofun
    · exact nofun
    · exact nofun
  · intro number load outcome hload houtcome
    rw [(looking_of_begin hload).2] at houtcome
    cases houtcome
  · intro number load hload
    rw [(looking_of_begin hload).2]
    rfl

/-! ## Readers -/

variable {race later : Race σ} {events : List Event} {binding : Binding}

theorem Turn.binding_eq (h : race.Turn environment number later events)
    (hbound : race.slot.anchor.binding = some binding) :
    later.slot.anchor.binding = some binding := by
  cases h with
  | idle => exact hbound
  | moved _ hstep =>
    rcases hstep.binding_eq with hsame | ⟨hunset, -⟩
    · exact hsame.trans hbound
    · rw [hunset] at hbound
      cases hbound

theorem binding_run (hbound : race.slot.anchor.binding = some binding)
    (environment : Environment σ) (schedule : List Nat) :
    ((race.scene.run environment schedule).1.anchor 0).binding = some binding := by
  induction schedule generalizing race with
  | nil => exact hbound
  | cons turn schedule ih =>
    rcases race.turn_step environment turn with ⟨between, events, hstep, hturn⟩
    change (((race.scene.step environment turn).1.run environment schedule).1.anchor 0).binding = _
    rw [hstep]
    exact ih (hturn.binding_eq hbound)

/-- Whoever reads the anchor finds it as it is. -/
theorem Turn.anchor_eq (h : race.Turn environment number later events) {event : Event}
    (hevent : event ∈ events) {anchor : TrustAnchor}
    (hread : event.exchange = ⟨.readAnchor, anchor⟩) : anchor = race.slot.anchor := by
  cases h with
  | idle => cases hevent
  | moved _ hstep =>
    rw [List.mem_singleton.mp hevent] at hread
    exact hstep.anchor_eq hread

/-- Every reader finds no binding, or the one that the anchor has at the end. -/
theorem seen_run (environment : Environment σ) (race : Race σ) (schedule : List Nat) :
    ∀ event ∈ (race.scene.run environment schedule).2, ∀ anchor,
      event.exchange = ⟨.readAnchor, anchor⟩ → anchor.binding = none ∨
        anchor.binding = ((race.scene.run environment schedule).1.anchor 0).binding := by
  induction schedule generalizing race with
  | nil => exact List.forall_mem_nil _
  | cons turn schedule ih =>
    intro event hevent anchor hread
    rcases race.turn_step environment turn with ⟨between, events, hstep, hturn⟩
    change event ∈ (race.scene.step environment turn).2 ++
      ((race.scene.step environment turn).1.run environment schedule).2 at hevent
    change _ ∨ _ = (((race.scene.step environment turn).1.run environment
      schedule).1.anchor 0).binding
    rw [hstep] at hevent ⊢
    rcases List.mem_append.mp hevent with hevent | hevent
    · cases hbinding : anchor.binding with
      | none => exact .inl rfl
      | some binding =>
        rw [hturn.anchor_eq hevent hread] at hbinding
        exact .inr (binding_run (hturn.binding_eq hbinding) environment schedule).symm
    · exact ih between event hevent anchor hread

/-! ## Publications -/

theorem Turn.publications (h : race.Turn environment number later events)
    (hguarded : race.Guarded) :
    events.filter Event.isPublication = [] ∨
      (race.slot.anchor.binding = none ∧ later.slot.anchor.binding ≠ none ∧
        (events.filter Event.isPublication).length = 1) := by
  cases h with
  | idle => exact .inl rfl
  | @moved load exchange stage slot state hload hstep =>
    have hguard := hguarded.guard number load hload
    rcases load with ⟨caller, before⟩
    cases hstep with
    | published hunset => exact .inr ⟨hunset, Option.some_ne_none _, rfl⟩
    | kept hbound =>
      rw [hguard.unset rfl] at hbound
      cases hbound
    | _ => exact .inl rfl

theorem Turn.guarded (h : race.Turn environment number later events) (hguarded : race.Guarded) :
    later.Guarded := by
  cases h with
  | idle => exact hguarded
  | moved hload hstep => exact guarded_moved hguarded hload hstep

/-- An unset anchor is bound once at most, and a bound one is left as it is. -/
theorem publications_run (h : race.Guarded) (environment : Environment σ) (schedule : List Nat) :
    ((race.scene.run environment schedule).2.filter Event.isPublication).length ≤
      if race.slot.anchor.binding = none then 1 else 0 := by
  induction schedule generalizing race with
  | nil => exact Nat.zero_le _
  | cons turn schedule ih =>
    rcases race.turn_step environment turn with ⟨between, events, hstep, hturn⟩
    change (((race.scene.step environment turn).2 ++
      ((race.scene.step environment turn).1.run environment schedule).2).filter _).length ≤ _
    have hlater := ih (hturn.guarded h)
    rw [hstep, List.filter_append, List.length_append]
    rcases hturn.publications h with hnone | ⟨hunset, hbound, hone⟩
    · rw [hnone, List.length_nil, Nat.zero_add]
      refine Nat.le_trans hlater ?_
      cases hbinding : race.slot.anchor.binding with
      | none => split <;> decide
      | some binding => exact Nat.le_of_eq (by rw [hturn.binding_eq hbinding])
    · rw [if_neg hbound] at hlater
      rw [if_pos hunset]
      exact Nat.le_of_eq (by rw [hone, Nat.le_zero.mp hlater])

/-! ## The order at the end -/

variable {order : List Nat}

/-- The order of the decided calls, with the call at the end that has been given a keyring and has
not bound the anchor to it. -/
theorem Linear.exists_order (h : race.Linear environment callers events order
      (.ofOrder environment callers start order)) :
    ∃ last, (order ++ last).Nodup ∧ (∀ number ∈ order ++ last, number < callers.length) ∧
      let serial := Serial.ofOrder environment callers start (order ++ last)
      (∀ number load outcome, race.loads[number]? = some load →
          load.stage.outcome? = some outcome →
          number ∈ order ++ last ∧ (number, outcome) ∈ serial.answers) ∧
        serial.openings = openingsOf events ∧ serial.world.state = race.state := by
  have hlength : race.loads.length = callers.length := by
    rw [← h.callers_eq, List.length_map]
  have hmember := h.decided.member
  rw [hlength] at hmember
  cases h.agrees with
  | settled _ hstate hopened =>
    refine ⟨[], ?_⟩
    rw [List.append_nil]
    exact ⟨h.decided.nodup, hmember, h.decided.answered, hopened.symm, hstate.symm⟩
  -- a call that has loaded its keyring but has not bound the anchor comes last
  | @pending number load handle hload hhandle hopen hopened =>
    have hguard := h.guarded.guard number load hload
    have hloading := LoadStage.isLoading_of_handle? hhandle
    have hundecided := LoadStage.outcome?_of_isLoading hloading
    have hcaller : callers[number]? = some load.caller := by
      rw [← h.callers_eq, List.getElem?_map, hload]
      rfl
    have hunset := hguard.unset hloading
    rw [h.binding_eq] at hunset
    have hadmitted : load.caller.isRefused (Serial.ofOrder environment callers start
        order).world.anchor = false := by
      rw [Caller.isRefused, ← h.isProcess_eq]
      exact hguard.admitted (LoadStage.isAdmitted_of_isLoading hloading)
    have hnew := h.decided.undecided number load hload hundecided
    refine ⟨[number], ?_, ?_, ?_⟩
    · rw [← List.concat_eq_append]
      exact (List.nodup_concat order number).mpr ⟨hnew, h.decided.nodup⟩
    · exact List.forall_mem_append.mpr ⟨hmember, List.forall_mem_singleton.mpr
        (List.getElem?_eq_some_iff.mp hcaller).1⟩
    · rw [Serial.ofOrder_concat, Serial.serve_of_opened hcaller hunset hadmitted hopen]
      refine ⟨fun other found outcome hfound houtcome => ?_, hopened.symm, rfl⟩
      rcases h.decided.answered other found outcome hfound houtcome with ⟨hmem, hanswered⟩
      exact ⟨List.mem_append_left _ hmem, List.mem_append_left _ hanswered⟩

/-! ## Outcomes -/

theorem load_of_outcome? {outcome : Outcome Refusal Handle}
    (h : race.scene.outcome? number = some outcome) :
    ∃ load, race.loads[number]? = some load ∧ load.stage.outcome? = some outcome := by
  rcases Scene.outcome?_eq_some_iff.mp h with ⟨thread, hthread, hdone⟩
  have hdecision : race.scene.decision? number = some outcome := by
    rw [Scene.decision?, hthread, Option.bind_some, hdone]
    rfl
  rw [decision?_scene] at hdecision
  exact Option.bind_eq_some_iff.mp hdecision

theorem load_of_isOpening (h : race.scene.IsOpening number) :
    ∃ load, race.loads[number]? = some load ∧ load.stage = .opening := by
  rcases h with ⟨thread, name, next, hthread, hrest⟩
  change (race.loads.map Load.thread)[number]? = some thread at hthread
  rw [List.getElem?_map] at hthread
  rcases Option.map_eq_some_iff.mp hthread with ⟨⟨caller, stage⟩, hload, rfl⟩
  refine ⟨⟨caller, stage⟩, hload, ?_⟩
  cases stage with
  | opening => rfl
  | looking | waiting | rechecking | publishing | leaving | ended => cases hrest

theorem Guarded.eq_of_isOpening (h : race.Guarded) {first second : Nat}
    (hfirst : race.scene.IsOpening first) (hsecond : race.scene.IsOpening second) :
    first = second := by
  rcases load_of_isOpening hfirst with ⟨load, hload, hstage⟩
  rcases load_of_isOpening hsecond with ⟨other, hother, hstage'⟩
  exact h.eq_of_isInside hload hother (by rw [hstage]; rfl) (by rw [hstage']; rfl)

/-- Once a keyring has been loaded, no load calls its service any more. -/
theorem Linear.not_isOpening (h : race.Linear environment callers events order
      (.ofOrder environment callers start order)) {event : Event} {handle : Handle}
    (hevent : event ∈ openingsOf events) (hopened : event.opened? = some handle) (number : Nat) :
    ¬race.scene.IsOpening number := by
  intro hopening
  rcases load_of_isOpening hopening with ⟨load, hload, hstage⟩
  have hunset := (h.guarded.guard number load hload).unset (by rw [hstage]; rfl)
  rw [h.binding_eq] at hunset
  have hfailed := ((Serial.outlook_ofOrder environment callers start order).of_unset hunset).2
  rw [← (h.agrees.of_opening h.guarded hload hstage).2.2] at hfailed
  rw [hfailed event hevent] at hopened
  cases hopened

theorem Linear.origin (h : race.Linear environment callers events order
      (.ofOrder environment callers start order))
    (hbound : race.slot.anchor.binding = some binding) :
    start.anchor.binding = some binding ∨
      (start.anchor.binding = none ∧ ∃ caller ∈ callers, ∃ handle,
        binding = caller.binding handle ∧ caller.opening (.ok handle) ∈ events) := by
  have houtlook := Serial.outlook_ofOrder environment callers start order
  rcases houtlook.of_bound (h.binding_eq.symm.trans hbound) with
    hstart | ⟨hunset, caller, hcaller, handle, hbinding, hevent⟩
  · exact .inl hstart
  · have hmem := List.mem_of_mem_filter (h.agrees.mem hevent)
    exact .inr ⟨hunset, caller, hcaller, handle, hbinding, hmem⟩

theorem Linear.admitted (h : race.Linear environment callers events order
      (.ofOrder environment callers start order)) {handle : Handle}
    (houtcome : race.scene.outcome? number = some (.ok handle)) :
    ∃ caller, callers[number]? = some caller ∧
      race.slot.anchor.binding = some (caller.binding handle) := by
  rcases load_of_outcome? houtcome with ⟨load, hload, hdecided⟩
  have hanswer := (h.decided.answered number load _ hload hdecided).2
  rcases Serial.binding_of_answer hanswer with ⟨caller, hcaller, hbinding⟩
  exact ⟨caller, hcaller, h.binding_eq.trans hbinding⟩

/-- Calls that do not overlap are decided in their order: a call that has not begun when another has
ended comes after it. -/
theorem Linear.ordered (h : race.Linear environment callers events order
      (.ofOrder environment callers start order)) {first second : Nat} {rest : List Nat}
    (hended : ∃ outcome, race.scene.outcome? first = some outcome)
    (hbegins : race.scene.decision? second = none) (hsecond : second ∈ order ++ rest)
    (hlt : second < callers.length) : [first, second].Sublist (order ++ rest) := by
  rcases hended with ⟨outcome, houtcome⟩
  rcases load_of_outcome? houtcome with ⟨load, hload, hdecided⟩
  have hfirst := (h.decided.answered first load outcome hload hdecided).1
  have hnot : second ∉ order := by
    rw [← h.callers_eq, List.length_map] at hlt
    have hthere : race.loads[second]? = some race.loads[second] := List.getElem?_eq_getElem hlt
    rw [decision?_scene, hthere] at hbegins
    exact h.decided.undecided second _ hthere hbegins
  have hrest := (List.mem_append.mp hsecond).resolve_left hnot
  exact (List.singleton_sublist.mpr hfirst).append (List.singleton_sublist.mpr hrest)

end Race

/-! ## All together -/

/-- An order of callers that explains what they have come to, in a scene and by the events so far,
as what they come to one after the other. -/
structure SerialOrder (environment : Environment σ) (callers : List Caller) (start : World σ)
    (schedule : List Nat) (final : Scene σ Handle) (events : List Event) (order : List Nat) :
    Prop where
  nodup : order.Nodup
  member : ∀ number ∈ order, number < callers.length
  answers : ∀ number outcome, final.outcome? number = some outcome → number ∈ order ∧
    (number, outcome) ∈ (Serial.ofOrder environment callers start order).answers
  openings : (Serial.ofOrder environment callers start order).openings = openingsOf events
  state : (Serial.ofOrder environment callers start order).world.state = final.state
  /-- A caller that has not begun when another has ended comes after it. -/
  ordered : ∀ before after first second, schedule = before ++ after →
    (∃ outcome, ((TrustAnchor.loading callers start).run environment before).1.outcome? first =
      some outcome) →
    second ∉ before → second ∈ order → [first, second].Sublist order

/-- What holds of callers that load an anchor at the same time, in the scene that they have come to
and by the events so far. -/
structure SafeLoads (environment : Environment σ) (callers : List Caller) (start : World σ)
    (schedule : List Nat) (final : Scene σ Handle) (events : List Event) : Prop where
  exclusive : ∀ first second, final.IsOpening first → final.IsOpening second → first = second
  /-- The call that has loaded a keyring is the last one, and no other is begun after it. -/
  once : ∀ before event after handle, openingsOf events = before ++ event :: after →
    event.opened? = some handle → after = [] ∧ ∀ number, ¬final.IsOpening number
  published : (events.filter Event.isPublication).length ≤
    if start.anchor.binding = none then 1 else 0
  kept : ∀ before after binding, schedule = before ++ after →
    (((TrustAnchor.loading callers start).run environment before).1.anchor 0).binding =
      some binding → (final.anchor 0).binding = some binding
  /-- An anchor is bound to what it was bound to before, or to the handle that a caller has been
  given by its service, with the name and the owner of that caller. -/
  bound : ∀ binding, (final.anchor 0).binding = some binding →
    start.anchor.binding = some binding ∨
      (start.anchor.binding = none ∧ ∃ caller ∈ callers, ∃ handle,
        binding = caller.binding handle ∧ caller.opening (.ok handle) ∈ events)
  seen : ∀ event ∈ events, ∀ anchor, event.exchange = ⟨.readAnchor, anchor⟩ →
    anchor.binding = none ∨ anchor.binding = (final.anchor 0).binding
  /-- A caller that has been given a handle finds the anchor bound to it, under its own name and for
  its owner. -/
  admitted : ∀ number handle, final.outcome? number = some (.ok handle) →
    ∃ caller, callers[number]? = some caller ∧
      (final.anchor 0).binding = some (caller.binding handle)
  agreed : ∀ first second handle handle', final.outcome? first = some (.ok handle) →
    final.outcome? second = some (.ok handle') → handle = handle'
  serial : ∃ order, SerialOrder environment callers start schedule final events order
  /-- From wherever the callers have come to, all of them can end. -/
  ends : ∃ more, ∀ number < callers.length, ∃ outcome,
    (final.run environment more).1.outcome? number = some outcome

namespace Race

open TrustAnchor (loading)

theorem linear_loading (environment : Environment σ) (callers : List Caller) (start : World σ)
    (schedule : List Nat) : ∃ race : Race σ,
      ((loading callers start).run environment schedule).1 = race.scene ∧
      race.Linear environment callers ((loading callers start).run environment schedule).2
        ((loading callers start).decisions environment schedule)
        (.ofOrder environment callers start
          ((loading callers start).decisions environment schedule)) := by
  rcases linear_run (linear_begin environment callers start) schedule with
    ⟨race, events, hrun, hlinear⟩
  rw [scene_begin] at hrun hlinear
  rw [hrun]
  exact ⟨race, rfl, hlinear⟩

/-- The order of the decisions explains what callers have come to, at any time. -/
theorem exists_serialOrder (environment : Environment σ) (callers : List Caller)
    (start : World σ) (schedule : List Nat) : ∃ order,
      SerialOrder environment callers start schedule
        ((loading callers start).run environment schedule).1
        ((loading callers start).run environment schedule).2 order := by
  rcases linear_loading environment callers start schedule with ⟨race, hscene, hlinear⟩
  rcases hlinear.exists_order with ⟨last, hnodup, hmember, hanswers, hopenings, hstate⟩
  rw [hscene]
  refine ⟨_, hnodup, hmember, ?_, hopenings, hstate, ?_⟩
  · intro number outcome houtcome
    rcases load_of_outcome? houtcome with ⟨load, hload, hdecided⟩
    exact hanswers number load outcome hload hdecided
  · intro before after first second hschedule hended hbegins hsecond
    have hlt := hmember second hsecond
    rcases linear_loading environment callers start before with ⟨between, hbetween, hearlier⟩
    have hundecided : between.scene.decision? second = none := by
      rw [← hbetween, Scene.decision?, Scene.threads_run_of_not_mem _ _ hbegins]
      exact decision?_loading callers start second
    rw [hschedule, Scene.decisions_append, List.append_assoc] at hsecond ⊢
    rw [hbetween] at hended
    exact hearlier.ordered hended hundecided hsecond hlt

end Race

/-- Callers that load one anchor at the same time load one keyring at most, and come to what they
come to one after the other. -/
theorem TrustAnchor.safe_loads (environment : Environment σ) (callers : List Caller)
    (start : World σ) (schedule : List Nat) :
    SafeLoads environment callers start schedule
      ((loading callers start).run environment schedule).1
      ((loading callers start).run environment schedule).2 := by
  have hserial := Race.exists_serialOrder environment callers start schedule
  have hpublished := Race.publications_run (Race.linear_begin environment callers start).guarded
    environment schedule
  have hseen := Race.seen_run environment (Race.begin callers start) schedule
  rw [Race.scene_begin] at hpublished hseen
  -- bindings are kept from any point of the schedule on
  have hkept : ∀ before after binding, schedule = before ++ after →
      (((loading callers start).run environment before).1.anchor 0).binding = some binding →
        (((loading callers start).run environment schedule).1.anchor 0).binding = some binding := by
    intro before after binding hschedule hbound
    rcases Race.linear_loading environment callers start before with ⟨between, hbetween, -⟩
    rw [hbetween] at hbound
    rw [hschedule, Scene.run_append]
    change ((((loading callers start).run environment before).1.run environment
      after).1.anchor 0).binding = some binding
    rw [hbetween]
    exact Race.binding_run hbound environment after
  rcases Race.linear_loading environment callers start schedule with ⟨race, hscene, hlinear⟩
  have hlength : race.loads.length = callers.length := by
    rw [← hlinear.callers_eq, List.length_map]
  generalize ((loading callers start).run environment schedule).2 = events at *
  rw [hscene] at hkept hseen hserial ⊢
  refine ⟨?exclusive, ?once, hpublished, hkept, ?bound, hseen, ?admitted, ?agreed, hserial, ?ends⟩
  case exclusive =>
    intro first second hfirst hsecond
    exact hlinear.guarded.eq_of_isOpening hfirst hsecond
  case once =>
    intro before event after handle hopenings hopened
    rcases hserial with ⟨order, hserial⟩
    have houtlook := Serial.outlook_ofOrder environment callers start order
    rw [hserial.openings] at houtlook
    have hevent : event ∈ openingsOf events :=
      hopenings ▸ List.mem_append_right _ List.mem_cons_self
    exact ⟨houtlook.eq_nil_of_opened hopenings hopened, hlinear.not_isOpening hevent hopened⟩
  case bound => exact fun binding hbound => hlinear.origin hbound
  case admitted => exact fun number handle houtcome => hlinear.admitted houtcome
  case agreed =>
    intro first second handle handle' hfirst hsecond
    rcases hlinear.admitted hfirst with ⟨caller, -, hbinding⟩
    rcases hlinear.admitted hsecond with ⟨other, -, hbinding'⟩
    exact congrArg Binding.handle (Option.some.inj (hbinding.symm.trans hbinding'))
  case ends =>
    rw [← hlength]
    exact Race.exists_ends hlinear.guarded environment

end TrustedKeyring
