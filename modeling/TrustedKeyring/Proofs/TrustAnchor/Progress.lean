import TrustedKeyring.Proofs.TrustAnchor.Race

/-!
# Ends of races

However far the loads of a race have come, turns can be given to them so that all of them end
(`Race.exists_ends`): the one that holds the lock goes first, and then one after the other.
-/

namespace TrustedKeyring

variable {σ : Type} {environment : Environment σ}

namespace LoadStage

def remaining : LoadStage → Nat
  | looking => 6
  | waiting => 5
  | rechecking => 4
  | opening => 3
  | publishing _ => 2
  | leaving _ _ => 1
  | ended _ => 0

theorem Step.remaining_lt {number : Nat} {caller : Caller} {slot slot' : Slot} {state state' : σ}
    {stage stage' : LoadStage} {exchange : Exchange}
    (h : stage.Step environment number caller slot state exchange stage' slot' state') :
    stage'.remaining < stage.remaining := by
  cases h <;> simp [remaining]

/-- A load that has not ended has an interaction, which is for the lock only while it waits. -/
theorem rest_eq_interact (caller : Caller) {stage : LoadStage}
    (hends : ∀ outcome, stage ≠ .ended outcome) :
    ∃ request next, stage.rest caller = .interact request next ∧
      (request = .lock → stage = .waiting) := by
  cases stage with
  | ended outcome => exact absurd rfl (hends outcome)
  | waiting => exact ⟨_, _, rfl, fun _ => rfl⟩
  | looking | rechecking | opening | publishing | leaving => exact ⟨_, _, rfl, nofun⟩

end LoadStage

namespace Race

variable {race : Race σ} {number : Nat} {load : Load}

theorem threads_scene (hload : race.loads[number]? = some load) :
    race.scene.threads[number]? = some load.thread := by
  change (race.loads.map Load.thread)[number]? = _
  rw [List.getElem?_map, hload]
  rfl

/-- A load that has not ended takes a step in its turn, unless it waits for the lock. -/
theorem exists_moved (hload : race.loads[number]? = some load)
    (hends : ∀ outcome, load.stage ≠ .ended outcome)
    (hfree : load.stage = .waiting → race.slot.holder = none) (environment : Environment σ) :
    ∃ exchange stage slot state,
      load.stage.Step environment number load.caller race.slot race.state exchange stage slot
        state ∧
      (race.scene.step environment number).1 =
        (race.moved number load.caller stage slot state).scene := by
  rcases LoadStage.rest_eq_interact load.caller hends with ⟨request, next, hrest, hlock⟩
  have hlocked : request = .lock → race.slot.holder = none := fun h => hfree (hlock h)
  rcases exists_step hrest hlocked environment number with ⟨stage, hstage, hstep⟩
  have hslot : race.scene.slots[load.thread.slot]? = some race.slot := rfl
  refine ⟨_, stage, _, _, hstep, ?_⟩
  rw [Scene.step_eq_taken (threads_scene hload) hslot hrest hlocked, taken_eq_moved hstage]

/-- A load that need not wait comes to its end by its own turns, and leaves the lock free. -/
theorem exists_end (h : race.Guarded) (hload : race.loads[number]? = some load)
    (hfree : race.slot.holder = none ∨ race.slot.holder = some number)
    (environment : Environment σ) :
    ∃ (schedule : List Nat) (later : Race σ),
      (race.scene.run environment schedule).1 = later.scene ∧ later.Guarded ∧
        later.slot.holder = none ∧ later.loads.length = race.loads.length ∧
        ∃ outcome, later.scene.outcome? number = some outcome := by
  -- induction on the stages that the load has before it; the lock is free or its own throughout
  induction hremaining : load.stage.remaining using Nat.strongRecOn generalizing race load with
  | ind remaining ih =>
    have houtside : load.stage.isInside = false → race.slot.holder = none := by
      intro hnot
      refine hfree.resolve_right fun hholder => ?_
      rw [(h.guard number load hload).locked.mpr hholder] at hnot
      cases hnot
    by_cases hended : ∃ outcome, load.stage = .ended outcome
    · rcases hended with ⟨outcome, hstage⟩
      have hnone : race.slot.holder = none := houtside (by rw [hstage]; rfl)
      have hdone : load.thread.rest = .done outcome := by
        rw [Load.thread, hstage]
        rfl
      exact ⟨[], race, rfl, h, hnone, rfl, outcome,
        Scene.outcome?_eq_some_iff.mpr ⟨load.thread, threads_scene hload, hdone⟩⟩
    · have hends : ∀ outcome, load.stage ≠ .ended outcome := fun outcome hstage =>
        hended ⟨outcome, hstage⟩
      have hwaits : load.stage = .waiting → race.slot.holder = none := fun hstage =>
        houtside (by rw [hstage]; rfl)
      rcases exists_moved hload hends hwaits environment with
        ⟨exchange, stage, slot, state, hstep, hscene⟩
      have hnext : slot.holder = none ∨ slot.holder = some number := by
        rcases hstep.holder_eq with ⟨hsame, -⟩ | ⟨-, htaken, -⟩ | ⟨-, hleft, -⟩
        · rw [hsame]
          exact hfree
        · exact .inr htaken
        · exact .inl hleft
      have hlt : stage.remaining < remaining := hremaining ▸ hstep.remaining_lt
      rcases ih _ hlt (guarded_moved h hload hstep) (loads_moved_self hload) hnext rfl with
        ⟨schedule, later, hrun, hguarded, hholder, hlength, houtcome⟩
      refine ⟨number :: schedule, later, ?_, hguarded, hholder,
        hlength.trans (length_loads_moved ..), houtcome⟩
      change ((race.scene.step environment number).1.run environment schedule).1 = later.scene
      rw [hscene]
      exact hrun

theorem exists_ends_of_free (h : race.Guarded) (hfree : race.slot.holder = none)
    (environment : Environment σ) {count : Nat} (hcount : count ≤ race.loads.length) :
    ∃ (schedule : List Nat) (later : Race σ),
      (race.scene.run environment schedule).1 = later.scene ∧ later.Guarded ∧
        later.slot.holder = none ∧ later.loads.length = race.loads.length ∧
        ∀ number < count, ∃ outcome, later.scene.outcome? number = some outcome := by
  induction count with
  | zero => exact ⟨[], race, rfl, h, hfree, rfl, nofun⟩
  | succ count ih =>
    rcases ih (Nat.le_of_succ_le hcount) with
      ⟨first, between, hrun, hguarded, hholder, hlength, hended⟩
    have hload : between.loads[count]? = some between.loads[count] :=
      List.getElem?_eq_getElem (by omega)
    rcases exists_end hguarded hload (.inl hholder) environment with
      ⟨second, later, hrun', hguarded', hholder', hlength', houtcome⟩
    refine ⟨first ++ second, later, ?_, hguarded', hholder', hlength'.trans hlength, ?_⟩
    · rw [Scene.run_append]
      change ((race.scene.run environment first).1.run environment second).1 = later.scene
      rw [hrun]
      exact hrun'
    · intro number hlt
      rcases Nat.lt_succ_iff_lt_or_eq.mp hlt with hlt | rfl
      · rcases hended number hlt with ⟨outcome, houtcome⟩
        exact ⟨outcome, hrun' ▸ Scene.outcome?_run houtcome environment second⟩
      · exact houtcome

/-- From wherever a race has come to, all of its loads can end. -/
theorem exists_ends (h : race.Guarded) (environment : Environment σ) :
    ∃ schedule, ∀ number < race.loads.length, ∃ outcome,
      (race.scene.run environment schedule).1.outcome? number = some outcome := by
  have hfree : ∃ (first : List Nat) (between : Race σ),
      (race.scene.run environment first).1 = between.scene ∧ between.Guarded ∧
        between.slot.holder = none ∧ between.loads.length = race.loads.length := by
    cases hholder : race.slot.holder with
    | none => exact ⟨[], race, rfl, h, hholder, rfl⟩
    | some number =>
      have hlt := h.holder number hholder
      have hload : race.loads[number]? = some race.loads[number] := List.getElem?_eq_getElem hlt
      rcases exists_end h hload (.inr hholder) environment with
        ⟨first, between, hrun, hguarded, hnone, hlength, -⟩
      exact ⟨first, between, hrun, hguarded, hnone, hlength⟩
  rcases hfree with ⟨first, between, hrun, hguarded, hnone, hlength⟩
  rcases exists_ends_of_free hguarded hnone environment (Nat.le_refl _) with
    ⟨second, later, hrun', -, -, -, hended⟩
  refine ⟨first ++ second, ?_⟩
  rw [Scene.run_append]
  change ∀ number < race.loads.length, ∃ outcome,
    ((race.scene.run environment first).1.run environment second).1.outcome? number = some outcome
  rw [hrun, hrun', ← hlength]
  exact hended

end Race

end TrustedKeyring
