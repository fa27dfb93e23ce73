import TrustedKeyring.Interleaving

/-!
# Turns of threads

In its turn a thread has one interaction, or nothing happens.  What is left of the other threads
stays as it is.
-/

namespace TrustedKeyring.Scene

variable {σ α : Type} {environment : Environment σ} {scene : Scene σ α} {number other : Nat}
  {thread : Thread α} {slot : Slot} {request : Interaction} {next : request.Answer → Operation α}
  {outcome : Outcome Refusal α}

def answer (environment : Environment σ) (scene : Scene σ α) (thread : Thread α) (slot : Slot)
    (request : Interaction) : request.Answer × World σ :=
  request.answer (environment.collaborators thread.service thread.primitive)
    ⟨slot.anchor, scene.state⟩

def taken (environment : Environment σ) (scene : Scene σ α) (number : Nat) (thread : Thread α)
    (slot : Slot) (request : Interaction) (next : request.Answer → Operation α) : Scene σ α :=
  let result := scene.answer environment thread slot request
  { state := result.2.state
    slots := scene.slots.set thread.slot ⟨result.2.anchor, slot.holderAfter number request⟩
    threads := scene.threads.set number { thread with rest := next result.1 } }

inductive Turn (environment : Environment σ) (scene : Scene σ α) (number : Nat) :
    Scene σ α × List Event → Prop
  | idle : Turn environment scene number (scene, [])
  | taken {thread : Thread α} {slot : Slot} {request : Interaction}
      {next : request.Answer → Operation α} (hthread : scene.threads[number]? = some thread)
      (hslot : scene.slots[thread.slot]? = some slot) (hrest : thread.rest = .interact request next)
      (hfree : request = .lock → slot.holder = none) :
      Turn environment scene number (scene.taken environment number thread slot request next,
        [⟨thread.service, thread.primitive,
          ⟨request, (scene.answer environment thread slot request).1⟩⟩])

theorem step_eq_taken (hthread : scene.threads[number]? = some thread)
    (hslot : scene.slots[thread.slot]? = some slot) (hrest : thread.rest = .interact request next)
    (hfree : request = .lock → slot.holder = none) :
    scene.step environment number = (scene.taken environment number thread slot request next,
      [⟨thread.service, thread.primitive,
        ⟨request, (scene.answer environment thread slot request).1⟩⟩]) := by
  have hproceeds : ¬(request = .lock ∧ slot.holder.isSome) := by
    rintro ⟨hlock, hheld⟩
    rw [hfree hlock] at hheld
    cases hheld
  simp only [step, hthread, hslot, hrest, if_neg hproceeds]
  rfl

theorem step_eq_of_done (hthread : scene.threads[number]? = some thread)
    (hrest : thread.rest = .done outcome) : scene.step environment number = (scene, []) := by
  simp only [step, hthread, hrest]
  cases scene.slots[thread.slot]? <;> rfl

theorem turn_step (environment : Environment σ) (scene : Scene σ α) (number : Nat) :
    scene.Turn environment number (scene.step environment number) := by
  cases hthread : scene.threads[number]? with
  | none =>
    simp only [step, hthread]
    exact .idle
  | some thread =>
    cases hslot : scene.slots[thread.slot]? with
    | none =>
      simp only [step, hthread, hslot]
      exact .idle
    | some slot =>
      cases hrest : thread.rest with
      | done outcome =>
        rw [step_eq_of_done hthread hrest]
        exact .idle
      | interact request next =>
        by_cases hwaits : request = .lock ∧ slot.holder.isSome
        · simp only [step, hthread, hslot, hrest, if_pos hwaits]
          exact .idle
        · have hfree : request = .lock → slot.holder = none := by
            intro hlock
            cases hholder : slot.holder with
            | none => rfl
            | some holder => exact absurd ⟨hlock, by rw [hholder]; rfl⟩ hwaits
          rw [step_eq_taken hthread hslot hrest hfree]
          exact .taken hthread hslot hrest hfree

theorem run_append (environment : Environment σ) (scene : Scene σ α) (before after : List Nat) :
    scene.run environment (before ++ after) =
      let first := scene.run environment before
      let second := first.1.run environment after
      (second.1, first.2 ++ second.2) := by
  induction before generalizing scene with
  | nil => rfl
  | cons turn before ih =>
    simp only [List.cons_append, run, ih, List.append_assoc]

theorem outcome?_eq_some_iff : scene.outcome? number = some outcome ↔
    ∃ thread, scene.threads[number]? = some thread ∧ thread.rest = .done outcome := by
  unfold outcome?
  cases hthread : scene.threads[number]? with
  | none => exact ⟨nofun, nofun⟩
  | some thread =>
    cases hrest : thread.rest with
    | done result =>
      simp only [Option.map_some, hrest, Option.some.injEq, exists_eq_left', Operation.done.injEq]
    | interact request next =>
      simp only [Option.map_some, hrest, Option.some.injEq, exists_eq_left', reduceCtorEq]

/-- A turn leaves the other threads as they are. -/
theorem threads_step_of_ne (environment : Environment σ) (scene : Scene σ α)
    (hne : number ≠ other) :
    (scene.step environment number).1.threads[other]? = scene.threads[other]? := by
  have hturn := scene.turn_step environment number
  generalize scene.step environment number = result at hturn ⊢
  cases hturn with
  | idle => rfl
  | taken => exact List.getElem?_set_ne hne

theorem threads_taken_self (hthread : scene.threads[number]? = some thread) :
    (scene.taken environment number thread slot request next).threads[number]? =
      some { thread with rest := next (scene.answer environment thread slot request).1 } := by
  rcases List.getElem?_eq_some_iff.mp hthread with ⟨hlt, -⟩
  exact List.getElem?_set_self hlt

/-- A thread that has ended stays as it is. -/
theorem threads_step_of_done (environment : Environment σ)
    (hthread : scene.threads[number]? = some thread) (hrest : thread.rest = .done outcome)
    (turn : Nat) : (scene.step environment turn).1.threads[number]? = some thread := by
  by_cases hturn : turn = number
  · rw [hturn, step_eq_of_done hthread hrest]
    exact hthread
  · rw [threads_step_of_ne environment scene hturn]
    exact hthread

theorem threads_run_of_done (environment : Environment σ)
    (hthread : scene.threads[number]? = some thread) (hrest : thread.rest = .done outcome)
    (schedule : List Nat) :
    (scene.run environment schedule).1.threads[number]? = some thread := by
  induction schedule generalizing scene with
  | nil => exact hthread
  | cons turn schedule ih => exact ih (threads_step_of_done environment hthread hrest turn)

theorem outcome?_run (h : scene.outcome? number = some outcome) (environment : Environment σ)
    (schedule : List Nat) : (scene.run environment schedule).1.outcome? number = some outcome := by
  rcases outcome?_eq_some_iff.mp h with ⟨thread, hthread, hdone⟩
  exact outcome?_eq_some_iff.mpr
    ⟨thread, threads_run_of_done environment hthread hdone schedule, hdone⟩

theorem threads_run_of_not_mem (environment : Environment σ) (scene : Scene σ α)
    {schedule : List Nat} (hnot : number ∉ schedule) :
    (scene.run environment schedule).1.threads[number]? = scene.threads[number]? := by
  induction schedule generalizing scene with
  | nil => rfl
  | cons turn schedule ih =>
    have hne : turn ≠ number := fun heq => hnot (heq ▸ List.mem_cons_self)
    have hrest : number ∉ schedule := fun hmem => hnot (List.mem_cons_of_mem turn hmem)
    exact (ih _ hrest).trans (threads_step_of_ne environment scene hne)

theorem length_threads_run (environment : Environment σ) (scene : Scene σ α)
    (schedule : List Nat) :
    (scene.run environment schedule).1.threads.length = scene.threads.length := by
  induction schedule generalizing scene with
  | nil => rfl
  | cons turn schedule ih =>
    have hstep : (scene.step environment turn).1.threads.length = scene.threads.length := by
      have hturn := scene.turn_step environment turn
      generalize scene.step environment turn = result at hturn ⊢
      cases hturn with
      | idle => rfl
      | taken => exact List.length_set
    exact (ih _).trans hstep

end TrustedKeyring.Scene
