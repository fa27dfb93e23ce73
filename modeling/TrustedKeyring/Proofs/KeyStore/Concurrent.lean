import TrustedKeyring.Proofs.Interleaving.Turn
import TrustedKeyring.Proofs.KeyStore.Sections

/-!
# Concurrent use of a key store

Calls of verifiers over one key store, taking turns interaction by interaction.  Of what they do
only the sections matter, in which keys are found and made: between two sections the contents of the
store stay as they are (`linked_sections`), a call enters one section at most
(`nodup_sections`), and it comes to what it would come to alone in the store that it finds there
(`outcome_of_sectioned`).
-/

namespace TrustedKeyring

variable {α : Type} {crypto : Crypto} {host : Host} {anchor : TrustAnchor}
  {start store next : KeyStore} {turns : Nat} {operation : Operation α} {number : Nat}

def KeyStore.environment (crypto : Crypto) (host : Host) : Environment KeyStore :=
  ⟨fun _ => KeyStore.service crypto, fun _ => KeyStore.primitive crypto, host⟩

/-- An operation of a verifier under way, which ends within a number of turns. -/
inductive Operation.UnderWay (anchor : TrustAnchor) (store : KeyStore) (turns : Nat)
    (operation : Operation α) : Prop
  | calling (h : Sectioned anchor turns operation) : UnderWay anchor store turns operation
  | settled (h : Settled store turns operation) : UnderWay anchor store turns operation

namespace Operation

theorem UnderWay.extends (h : UnderWay anchor store turns operation) (hext : store.Extends next) :
    UnderWay anchor next turns operation := by
  cases h with
  | calling h => exact .calling h
  | settled h => exact .settled (h.extends hext)

theorem UnderWay.done_of_zero (h : UnderWay anchor store turns operation) (hturns : turns = 0) :
    ∃ outcome, operation = .done outcome := by
  subst hturns
  cases h with
  | calling h => cases h with | ended _ outcome => exact ⟨outcome, rfl⟩
  | settled h =>
    cases h with
    | ended _ outcome => exact ⟨outcome, rfl⟩
    | returns hreturns => cases hreturns

theorem UnderWay.interaction {request : Interaction} {rest : request.Answer → Operation α}
    (h : UnderWay anchor store turns (.interact request rest)) (crypto : Crypto)
    (hcounted : ∀ key, (interact request rest).owes key ≤ store.referenceCount key) :
    let result := request.answer (TrustStore.collaborators crypto) ⟨anchor, store⟩
    request.keepsSlot = true ∧
    (∀ key, result.2.state.referenceCount key + (interact request rest).owes key =
      store.referenceCount key + (rest result.1).owes key) ∧
    ∃ fewer, turns = fewer + 1 ∧ UnderWay anchor result.2.state fewer (rest result.1) := by
  intro result
  cases h with
  | settled h =>
    rcases h.interaction crypto anchor hcounted with ⟨hslot, howed, fewer, hturns, -, hrest⟩
    exact ⟨hslot, howed, fewer, hturns, .settled hrest⟩
  | calling h =>
    rcases h.interaction crypto store with ⟨hslot, howed, fewer, hturns, hrest⟩
    refine ⟨hslot, fun key => ?_, fewer, hturns, ?_⟩
    · rw [h.owes_eq]
      exact howed key
    · split at hrest
      · exact .settled hrest
      · exact .calling hrest.2.1

end Operation

namespace Scene

variable {scene : Scene KeyStore α} {thread : Thread α} {slot : Slot} {request : Interaction}
  {rest : request.Answer → Operation α}

def owed (scene : Scene KeyStore α) (key : Handle) : Nat :=
  scene.threads.countP fun thread => thread.rest.key? = some key

/-- Every thread is a call of a verifier under way, and every reference that was given out since the
start is owed by a thread. -/
structure Concurrent (start : KeyStore) (scene : Scene KeyStore α) : Prop where
  underWay : ∀ thread ∈ scene.threads, ∃ slot turns, scene.slots[thread.slot]? = some slot ∧
    thread.rest.UnderWay slot.anchor scene.state turns
  counted : ∀ key, scene.state.referenceCount key = start.referenceCount key + scene.owed key

theorem owes_le_owed (hthread : scene.threads[number]? = some thread) (key : Handle) :
    thread.rest.owes key ≤ scene.owed key := by
  unfold Operation.owes
  split
  next howes =>
    exact List.countP_pos_iff.mpr
      ⟨thread, List.mem_of_getElem? hthread, decide_eq_true howes⟩
  next => exact Nat.zero_le _

theorem owed_set (hthread : scene.threads[number]? = some thread) (other : Thread α)
    (key : Handle) :
    (scene.threads.set number other).countP (fun thread => thread.rest.key? = some key) +
      thread.rest.owes key = scene.owed key + other.rest.owes key := by
  have hle := owes_le_owed hthread key
  rcases List.getElem?_eq_some_iff.mp hthread with ⟨hlt, rfl⟩
  rw [List.countP_set hlt]
  unfold owed Operation.owes at *
  simp only [decide_eq_true_eq] at *
  omega

theorem slots_taken (hslot : scene.slots[thread.slot]? = some slot)
    (hkeeps : request.keepsSlot = true) (environment : Environment KeyStore) :
    (scene.taken environment number thread slot request rest).slots = scene.slots := by
  have hsame : (scene.taken environment number thread slot request rest).slots =
      scene.slots.set thread.slot slot := by
    cases request with
    | lock | bind _ | unlock _ => cases hkeeps
    | _ => rfl
  rcases List.getElem?_eq_some_iff.mp hslot with ⟨hlt, rfl⟩
  rw [hsame, List.set_getElem_self]

/-- What happens in a scene happens to the store in steps. -/
theorem extends_taken (crypto : Crypto) (host : Host) (scene : Scene KeyStore α) (number : Nat)
    (thread : Thread α) (slot : Slot) (request : Interaction)
    (rest : request.Answer → Operation α) : scene.state.Extends
      (scene.taken (KeyStore.environment crypto host) number thread slot request rest).state :=
  KeyStore.extends_of_steps (KeyStore.steps_answer crypto request ⟨slot.anchor, scene.state⟩)

theorem extends_step (crypto : Crypto) (host : Host) (scene : Scene KeyStore α) (number : Nat) :
    scene.state.Extends (scene.step (KeyStore.environment crypto host) number).1.state := by
  have hturn := scene.turn_step (KeyStore.environment crypto host) number
  generalize scene.step (KeyStore.environment crypto host) number = result at hturn
  cases hturn with
  | idle => exact KeyStore.extends_refl _
  | taken => exact extends_taken _ _ _ _ _ _ _ _

theorem Concurrent.owes_le (h : scene.Concurrent start)
    (hthread : scene.threads[number]? = some thread) (key : Handle) :
    thread.rest.owes key ≤ scene.state.referenceCount key := by
  rw [h.counted]
  exact Nat.le_trans (owes_le_owed hthread key) (Nat.le_add_left _ _)

theorem concurrent_taken (h : scene.Concurrent start)
    (hthread : scene.threads[number]? = some thread)
    (hslot : scene.slots[thread.slot]? = some slot) (hrest : thread.rest = .interact request rest)
    (crypto : Crypto) (host : Host) :
    let later := scene.taken (KeyStore.environment crypto host) number thread slot request rest
    later.slots = scene.slots ∧ later.Concurrent start := by
  intro later
  have hmem := List.mem_of_getElem? hthread
  rcases h.underWay thread hmem with ⟨other, turns, hother, hunderWay⟩
  rw [hslot] at hother
  cases hother
  have hcounted := h.owes_le hthread
  rw [hrest] at hunderWay hcounted
  rcases hunderWay.interaction crypto hcounted with ⟨hkeeps, howed, fewer, -, hnext⟩
  have hslots : later.slots = scene.slots := slots_taken hslot hkeeps _
  refine ⟨hslots, ?_, ?_⟩
  · intro other hmem
    rw [hslots]
    rcases List.mem_or_eq_of_mem_set hmem with hmem | rfl
    · rcases h.underWay other hmem with ⟨otherSlot, otherTurns, hotherSlot, hother⟩
      exact ⟨otherSlot, otherTurns, hotherSlot, hother.extends (extends_taken _ _ _ _ _ _ _ _)⟩
    · exact ⟨slot, fewer, hslot, hnext⟩
  -- what the thread owes changes by as much as the count does
  · intro key
    have hset := owed_set hthread
      { thread with rest := rest (scene.answer (KeyStore.environment crypto host) thread slot
          request).1 } key
    have hchange := howed key
    have hbefore := h.counted key
    rw [hrest] at hset
    change later.state.referenceCount key + _ = _ at hchange
    change later.owed key + _ = _ at hset
    change _ = _ + (rest (scene.answer (KeyStore.environment crypto host) thread slot
      request).1).owes key at hchange hset
    omega

theorem concurrent_step (h : scene.Concurrent start) (crypto : Crypto) (host : Host)
    (number : Nat) :
    let later := (scene.step (KeyStore.environment crypto host) number).1
    later.slots = scene.slots ∧ later.Concurrent start := by
  intro later
  have hturn := scene.turn_step (KeyStore.environment crypto host) number
  generalize hresult : scene.step (KeyStore.environment crypto host) number = result at hturn
  have hlater : later = result.1 := congrArg Prod.fst hresult
  rw [hlater]
  cases hturn with
  | idle => exact ⟨rfl, h⟩
  | taken hthread hslot hrest _ => exact concurrent_taken h hthread hslot hrest crypto host

theorem concurrent_run (h : scene.Concurrent start) (crypto : Crypto) (host : Host)
    (schedule : List Nat) :
    (scene.run (KeyStore.environment crypto host) schedule).1.Concurrent start := by
  induction schedule generalizing scene with
  | nil => exact h
  | cons turn schedule ih => exact ih (concurrent_step h crypto host turn).2

/-! ## Sections -/

/-- A section of the store that a thread enters: what it finds there, and what it leaves. -/
structure Section where
  number : Nat
  found : KeyStore
  left : KeyStore

def enters (crypto : Crypto) (host : Host) (scene : Scene KeyStore α) (number : Nat) : Bool :=
  (scene.step (KeyStore.environment crypto host) number).2.any
    fun event => event.exchange.request.isSection crypto

def sections (crypto : Crypto) (host : Host) (scene : Scene KeyStore α) : List Nat → List Section
  | [] => []
  | turn :: schedule =>
    let later := (scene.step (KeyStore.environment crypto host) turn).1
    if scene.enters crypto host turn then
      ⟨turn, scene.state, later.state⟩ :: later.sections crypto host schedule
    else later.sections crypto host schedule

/-- Whether each section finds what the one before it has left, but for the references. -/
def Linked : KeyStore → List Section → KeyStore → Prop
  | store, [], last => store.SameContents last
  | store, entered :: sections, last =>
    store.SameContents entered.found ∧ Linked entered.left sections last

theorem sections_cons (turn : Nat) (schedule : List Nat) :
    (scene.enters crypto host turn = true ∧ scene.sections crypto host (turn :: schedule) =
        ⟨turn, scene.state, (scene.step (KeyStore.environment crypto host) turn).1.state⟩ ::
          (scene.step (KeyStore.environment crypto host) turn).1.sections crypto host schedule) ∨
      (scene.enters crypto host turn = false ∧ scene.sections crypto host (turn :: schedule) =
        (scene.step (KeyStore.environment crypto host) turn).1.sections crypto host schedule) := by
  cases henters : scene.enters crypto host turn with
  | true => exact .inl ⟨rfl, if_pos henters⟩
  | false => exact .inr ⟨rfl, if_neg (Bool.eq_false_iff.mp henters)⟩

/-- A turn in which a thread enters no section leaves it the sections that come later. -/
theorem mem_sections_of_not_enters {turn : Nat} {schedule : List Nat} {entered : Section}
    (henters : turn = number → scene.enters crypto host turn = false)
    (hnumber : entered.number = number) :
    entered ∈ scene.sections crypto host (turn :: schedule) ↔ entered ∈
      (scene.step (KeyStore.environment crypto host) turn).1.sections crypto host schedule := by
  rcases scene.sections_cons turn schedule with ⟨hentered, heq⟩ | ⟨-, heq⟩
  · have hhead : entered ≠
        ⟨turn, scene.state, (scene.step (KeyStore.environment crypto host) turn).1.state⟩ := by
      rintro rfl
      rw [henters hnumber] at hentered
      cases hentered
    rw [heq, List.mem_cons, or_iff_right hhead]
  · rw [heq]

theorem Linked.of_sameContents {sections : List Section} {last : KeyStore}
    (h : store.SameContents next) (hlinked : Linked next sections last) :
    Linked store sections last := by
  cases sections with
  | nil => exact h.trans hlinked
  | cons entered sections => exact ⟨h.trans hlinked.1, hlinked.2⟩

/-- Outside of the sections no more than references change. -/
theorem sameContents_answer (hsection : request.isSection crypto = false)
    (world : World KeyStore) : world.state.SameContents
      (request.answer (TrustStore.collaborators crypto) world).2.state := by
  cases request with
  | openKeyring _ | search _ _ _ _ => cases hsection
  | readAnchor | lock | unlock _ | check _ _ _ _ => exact KeyStore.sameContents_refl _
  | bind binding =>
    rw [Interaction.state_of_not_isCall rfl]
    exact KeyStore.sameContents_refl _
  | release key => exact KeyStore.sameContents_release _ _
  | add keyring kind payload =>
    rcases Operation.add_of_not_isSection hsection with ⟨errno, hrefused⟩
    have hsame : (world.state.add crypto keyring kind payload).2 = world.state := by
      rw [hrefused]
    change world.state.SameContents (world.state.add crypto keyring kind payload).2
    rw [hsame]
    exact KeyStore.sameContents_refl _

theorem sameContents_step (henters : scene.enters crypto host number = false) :
    scene.state.SameContents
      (scene.step (KeyStore.environment crypto host) number).1.state := by
  unfold enters at henters
  have hturn := scene.turn_step (KeyStore.environment crypto host) number
  generalize scene.step (KeyStore.environment crypto host) number = result at hturn henters ⊢
  cases hturn with
  | idle => exact KeyStore.sameContents_refl _
  | taken =>
    rw [List.any_cons, List.any_nil, Bool.or_false] at henters
    exact sameContents_answer henters _

/-- The sections follow upon one another as if nothing came between them. -/
theorem linked_sections (crypto : Crypto) (host : Host) (scene : Scene KeyStore α)
    (schedule : List Nat) : Linked scene.state (scene.sections crypto host schedule)
      (scene.run (KeyStore.environment crypto host) schedule).1.state := by
  induction schedule generalizing scene with
  | nil => exact KeyStore.sameContents_refl _
  | cons turn schedule ih =>
    rcases scene.sections_cons turn schedule with ⟨-, heq⟩ | ⟨henters, heq⟩
    · rw [heq]
      exact ⟨KeyStore.sameContents_refl _, ih _⟩
    · rw [heq]
      exact .of_sameContents (sameContents_step henters) (ih _)

theorem extends_found {entered : Section} {schedule : List Nat}
    (h : entered ∈ scene.sections crypto host schedule) :
    scene.state.Extends entered.found := by
  induction schedule generalizing scene with
  | nil => cases h
  | cons turn schedule ih =>
    have hext := extends_step crypto host scene turn
    rcases scene.sections_cons turn schedule with ⟨-, heq⟩ | ⟨-, heq⟩
    · rw [heq] at h
      rcases List.mem_cons.mp h with rfl | h
      · exact KeyStore.extends_refl _
      · exact hext.trans (ih h)
    · rw [heq] at h
      exact hext.trans (ih h)

/-- What a section leaves is there in all sections after it. -/
theorem pairwise_sections (crypto : Crypto) (host : Host) (scene : Scene KeyStore α)
    (schedule : List Nat) : (scene.sections crypto host schedule).Pairwise
      fun first second => first.left.Extends second.found := by
  induction schedule generalizing scene with
  | nil => exact .nil
  | cons turn schedule ih =>
    rcases scene.sections_cons turn schedule with ⟨-, heq⟩ | ⟨-, heq⟩
    · rw [heq]
      exact .cons (fun _ h => extends_found h) (ih _)
    · rw [heq]
      exact ih _

theorem extends_or_extends {first second : Section} {schedule : List Nat}
    (hfirst : first ∈ scene.sections crypto host schedule)
    (hsecond : second ∈ scene.sections crypto host schedule) (hne : first ≠ second) :
    first.left.Extends second.found ∨ second.left.Extends first.found := by
  have hordered := List.pairwise_iff_getElem.mp (pairwise_sections crypto host scene schedule)
  rcases List.getElem_of_mem hfirst with ⟨i, hi, rfl⟩
  rcases List.getElem_of_mem hsecond with ⟨j, hj, rfl⟩
  rcases Nat.lt_trichotomy i j with hlt | rfl | hlt
  · exact .inl (hordered i j hi hj hlt)
  · exact absurd rfl hne
  · exact .inr (hordered j i hj hi hlt)

/-! ## One thread and its section -/

/-- A thread that is not at the end has its next interaction in its turn. -/
theorem step_eq_taken_of_concurrent (h : scene.Concurrent start)
    (hthread : scene.threads[number]? = some thread)
    (hslot : scene.slots[thread.slot]? = some slot) (hrest : thread.rest = .interact request rest)
    (crypto : Crypto) (host : Host) :
    scene.step (KeyStore.environment crypto host) number =
      (scene.taken (KeyStore.environment crypto host) number thread slot request rest,
        [⟨thread.service, thread.primitive, ⟨request, (scene.answer
          (KeyStore.environment crypto host) thread slot request).1⟩⟩]) := by
  rcases h.underWay thread (List.mem_of_getElem? hthread) with ⟨other, turns, -, hunderWay⟩
  rw [hrest] at hunderWay
  refine step_eq_taken hthread hslot hrest ?_
  rintro rfl
  cases hunderWay with
  | calling h => cases h
  | settled h => cases h with | returns h => cases h

/-- A thread stays as it is in the turns of the others, and goes on in its own. -/
theorem thread_step (h : scene.Concurrent start) (hthread : scene.threads[number]? = some thread)
    (hslot : scene.slots[thread.slot]? = some slot) (crypto : Crypto) (host : Host) (turn : Nat) :
    let later := (scene.step (KeyStore.environment crypto host) turn).1
    (later.threads[number]? = some thread ∧ (turn = number →
        scene.enters crypto host turn = false ∧ ∃ outcome, thread.rest = .done outcome)) ∨
      (turn = number ∧ ∃ request rest, thread.rest = .interact request rest ∧
        scene.enters crypto host turn = request.isSection crypto ∧
        let result := request.answer (TrustStore.collaborators crypto) ⟨slot.anchor, scene.state⟩
        later.state = result.2.state ∧
          later.threads[number]? = some { thread with rest := rest result.1 }) := by
  intro later
  by_cases hturn : turn = number
  · subst hturn
    cases hrest : thread.rest with
    | done outcome =>
      refine .inl ⟨?_, fun _ => ⟨?_, outcome, rfl⟩⟩
      · change (scene.step _ turn).1.threads[turn]? = _
        rw [step_eq_of_done hthread hrest]
        exact hthread
      · rw [enters, step_eq_of_done hthread hrest]
        rfl
    | interact request rest =>
      have hstep := step_eq_taken_of_concurrent h hthread hslot hrest crypto host
      refine .inr ⟨rfl, request, rest, rfl, ?_, ?_, ?_⟩
      · rw [enters, hstep]
        exact Bool.or_false _
      · change (scene.step _ turn).1.state = _
        rw [hstep]
        rfl
      · change (scene.step _ turn).1.threads[turn]? = _
        rw [hstep]
        exact threads_taken_self hthread
  · refine .inl ⟨?_, fun hsame => absurd hsame hturn⟩
    exact (threads_step_of_ne (KeyStore.environment crypto host) scene hturn).trans hthread

/-- Whoever has a turn, a call that is done with the store stays so, and what it comes to is
settled. -/
theorem settled_step (h : scene.Concurrent start) (hthread : scene.threads[number]? = some thread)
    (hslot : scene.slots[thread.slot]? = some slot)
    (hsettled : thread.rest.Settled scene.state turns) (crypto : Crypto) (host : Host)
    (turn : Nat) :
    let later := (scene.step (KeyStore.environment crypto host) turn).1
    (turn = number → scene.enters crypto host turn = false) ∧
      ∃ thread' turns', later.threads[number]? = some thread' ∧ thread'.slot = thread.slot ∧
        thread'.rest.Settled later.state turns' ∧
        thread'.rest.alone crypto slot.anchor later.state =
          thread.rest.alone crypto slot.anchor scene.state := by
  intro later
  have hext := extends_step crypto host scene turn
  rcases thread_step h hthread hslot crypto host turn with
    ⟨hstays, henters⟩ | ⟨-, request, rest, hrest, henters, hstate, hgoes⟩
  · exact ⟨fun hturn => (henters hturn).1, thread, turns, hstays, rfl, hsettled.extends hext,
      hsettled.alone_eq hext crypto slot.anchor⟩
  · have hcounted := h.owes_le hthread
    rw [hrest] at hsettled hcounted
    rcases hsettled.interaction crypto slot.anchor hcounted with
      ⟨hkeeps, -, fewer, -, hsection, hnext⟩
    rw [← hstate] at hnext
    refine ⟨fun _ => henters.trans hsection, _, fewer, hgoes, rfl, hnext, ?_⟩
    rw [hrest, (Operation.alone_interact hkeeps crypto slot.anchor scene.state).1, ← hstate]

/-- A call that is done with the store enters no section, and comes to what it has settled for. -/
theorem outcome_of_settled (h : scene.Concurrent start)
    (hthread : scene.threads[number]? = some thread)
    (hslot : scene.slots[thread.slot]? = some slot)
    (hsettled : thread.rest.Settled scene.state turns) (crypto : Crypto) (host : Host)
    (schedule : List Nat) :
    (∀ entered ∈ scene.sections crypto host schedule, entered.number ≠ number) ∧
      ∀ outcome, (scene.run (KeyStore.environment crypto host) schedule).1.outcome? number =
          some outcome →
        outcome = thread.rest.alone crypto slot.anchor scene.state := by
  induction schedule generalizing scene thread turns with
  | nil =>
    refine ⟨List.forall_mem_nil _, ?_⟩
    intro outcome houtcome
    rcases outcome?_eq_some_iff.mp houtcome with ⟨other, hother, hdone⟩
    rw [show scene.threads[number]? = some other from hother] at hthread
    cases hthread
    rw [hdone]
    rfl
  | cons turn schedule ih =>
    rcases settled_step h hthread hslot hsettled crypto host turn with
      ⟨henters, thread', turns', hthread', hsame, hsettled', halone⟩
    rcases concurrent_step h crypto host turn with ⟨hslots, hlater⟩
    rw [← hsame, ← hslots] at hslot
    rcases ih hlater hthread' hslot hsettled' with ⟨hnot, houtcome⟩
    refine ⟨?_, fun outcome hrun => by rw [houtcome outcome hrun, halone]⟩
    intro entered hmem hnumber
    exact hnot entered ((mem_sections_of_not_enters henters hnumber).mp hmem) hnumber

/-- Whoever has a turn, a call that has not been to the store enters its section and is settled, or
what it would come to stays open. -/
theorem sectioned_step (h : scene.Concurrent start) (hthread : scene.threads[number]? = some thread)
    (hslot : scene.slots[thread.slot]? = some slot)
    (hsectioned : thread.rest.Sectioned slot.anchor turns) (crypto : Crypto) (host : Host)
    (turn : Nat) :
    let later := (scene.step (KeyStore.environment crypto host) turn).1
    ∃ thread' turns', later.threads[number]? = some thread' ∧ thread'.slot = thread.slot ∧
      ((turn = number ∧ scene.enters crypto host turn = true ∧
          thread'.rest.Settled later.state turns' ∧
          thread'.rest.alone crypto slot.anchor later.state =
            thread.rest.alone crypto slot.anchor scene.state ∧
          later.state.SameContents (thread.rest.leaves crypto slot.anchor scene.state)) ∨
        ((turn = number → scene.enters crypto host turn = false) ∧
          thread'.rest.Sectioned slot.anchor turns' ∧
          ∀ other, thread.rest.alone crypto slot.anchor other =
              thread'.rest.alone crypto slot.anchor other ∧
            thread.rest.leaves crypto slot.anchor other =
              thread'.rest.leaves crypto slot.anchor other)) := by
  intro later
  rcases thread_step h hthread hslot crypto host turn with
    ⟨hstays, henters⟩ | ⟨hturn, request, rest, hrest, henters, hstate, hgoes⟩
  · exact ⟨thread, turns, hstays, rfl,
      .inr ⟨fun hturn => (henters hturn).1, hsectioned, fun _ => ⟨rfl, rfl⟩⟩⟩
  · rw [hrest] at hsectioned ⊢
    rcases hsectioned.interaction crypto scene.state with ⟨hkeeps, -, fewer, -, hnext⟩
    refine ⟨_, fewer, hgoes, rfl, ?_⟩
    cases hsection : request.isSection crypto with
    | true =>
      rw [if_pos hsection, ← hstate] at hnext
      rcases @Operation.alone_interact α request rest hkeeps crypto slot.anchor scene.state with
        ⟨halone, hleaves⟩
      rw [← hstate] at halone hleaves
      rw [halone, hleaves]
      exact .inl ⟨hturn, henters.trans hsection, hnext, rfl,
        hnext.sameContents_leaves crypto slot.anchor⟩
    | false =>
      rw [if_neg (Bool.eq_false_iff.mp hsection)] at hnext
      exact .inr ⟨fun _ => henters.trans hsection, hnext.2.1, hnext.2.2⟩

/-- A call comes to what it would come to alone in the store that its section finds, and leaves what
it would leave; or it enters no section, and comes to the same in every store. -/
theorem outcome_of_sectioned (h : scene.Concurrent start)
    (hthread : scene.threads[number]? = some thread)
    (hslot : scene.slots[thread.slot]? = some slot)
    (hsectioned : thread.rest.Sectioned slot.anchor turns) (crypto : Crypto) (host : Host)
    (schedule : List Nat) :
    let final := (scene.run (KeyStore.environment crypto host) schedule).1
    (∃ entered ∈ scene.sections crypto host schedule, entered.number = number ∧
        entered.left.SameContents (thread.rest.leaves crypto slot.anchor entered.found) ∧
        ∀ outcome, final.outcome? number = some outcome →
          outcome = thread.rest.alone crypto slot.anchor entered.found) ∨
      ((∀ entered ∈ scene.sections crypto host schedule, entered.number ≠ number) ∧
        ∀ outcome, final.outcome? number = some outcome → ∀ other,
          outcome = thread.rest.alone crypto slot.anchor other ∧
            thread.rest.leaves crypto slot.anchor other = other) := by
  induction schedule generalizing scene thread turns with
  | nil =>
    refine .inr ⟨List.forall_mem_nil _, ?_⟩
    intro outcome houtcome other
    rcases outcome?_eq_some_iff.mp houtcome with ⟨ended, hended, hdone⟩
    rw [show scene.threads[number]? = some ended from hended] at hthread
    cases hthread
    rw [hdone]
    exact ⟨rfl, rfl⟩
  | cons turn schedule ih =>
    rcases sectioned_step h hthread hslot hsectioned crypto host turn with
      ⟨thread', turns', hthread', hsame, hstep⟩
    rcases concurrent_step h crypto host turn with ⟨hslots, hlater⟩
    rw [← hsame, ← hslots] at hslot
    -- in this turn the thread enters its section, or it is as far from it as if alone
    rcases hstep with ⟨hturn, henters, hsettled, halone, hleft⟩ | ⟨henters, hsectioned, hsame⟩
    · rcases scene.sections_cons turn schedule with ⟨-, heq⟩ | ⟨hnot, -⟩
      · rw [heq]
        refine .inl ⟨_, List.mem_cons_self, hturn, hleft, ?_⟩
        intro outcome houtcome
        rw [(outcome_of_settled hlater hthread' hslot hsettled crypto host schedule).2 outcome
          houtcome, halone]
      · rw [henters] at hnot
        cases hnot
    · rcases ih hlater hthread' hslot hsectioned with
        ⟨entered, hmem, hnumber, hleft, houtcome⟩ | ⟨hnot, houtcome⟩
      · rw [← (hsame entered.found).1] at houtcome
        rw [← (hsame entered.found).2] at hleft
        exact .inl ⟨entered, (mem_sections_of_not_enters henters hnumber).mpr hmem, hnumber, hleft,
          houtcome⟩
      · refine .inr ⟨?_, ?_⟩
        · intro entered hmem hnumber
          exact hnot entered ((mem_sections_of_not_enters henters hnumber).mp hmem) hnumber
        · intro outcome hrun other
          rw [(hsame other).1, (hsame other).2]
          exact houtcome outcome hrun other

/-- A thread that enters a section has settled what it comes to. -/
theorem settled_of_enters (h : scene.Concurrent start) {turn : Nat}
    (henters : scene.enters crypto host turn = true) :
    let later := (scene.step (KeyStore.environment crypto host) turn).1
    ∃ thread slot turns, later.threads[turn]? = some thread ∧
      later.slots[thread.slot]? = some slot ∧ thread.rest.Settled later.state turns := by
  intro later
  have hfound : ∃ thread slot, scene.threads[turn]? = some thread ∧
      scene.slots[thread.slot]? = some slot := by
    have hturn := scene.turn_step (KeyStore.environment crypto host) turn
    unfold enters at henters
    generalize scene.step (KeyStore.environment crypto host) turn = result at hturn henters
    cases hturn with
    | idle => cases henters
    | taken hthread hslot _ _ => exact ⟨_, _, hthread, hslot⟩
  rcases hfound with ⟨thread, slot, hthread, hslot⟩
  have hslots := (concurrent_step h crypto host turn).1
  rcases h.underWay thread (List.mem_of_getElem? hthread) with ⟨other, turns, hother, hunderWay⟩
  rw [hslot] at hother
  cases hother
  cases hunderWay with
  | settled hsettled =>
    have hnot := (settled_step h hthread hslot hsettled crypto host turn).1 rfl
    rw [henters] at hnot
    cases hnot
  | calling hsectioned =>
    rcases sectioned_step h hthread hslot hsectioned crypto host turn with
      ⟨thread', turns', hthread', hsame, ⟨-, -, hsettled, -, -⟩ | ⟨hnot, -⟩⟩
    · rw [← hsame, ← hslots] at hslot
      exact ⟨thread', slot, turns', hthread', hslot, hsettled⟩
    · rw [henters] at hnot
      cases hnot rfl

/-- A call enters one section at most. -/
theorem nodup_sections (h : scene.Concurrent start) (crypto : Crypto) (host : Host)
    (schedule : List Nat) :
    ((scene.sections crypto host schedule).map Section.number).Nodup := by
  induction schedule generalizing scene with
  | nil => exact List.nodup_nil
  | cons turn schedule ih =>
    have hlater := (concurrent_step h crypto host turn).2
    rcases scene.sections_cons turn schedule with ⟨henters, heq⟩ | ⟨-, heq⟩
    · rcases settled_of_enters h henters with ⟨thread, slot, turns, hthread, hslot, hsettled⟩
      have hnot := (outcome_of_settled hlater hthread hslot hsettled crypto host schedule).1
      rw [heq, List.map_cons, List.nodup_cons]
      refine ⟨?_, ih hlater⟩
      intro hmem
      rcases List.mem_map.mp hmem with ⟨entered, hentered, hnumber⟩
      exact hnot entered hentered hnumber
    · rw [heq]
      exact ih hlater

/-! ## Ends of calls -/

/-- A call that has had its turns has ended, whoever else has had turns. -/
theorem outcome?_of_turns (h : scene.Concurrent start)
    (hthread : scene.threads[number]? = some thread)
    (hslot : scene.slots[thread.slot]? = some slot)
    (hunderWay : thread.rest.UnderWay slot.anchor scene.state turns) (crypto : Crypto)
    (host : Host) {schedule : List Nat} (hturns : turns ≤ schedule.count number) :
    ∃ outcome, (scene.run (KeyStore.environment crypto host) schedule).1.outcome? number =
      some outcome := by
  -- every turn of its own brings the thread nearer to its end; the turns of others do not delay it
  induction schedule generalizing scene thread turns with
  | nil =>
    rw [List.count_nil, Nat.le_zero] at hturns
    rcases hunderWay.done_of_zero hturns with ⟨outcome, hdone⟩
    exact ⟨outcome, outcome?_eq_some_iff.mpr ⟨thread, hthread, hdone⟩⟩
  | cons turn schedule ih =>
    rcases concurrent_step h crypto host turn with ⟨hslots, hlater⟩
    have hext := extends_step crypto host scene turn
    rcases thread_step h hthread hslot crypto host turn with
      ⟨hstays, hdone⟩ | ⟨hturn, request, rest, hrest, -, hstate, hgoes⟩
    · rw [← hslots] at hslot
      by_cases hturn : turn = number
      · rcases (hdone hturn).2 with ⟨outcome, hdone⟩
        have hended := outcome?_eq_some_iff.mpr ⟨thread, hstays, hdone⟩
        exact ⟨outcome, outcome?_run hended _ schedule⟩
      · rw [List.count_cons_of_ne hturn] at hturns
        exact ih hlater hstays hslot (hunderWay.extends hext) hturns
    · have hcounted := h.owes_le hthread
      rw [hrest] at hunderWay hcounted
      rcases hunderWay.interaction crypto hcounted with ⟨-, -, fewer, hfewer, hnext⟩
      rw [← hstate] at hnext
      rw [hturn, List.count_cons_self, hfewer] at hturns
      rw [← hslots] at hslot
      exact ih hlater hgoes hslot hnext (Nat.le_of_succ_le_succ hturns)

/-- When no thread has a key, as many references are given out as at the start. -/
theorem Concurrent.referenceCount_eq (h : scene.Concurrent start)
    (hidle : ∀ thread ∈ scene.threads, thread.rest.key? = none) (key : Handle) :
    scene.state.referenceCount key = start.referenceCount key := by
  have howed : scene.owed key = 0 := by
    refine List.countP_eq_zero.mpr fun thread hmem => ?_
    rw [hidle thread hmem]
    exact Bool.false_ne_true
  rw [h.counted, howed, Nat.add_zero]

end Scene

end TrustedKeyring
