import Mathlib.Data.List.Induction
import TrustedKeyring.Proofs.TrustAnchor.Stage
import TrustedKeyring.Proofs.TrustAnchor.Visit

/-!
# Loads one after the other

What callers come to that load one anchor in turn, each to its end.
-/

namespace TrustedKeyring

variable {σ : Type} {environment : Environment σ} {callers : List Caller} {caller : Caller}
  {number : Nat}

def openingsOf (events : List Event) : List Event :=
  events.filter fun event => event.exchange.isOpening

def Event.opened? (event : Event) : Option Handle :=
  match event.exchange with
  | ⟨.openKeyring _, .ok handle⟩ => some handle
  | _ => none

def Caller.opening (caller : Caller) (answer : Outcome Errno Handle) : Event :=
  ⟨caller.service, 0, ⟨.openKeyring caller.name, answer⟩⟩

structure Serial (σ : Type) where
  answers : List (Nat × Outcome Refusal Handle)
  openings : List Event
  world : World σ

namespace Serial

variable {serial : Serial σ} {next : σ}

def serve (environment : Environment σ) (callers : List Caller) (serial : Serial σ)
    (number : Nat) : Serial σ :=
  match callers[number]? with
  | none => serial
  | some caller =>
    let run := caller.operation.run (environment.collaborators caller.service 0) serial.world
    ⟨serial.answers ++ [(number, run.outcome)],
      serial.openings ++
        openingsOf (run.exchanges.map fun exchange => ⟨caller.service, 0, exchange⟩),
      run.world⟩

def ofOrder (environment : Environment σ) (callers : List Caller) (world : World σ)
    (order : List Nat) : Serial σ :=
  order.foldl (serve environment callers) ⟨[], [], world⟩

theorem ofOrder_concat (environment : Environment σ) (callers : List Caller) (world : World σ)
    (order : List Nat) (number : Nat) : ofOrder environment callers world (order ++ [number]) =
      (ofOrder environment callers world order).serve environment callers number :=
  List.foldl_append

/-! ## One caller -/

theorem serve_of_run {run : Run σ Handle} (hcaller : callers[number]? = some caller)
    (hrun : caller.look.run (environment.collaborators caller.service 0) serial.world = run) :
    serial.serve environment callers number =
      ⟨serial.answers ++ [(number, run.outcome)],
        serial.openings ++ openingsOf
          (run.exchanges.map fun exchange => ⟨caller.service, 0, exchange⟩), run.world⟩ := by
  simp only [serve, hcaller, Caller.operation_eq_look, hrun]

theorem serve_of_bound {binding : Binding} (hcaller : callers[number]? = some caller)
    (hbound : serial.world.anchor.binding = some binding) (environment : Environment σ) :
    serial.serve environment callers number =
      ⟨serial.answers ++ [(number, caller.answer binding)], serial.openings, serial.world⟩ := by
  have hrun : caller.look.run (environment.collaborators caller.service 0) serial.world =
      ⟨caller.answer binding, serial.world, [⟨.readAnchor, serial.world.anchor⟩]⟩ := by
    simp only [Caller.look, Operation.run, Interaction.answer, hbound]
  rw [serve_of_run hcaller hrun]
  exact congrArg (Serial.mk _ · _) (List.append_nil _)

theorem serve_of_refused (hcaller : callers[number]? = some caller)
    (hunset : serial.world.anchor.binding = none)
    (hrefused : caller.isRefused serial.world.anchor = true) (environment : Environment σ) :
    serial.serve environment callers number =
      ⟨serial.answers ++ [(number, .error (.error ownerRequired))], serial.openings,
        serial.world⟩ := by
  have hrun : caller.look.run (environment.collaborators caller.service 0) serial.world =
      ⟨.error (.error ownerRequired), serial.world, [⟨.readAnchor, serial.world.anchor⟩]⟩ := by
    simp only [Caller.look, Operation.run, Interaction.answer, hunset, hrefused, if_true]
  rw [serve_of_run hcaller hrun]
  exact congrArg (Serial.mk _ · _) (List.append_nil _)

theorem serve_of_opened {handle : Handle} (hcaller : callers[number]? = some caller)
    (hunset : serial.world.anchor.binding = none)
    (hadmitted : caller.isRefused serial.world.anchor = false)
    (hopen : (environment.service caller.service).openKeyring caller.name serial.world.state =
      (.ok handle, next)) :
    serial.serve environment callers number =
      ⟨serial.answers ++ [(number, .ok handle)], serial.openings ++ [caller.opening (.ok handle)],
        ⟨{ serial.world.anchor with binding := some (caller.binding handle) }, next⟩⟩ := by
  have hrun : caller.look.run (environment.collaborators caller.service 0) serial.world =
      ⟨.ok handle, ⟨{ serial.world.anchor with binding := some (caller.binding handle) }, next⟩,
        [⟨.readAnchor, serial.world.anchor⟩, ⟨.lock, ()⟩, ⟨.readAnchor, serial.world.anchor⟩,
          ⟨.openKeyring caller.name, .ok handle⟩,
          ⟨.bind (caller.binding handle), caller.binding handle⟩, ⟨.unlock false, ()⟩]⟩ := by
    simp only [Caller.look, Caller.wait, Caller.recheck, Caller.openThrough, Caller.publish,
      Caller.leave, Caller.binding, Operation.run, Interaction.answer, hunset, hadmitted,
      Environment.collaborators, hopen, Bool.false_eq_true, if_false, Bool.or_false]
  rw [serve_of_run hcaller hrun]
  rfl

theorem serve_of_failed {failure : Failure Errno} (hcaller : callers[number]? = some caller)
    (hunset : serial.world.anchor.binding = none)
    (hadmitted : caller.isRefused serial.world.anchor = false)
    (hopen : (environment.service caller.service).openKeyring caller.name serial.world.state =
      (.error failure, next)) :
    serial.serve environment callers number =
      ⟨serial.answers ++ [(number, .error failure.ofOpening)],
        serial.openings ++ [caller.opening (.error failure)],
        ⟨{ serial.world.anchor with
          isPoisoned := serial.world.anchor.isPoisoned || failure.isPanic }, next⟩⟩ := by
  have hrun : caller.look.run (environment.collaborators caller.service 0) serial.world =
      ⟨.error failure.ofOpening, ⟨{ serial.world.anchor with
          isPoisoned := serial.world.anchor.isPoisoned || failure.isPanic }, next⟩,
        [⟨.readAnchor, serial.world.anchor⟩, ⟨.lock, ()⟩, ⟨.readAnchor, serial.world.anchor⟩,
          ⟨.openKeyring caller.name, .error failure⟩, ⟨.unlock failure.isPanic, ()⟩]⟩ := by
    simp only [Caller.look, Caller.wait, Caller.recheck, Caller.openThrough, Caller.leave,
      Operation.run, Interaction.answer, hunset, hadmitted, Environment.collaborators, hopen,
      Bool.false_eq_true, if_false]
  rw [serve_of_run hcaller hrun]
  rfl

inductive Served (environment : Environment σ) (number : Nat) (caller : Caller)
    (serial : Serial σ) : Serial σ → Prop
  | answered {binding : Binding} (hbound : serial.world.anchor.binding = some binding) :
      Served environment number caller serial
        ⟨serial.answers ++ [(number, caller.answer binding)], serial.openings, serial.world⟩
  | refused (hunset : serial.world.anchor.binding = none)
      (hrefused : caller.isRefused serial.world.anchor = true) :
      Served environment number caller serial
        ⟨serial.answers ++ [(number, .error (.error ownerRequired))], serial.openings,
          serial.world⟩
  | opened {handle : Handle} {next : σ} (hunset : serial.world.anchor.binding = none) :
      Served environment number caller serial
        ⟨serial.answers ++ [(number, .ok handle)],
          serial.openings ++ [caller.opening (.ok handle)],
          ⟨{ serial.world.anchor with binding := some (caller.binding handle) }, next⟩⟩
  | failed {failure : Failure Errno} {next : σ} (hunset : serial.world.anchor.binding = none) :
      Served environment number caller serial
        ⟨serial.answers ++ [(number, .error failure.ofOpening)],
          serial.openings ++ [caller.opening (.error failure)],
          ⟨{ serial.world.anchor with
            isPoisoned := serial.world.anchor.isPoisoned || failure.isPanic }, next⟩⟩

theorem served_serve (hcaller : callers[number]? = some caller) (environment : Environment σ)
    (serial : Serial σ) :
    Served environment number caller serial (serial.serve environment callers number) := by
  cases hbinding : serial.world.anchor.binding with
  | some binding =>
    rw [serve_of_bound hcaller hbinding]
    exact .answered hbinding
  | none =>
    cases hrefused : caller.isRefused serial.world.anchor with
    | true =>
      rw [serve_of_refused hcaller hbinding hrefused]
      exact .refused hbinding hrefused
    | false =>
      rcases hopen : (environment.service caller.service).openKeyring caller.name
        serial.world.state with ⟨failure | handle, next⟩
      · rw [serve_of_failed hcaller hbinding hrefused hopen]
        exact .failed hbinding
      · rw [serve_of_opened hcaller hbinding hrefused hopen]
        exact .opened hbinding

/-! ## All callers -/

/-- What has happened to an anchor and its callers: the anchor was bound before, or it is unset
since all calls have failed, or the last call has loaded the keyring that it is bound to. -/
inductive Outlook (callers : List Caller) (start : TrustAnchor) :
    TrustAnchor → List Event → Prop
  | bound {anchor : TrustAnchor} {binding : Binding} (hstart : start.binding = some binding)
      (hbound : anchor.binding = some binding) : Outlook callers start anchor []
  | unset {anchor : TrustAnchor} {openings : List Event} (hstart : start.binding = none)
      (hunset : anchor.binding = none) (hfailed : ∀ event ∈ openings, event.opened? = none) :
      Outlook callers start anchor openings
  | loaded {anchor : TrustAnchor} {openings : List Event} {caller : Caller} {handle : Handle}
      (hstart : start.binding = none) (hcaller : caller ∈ callers)
      (hbound : anchor.binding = some (caller.binding handle))
      (hfailed : ∀ event ∈ openings, event.opened? = none) :
      Outlook callers start anchor (openings ++ [caller.opening (.ok handle)])

theorem Outlook.of_unset {start anchor : TrustAnchor} {openings : List Event}
    (h : Outlook callers start anchor openings) (hunset : anchor.binding = none) :
    start.binding = none ∧ ∀ event ∈ openings, event.opened? = none := by
  cases h with
  | bound _ hbound | loaded _ _ hbound _ => rw [hunset] at hbound; cases hbound
  | unset hstart _ hfailed => exact ⟨hstart, hfailed⟩

theorem Outlook.of_bound {start anchor : TrustAnchor} {openings : List Event} {binding : Binding}
    (h : Outlook callers start anchor openings) (hbound : anchor.binding = some binding) :
    start.binding = some binding ∨ (start.binding = none ∧ ∃ caller ∈ callers, ∃ handle,
      binding = caller.binding handle ∧ caller.opening (.ok handle) ∈ openings) := by
  cases h with
  | bound hstart hsame =>
    rw [hsame] at hbound
    exact .inl (hstart.trans hbound)
  | unset _ hunset =>
    rw [hunset] at hbound
    cases hbound
  | loaded hstart hcaller hsame _ =>
    rw [hsame] at hbound
    cases hbound
    exact .inr ⟨hstart, _, hcaller, _, rfl,
      List.mem_append_right _ (List.mem_singleton_self _)⟩

/-- The call that loads the keyring is the last one. -/
theorem Outlook.eq_nil_of_opened {start anchor : TrustAnchor} {openings before after : List Event}
    {event : Event} {handle : Handle} (h : Outlook callers start anchor openings)
    (heq : openings = before ++ event :: after) (hopened : event.opened? = some handle) :
    after = [] := by
  cases h with
  | bound => cases before <;> cases heq
  | unset _ _ hfailed =>
    rw [heq] at hfailed
    rw [hfailed event (List.mem_append_right _ List.mem_cons_self)] at hopened
    cases hopened
  | loaded _ _ _ hfailed =>
    rcases List.eq_nil_or_concat after with hnil | ⟨rest, last, rfl⟩
    · exact hnil
    · rw [List.concat_eq_append, ← List.cons_append, ← List.append_assoc] at heq
      have hsame := (List.append_inj' heq rfl).1
      rw [hfailed event (hsame ▸ List.mem_append_right _ List.mem_cons_self)] at hopened
      cases hopened

theorem outlook_ofOrder (environment : Environment σ) (callers : List Caller) (start : World σ)
    (order : List Nat) :
    Outlook callers start.anchor (ofOrder environment callers start order).world.anchor
      (ofOrder environment callers start order).openings := by
  induction order using List.reverseRecOn with
  | nil =>
    cases hstart : start.anchor.binding with
    | some binding => exact .bound hstart hstart
    | none => exact .unset hstart hstart (List.forall_mem_nil _)
  | append_singleton order number ih =>
    rw [ofOrder_concat]
    cases hcaller : callers[number]? with
    | none => simpa only [serve, hcaller] using ih
    | some caller =>
      have hserved := served_serve hcaller environment (ofOrder environment callers start order)
      generalize (ofOrder environment callers start order).serve environment callers number =
        later at hserved ⊢
      -- only a caller that finds the anchor unset calls its service
      cases hserved with
      | answered | refused => exact ih
      | opened hunset =>
        rcases ih.of_unset hunset with ⟨hstart, hfailed⟩
        exact .loaded hstart (List.mem_of_getElem? hcaller) rfl hfailed
      | failed hunset =>
        rcases ih.of_unset hunset with ⟨hstart, hfailed⟩
        refine .unset hstart hunset ?_
        exact List.forall_mem_append.mpr ⟨hfailed, List.forall_mem_singleton.mpr rfl⟩

theorem eq_binding_of_answer {binding : Binding} {handle : Handle}
    (h : caller.answer binding = .ok handle) : binding = caller.binding handle := by
  have hadmission : Admission caller.name caller.owner binding (caller.answer binding) :=
    admission_check binding caller.name caller.owner
  rw [h] at hadmission
  exact hadmission.binding_eq

/-- Whoever has been given a handle finds the anchor bound to it. -/
theorem binding_of_answer {handle : Handle}
    (h : (number, .ok handle) ∈ (ofOrder environment callers start order).answers) :
    ∃ caller, callers[number]? = some caller ∧
      (ofOrder environment callers start order).world.anchor.binding =
        some (caller.binding handle) := by
  -- a later caller is answered by the binding that is there, or the anchor was unset
  induction order using List.reverseRecOn with
  | nil => cases h
  | append_singleton order last ih =>
    rw [ofOrder_concat] at h ⊢
    cases hlast : callers[last]? with
    | none =>
      simp only [serve, hlast] at h ⊢
      exact ih h
    | some caller =>
      have hserved := served_serve hlast environment (ofOrder environment callers start order)
      generalize (ofOrder environment callers start order).serve environment callers last =
        later at hserved h ⊢
      cases hserved with
      | answered hbound =>
        rcases List.mem_append.mp h with h | h
        · exact ih h
        · rcases Prod.mk.inj (List.mem_singleton.mp h) with ⟨rfl, hanswer⟩
          rw [eq_binding_of_answer hanswer.symm] at hbound
          exact ⟨caller, hlast, hbound⟩
      | refused =>
        rcases List.mem_append.mp h with h | h
        · exact ih h
        · cases List.mem_singleton.mp h
      | opened hunset =>
        rcases List.mem_append.mp h with h | h
        · rcases ih h with ⟨other, -, hbound⟩
          rw [hunset] at hbound
          cases hbound
        · cases List.mem_singleton.mp h
          exact ⟨caller, hlast, rfl⟩
      | failed hunset =>
        rcases List.mem_append.mp h with h | h
        · exact ih h
        · cases List.mem_singleton.mp h

end Serial

end TrustedKeyring
