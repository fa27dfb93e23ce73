import TrustedKeyring.Proofs.Deployment.KeyringUse

/-!
# Isolation of the shared anchor

The shared anchor can be loaded through any key service, and handles of two services can coincide.
A service is only ever asked about a keyring that it has itself opened, under the keyring name of
the visitor that asks (`shared_anchor_isolated`).
-/

namespace TrustedKeyring

variable {σ α : Type}

def Opened (events : List Event) (service : ServiceId) (name : String) (keyring : Handle) : Prop :=
  ∃ event ∈ events, event.service = service ∧ event.exchange = ⟨.openKeyring name, .ok keyring⟩

theorem Opened.append_right {events : List Event} {service : ServiceId} {name : String}
    {keyring : Handle} (h : Opened events service name keyring) (more : List Event) :
    Opened (events ++ more) service name keyring := by
  rcases h with ⟨event, hevent, hopening⟩
  exact ⟨event, List.mem_append_left more hevent, hopening⟩

namespace Deployment

variable {environment : Environment σ} {deployment : Deployment σ} {request : Request}
  {visitor : Visitor}

/-- How visitors of the shared anchor fare once it is bound.  Those with its keyring name and its
key service are served with its handle; all others are refused before any call. -/
def KeepsApart (environment : Environment σ) (deployment : Deployment σ) (binding : Binding) :
    Prop :=
  ∀ request visitor, deployment.visitorIn? .shared request = some visitor →
    request.sourceFault? environment.host = none →
      let step := deployment.perform environment request
      if binding.keyring ≠ visitor.name then
        step.calls = [] ∧
          step.outcome = .error (.error (.otherKeyring binding.keyring visitor.name))
      else if binding.owner ≠ visitor.owner then
        step.calls = [] ∧ step.outcome = .error (.error .otherService)
      else
        step.openings = [] ∧ request.Shows (some binding.handle) step.calls step.outcome ∧
          Serves binding.handle step.calls step.outcome

/-- Whether the handle that an anchor is bound to was given by the anchor's owner. -/
def Origin (events : List Event) (binding : Binding) : Prop :=
  ∃ service, binding.owner = some service ∧
    Opened events service binding.keyring binding.handle

theorem Origin.append_right {events : List Event} {binding : Binding} (h : Origin events binding)
    (more : List Event) : Origin (events ++ more) binding := by
  rcases h with ⟨service, howner, hopened⟩
  exact ⟨service, howner, hopened.append_right more⟩

theorem mem_calls {step : Step σ α} {call : Exchange} :
    call ∈ step.calls ↔
      call.request.isCall = true ∧ ∃ event ∈ step.events, event.exchange = call := by
  rw [Step.calls, List.mem_filter, List.mem_map, and_comm]

/-- What the shared anchor is bound to after a request was given by its owner. -/
theorem origin_perform {past : List Event} (environment : Environment σ)
    (hprocess : deployment.shared.isProcess = true) (hbuilt : deployment.BuiltFor request)
    (horigin : ∀ binding ∈ deployment.shared.binding, Origin past binding) :
    let step := deployment.perform environment request
    step.deployment.shared.isProcess = true ∧
      ∀ binding ∈ step.deployment.shared.binding, Origin (past ++ step.events) binding := by
  intro step
  cases anchorStep_perform environment deployment .shared request with
  | @visit visitor hvisitor hplace _ hservice hvisit =>
    refine ⟨hvisit.isProcess_eq.trans hprocess, ?_⟩
    intro binding hbinding
    rcases hvisit.binding_or_opening hbinding with hbefore | ⟨hloads, howned, hopening⟩
    · exact (horigin binding hbefore).append_right _
    · have howner : visitor.owner ≠ none := by
        rcases howned with hprivate | howner
        · rw [show deployment.shared.isProcess = false from hprivate] at hprocess
          cases hprocess
        · exact howner
      rcases hopening with ⟨handle, rfl, hcall⟩
      rcases mem_calls.mp hcall with ⟨-, event, hevent, hexchange⟩
      refine ⟨visitor.service, ?_, event, List.mem_append_right past hevent, hservice event hevent,
        hexchange⟩
      exact owner_of_isLoader hbuilt (visitorIn?_eq_some_iff.mpr ⟨hvisitor, hplace⟩) hloads howner
  | unread _ _ _ _ _ hkept | elsewhere _ _ hkept | apart _ _ hkept =>
    have hshared : step.deployment.shared = deployment.shared := hkept
    rw [hshared]
    exact ⟨hprocess, fun binding hbinding => (horigin binding hbinding).append_right _⟩

theorem origin_after (environment : Environment σ) {past : List Event} {requests : List Request}
    (hprocess : deployment.shared.isProcess = true)
    (hbuilt : ∀ request ∈ requests, deployment.BuiltFor request)
    (horigin : ∀ binding ∈ deployment.shared.binding, Origin past binding) :
    ∀ binding ∈ (deployment.after environment requests).shared.binding,
      Origin (past ++ deployment.events environment requests) binding := by
  induction requests generalizing deployment past with
  | nil =>
    rw [events, List.append_nil]
    exact horigin
  | cons request requests ih =>
    rcases List.forall_mem_cons.mp hbuilt with ⟨hfirst, hrest⟩
    rcases origin_perform environment hprocess hfirst horigin with ⟨hprocess, horigin⟩
    rw [events, ← List.append_assoc]
    refine ih hprocess ?_ horigin
    intro other hother
    exact (builtFor_of_place?_eq (place?_perform environment deployment request)).mpr
      (hrest other hother)

/-- The first call of a step comes before every other. -/
theorem exists_mem_of_calls_cons {step : Step σ α} {first : Exchange} {calls : List Exchange}
    {before later : List Event} {event : Event} (hcalls : step.calls = first :: calls)
    (hevents : step.events = before ++ event :: later)
    (hisCall : event.exchange.request.isCall = true) (hne : event.exchange ≠ first) :
    ∃ earlier ∈ before, earlier.exchange = first := by
  rw [Step.calls, hevents, List.map_append, List.map_cons, List.filter_append] at hcalls
  rw [List.filter_cons, if_pos hisCall] at hcalls
  cases hbefore : (before.map Event.exchange).filter fun exchange => exchange.request.isCall with
  | nil =>
    rw [hbefore] at hcalls
    exact absurd (List.cons.inj hcalls).1 hne
  | cons earlier rest =>
    rw [hbefore] at hcalls
    have hearlier : earlier ∈ (before.map Event.exchange).filter
        fun exchange => exchange.request.isCall := by
      rw [hbefore]
      exact List.mem_cons_self
    rcases List.mem_map.mp (List.mem_filter.mp hearlier).1 with ⟨event, hevent, rfl⟩
    exact ⟨event, hevent, (List.cons.inj hcalls).1⟩

/-- A keyring that is passed on in a step is the anchor's for the caller, or was opened before. -/
theorem opened_of_keyringUse {step : Step σ α} {name : String} {owner : Option ServiceId}
    {anchor : TrustAnchor} {before later : List Event} {event : Event} {keyring : Handle}
    (huse : KeyringUse name owner anchor step.calls step.outcome)
    (hevents : step.events = before ++ event :: later)
    (hkeyring : event.exchange.keyring? = some keyring) :
    anchor.binding = some ⟨keyring, name, owner⟩ ∨
      ∃ opening ∈ before, opening.exchange = ⟨.openKeyring name, .ok keyring⟩ := by
  have hisCall := event.exchange.isCall_of_keyring? hkeyring
  have hcall : event.exchange ∈ step.calls := by
    refine mem_calls.mpr ⟨hisCall, event, ?_, rfl⟩
    rw [hevents]
    exact List.mem_append_right before List.mem_cons_self
  generalize hcalls : step.calls = calls at huse hcall
  cases huse with
  | held hbound hserves =>
    rw [hserves.passed event.exchange hcall keyring hkeyring]
    exact .inl hbound
  | unused _ hnone =>
    rw [hnone event.exchange hcall] at hkeyring
    cases hkeyring
  | @opened opened calls _ hunset hserves =>
    -- the opening is the first call of the step, and the event is another one
    rcases List.mem_cons.mp hcall with heq | hserved
    · rw [heq] at hkeyring
      cases hkeyring
    · rw [hserves.passed event.exchange hserved keyring hkeyring]
      refine .inr (exists_mem_of_calls_cons hcalls hevents hisCall ?_)
      intro heq
      rw [heq] at hkeyring
      cases hkeyring

theorem opened_of_perform {past before later : List Event} {event : Event} {keyring : Handle}
    (environment : Environment σ) (hbuilt : deployment.BuiltFor request)
    (horigin : ∀ binding ∈ deployment.shared.binding, Origin past binding)
    (hvisitor : deployment.visitorIn? .shared request = some visitor)
    (hevents : (deployment.perform environment request).events = before ++ event :: later)
    (hkeyring : event.exchange.keyring? = some keyring) :
    event.service = visitor.service ∧
      Opened (past ++ before) visitor.service visitor.name keyring := by
  have hmem : event ∈ (deployment.perform environment request).events := by
    rw [hevents]
    exact List.mem_append_right before List.mem_cons_self
  have hcall : event.exchange ∈ (deployment.perform environment request).calls :=
    mem_calls.mpr ⟨event.exchange.isCall_of_keyring? hkeyring, event, hmem, rfl⟩
  rcases visitorIn?_eq_some_iff.mp hvisitor with ⟨hrequest, hplace⟩
  cases anchorStep_perform environment deployment .shared request with
  | @visit other hother _ hread hservice _ =>
    rw [hrequest] at hother
    cases hother
    refine ⟨hservice event hmem, ?_⟩
    rcases opened_of_keyringUse (keyringUse_perform environment hvisitor hread) hevents hkeyring
      with hbound | ⟨opening, hopening, hexchange⟩
    -- a direct caller uses no keyring, so the binding's own opening is in the past
    · cases hdirect : request.isDirect with
      | true =>
        rw [keyring?_of_isDirect environment hdirect event.exchange hcall] at hkeyring
        cases hkeyring
      | false =>
        rcases horigin _ hbound with ⟨service, howner, hopened⟩
        rw [owner_of_builtFor hbuilt hvisitor hdirect] at howner
        cases howner
        exact hopened.append_right before
    · refine ⟨opening, List.mem_append_right past hopening, hservice opening ?_, hexchange⟩
      rw [hevents]
      exact List.mem_append_left _ hopening
  | unread _ _ _ hcalls => rw [hcalls] at hcall; cases hcall
  | elsewhere hother hne =>
    rw [hrequest] at hother
    cases hother
    exact absurd hplace hne
  | apart hnone => rw [hrequest] at hnone; cases hnone

theorem keepsApart_of_binding_eq (environment : Environment σ) {binding : Binding}
    (h : (deployment.anchorIn .shared).binding = some binding) :
    deployment.KeepsApart environment binding := by
  intro request visitor hvisitor hread step
  rcases answersFor_of_binding_eq environment h request visitor hvisitor hread with
    ⟨answer, hanswer, hopenings, hshows⟩
  cases hanswer with
  | otherKeyring hkeyring => rw [if_pos hkeyring]; exact hshows
  | otherService hkeyring howner =>
    rw [if_neg (not_not_intro hkeyring), if_pos howner]
    exact hshows
  | admitted hkeyring howner =>
    rw [if_neg (not_not_intro hkeyring), if_neg (not_not_intro howner)]
    refine ⟨hopenings, hshows, ?_⟩
    have huse := keyringUse_perform environment hvisitor hread
    rw [← hkeyring, ← howner] at huse
    exact huse.serves_of_binding_eq h

/-- After every history of requests whose verifiers of the shared anchor were built for it: a
visitor of the shared anchor passes no keyring to a key service but one which that service has
opened before, under the visitor's keyring name; and if the anchor is bound, its handle was given by
its owner, and from then on other services, and those who ask for other keyrings, are refused before
any call. -/
theorem shared_anchor_isolated (environment : Environment σ) (start : Deployment σ)
    (hunset : start.shared = .shared) (requests : List Request)
    (hbuilt : ∀ request ∈ requests, start.BuiltFor request) :
    let here := start.after environment requests
    let past := start.events environment requests
    (∀ request visitor, start.BuiltFor request →
        here.visitorIn? .shared request = some visitor →
      ∀ before event later, (here.perform environment request).events = before ++ event :: later →
        ∀ keyring ∈ event.exchange.keyring?,
          event.service = visitor.service ∧
            Opened (past ++ before) visitor.service visitor.name keyring) ∧
      ∀ binding ∈ here.shared.binding,
        Origin past binding ∧
          ∀ more, (here.after environment more).KeepsApart environment binding := by
  intro here past
  have horigin : ∀ binding ∈ here.shared.binding, Origin past binding := by
    have hnone : ∀ binding ∈ start.shared.binding, Origin [] binding := by
      rw [hunset]
      intro binding hbinding
      cases hbinding
    exact origin_after environment (by rw [hunset]; rfl) hbuilt hnone
  refine ⟨?_, ?_⟩
  · intro request visitor hrequest hvisitor before event later hevents keyring hkeyring
    have hhere : here.BuiltFor request :=
      (builtFor_of_place?_eq (place?_after environment start requests)).mpr hrequest
    exact opened_of_perform environment hhere horigin hvisitor hevents hkeyring
  · intro binding hbinding
    refine ⟨horigin binding hbinding, ?_⟩
    intro more
    have hbound : (here.anchorIn .shared).binding = some binding := hbinding
    exact keepsApart_of_binding_eq environment (binding_after environment hbound more)

/-- Two key services answer with the same handle, and the anchor is loaded through the first. -/
theorem shared_anchor_isolated_sameHandle :
    let service : KeyService Unit :=
      { openKeyring := fun _ _ => (.ok ⟨1⟩, ())
        search := fun _ _ _ _ _ => (.ok ⟨2⟩, ())
        release := fun _ _ => ()
        add := fun _ _ _ _ => (.ok ⟨2⟩, ()) }
    let environment : Environment Unit :=
      { service := fun _ => service
        primitive := fun _ => ⟨fun _ _ _ _ _ => (.ok 0, ())⟩
        host := ⟨fun _ => .error none, fun _ => none⟩ }
    let first : Member := ⟨⟨{}, some 0⟩, .shared, 0, 0⟩
    let second : Member := ⟨⟨{}, some 1⟩, .shared, 1, 0⟩
    let start : Deployment Unit := { state := () }
    let here := start.after environment [.load first]
    let step := here.perform environment (.provision second [1])
    here.shared.binding = some ⟨⟨1⟩, ".five", some 0⟩ ∧
      Origin (start.events environment [.load first]) ⟨⟨1⟩, ".five", some 0⟩ ∧
      step.calls = [] ∧ step.outcome = .error (.error .otherService) := by
  intro service environment first second start here step
  have hbuilt : ∀ request ∈ [Request.load first], start.BuiltFor request := by
    refine List.forall_mem_singleton.mpr ?_
    intro member hmember _
    cases hmember
    exact ⟨{}, 0, 0, by decide⟩
  have hbinding : here.shared.binding = some ⟨⟨1⟩, ".five", some 0⟩ := by decide
  rcases (shared_anchor_isolated environment start rfl [.load first] hbuilt).2 _ hbinding with
    ⟨horigin, happart⟩
  have hrefused := happart [] (.provision second [1]) (second.visitor false) (by decide) rfl
  rw [if_neg (by decide), if_pos (by decide)] at hrefused
  exact ⟨hbinding, horigin, hrefused⟩

end Deployment

end TrustedKeyring
