import TrustedKeyring.Proofs.Deployment.References
import TrustedKeyring.Proofs.Deployment.Session
import TrustedKeyring.Proofs.KeyStore.Releases
import TrustedKeyring.Proofs.TrustStore.Selection

/-!
# Keys that are held of a key store

A key store that is only used through verifiers counts for each key the references that callers hold
(`referenceCount_after_eq`): what the interactions of a deployment do to a key settles what is held,
and the count of the store follows them.
-/

namespace TrustedKeyring

variable {σ : Type} {environment : Environment σ} {crypto : Crypto} {service : ServiceId}
  {view : σ → KeyStore}

/-- A service of the environment is a key store that is kept in the state, and neither the other
services nor the signature primitives change it. -/
structure Environment.Mounts (environment : Environment σ) (crypto : Crypto)
    (service : ServiceId) (view : σ → KeyStore) : Prop where
  openKeyring : ∀ name state,
    Prod.map id view ((environment.service service).openKeyring name state) =
      (KeyStore.service crypto).openKeyring name (view state)
  search : ∀ keyring kind description byEnd state,
    Prod.map id view
        ((environment.service service).search keyring kind description byEnd state) =
      (KeyStore.service crypto).search keyring kind description byEnd (view state)
  release : ∀ key state, view ((environment.service service).release key state) =
    (KeyStore.service crypto).release key (view state)
  add : ∀ keyring kind payload state,
    Prod.map id view ((environment.service service).add keyring kind payload state) =
      (KeyStore.service crypto).add keyring kind payload (view state)
  others : ∀ other ≠ service, ∀ state,
    (∀ name, view ((environment.service other).openKeyring name state).2 = view state) ∧
      (∀ keyring kind description byEnd,
        view ((environment.service other).search keyring kind description byEnd state).2 =
          view state) ∧
      (∀ key, view ((environment.service other).release key state) = view state) ∧
      ∀ keyring kind payload,
        view ((environment.service other).add keyring kind payload state).2 = view state
  primitives : ∀ primitive key query certificate header state,
    view ((environment.primitive primitive).check key query certificate header state).2 =
      view state

/-! ## Interactions -/

theorem Exchange.effect_search (key keyring : Handle) (kind : KeyKind) (description : String)
    (byEnd : Bool) (answer : Except Errno Handle) :
    Exchange.effect key ⟨.search keyring kind description byEnd, KeyStore.reply answer⟩ =
      if answer = .ok key then .gives else .neither := by
  cases answer with
  | error errno => rfl
  | ok given => simp only [KeyStore.reply, Except.mapError, Exchange.effect, Except.ok.injEq]

theorem Exchange.effect_add (key keyring : Handle) (kind : KeyKind) (payload : Bytes)
    (answer : Except Errno Handle) :
    Exchange.effect key ⟨.add keyring kind payload, KeyStore.reply answer⟩ =
      if answer = .ok key then .gives else .neither := by
  cases answer with
  | error errno => rfl
  | ok given => simp only [KeyStore.reply, Except.mapError, Exchange.effect, Except.ok.injEq]

namespace Environment.Mounts

/-- The count of a key follows what an interaction does to it. -/
theorem referenceCount_answer (h : environment.Mounts crypto service view) (user : ServiceId)
    (primitive : PrimitiveId) (request : Interaction) (world : World σ) (key : Handle) :
    let result := request.answer (environment.collaborators user primitive) world
    (view result.2.state).referenceCount key =
      (Event.effect service key ⟨user, primitive, ⟨request, result.1⟩⟩).recount
        ((view world.state).referenceCount key) := by
  intro result
  by_cases huser : user = service
  · -- the store answers, and its own ledger is the one of the interaction
    subst huser
    rw [Event.effect, if_pos rfl]
    cases request with
    | openKeyring name =>
      have hstore := h.openKeyring name world.state
      have hnext : view result.2.state = ((view world.state).openKeyring name).2 :=
        congrArg Prod.snd hstore
      rw [hnext]
      exact KeyStore.referenceCount_afterCall crypto _ (.openKeyring name) key
    | search keyring kind description byEnd =>
      have hstore := h.search keyring kind description byEnd world.state
      have hanswer : result.1 =
          KeyStore.reply ((view world.state).search keyring kind description byEnd).1 :=
        congrArg Prod.fst hstore
      have hnext : view result.2.state =
          ((view world.state).search keyring kind description byEnd).2 :=
        congrArg Prod.snd hstore
      rw [hnext, hanswer, Exchange.effect_search]
      exact KeyStore.referenceCount_afterCall crypto _ (.search keyring kind description byEnd) key
    | release returned =>
      have hnext : view result.2.state = (view world.state).release returned :=
        h.release returned world.state
      rw [hnext, KeyStore.referenceCount_release, Exchange.effect]
      by_cases hreturned : returned = key
      · rw [if_pos hreturned.symm, if_pos hreturned]
        rfl
      · rw [if_neg (Ne.symm hreturned), if_neg hreturned]
        rfl
    | add keyring kind payload =>
      have hstore := h.add keyring kind payload world.state
      have hanswer : result.1 =
          KeyStore.reply ((view world.state).add crypto keyring kind payload).1 :=
        congrArg Prod.fst hstore
      have hnext : view result.2.state =
          ((view world.state).add crypto keyring kind payload).2 :=
        congrArg Prod.snd hstore
      rw [hnext, hanswer, Exchange.effect_add]
      exact KeyStore.referenceCount_afterCall crypto _ (.add keyring kind payload) key
    | check checked query certificate header =>
      have hnext : view result.2.state = view world.state :=
        h.primitives primitive checked query certificate header world.state
      rw [hnext]
      rfl
    | readAnchor | lock | bind _ | unlock _ =>
      have hnext : result.2.state = world.state := Interaction.state_of_not_isCall rfl _ world
      rw [hnext]
      rfl
  -- another service answers, and the store stays as it is
  · have hnext : view result.2.state = view world.state := by
      obtain ⟨hopen, hsearch, hrelease, hadd⟩ := h.others user huser world.state
      cases request with
      | openKeyring name => exact hopen name
      | search keyring kind description byEnd => exact hsearch keyring kind description byEnd
      | release returned => exact hrelease returned
      | add keyring kind payload => exact hadd keyring kind payload
      | check checked query certificate header =>
        exact h.primitives primitive checked query certificate header world.state
      | readAnchor | lock | bind _ | unlock _ =>
        exact congrArg view (Interaction.state_of_not_isCall rfl _ world)
    rw [hnext, Event.effect, if_neg huser]
    rfl

theorem referenceCount_operation {α : Type} (h : environment.Mounts crypto service view)
    (user : ServiceId) (primitive : PrimitiveId) (operation : Operation α) (world : World σ)
    (key : Handle) :
    let run := operation.run (environment.collaborators user primitive) world
    (view run.world.state).referenceCount key =
      (run.exchanges.map fun exchange =>
          Event.effect service key ⟨user, primitive, exchange⟩).foldl Effect.recount
        ((view world.state).referenceCount key) := by
  induction operation generalizing world with
  | done outcome => rfl
  | interact request next ih =>
    intro run
    have hfirst := h.referenceCount_answer user primitive request world key
    have hrest := ih (request.answer (environment.collaborators user primitive) world).1
      (request.answer (environment.collaborators user primitive) world).2
    rw [hfirst] at hrest
    exact hrest

end Environment.Mounts

/-! ## Requests -/

def Request.isLookup : Request → Bool
  | .findKey _ _ | .resolve _ _ _ => true
  | _ => false

namespace Deployment

variable {deployment : Deployment σ}

theorem referenceCount_run {α : Type} (h : environment.Mounts crypto service view)
    (deployment : Deployment σ) (ref : AnchorRef) (user : ServiceId) (primitive : PrimitiveId)
    (operation : Operation α) (key : Handle) :
    let step := deployment.run environment ref user primitive operation
    (view step.deployment.state).referenceCount key =
      (step.events.map (Event.effect service key)).foldl Effect.recount
        ((view deployment.state).referenceCount key) := by
  intro step
  have hrun := h.referenceCount_operation user primitive operation
    ⟨deployment.anchor ref, deployment.state⟩ key
  have hevents : step.events.map (Event.effect service key) =
      (operation.run (environment.collaborators user primitive)
        ⟨deployment.anchor ref, deployment.state⟩).exchanges.map fun exchange =>
          Event.effect service key ⟨user, primitive, exchange⟩ :=
    List.map_map
  rw [hevents]
  exact hrun

theorem referenceCount_perform (h : environment.Mounts crypto service view)
    (deployment : Deployment σ) (request : Request) (key : Handle) :
    let step := deployment.perform environment request
    (view step.deployment.state).referenceCount key =
      (step.events.map (Event.effect service key)).foldl Effect.recount
        ((view deployment.state).referenceCount key) := by
  cases request with
  | findKey | resolve =>
    simp only [perform, state_hold, events_hold]
    exact referenceCount_run h deployment _ _ _ _ key
  | release slot =>
    rw [perform_release]
    cases deployment.heldIn? slot with
    | none => rfl
    | some held =>
      exact referenceCount_run h deployment .shared held.service 0
        (Operation.perform (.release held.key)) key
  | _ => exact referenceCount_run h deployment _ _ _ _ key

/-- A store that is only used through verifiers counts what callers hold. -/
theorem referenceCount_after_eq (h : environment.Mounts crypto service view)
    (requests : List Request) {key : Handle}
    (hstart : (view deployment.state).referenceCount key = deployment.live service key) :
    (view (deployment.after environment requests).state).referenceCount key =
      (deployment.after environment requests).live service key := by
  induction requests generalizing deployment with
  | nil => exact hstart
  | cons request requests ih =>
    apply ih
    rw [referenceCount_perform h deployment request key, hstart]
    exact Effect.foldl_recount_of_settle
      (settled_perform environment deployment request service key)

theorem held_perform (hheld : deployment.held = []) {request : Request}
    (hrequest : request.isLookup = false) :
    (deployment.perform environment request).deployment.held = [] := by
  cases request with
  | findKey | resolve => cases hrequest
  | release slot =>
    have hslot : deployment.heldIn? slot = none := by
      rw [heldIn?, hheld]
      rfl
    rw [perform_release, hslot]
    exact hheld
  | _ => exact (held_run deployment environment _ _ _ _).trans hheld

theorem held_after (hheld : deployment.held = []) {requests : List Request}
    (hrequests : ∀ request ∈ requests, request.isLookup = false) :
    (deployment.after environment requests).held = [] := by
  induction requests generalizing deployment with
  | nil => exact hheld
  | cons request requests ih =>
    have hfirst := hrequests request List.mem_cons_self
    exact ih (held_perform hheld hfirst) fun other hother =>
      hrequests other (List.mem_cons_of_mem _ hother)

end Deployment

/-- The counts of a key store are exact, and nothing but a count depends on them.

After every history, a key that is added has one reference, a search that gives a key counts one
more, a release takes one back unless there is none, and nothing else changes the count of a key; so
if no reference was put back that had not been given out, the count is the number of those that are
out.  Histories that differ by releases alone are answered alike.  A store that is only used through
verifiers counts the references that callers hold. -/
theorem KeyStore.reference_counts_exact (crypto : Crypto) :
    (∀ calls,
      let store := after crypto {} calls
      (∀ keyring kind payload key, (store.add crypto keyring kind payload).1 = .ok key →
        store.references? key = none ∧
          (store.add crypto keyring kind payload).2.references? key = some 1) ∧
      (∀ keyring kind description byEnd key,
        (store.search keyring kind description byEnd).1 = .ok key →
          ∃ count, store.references? key = some count ∧
            (store.search keyring kind description byEnd).2.references? key =
              some (count + 1)) ∧
      (∀ key, (store.release key).references? key = (store.references? key).map (· - 1)) ∧
      (∀ key, store.references? key = none → store.release key = store) ∧
      (∀ call key, store.effect crypto key call = .neither →
        (store.afterCall crypto call).references? key = store.references? key) ∧
      ∀ key count, store.references? key = some count →
        let effects := effects crypto key {} calls
        (∀ n, (effects.take n).count .returns ≤ (effects.take n).count .gives) →
          effects.count .gives = effects.count .returns + count) ∧
    (∀ store queries queries',
      (queries.filter fun query => !query.isRelease) =
          (queries'.filter fun query => !query.isRelease) →
        results crypto store queries = results crypto store queries') ∧
    ∀ (σ : Type) (environment : Environment σ) (service : ServiceId) (view : σ → KeyStore),
      environment.Mounts crypto service view →
        ∀ start : Deployment σ, view start.state = {} → start.held = [] →
          ∀ requests key count,
            let last := start.after environment requests
            (view last.state).references? key = some count →
              count = last.held.count (some ⟨service, key⟩) ∧
                ((∀ request ∈ requests, request.isLookup = false) → count = 0) := by
  refine ⟨?_, ?_, ?_⟩
  · intro calls store
    refine ⟨fun _ _ _ _ => references?_of_add, fun _ _ _ _ _ => references?_of_search, ?_,
      fun _ => release_eq_self, ?_, ?_⟩
    · intro key
      rw [release_eq, references?_update_recount, if_pos rfl]
    · intro call key heffect
      rw [references?_afterCall, heffect]
    · intro key count hcount effects hpaid
      have hgives := count_gives_eq calls hpaid
      rw [referenceCount, hcount] at hgives
      exact hgives
  · intro store queries queries' hqueries
    exact results_eq_of_filter_eq hqueries
  · intro σ environment service view hmounts start hempty hheld requests key count last hcount
    have hstart : (view start.state).referenceCount key = start.live service key := by
      rw [hempty, Deployment.live, hheld, referenceCount, references?, get?_empty]
      rfl
    have hlast := Deployment.referenceCount_after_eq hmounts requests hstart
    rw [referenceCount, hcount] at hlast
    refine ⟨hlast, ?_⟩
    intro hrequests
    have hnone : last.held = [] := Deployment.held_after hheld hrequests
    rw [Deployment.live, hnone] at hlast
    exact hlast

open KeyStore Shadowing in
/-- A key that is added, found again and put back once; and one that a caller of a verifier holds
while another digest is verified with it. -/
theorem KeyStore.reference_counts_exact_heldKey :
    let crypto := Crypto.standard
    let calls : List Call := [.openKeyring ".five", .add ⟨1⟩ .asymmetric second,
      .search ⟨1⟩ .asymmetric "id:0badcafe" true, .release ⟨2⟩]
    let queries : List Query := [.call (.openKeyring ".five"), .call (.release ⟨2⟩),
      .call (.add ⟨1⟩ .asymmetric second), .call (.release ⟨1⟩), .keyCount ⟨1⟩]
    let silent : KeyService KeyStore :=
      ⟨fun _ store => (.error (.panic "no service"), store),
        fun _ _ _ _ store => (.error (.panic "no service"), store), fun _ store => store,
        fun _ _ _ store => (.error (.panic "no service"), store)⟩
    let host : Host := ⟨fun _ => .error none, fun _ => none⟩
    let environment : Environment KeyStore :=
      ⟨fun service => if service = 0 then KeyStore.service crypto else silent,
        fun _ => KeyStore.primitive crypto, host⟩
    let start : Deployment KeyStore := ⟨{}, .shared, [], [], []⟩
    let member : Member := ⟨⟨{}, some 0⟩, .shared, 0, 0⟩
    let last := start.after environment [.load member, .provision member second,
      .findKey member ⟨0x0BADCAFE⟩, .verify member certificate (digest.drop 1) 31]
    (after crypto {} calls).references? ⟨2⟩ = some 1 ∧
      effects crypto ⟨2⟩ {} calls = [.neither, .gives, .gives, .returns] ∧
      (effects crypto ⟨2⟩ {} calls).count .gives =
        (effects crypto ⟨2⟩ {} calls).count .returns + 1 ∧
      results crypto {} queries =
        results crypto {} (queries.filter fun query => !query.isRelease) ∧
      environment.Mounts crypto 0 id ∧ last.state.references? ⟨2⟩ = some 1 ∧
      1 = last.held.count (some ⟨0, ⟨2⟩⟩) := by
  intro crypto calls queries silent host environment start member last
  obtain ⟨hledger, hinert, hlive⟩ := reference_counts_exact crypto
  have hcount : (after crypto {} calls).references? ⟨2⟩ = some 1 := by decide +kernel
  have heffects : effects crypto ⟨2⟩ {} calls = [.neither, .gives, .gives, .returns] := by
    decide +kernel
  have hpaid : ∀ n, ((effects crypto ⟨2⟩ {} calls).take n).count .returns ≤
      ((effects crypto ⟨2⟩ {} calls).take n).count .gives := by
    intro n
    rw [heffects]
    match n with
    | 0 | 1 | 2 | 3 => decide
    | n + 4 => simp
  have hmounts : environment.Mounts crypto 0 id := by
    refine ⟨fun _ _ => rfl, fun _ _ _ _ _ => rfl, fun _ _ => rfl, fun _ _ _ _ => rfl, ?_,
      fun _ _ _ _ _ _ => rfl⟩
    intro other hother store
    have hsilent : environment.service other = silent := if_neg hother
    rw [hsilent]
    exact ⟨fun _ => rfl, fun _ _ _ _ => rfl, fun _ => rfl, fun _ _ _ => rfl⟩
  have hheld : last.state.references? ⟨2⟩ = some 1 := by decide +kernel
  obtain ⟨-, -, -, -, -, hgiven⟩ := hledger calls
  exact ⟨hcount, heffects, hgiven ⟨2⟩ 1 hcount hpaid,
    hinert {} queries (queries.filter fun query => !query.isRelease)
      (by rw [List.filter_filter]; simp),
    hmounts, hheld, (hlive KeyStore environment 0 id hmounts start rfl rfl _ ⟨2⟩ 1 hheld).1⟩

end TrustedKeyring
