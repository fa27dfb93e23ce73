import Mathlib.Logic.Equiv.Basic
import TrustedKeyring.Proofs.Deployment.Tenancy
import TrustedKeyring.Proofs.TrustStore.Selection

/-!
# Independence of keyrings

Verifiers with anchors of their own share a key store under different keyring names.  What one of
them is answered in a session does not depend on what happens elsewhere in it
(`keyrings_independent`).
-/

namespace TrustedKeyring

open TrustStore (collaborators)

variable {crypto : Crypto} {host : Host}

def Request.isLook : Request → Bool
  | .findKey _ _ | .resolve _ _ _ | .release _ | .peek _ _ _ => true
  | _ => false

namespace Deployment

def Act.own? (member : Member) : Act → Option Request
  | .request asked => if asked.isOf member then some asked else none
  | .call _ => none

/-- Whether an act leaves a verifier's anchor and its keyring name to the verifier: it adds no key
to the keyring, and loads and provisions only other anchors under other names. -/
def IsOutside (deployment : Deployment KeyStore) (member : Member) : Act → Prop
  | .call call => ¬deployment.state.AddsTo member.verifier.config.keyringName call
  | .request request =>
    request.isLook = true ∨
      ∃ visitor place, deployment.visitorIn? place request = some visitor ∧
        deployment.place? member.anchor ≠ some place ∧
        visitor.name ≠ member.verifier.config.keyringName

def Apart (crypto : Crypto) (host : Host) (member : Member) (deployment : Deployment KeyStore) :
    List Act → Prop
  | [] => True
  | first :: acts =>
    (first.own? member = none → deployment.IsOutside member first) ∧
      Apart crypto host member (deployment.act crypto host first) acts

def results (crypto : Crypto) (host : Host) (member : Member) (deployment : Deployment KeyStore) :
    List Act → List (Outcome Refusal Reply)
  | [] => []
  | first :: acts =>
    ((first.own? member).map fun request =>
        (deployment.perform (KeyStore.environment crypto host) request).outcome).toList ++
      results crypto host member (deployment.act crypto host first) acts

variable {deployment : Deployment KeyStore} {member : Member} {place : AnchorPlace}
  {tenancy : Tenancy} {request : Request}

/-! ## Acts from outside -/

/-- A visitor that does not load leaves the anchor as it is. -/
theorem anchor_eq_of_looks {α : Type} {name : String} {owner : Option ServiceId}
    {shows : Option Handle → List Exchange → Outcome Refusal α → Prop}
    {anchor after : TrustAnchor} {calls : List Exchange} {outcome : Outcome Refusal α}
    (h : Visit name owner false shows anchor calls outcome after) : after = anchor := by
  cases h with
  | refused | admitted | unset => rfl
  | ownerless _ hloads | failed _ hloads | panicked _ hloads | loaded _ hloads => cases hloads

theorem isLoader_of_isLook {visitor : Visitor} (hlook : request.isLook = true)
    (hvisitor : request.visitor? = some visitor) : visitor.isLoader = false := by
  cases request with
  | findKey | peek =>
    cases hvisitor
    rfl
  | resolve | release => cases hvisitor
  | load | verify | verifyDigest | provision | provisionFrom | loadAnchor => cases hlook

theorem anchorIn_act_of_isOutside {first : Act} (houtside : deployment.IsOutside member first)
    (hplace : deployment.place? member.anchor = some place) :
    (deployment.act crypto host first).anchorIn place = deployment.anchorIn place := by
  cases first with
  | call call => exact anchorIn_call call place
  | request request =>
    cases anchorStep_perform (KeyStore.environment crypto host) deployment place request with
    | @visit visitor hvisitor hvisited hread hservice hvisit =>
      rcases houtside with hlook | ⟨other, elsewhere, hother, hne, -⟩
      · rw [isLoader_of_isLook hlook hvisitor] at hvisit
        exact anchor_eq_of_looks hvisit
      · obtain ⟨hrequest, hthere⟩ := visitorIn?_eq_some_iff.mp hother
        rw [hvisitor] at hrequest
        cases hrequest
        rw [hvisited] at hthere
        cases hthere
        exact absurd hplace hne
    | unread _ _ _ _ _ hkept | elsewhere _ _ hkept | apart _ _ hkept => exact hkept

theorem addedTo?_of_search {keyring : Handle} {id : KeyId} {calls : List Exchange}
    {outcome : Outcome Refusal Handle} (h : SearchTrace keyring id calls outcome) :
    ∀ call ∈ calls, call.addedTo? = none := by
  obtain ⟨answer, rfl⟩ := h.exists_answer
  intro call hcall
  rw [List.mem_singleton.mp hcall]
  rfl

theorem addedTo?_of_find {verifier : Verifier} {id : KeyId} {anchor : TrustAnchor}
    {calls : List Exchange} {outcome : Outcome Refusal Handle}
    (h : FindTrace verifier id anchor calls outcome) : ∀ call ∈ calls, call.addedTo? = none := by
  cases h with
  | unset | refused => exact List.forall_mem_nil _
  | searched _ hsearch => exact addedTo?_of_search hsearch

theorem addedTo?_run {α : Type} {ref : AnchorRef} {operation : Operation α}
    (h : operation.Ensures (deployment.anchor ref) fun calls _ _ =>
      ∀ call ∈ calls, call.addedTo? = none) (service : ServiceId) (primitive : PrimitiveId) :
    ∀ call ∈ (deployment.run (KeyStore.environment crypto host) ref service primitive
      operation).calls, call.addedTo? = none := by
  rw [calls_run]
  exact h.run _ deployment.state

/-- Who only looks adds nothing. -/
theorem addedTo?_of_isLook (hlook : request.isLook = true) :
    ∀ call ∈ (deployment.perform (KeyStore.environment crypto host) request).calls,
      call.addedTo? = none := by
  cases request with
  | findKey member id =>
    change ∀ call ∈ (hold member.service _).calls, _
    rw [calls_hold]
    apply addedTo?_run
    exact (ensures_findKey member.verifier id _).mono fun _ _ _ h => addedTo?_of_find h.1
  | resolve keyring service id =>
    change ∀ call ∈ (hold service _).calls, _
    rw [calls_hold]
    apply addedTo?_run
    cases keyring with
    | none => exact List.forall_mem_nil _
    | some keyring => exact (ensures_search keyring id _).mono fun _ _ _ h => addedTo?_of_search h.1
  | release slot =>
    rw [perform_release]
    cases deployment.heldIn? slot with
    | none => exact List.forall_mem_nil _
    | some held => exact List.forall_mem_singleton.mpr rfl
  | peek anchor name owner =>
    have hpeek : (TrustAnchor.peek name owner).Ensures (deployment.anchor anchor)
        fun calls _ _ => ∀ call ∈ calls, call.addedTo? = none := by
      refine (ensures_peek name owner _).mono ?_
      rintro calls outcome after ⟨-, rfl, -⟩
      exact List.forall_mem_nil _
    exact addedTo?_run hpeek 0 0
  | load | verify | verifyDigest | provision | provisionFrom | loadAnchor => cases hlook

/-- Nothing is called for a certificate that cannot be read. -/
theorem sourceFault?_of_mem_calls {call : Exchange}
    (hcall : call ∈ (deployment.perform (KeyStore.environment crypto host) request).calls) :
    request.sourceFault? host = none := by
  cases request with
  | provisionFrom other source =>
    cases hsource : source.read host with
    | ok data => rw [Request.sourceFault?, hsource]
    | error refusal =>
      change call ∈ (deployment.run (KeyStore.environment crypto host) other.anchor other.service
        other.primitive (other.verifier.provisionFrom host source)).calls at hcall
      rw [calls_run, other.verifier.provisionFrom_of_error hsource] at hcall
      cases hcall
  | _ => rfl

/-- A keyring that a visitor passes on bears the visitor's keyring name. -/
theorem keyringName?_of_keyring? {visitor : Visitor} (hwired : deployment.Wired)
    (hvisitor : deployment.visitorIn? place request = some visitor) :
    let step := deployment.perform (KeyStore.environment crypto host) request
    ∀ call ∈ step.calls, ∀ keyring, call.keyring? = some keyring →
      step.deployment.state.keyringName? keyring = some visitor.name := by
  intro step call hcall keyring hkeyring
  have hanswer := answer_perform crypto host deployment request
  have hext := KeyStore.extends_of_steps (KeyStore.steps_of_answer hanswer)
  have huse : KeyringUse visitor.name visitor.owner (deployment.anchorIn place) step.calls
      step.outcome := keyringUse_perform (KeyStore.environment crypto host) hvisitor
    (sourceFault?_of_mem_calls hcall)
  generalize hcalls : step.calls = calls at huse hcall
  cases huse with
  | held hbound hserves =>
    rw [hserves.passed call hcall keyring hkeyring]
    exact hext.keyringName?_eq (hwired.named place _ hbound)
  | unused _ hnone =>
    rw [hnone call hcall] at hkeyring
    cases hkeyring
  | @opened opened calls _ _ hserves =>
    have hopening : ⟨.openKeyring visitor.name, .ok opened⟩ ∈ step.calls := by
      rw [hcalls]
      exact List.mem_cons_self
    rcases List.mem_cons.mp hcall with rfl | hlater
    · cases hkeyring
    · rw [hserves.passed call hlater keyring hkeyring]
      exact KeyStore.keyringName?_of_answer hanswer hwired.layout hopening

theorem keyring?_of_addedTo? {call : Exchange} {keyring : Handle}
    (h : call.addedTo? = some keyring) : call.keyring? = some keyring := by
  obtain ⟨request, answer⟩ := call
  cases request with
  | add => exact h
  | _ => cases h

theorem holdsNamed_act_of_isOutside {first : Act} {entries : List (Bytes × PublicKey)}
    (hwired : deployment.Wired) (houtside : deployment.IsOutside member first)
    (hholds : deployment.state.HoldsNamed member.verifier.config.keyringName entries) :
    (deployment.act crypto host first).state.HoldsNamed member.verifier.config.keyringName
      entries := by
  cases first with
  | call call => exact KeyStore.holdsNamed_afterCall hwired.layout hholds houtside
  | request request =>
    apply KeyStore.holdsNamed_of_answer (answer_perform crypto host deployment request)
      hwired.layout hholds
    intro call hcall keyring hadded
    rcases houtside with hlook | ⟨visitor, elsewhere, hvisitor, -, hname⟩
    · rw [addedTo?_of_isLook hlook call hcall] at hadded
      cases hadded
    · rw [keyringName?_of_keyring? hwired hvisitor call hcall keyring
        (keyring?_of_addedTo? hadded)]
      intro heq
      exact hname (Option.some.inj heq)

/-- What happens outside of a tenancy leaves it as it is. -/
theorem houses_act_of_isOutside {first : Act} (h : deployment.Houses member place tenancy)
    (houtside : deployment.IsOutside member first) :
    (deployment.act crypto host first).Houses member place tenancy := by
  have hanchor : (deployment.act crypto host first).anchorIn place = deployment.anchorIn place :=
    anchorIn_act_of_isOutside houtside h.located
  have hext := KeyStore.extends_of_steps (steps_act crypto host deployment first)
  refine ⟨wired_act h.wired first, ?_, ?_⟩
  · rw [place?_act]
    exact h.located
  · rw [hanchor]
    refine ⟨h.fits.isOwn, h.fits.unset, ?_, holdsNamed_act_of_isOutside h.wired houtside
      h.fits.holds⟩
    intro hloaded
    obtain ⟨keyring, hbound, hname⟩ := h.fits.bound hloaded
    exact ⟨keyring, hbound, hext.keyringName?_eq hname⟩

/-! ## Sessions -/

theorem own?_eq_some_iff {first : Act} :
    first.own? member = some request ↔ first = .request request ∧ request.isOf member = true := by
  cases first with
  | call call => simp [Act.own?]
  | request other =>
    simp only [Act.own?, Option.ite_none_right_eq_some, Option.some.injEq, Act.request.injEq]
    constructor
    · rintro ⟨hown, rfl⟩
      exact ⟨rfl, hown⟩
    · rintro ⟨rfl, hown⟩
      exact ⟨hown, rfl⟩

/-- The requests of a verifier in a session are answered by its tenancy, one after the other, with
the handle that its keyring has in the end. -/
theorem results_eq_answers {acts : List Act} (h : deployment.Houses member place tenancy)
    (hname : member.verifier.config.keyringName ≠ "")
    (hapart : deployment.Apart crypto host member acts) {keyring : Handle}
    (hkeyring : ∀ handle, (deployment.afterActs crypto host acts).state.keyringName? handle =
      some member.verifier.config.keyringName → handle = keyring) :
    deployment.results crypto host member acts =
      tenancy.answers crypto host keyring (acts.filterMap (Act.own? member)) := by
  -- acts from outside leave the tenancy, and its own requests are answered by it
  induction acts generalizing deployment tenancy with
  | nil => rfl
  | cons first acts ih =>
    obtain ⟨houtside, hrest⟩ := hapart
    cases hown : first.own? member with
    | none =>
      rw [List.filterMap_cons_none hown]
      have hafter : (deployment.act crypto host first).Houses member place tenancy :=
        houses_act_of_isOutside h (houtside hown)
      simpa [results, hown] using ih hafter hrest hkeyring
    | some request =>
      rw [List.filterMap_cons_some hown]
      obtain ⟨rfl, hrequest⟩ := own?_eq_some_iff.mp hown
      -- what bears the name later on bears it to the end of the session
      have hext := KeyStore.extends_of_steps (steps_afterActs crypto host
        (deployment.act crypto host (.request request)) acts)
      obtain ⟨houtcome, hafter⟩ := houses_perform h hname hrequest fun handle hhandle =>
        hkeyring handle (hext.keyringName?_eq hhandle)
      simp only [results, hown, Option.map_some, Option.toList_some, List.singleton_append,
        Tenancy.answers]
      rw [houtcome]
      exact congrArg _ (ih hafter hrest hkeyring)

end Deployment

/-! ## Two sessions -/

def Reply.renumber (renumbering : Handle → Handle) : Reply → Reply
  | .handle keyring => .handle (renumbering keyring)
  | .held slot key => .held slot (renumbering key)
  | .handle? keyring => .handle? (keyring.map renumbering)
  | .code given => .code given
  | .done => .done

namespace Tenancy

variable {tenancy : Tenancy} {renumbering : Handle → Handle} {keyring : Handle}

theorem renumber_provision {data : Bytes} :
    (tenancy.provision crypto data).1.map (Reply.renumber renumbering) =
      (tenancy.provision crypto data).1 := by
  unfold provision
  split
  · dsimp only
    cases (KeyStore.provisioning crypto tenancy.entries data).1 with
    | ok added => simp [Except.map, Reply.renumber]
    | error failure => simp [Except.map]
  · rfl

/-- The handle of the keyring is all that an answer takes from it. -/
theorem answer_renumber (request : Request) :
    tenancy.answer crypto host (renumbering keyring) request =
      ((tenancy.answer crypto host keyring request).1.map (Reply.renumber renumbering),
        (tenancy.answer crypto host keyring request).2) := by
  cases request with
  | verify other certificate digest digestLength =>
    simp only [answer]
    cases KeyStore.verification crypto tenancy.entries certificate digest digestLength <;> rfl
  | provision other data => simp only [answer, renumber_provision]
  | provisionFrom other source =>
    simp only [answer]
    cases source.read host with
    | ok data => simp only [renumber_provision]
    | error refusal => rfl
  | load | verifyDigest | findKey | resolve | release | loadAnchor | peek => rfl

theorem answers_renumber (requests : List Request) :
    tenancy.answers crypto host (renumbering keyring) requests =
      (tenancy.answers crypto host keyring requests).map
        (Except.map (Reply.renumber renumbering)) := by
  induction requests generalizing tenancy with
  | nil => rfl
  | cons request requests ih =>
    simp only [answers, answer_renumber, ih, List.map_cons]

end Tenancy

namespace Deployment

variable {start start' : Deployment KeyStore} {member : Member}

/-- Before anything has happened, a verifier was built for an anchor of its own. -/
structure Owns (start : Deployment KeyStore) (member : Member) : Prop where
  fresh : start.Fresh
  own : ∃ number, start.place? member.anchor = some (.own number)
  built : start.newMember member.verifier.config member.anchor member.service member.primitive =
    .ok member

theorem Owns.ofAnchor_eq (h : start.Owns member) :
    Verifier.ofAnchor member.verifier.config (start.anchor member.anchor) =
      .ok member.verifier := by
  have hbuilt := h.built
  unfold newMember at hbuilt
  cases hverifier : Verifier.ofAnchor member.verifier.config (start.anchor member.anchor) with
  | error refusal =>
    rw [hverifier] at hbuilt
    cases hbuilt
  | ok verifier =>
    rw [hverifier] at hbuilt
    rw [← congrArg Member.verifier (Except.ok.inj hbuilt)]

/-- Nothing is loaded and nothing is held under the verifier's name. -/
theorem Owns.exists_houses (h : start.Owns member) : ∃ place, start.Houses member place {} := by
  obtain ⟨number, hplace⟩ := h.own
  refine ⟨.own number, h.fresh.wired, hplace, ?_⟩
  obtain ⟨-, howned, -⟩ := Verifier.ofAnchor_eq_ok_iff.mp h.ofAnchor_eq
  rw [anchor_of_place? hplace] at howned
  refine ⟨howned, fun _ => h.fresh.unset _, nofun, .absent ?_⟩
  intro keyring hname
  obtain ⟨members, hget⟩ := KeyStore.get?_eq_of_keyringName? hname
  rw [h.fresh.state, KeyStore.get?_empty] at hget
  cases hget

/-- Verifiers with anchors of their own share a key store under different keyring names.  If the
requests of one of them are the same in two sessions, whatever else happens there, they come to the
same results, up to the numbering of handles. -/
theorem keyrings_independent (crypto : Crypto) (host : Host) (member : Member)
    (start start' : Deployment KeyStore) (hstart : start.Owns member)
    (hstart' : start'.Owns member) (acts acts' : List Act)
    (hapart : start.Apart crypto host member acts)
    (hapart' : start'.Apart crypto host member acts')
    (hsame : acts.filterMap (Act.own? member) = acts'.filterMap (Act.own? member)) :
    ∃ renumbering : Equiv.Perm Handle,
      start'.results crypto host member acts' =
        (start.results crypto host member acts).map
          (Except.map (Reply.renumber renumbering)) := by
  obtain ⟨place, hhouses⟩ := hstart.exists_houses
  obtain ⟨place', hhouses'⟩ := hstart'.exists_houses
  have hname : member.verifier.config.keyringName ≠ "" :=
    (Verifier.Built.ofAnchor hstart.ofAnchor_eq rfl).keyringName_ne
  obtain ⟨keyring, hkeyring⟩ :=
    (wired_afterActs hhouses.wired acts).layout.exists_forall_eq
      member.verifier.config.keyringName
  obtain ⟨keyring', hkeyring'⟩ :=
    (wired_afterActs hhouses'.wired acts').layout.exists_forall_eq
      member.verifier.config.keyringName
  refine ⟨Equiv.swap keyring keyring', ?_⟩
  rw [results_eq_answers hhouses hname hapart hkeyring,
    results_eq_answers hhouses' hname hapart' hkeyring', ← hsame, ← Tenancy.answers_renumber,
    Equiv.swap_apply_left]

open Shadowing (second certificate digest) in
/-- A certificate that only the keyring of another verifier holds. -/
theorem keyrings_independent_otherKeyring :
    let crypto := Crypto.standard
    let host : Host := ⟨fun _ => .error none, fun _ => none⟩
    let member : Member := ⟨⟨{}, none⟩, .numbered 0, 0, 0⟩
    let other : Member := ⟨⟨⟨"other"⟩, none⟩, .numbered 1, 0, 0⟩
    let start : Deployment KeyStore := { state := {}, anchors := [.own {}, .own {}] }
    let verifies (asked : Member) : Act := .request (.verify asked certificate digest digest.length)
    let alone : List Act := [.request (.load member), verifies member]
    let beside : List Act :=
      [.request (.load other), .request (.provision other second), .request (.load member),
        verifies other, .call (.release ⟨3⟩), verifies member]
    start.Owns member ∧ start.Apart crypto host member alone ∧
      start.Apart crypto host member beside ∧
      start.results crypto host other beside = [.ok (.handle ⟨1⟩), .ok .done, .ok (.code 0)] ∧
      start.results crypto host member alone =
        [.ok (.handle ⟨1⟩), .error (.error .noKey)] ∧
      ∃ keyring, start.results crypto host member beside =
        [.ok (.handle keyring), .error (.error .noKey)] := by
  intro crypto host member other start verifies alone beside
  have howns : start.Owns member := by
    refine ⟨⟨rfl, ?_⟩, ⟨0, rfl⟩, by decide⟩
    intro place
    rcases place with _ | _ | _ | number <;> rfl
  have hown : ∀ (here : Deployment KeyStore) (asked : Act), asked.own? member ≠ none →
      asked.own? member = none → here.IsOutside member asked :=
    fun _ _ hsome hnone => absurd hnone hsome
  have houtside : ∀ (here : Deployment KeyStore) (request : Request) (isLoader : Bool),
      here.place? = start.place? → request.visitor? = some (other.visitor isLoader) →
        here.IsOutside member (.request request) := by
    intro here request isLoader hplaces hvisitor
    have hname : "other" ≠ ".five" := by decide
    refine .inr ⟨other.visitor isLoader, .own 1, ?_, ?_, hname⟩
    · rw [visitorIn?_eq_some_iff, hplaces]
      exact ⟨hvisitor, rfl⟩
    · rw [hplaces]
      decide
  have halone : start.Apart crypto host member alone :=
    ⟨hown _ _ (by decide), hown _ _ (by decide), trivial⟩
  have hbeside : start.Apart crypto host member beside := by
    refine ⟨fun _ => houtside _ _ true ?_ rfl, fun _ => houtside _ _ false ?_ rfl,
      hown _ _ (by decide), fun _ => houtside _ _ true ?_ rfl, fun _ => id, hown _ _ (by decide),
      trivial⟩
    all_goals simp only [place?_act]
  have hresults : start.results crypto host member alone =
      [.ok (.handle ⟨1⟩), .error (.error .noKey)] := by decide +kernel
  obtain ⟨renumbering, hsame⟩ := keyrings_independent crypto host member start start howns howns
    alone beside halone hbeside (by decide +kernel)
  rw [hresults] at hsame
  exact ⟨howns, halone, hbeside, by decide +kernel, hresults, renumbering ⟨1⟩, hsame⟩

end Deployment

end TrustedKeyring
