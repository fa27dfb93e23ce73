import TrustedKeyring.Proofs.Deployment.Session
import TrustedKeyring.Proofs.KeyStore.Keyrings

/-!
# Tenants of a key store

A verifier with an anchor of its own can tell two things of the world: whether the anchor is loaded,
and what its keyring holds.  They settle its requests, but for the handle of the keyring, and what
they become (`houses_perform`).
-/

namespace TrustedKeyring

open TrustStore (collaborators)

variable {crypto : Crypto} {host : Host}

/-- What a verifier with an anchor of its own can tell of the world: whether the anchor is loaded,
and what its keyring holds. -/
structure Tenancy where
  isLoaded : Bool := false
  entries : List (Bytes × PublicKey) := []

namespace Tenancy

def provision (crypto : Crypto) (tenancy : Tenancy) (data : Bytes) :
    Outcome Refusal Reply × Tenancy :=
  if tenancy.isLoaded then
    let added := KeyStore.provisioning crypto tenancy.entries data
    (added.1.map fun _ => .done, { tenancy with entries := added.2 })
  else (.error (.error (.invalidArgument "trust anchor is not loaded")), tenancy)

theorem provision_of_loaded (tenancy : Tenancy) {data : Bytes} (h : tenancy.isLoaded = true) :
    tenancy.provision crypto data =
      ((KeyStore.provisioning crypto tenancy.entries data).1.map fun _ => .done,
        { tenancy with entries := (KeyStore.provisioning crypto tenancy.entries data).2 }) :=
  if_pos h

theorem provision_of_unset (tenancy : Tenancy) {data : Bytes} (h : tenancy.isLoaded = false) :
    tenancy.provision crypto data =
      (.error (.error (.invalidArgument "trust anchor is not loaded")), tenancy) :=
  if_neg (by rw [h]; decide)

def answer (crypto : Crypto) (host : Host) (keyring : Handle) (tenancy : Tenancy) :
    Request → Outcome Refusal Reply × Tenancy
  | .load _ => (.ok (.handle keyring), { tenancy with isLoaded := true })
  | .verify _ certificate digest digestLength =>
    ((KeyStore.verification crypto tenancy.entries certificate digest digestLength).map .code,
      { tenancy with isLoaded := true })
  | .provision _ data => tenancy.provision crypto data
  | .provisionFrom _ source =>
    match source.read host with
    | .ok data => tenancy.provision crypto data
    | .error refusal => (.error (.error refusal), tenancy)
  | _ => (.ok .done, tenancy)

def answers (crypto : Crypto) (host : Host) (keyring : Handle) (tenancy : Tenancy) :
    List Request → List (Outcome Refusal Reply)
  | [] => []
  | request :: requests =>
    (tenancy.answer crypto host keyring request).1 ::
      answers crypto host keyring (tenancy.answer crypto host keyring request).2 requests

end Tenancy

structure Tenancy.Fits (tenancy : Tenancy) (verifier : Verifier) (anchor : TrustAnchor)
    (store : KeyStore) : Prop where
  isOwn : anchor.isProcess = false
  unset : tenancy.isLoaded = false → anchor.binding = none
  bound : tenancy.isLoaded = true → ∃ keyring,
    anchor.binding = some ⟨keyring, verifier.config.keyringName, verifier.owner⟩ ∧
      store.keyringName? keyring = some verifier.config.keyringName
  holds : store.HoldsNamed verifier.config.keyringName tenancy.entries

def Request.isOf (member : Member) : Request → Bool
  | .load other | .verify other _ _ _ | .provision other _ | .provisionFrom other _ =>
    other = member
  | _ => false

/-! ## Requests of the verifier -/

section Traces

variable {verifier : Verifier} {anchor after : TrustAnchor} {store last : KeyStore}
  {calls : List Exchange} {tenancy : Tenancy}

/-- A load gives the keyring that bears the verifier's name. -/
theorem LoadTrace.fits {outcome : Outcome Refusal Handle}
    (h : LoadTrace verifier.config.keyringName verifier.owner anchor calls outcome after)
    (hfits : tenancy.Fits verifier anchor store) (hlayout : store.Layout)
    (hname : verifier.config.keyringName ≠ "")
    (hanswer : (collaborators crypto).Answer store calls last) :
    ∃ keyring, outcome = .ok keyring ∧
      last.keyringName? keyring = some verifier.config.keyringName ∧
      { tenancy with isLoaded := true }.Fits verifier after last := by
  cases hloaded : tenancy.isLoaded with
  | true =>
    obtain ⟨keyring, hbound, hnamed⟩ := hfits.bound hloaded
    obtain ⟨rfl, hadmission, rfl⟩ := h.of_bound hbound
    rw [show last = store from hanswer]
    refine ⟨keyring, ?_, hnamed, hfits.isOwn, nofun, fun _ => ⟨keyring, hbound, hnamed⟩,
      hfits.holds⟩
    cases outcome with
    | error failure => exact absurd hadmission not_admission_error
    | ok handle =>
      have hsame := hadmission.binding_eq
      cases hsame
      rfl
  | false =>
    obtain ⟨answer, rfl, hend⟩ := h.of_owned (hfits.unset hloaded) (.inl hfits.isOwn)
    obtain ⟨keyring, rfl, hopened⟩ := KeyStore.opened_of_answer hname hanswer
    obtain ⟨houtcome, hafter⟩ := Prod.mk.inj hend
    have hnamed := hlayout.keyringName?_openKeyring (congrArg Prod.fst hopened)
    have hholds := hfits.holds.openKeyring hlayout verifier.config.keyringName
    rw [hopened] at hnamed hholds
    rw [hafter]
    exact ⟨keyring, houtcome, hnamed, hfits.isOwn, nofun, fun _ => ⟨keyring, rfl, hnamed⟩, hholds⟩

theorem VerifyTrace.fits {certificate : Certificate} {digest : Bytes} {digestLength : Nat}
    {outcome : Outcome Refusal Int32}
    (h : VerifyTrace verifier certificate digest digestLength anchor calls outcome after)
    (hfits : tenancy.Fits verifier anchor store) (hlayout : store.Layout)
    (hname : verifier.config.keyringName ≠ "")
    (hanswer : (collaborators crypto).Answer store calls last) :
    outcome = KeyStore.verification crypto tenancy.entries certificate digest digestLength ∧
      { tenancy with isLoaded := true }.Fits verifier after last := by
  cases h with
  | notLoaded hload =>
    obtain ⟨keyring, houtcome, -⟩ := hload.fits hfits hlayout hname hanswer
    cases houtcome
  | @loaded loads checks given outcome after hload hcheck =>
    obtain ⟨between, hloads, hchecks⟩ := Collaborators.answer_append.mp hanswer
    obtain ⟨keyring, houtcome, hnamed, hbetween⟩ := hload.fits hfits hlayout hname hloads
    cases houtcome
    have hnext := KeyStore.layout_of_steps (KeyStore.steps_of_answer hloads) hlayout
    have hholds := hbetween.holds.holds hnext hnamed
    have hext := KeyStore.extends_of_steps (KeyStore.steps_of_answer hchecks)
    obtain ⟨hverdict, hsame⟩ := hcheck.eq_verification (.held hholds) hchecks
    have hkept := hext.keyringName?_eq hnamed
    exact ⟨hverdict, hbetween.isOwn, nofun, fun _ => ⟨given, hload.binding_eq, hkept⟩,
      .held hkept (hsame.holds hholds)⟩

theorem ProvisionTrace.fits {data : Bytes} {outcome : Outcome Refusal Unit}
    (h : ProvisionTrace verifier data anchor calls outcome)
    (hfits : tenancy.Fits verifier anchor store) (hlayout : store.Layout)
    (hanswer : (collaborators crypto).Answer store calls last) :
    outcome.map (fun _ => Reply.done) = (tenancy.provision crypto data).1 ∧
      (tenancy.provision crypto data).2.Fits verifier anchor last := by
  cases hloaded : tenancy.isLoaded with
  | true =>
    rw [tenancy.provision_of_loaded hloaded]
    obtain ⟨keyring, hbound, hnamed⟩ := hfits.bound hloaded
    have hholds := hfits.holds.holds hlayout hnamed
    have hext := KeyStore.extends_of_steps (KeyStore.steps_of_answer hanswer)
    obtain ⟨houtcome, hlast⟩ := h.eq_provisioning hbound hholds hanswer
    have hkept := hext.keyringName?_eq hnamed
    rw [houtcome]
    exact ⟨rfl, hfits.isOwn, hfits.unset, fun _ => ⟨keyring, hbound, hkept⟩, .held hkept hlast⟩
  | false =>
    rw [tenancy.provision_of_unset hloaded]
    have hunset := hfits.unset hloaded
    cases h with
    | unset =>
      rw [show last = store from hanswer]
      exact ⟨rfl, hfits⟩
    | refused hbound | empty hbound | added hbound | failed hbound | panicked hbound =>
      rw [hunset] at hbound
      cases hbound

end Traces

namespace Deployment

structure Houses (deployment : Deployment KeyStore) (member : Member) (place : AnchorPlace)
    (tenancy : Tenancy) : Prop where
  wired : deployment.Wired
  located : deployment.place? member.anchor = some place
  fits : tenancy.Fits member.verifier (deployment.anchorIn place) deployment.state

variable {deployment : Deployment KeyStore} {member : Member} {place : AnchorPlace}
  {tenancy next : Tenancy} {request : Request}

/-- A run of the verifier leaves the anchor and the store that its operation leaves. -/
theorem houses_run {α : Type} {operation : Operation α}
    (h : deployment.Houses member place tenancy) (correct : Outcome Refusal α → KeyStore → Prop)
    (hensures : operation.Ensures (deployment.anchorIn place) fun calls outcome after =>
      ∀ last, (collaborators crypto).Answer deployment.state calls last →
        correct outcome last ∧ next.Fits member.verifier after last) :
    let step := deployment.runMember (KeyStore.environment crypto host) member operation
    step.deployment.Wired →
      correct step.outcome step.deployment.state ∧ step.deployment.Houses member place next := by
  intro step hwired
  have hanswer := Operation.answer_run (collaborators crypto) operation
    ⟨deployment.anchor member.anchor, deployment.state⟩
  have hsame : step.deployment.place? = deployment.place? := place?_run _ _ _ _ _ _
  have hplace : step.deployment.place? member.anchor = some place := by
    rw [hsame]
    exact h.located
  have hafter : step.deployment.anchorIn place = _ :=
    (anchor_of_place? hplace).symm.trans (anchor_run h.located _ _ _ _)
  rw [← anchor_of_place? h.located] at hensures
  obtain ⟨hcorrect, hfits⟩ := hensures.run (collaborators crypto) deployment.state _ hanswer
  have hthere : next.Fits member.verifier (step.deployment.anchorIn place)
      step.deployment.state := by
    rw [hafter]
    exact hfits
  exact ⟨hcorrect, hwired, hplace, hthere⟩

theorem houses_load (h : deployment.Houses member place tenancy)
    (hname : member.verifier.config.keyringName ≠ "") :
    let step := deployment.runMember (KeyStore.environment crypto host) member
      member.verifier.load
    step.deployment.Wired →
      (∃ keyring, step.outcome = .ok keyring ∧ step.deployment.state.keyringName? keyring =
        some member.verifier.config.keyringName) ∧
      step.deployment.Houses member place { tenancy with isLoaded := true } := by
  apply houses_run h fun outcome last => ∃ keyring, outcome = .ok keyring ∧
    last.keyringName? keyring = some member.verifier.config.keyringName
  refine (ensures_load _ _ _).mono ?_
  intro calls outcome after htrace last hanswer
  obtain ⟨keyring, houtcome, hnamed, hfits⟩ := htrace.fits h.fits h.wired.layout hname hanswer
  exact ⟨⟨keyring, houtcome, hnamed⟩, hfits⟩

theorem houses_verify (h : deployment.Houses member place tenancy)
    (hname : member.verifier.config.keyringName ≠ "") (certificate : Certificate)
    (digest : Bytes) (digestLength : Nat) :
    let step := deployment.runMember (KeyStore.environment crypto host) member
      (member.verifier.verify certificate digest digestLength)
    step.deployment.Wired →
      step.outcome =
        KeyStore.verification crypto tenancy.entries certificate digest digestLength ∧
      step.deployment.Houses member place { tenancy with isLoaded := true } := by
  apply houses_run h fun outcome _ =>
    outcome = KeyStore.verification crypto tenancy.entries certificate digest digestLength
  refine (ensures_verify _ _ _ _ _).mono ?_
  intro calls outcome after htrace last hanswer
  exact htrace.fits h.fits h.wired.layout hname hanswer

theorem houses_provision (h : deployment.Houses member place tenancy) (data : Bytes) :
    let step := deployment.runMember (KeyStore.environment crypto host) member
      (member.verifier.provision data)
    step.deployment.Wired →
      step.outcome.map (fun _ => Reply.done) = (tenancy.provision crypto data).1 ∧
      step.deployment.Houses member place (tenancy.provision crypto data).2 := by
  apply houses_run h fun outcome _ =>
    outcome.map (fun _ => Reply.done) = (tenancy.provision crypto data).1
  refine (ensures_provision _ _ _).mono ?_
  rintro calls outcome after ⟨htrace, rfl⟩ last hanswer
  exact htrace.fits h.fits h.wired.layout hanswer

theorem houses_provisionFrom (h : deployment.Houses member place tenancy)
    (source : CertificateSource) (keyring : Handle) :
    let step := deployment.runMember (KeyStore.environment crypto host) member
      (member.verifier.provisionFrom host source)
    let answer := tenancy.answer crypto host keyring (.provisionFrom member source)
    step.deployment.Wired →
      step.outcome.map (fun _ => Reply.done) = answer.1 ∧
      step.deployment.Houses member place answer.2 := by
  intro step answer hwired
  cases hsource : source.read host with
  | ok data =>
    have hanswer : answer = tenancy.provision crypto data := by
      simp only [answer, Tenancy.answer, hsource]
    have hsame : step = deployment.runMember (KeyStore.environment crypto host) member
        (member.verifier.provision data) := by
      simp only [step, member.verifier.provisionFrom_of_ok hsource]
    rw [hsame] at hwired ⊢
    rw [hanswer]
    exact houses_provision h data hwired
  | error refusal =>
    have hanswer : answer = (.error (.error refusal), tenancy) := by
      simp only [answer, Tenancy.answer, hsource]
    have hsame : step = deployment.runMember (KeyStore.environment crypto host) member
        (Operation.refuse refusal) := by
      simp only [step, member.verifier.provisionFrom_of_error hsource]
    rw [hsame] at hwired ⊢
    rw [hanswer]
    apply houses_run h (fun outcome _ => outcome.map (fun _ => Reply.done) =
      .error (.error refusal)) _ hwired
    rintro last rfl
    exact ⟨rfl, h.fits⟩

/-- A request of the verifier is answered by its tenancy, and leaves what the answer leaves. -/
theorem houses_perform (h : deployment.Houses member place tenancy)
    (hname : member.verifier.config.keyringName ≠ "") (hown : request.isOf member = true)
    {keyring : Handle} :
    let step := deployment.perform (KeyStore.environment crypto host) request
    (∀ handle, step.deployment.state.keyringName? handle =
        some member.verifier.config.keyringName → handle = keyring) →
      step.outcome = (tenancy.answer crypto host keyring request).1 ∧
        step.deployment.Houses member place (tenancy.answer crypto host keyring request).2 := by
  intro step hkeyring
  have hwired : step.deployment.Wired := wired_act h.wired (.request request)
  cases request with
  | load other =>
    obtain rfl : other = member := of_decide_eq_true hown
    obtain ⟨⟨handle, houtcome, hnamed⟩, hafter⟩ := houses_load h hname hwired
    rw [hkeyring handle hnamed] at houtcome
    exact ⟨congrArg (Except.map Reply.handle) houtcome, hafter⟩
  | verify other certificate digest digestLength =>
    obtain rfl : other = member := of_decide_eq_true hown
    obtain ⟨houtcome, hafter⟩ := houses_verify h hname certificate digest digestLength hwired
    exact ⟨congrArg (Except.map Reply.code) houtcome, hafter⟩
  | provision other data =>
    obtain rfl : other = member := of_decide_eq_true hown
    exact houses_provision h data hwired
  | provisionFrom other source =>
    obtain rfl : other = member := of_decide_eq_true hown
    exact houses_provisionFrom h source keyring hwired
  | verifyDigest | findKey | resolve | release | loadAnchor | peek => cases hown

end Deployment

end TrustedKeyring
