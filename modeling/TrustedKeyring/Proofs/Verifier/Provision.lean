import TrustedKeyring.Proofs.KeyStore.Addition
import TrustedKeyring.Proofs.Verifier.Ensures

/-!
# Provisioning

Provisioning neither loads the anchor nor searches it.  It is refused without a call
(`Verifier.Declines`), or makes one addition whose answer decides: an error number is kept whatever
it is, and a key is put back once (`run_provision`).
-/

namespace TrustedKeyring

variable {σ : Type} {verifier : Verifier} {anchor : TrustAnchor} {data : Bytes}
  {calls : List Exchange} {outcome : Outcome Refusal Unit} {keyring : Handle} {refusal : Refusal}

/-- The refusals of a certificate that the key service is not asked to add: those of an anchor that
is bound for others, then that of an unset anchor, then that of an empty certificate. -/
inductive Verifier.Declines (verifier : Verifier) (anchor : TrustAnchor) (data : Bytes) :
    Refusal → Prop
  | bound {binding : Binding} {refusal : Refusal} (hbound : anchor.binding = some binding)
      (hanswer : Admission verifier.config.keyringName verifier.owner binding
        (.error (.error refusal))) :
      Declines verifier anchor data refusal
  | unset (hunset : anchor.binding = none) :
      Declines verifier anchor data (.invalidArgument "trust anchor is not loaded")
  | empty {keyring : Handle}
      (hbound : anchor.binding = some ⟨keyring, verifier.config.keyringName, verifier.owner⟩)
      (hdata : data = []) :
      Declines verifier anchor data (.invalidArgument "empty certificate")

/-- The ways in which a source cannot be read: a file with the error number of the system, and a
variable that is not set or is no text. -/
inductive CertificateSource.Unreadable (host : Host) : CertificateSource → Refusal → Prop
  | file {path : String} {errno : Option Errno} (hfile : host.readFile path = .error errno) :
      Unreadable host (.file path) (.unreadable errno)
  | environment {name : String}
      (hname : ∀ content, host.environment name = some content → Text.isUtf8 content = false) :
      Unreadable host (.environment name)
        (.badConfig ("Environment variable not found: " ++ name))

theorem CertificateSource.read_eq_error_iff {host : Host} {source : CertificateSource} :
    source.read host = .error refusal ↔ source.Unreadable host refusal := by
  constructor
  · intro h
    cases source with
    | file path =>
      change (host.readFile path).mapError .unreadable = .error refusal at h
      cases hfile : host.readFile path with
      | ok content =>
        rw [hfile] at h
        cases h
      | error errno =>
        rw [hfile] at h
        cases h
        exact .file hfile
    | environment name =>
      cases hcontent : host.environment name with
      | none =>
        simp only [read, hcontent, Except.error.injEq] at h
        rw [← h]
        exact .environment (by simp [hcontent])
      | some content =>
        cases htext : Text.isUtf8 content with
        | false =>
          simp only [read, hcontent, htext, Bool.false_eq_true, if_false, Except.error.injEq] at h
          rw [← h]
          exact .environment (by simp [hcontent, htext])
        | true => simp [read, hcontent, htext] at h
  · intro h
    cases h with
    | file hfile => rw [read, hfile, Except.mapError]
    | @environment name hname =>
      cases hcontent : host.environment name with
      | none => simp only [read, hcontent]
      | some content => simp only [read, hcontent, hname content hcontent, Bool.false_eq_true,
          if_false]

/-! ## Refused without a call -/

theorem ProvisionTrace.of_declines (h : ProvisionTrace verifier data anchor calls outcome)
    (hdeclined : verifier.Declines anchor data refusal) :
    calls = [] ∧ outcome = .error (.error refusal) := by
  cases hdeclined with
  | unset hunset =>
    cases h with
    | unset => exact ⟨rfl, rfl⟩
    | refused hbound | empty hbound | added hbound | failed hbound | panicked hbound =>
      rw [hunset] at hbound
      cases hbound
  | bound hbound hanswer =>
    cases h with
    | unset hunset =>
      rw [hunset] at hbound
      cases hbound
    | refused hother hrefused =>
      rw [hbound] at hother
      cases hother
      cases hrefused.unique hanswer
      exact ⟨rfl, rfl⟩
    | empty hother | added hother | failed hother | panicked hother =>
      rw [hbound] at hother
      cases hother
      exact absurd hanswer not_admission_error
  | empty hbound hdata =>
    cases h with
    | unset hunset =>
      rw [hunset] at hbound
      cases hbound
    | refused hother hrefused =>
      rw [hbound] at hother
      cases hother
      exact absurd hrefused not_admission_error
    | empty => exact ⟨rfl, rfl⟩
    | added _ hfull | failed _ hfull | panicked _ hfull => exact absurd hdata hfull

/-! ## Decided by the service -/

/-- Whatever becomes of a certificate, the keyring is neither loaded nor searched for it. -/
theorem ProvisionTrace.request_ne (h : ProvisionTrace verifier data anchor calls outcome)
    {call : Exchange} (hcall : call ∈ calls) :
    (∀ name, call.request ≠ .openKeyring name) ∧
      ∀ keyring kind description byEnd, call.request ≠ .search keyring kind description byEnd := by
  cases h with
  | unset | refused | empty => cases hcall
  | added =>
    rcases List.mem_pair.mp hcall with rfl | rfl <;> exact ⟨nofun, nofun⟩
  | failed | panicked =>
    obtain rfl := List.mem_singleton.mp hcall
    exact ⟨nofun, nofun⟩

/-- A bound anchor declines the verifier or admits it; then only an empty certificate is declined.
-/
theorem declines_or_admitted (verifier : Verifier) (data : Bytes) {binding : Binding}
    (hbound : anchor.binding = some binding) :
    (∃ refusal, verifier.Declines anchor data refusal) ∨
      ∃ keyring, some binding = some ⟨keyring, verifier.config.keyringName, verifier.owner⟩ ∧
        data ≠ [] := by
  have hanswer := admission_check binding verifier.config.keyringName verifier.owner
  cases hcheck : binding.check verifier.config.keyringName verifier.owner with
  | error refusal =>
    rw [hcheck] at hanswer
    exact .inl ⟨refusal, .bound hbound hanswer⟩
  | ok keyring =>
    rw [hcheck] at hanswer
    have hbinding := hanswer.binding_eq
    by_cases hdata : data = []
    · exact .inl ⟨_, .empty (hbound.trans (congrArg some hbinding)) hdata⟩
    · exact .inr ⟨keyring, congrArg some hbinding, hdata⟩

/-- In an anchor that is bound for the verifier, a certificate is one call, whose answer decides the
rest. -/
theorem ProvisionTrace.decided {others : Collaborators σ} {state last : σ}
    (h : ProvisionTrace verifier data anchor calls outcome)
    (hbound : anchor.binding = some ⟨keyring, verifier.config.keyringName, verifier.owner⟩)
    (hdata : data ≠ []) (hanswer : others.Answer state calls last) :
    match others.service.add keyring .asymmetric data state with
    | (.ok key, next) =>
      calls = [⟨.add keyring .asymmetric data, .ok key⟩, ⟨.release key, ()⟩] ∧
        outcome = .ok () ∧ last = others.service.release key next
    | (.error (.error errno), next) =>
      calls = [⟨.add keyring .asymmetric data, .error (.error errno)⟩] ∧
        outcome = .error (.error (.provisionFailed errno)) ∧
        (Refusal.provisionFailed errno).errno = errno ∧ last = next
    | (.error (.panic message), next) =>
      calls = [⟨.add keyring .asymmetric data, .error (.panic message)⟩] ∧
        outcome = .error (.panic message) ∧ last = next := by
  cases h with
  | unset hunset =>
    rw [hunset] at hbound
    cases hbound
  | refused hother hrefused =>
    rw [hbound] at hother
    cases hother
    exact absurd hrefused not_admission_error
  | empty _ hempty => exact absurd hempty hdata
  | added hother _ key =>
    rw [hbound] at hother
    cases hother
    obtain ⟨hreply, -, hlast⟩ := hanswer
    have hadd : others.service.add keyring .asymmetric data state =
        (.ok key, (others.service.add keyring .asymmetric data state).2) :=
      Prod.ext hreply.symm rfl
    rw [hadd]
    exact ⟨rfl, rfl, hlast⟩
  | failed hother _ errno =>
    rw [hbound] at hother
    cases hother
    have hadd : others.service.add keyring .asymmetric data state =
        (.error (.error errno), last) := Prod.ext hanswer.1.symm hanswer.2.symm
    rw [hadd]
    exact ⟨rfl, rfl, rfl, rfl⟩
  | panicked hother _ message =>
    rw [hbound] at hother
    cases hother
    have hadd : others.service.add keyring .asymmetric data state =
        (.error (.panic message), last) := Prod.ext hanswer.1.symm hanswer.2.symm
    rw [hadd]
    exact ⟨rfl, rfl, rfl⟩

/-! ## Over a key store -/

namespace KeyStore

variable {crypto : Crypto} {primitive : SignaturePrimitive KeyStore} {store last : KeyStore}

/-- An addition that a store refuses leaves the store as it was. -/
theorem add_snd_of_reply {kind : KeyKind} {payload : Bytes} {failure : Failure Errno}
    (h : reply (store.add crypto keyring kind payload).1 = .error failure) :
    (store.add crypto keyring kind payload).2 = store := by
  cases failure with
  | error errno => rw [(add_fst_eq_error_iff.mp (reply_eq_error_iff.mp h)).add_eq]
  | panic message => exact absurd h reply_ne_panic

theorem eq_of_provisionTrace {failure : Failure Refusal}
    (h : ProvisionTrace verifier data anchor calls (.error failure))
    (hanswer : (⟨service crypto, primitive⟩ : Collaborators KeyStore).Answer store calls last) :
    last = store := by
  cases h with
  | unset | refused | empty => exact hanswer
  | @failed keyring | @panicked keyring =>
    obtain ⟨hreply, hlast⟩ := hanswer
    change _ = reply (store.add crypto keyring .asymmetric data).1 at hreply
    change last = (store.add crypto keyring .asymmetric data).2 at hlast
    rw [hlast, add_snd_of_reply hreply.symm]

end KeyStore

/-! ## Runs -/

theorem trace_provision (others : Collaborators σ) (state : σ) (verifier : Verifier) (data : Bytes)
    (anchor : TrustAnchor) :
    let run := (verifier.provision data).run others ⟨anchor, state⟩
    ProvisionTrace verifier data anchor run.calls run.outcome ∧ run.world.anchor = anchor ∧
      others.Answer state run.calls run.world.state := by
  intro run
  obtain ⟨htrace, hanchor⟩ := (ensures_provision verifier data anchor).run others state
  exact ⟨htrace, hanchor, Operation.answer_run others _ ⟨anchor, state⟩⟩

theorem provision_error_of_store (crypto : Crypto) (primitive : SignaturePrimitive KeyStore)
    (store : KeyStore) (verifier : Verifier) (data : Bytes) (anchor : TrustAnchor)
    {failure : Failure Refusal} :
    let run := (verifier.provision data).run ⟨KeyStore.service crypto, primitive⟩ ⟨anchor, store⟩
    run.outcome = .error failure → run.world = ⟨anchor, store⟩ := by
  intro run hfailed
  obtain ⟨htrace, hanchor, hanswer⟩ :=
    trace_provision ⟨KeyStore.service crypto, primitive⟩ store verifier data anchor
  have hfailure : ProvisionTrace verifier data anchor run.calls (.error failure) := hfailed ▸ htrace
  show (⟨run.world.anchor, run.world.state⟩ : World KeyStore) = ⟨anchor, store⟩
  rw [show run.world.anchor = anchor from hanchor,
    show run.world.state = store from KeyStore.eq_of_provisionTrace hfailure hanswer]

/-- What provisioning comes to, whatever the anchor and the answers of the key service are.  The
keyring is neither loaded nor searched, and the anchor is left as it was.  A certificate that is
declined makes no call; any other is added once, to the keyring of the anchor, with the error number
of the service as the refusal's own, and a new key is put back once.  A source is read first, and if
it cannot be read nothing is called.  What fails with a key store leaves it as it was. -/
theorem run_provision (others : Collaborators σ) (state : σ) (verifier : Verifier) (data : Bytes)
    (anchor : TrustAnchor) (host : Host) (source : CertificateSource) :
    let run := (verifier.provision data).run others ⟨anchor, state⟩
    let sourced := (verifier.provisionFrom host source).run others ⟨anchor, state⟩
    run.world.anchor = anchor ∧
    (∀ call ∈ run.calls, (∀ name, call.request ≠ .openKeyring name) ∧
      ∀ keyring kind description byEnd, call.request ≠ .search keyring kind description byEnd) ∧
    (∀ refusal, verifier.Declines anchor data refusal →
      run.calls = [] ∧ run.outcome = .error (.error refusal) ∧ run.world.state = state) ∧
    (∀ keyring, anchor.binding = some ⟨keyring, verifier.config.keyringName, verifier.owner⟩ →
      data ≠ [] →
      match others.service.add keyring .asymmetric data state with
      | (.ok key, next) =>
        run.calls = [⟨.add keyring .asymmetric data, .ok key⟩, ⟨.release key, ()⟩] ∧
          run.outcome = .ok () ∧ run.world.state = others.service.release key next
      | (.error (.error errno), next) =>
        run.calls = [⟨.add keyring .asymmetric data, .error (.error errno)⟩] ∧
          run.outcome = .error (.error (.provisionFailed errno)) ∧
          (Refusal.provisionFailed errno).errno = errno ∧ run.world.state = next
      | (.error (.panic message), next) =>
        run.calls = [⟨.add keyring .asymmetric data, .error (.panic message)⟩] ∧
          run.outcome = .error (.panic message) ∧ run.world.state = next) ∧
    ((∃ refusal, verifier.Declines anchor data refusal) ∨
      ∃ keyring, anchor.binding = some ⟨keyring, verifier.config.keyringName, verifier.owner⟩ ∧
        data ≠ []) ∧
    (∀ content, source.read host = .ok content →
      sourced = (verifier.provision content).run others ⟨anchor, state⟩) ∧
    (∀ refusal, source.read host = .error refusal →
      source.Unreadable host refusal ∧
        sourced = ⟨.error (.error refusal), ⟨anchor, state⟩, []⟩) ∧
    ∀ crypto primitive store failure,
      let stored : Collaborators KeyStore := ⟨KeyStore.service crypto, primitive⟩
      (((verifier.provision data).run stored ⟨anchor, store⟩).outcome = .error failure →
        ((verifier.provision data).run stored ⟨anchor, store⟩).world = ⟨anchor, store⟩) ∧
      (((verifier.provisionFrom host source).run stored ⟨anchor, store⟩).outcome =
          .error failure →
        ((verifier.provisionFrom host source).run stored ⟨anchor, store⟩).world =
          ⟨anchor, store⟩) := by
  intro run sourced
  obtain ⟨htrace, hanchor, hanswer⟩ := trace_provision others state verifier data anchor
  refine ⟨hanchor, fun call hcall => htrace.request_ne hcall, ?_, ?_, ?_, ?_, ?_, ?_⟩
  · intro refusal hdeclined
    obtain ⟨hcalls, houtcome⟩ := htrace.of_declines hdeclined
    rw [hcalls] at hanswer
    exact ⟨hcalls, houtcome, hanswer⟩
  · intro keyring hbound hdata
    exact htrace.decided hbound hdata hanswer
  · cases hbinding : anchor.binding with
    | none => exact .inl ⟨_, .unset hbinding⟩
    | some binding => exact declines_or_admitted verifier data hbinding
  · intro content hcontent
    show (verifier.provisionFrom host source).run others ⟨anchor, state⟩ = _
    rw [verifier.provisionFrom_of_ok hcontent]
  · intro refusal hrefused
    refine ⟨CertificateSource.read_eq_error_iff.mp hrefused, ?_⟩
    show (verifier.provisionFrom host source).run others ⟨anchor, state⟩ = _
    rw [verifier.provisionFrom_of_error hrefused]
    rfl
  · intro crypto primitive store failure stored
    have hprovision := provision_error_of_store crypto primitive store verifier
    refine ⟨hprovision data anchor, ?_⟩
    cases hread : source.read host with
    | ok content =>
      rw [verifier.provisionFrom_of_ok hread]
      exact hprovision content anchor
    | error refusal =>
      intro _
      rw [verifier.provisionFrom_of_error hread]
      rfl

/-- A service that answers with a number which a search would take for an absent key, and a file
that is not there. -/
theorem run_provision_again :
    let service : KeyService Unit :=
      { openKeyring := fun _ _ => (.ok ⟨7⟩, ()), search := fun _ _ _ _ _ => (.ok ⟨8⟩, ()),
        release := fun _ _ => (), add := fun _ _ _ _ => (.error (.error Errno.EAGAIN), ()) }
    let others : Collaborators Unit := ⟨service, ⟨fun _ _ _ _ _ => (.ok 0, ())⟩⟩
    let anchor := TrustAnchor.preloaded ".five" ⟨7⟩
    let verifier : Verifier := ⟨{}, none⟩
    let host : Host := ⟨fun _ => .error (some Errno.ENOENT), fun _ => none⟩
    let run := (verifier.provision [1]).run others ⟨anchor, ()⟩
    let foreign := ((⟨{}, some 3⟩ : Verifier).provision [1]).run others ⟨anchor, ()⟩
    let sourced := (verifier.provisionFrom host (.file "a.der")).run others ⟨anchor, ()⟩
    Errno.EAGAIN ∈ unusableKey ∧
      run.calls = [⟨.add ⟨7⟩ .asymmetric [1], .error (.error Errno.EAGAIN)⟩] ∧
      run.outcome = .error (.error (.provisionFailed Errno.EAGAIN)) ∧
      foreign.calls = [] ∧ foreign.outcome = .error (.error .otherService) ∧
      sourced.outcome = .error (.error (.unreadable (some Errno.ENOENT))) ∧
      sourced.exchanges = [] := by
  intro service others anchor verifier host run foreign sourced
  obtain ⟨-, -, -, hdecided, -, -, hunread, -⟩ :=
    run_provision others () verifier [1] anchor host (.file "a.der")
  obtain ⟨-, -, hdeclined, -⟩ :=
    run_provision others () ⟨{}, some 3⟩ [1] anchor host (.file "a.der")
  obtain ⟨hcalls, houtcome, -⟩ := hdecided ⟨7⟩ rfl (by decide)
  obtain ⟨hnone, hforeign, -⟩ :=
    hdeclined .otherService (.bound rfl (.otherService rfl (by decide)))
  obtain ⟨-, hsourced⟩ := hunread (.unreadable (some Errno.ENOENT)) rfl
  exact ⟨by decide, hcalls, houtcome, hnone, hforeign, congrArg Run.outcome hsourced,
    congrArg Run.exchanges hsourced⟩

end TrustedKeyring
