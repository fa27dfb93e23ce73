import TrustedKeyring.Proofs.KeyStore.Layout
import TrustedKeyring.Proofs.KeyStore.Verdict
import TrustedKeyring.Proofs.Verifier.Run

/-!
# Verifiers over a key store

A verifier that was built never fails to load its anchor from a key store.  Its verifications end in
the refusal of an anchor that is bound for others, or in the verdict of the keyring that the anchor
holds for it (`VerifyTrace.refused_or_verdict`).
-/

namespace TrustedKeyring

open TrustStore (collaborators)

variable {crypto : Crypto} {state next last : KeyStore} {keyring : Handle}
  {entries others : List (Bytes × PublicKey)} {calls : List Exchange} {verifier : Verifier}
  {anchor after : TrustAnchor} {certificate : Certificate} {digest : Bytes} {digestLength : Nat}

/-! ## What a search reads -/

namespace KeyStore

theorem Sound.exists_reads (h : state.Sound) (keyring : Handle) :
    ∃ entries, state.Reads keyring entries := by
  cases hmembers : state.members keyring with
  | ok members =>
    obtain ⟨entries, hholds⟩ := h.exists_holds hmembers
    exact ⟨entries, .held hholds⟩
  | error errno => exact ⟨[], .nothing hmembers⟩

theorem SameContents.reads (hsame : SameContents state next) (h : state.Reads keyring entries) :
    next.Reads keyring entries := by
  cases h with
  | held hholds => exact .held (hsame.holds hholds)
  | nothing hmembers => exact .nothing ((hsame keyring).1.trans hmembers)

/-- What is read of a handle goes on being read, before everything that comes later. -/
theorem Extends.reads (h : state.Extends next) (hsound : next.Sound)
    (hreads : state.Reads keyring entries) : ∃ more, next.Reads keyring (entries ++ more) := by
  cases hreads with
  | held hholds =>
    obtain ⟨more, hmore⟩ := h.holds hsound hholds
    exact ⟨more, .held hmore⟩
  | nothing hmembers => exact hsound.exists_reads keyring

theorem steps_of_answer (h : (collaborators crypto).Answer state calls last) :
    Steps crypto state last := by
  induction calls generalizing state with
  | nil =>
    rw [show last = state from h]
  | cons call calls ih =>
    obtain ⟨next, hserve, hrest⟩ := Collaborators.answer_cons.mp h
    exact (steps_of_serve? hserve).trans (ih hrest)

end KeyStore

/-! ## Verifications -/

/-- The name of a verifier that was built is one that a keyring can have. -/
theorem Verifier.Built.keyringName_ne (h : verifier.Built anchor) :
    verifier.config.keyringName ≠ "" := by
  have hvalid : verifier.config.validate = .ok () := by
    cases h with
    | ofShared hbuilt =>
      obtain ⟨hvalid, rfl⟩ := Verifier.ofShared_eq_ok_iff.mp hbuilt
      exact hvalid
    | ofAnchor hbuilt =>
      obtain ⟨hvalid, -, rfl⟩ := Verifier.ofAnchor_eq_ok_iff.mp hbuilt
      exact hvalid
  intro hempty
  rw [Config.validate, hempty] at hvalid
  cases hvalid

/-- A store that is asked for a keyring under a name answers with one. -/
theorem KeyStore.opened_of_answer {name : String} {answer : Outcome Errno Handle}
    (hname : name ≠ "")
    (hanswer : (collaborators crypto).Answer state [⟨.openKeyring name, answer⟩] last) :
    ∃ keyring, answer = .ok keyring ∧ state.openKeyring name = (.ok keyring, last) := by
  obtain ⟨keyring, hopened⟩ := state.openKeyring_of_ne hname
  obtain ⟨hreply, hlast⟩ := hanswer
  refine ⟨keyring, ?_, Prod.ext hopened hlast.symm⟩
  rw [show answer = KeyStore.reply (state.openKeyring name).1 from hreply,
    KeyStore.reply_eq_ok_iff, hopened]

/-- An owner is only asked of who loads the shared anchor. -/
theorem mayLoad_of_isSome {owner : Option ServiceId}
    (h : anchor.isProcess = true → owner.isSome = true) :
    anchor.isProcess = false ∨ owner ≠ none := by
  cases hshared : anchor.isProcess with
  | false => exact .inl rfl
  | true =>
    right
    intro hnone
    rw [hnone] at h
    exact absurd (h hshared) (by decide)

theorem LoadTrace.refused_or_ok {name : String} {owner : Option ServiceId}
    {outcome : Outcome Refusal Handle} (h : LoadTrace name owner anchor calls outcome after)
    (hname : name ≠ "") (howned : anchor.isProcess = true → owner.isSome = true)
    (hanswer : (collaborators crypto).Answer state calls last) :
    (∃ binding failure, anchor.binding = some binding ∧ after = anchor ∧
      Admission name owner binding (.error failure) ∧ outcome = .error failure) ∨
    ∃ handle, outcome = .ok handle := by
  cases hbinding : anchor.binding with
  | some binding =>
    obtain ⟨rfl, hadmission, rfl⟩ := h.of_bound hbinding
    cases outcome with
    | error failure => exact .inl ⟨binding, failure, rfl, rfl, hadmission, rfl⟩
    | ok handle => exact .inr ⟨handle, rfl⟩
  | none =>
    obtain ⟨answer, rfl, hend⟩ := h.of_owned hbinding (mayLoad_of_isSome howned)
    obtain ⟨handle, rfl, -⟩ := KeyStore.opened_of_answer hname hanswer
    exact .inr ⟨handle, (Prod.mk.inj hend).1⟩

/-- An anchor that is bound for others refuses every verification alike. -/
theorem VerifyTrace.of_refused {outcome : Outcome Refusal Int32} {binding : Binding}
    {failure : Failure Refusal}
    (h : VerifyTrace verifier certificate digest digestLength anchor calls outcome after)
    (hbound : anchor.binding = some binding)
    (hrefused : Admission verifier.config.keyringName verifier.owner binding (.error failure)) :
    outcome = .error failure := by
  cases h with
  | notLoaded hload =>
    obtain ⟨-, hanswer, -⟩ := hload.of_bound hbound
    have hsame := hanswer.unique hrefused
    cases hsame
    rfl
  | loaded hload =>
    obtain ⟨-, hanswer, -⟩ := hload.of_bound hbound
    have hsame := hanswer.unique hrefused
    cases hsame

/-- A verification with a key store, of a verifier that was built, leaves the anchor bound.  It is
refused if the anchor is bound for others; otherwise it comes to the verdict of what the handle that
the anchor is bound to reads. -/
theorem VerifyTrace.refused_or_verdict {outcome : Outcome Refusal Int32}
    (h : VerifyTrace verifier certificate digest digestLength anchor calls outcome after)
    (hbuilt : verifier.Built anchor) (hsound : state.Sound)
    (hanswer : (collaborators crypto).Answer state calls last) :
    (∃ binding failure, after.binding = some binding ∧ outcome = .error failure ∧
      Admission verifier.config.keyringName verifier.owner binding (.error failure)) ∨
    ∃ keyring entries,
      after.binding = some ⟨keyring, verifier.config.keyringName, verifier.owner⟩ ∧
      last.Reads keyring entries ∧
      outcome = KeyStore.verification crypto entries certificate digest digestLength := by
  cases h with
  | notLoaded hload =>
    rcases hload.refused_or_ok hbuilt.keyringName_ne hbuilt.isSome_owner hanswer with
      ⟨binding, failure, hbound, rfl, hadmission, hfailed⟩ | ⟨handle, hloaded⟩
    · cases hfailed
      exact .inl ⟨binding, _, hbound, rfl, hadmission⟩
    · cases hloaded
  | @loaded loads checks keyring outcome after hload hcheck =>
    obtain ⟨between, hloads, hchecks⟩ := Collaborators.answer_append.mp hanswer
    have hbetween := KeyStore.sound_of_steps (KeyStore.steps_of_answer hloads) hsound
    obtain ⟨entries, hreads⟩ := hbetween.exists_reads keyring
    obtain ⟨houtcome, hsame⟩ := hcheck.eq_verification hreads hchecks
    exact .inr ⟨keyring, entries, hload.binding_eq, hsame.reads hreads, houtcome⟩

end TrustedKeyring
