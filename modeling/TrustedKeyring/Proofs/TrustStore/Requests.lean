import TrustedKeyring.Proofs.KeyStore.Linearizable
import TrustedKeyring.Proofs.TrustStore.Traces
import TrustedKeyring.Proofs.Verifier.Loaded

/-!
# Requests to a verifier over a key store

A verifier whose anchor is loaded and whose key store is in nobody else's hands serves one request
after the other (`replies`).  Its keyring has no keys at first (`Fresh.represents`), and from then
on the entries that its keyring holds settle each reply (`serve_addCertificate`, `serve_verify`).  A
host of a trust store is given the same replies, with each refusal as a code and a text
(`answers_eq_replies`).
-/

namespace TrustedKeyring

namespace TrustStore

variable {crypto : Crypto} {store : TrustStore} {accepted : Accepted}

/-- The store's anchor is bound for its verifier, to a keyring that holds the accepted entries. -/
def Represents (store : TrustStore) (accepted : Accepted) : Prop :=
  ∃ keyring,
    store.world.anchor.binding =
      some ⟨keyring, store.verifier.config.keyringName, store.verifier.owner⟩ ∧
    store.world.state.Holds keyring accepted

def serve (crypto : Crypto) (store : TrustStore) :
    StoreRequest → Outcome Refusal Answer × TrustStore
  | .addCertificate data =>
    let run := (store.verifier.provision data).run (collaborators crypto) store.world
    (run.outcome.map fun _ => .added, { store with world := run.world })
  | .verify certificate digest digestLength =>
    let run := (store.verifier.verify certificate digest digestLength).run (collaborators crypto)
      store.world
    (run.outcome.map .code, { store with world := run.world })

def replies (crypto : Crypto) (store : TrustStore) :
    List StoreRequest → List (Outcome Refusal Answer)
  | [] => []
  | request :: requests =>
    (store.serve crypto request).1 :: replies crypto (store.serve crypto request).2 requests

def after (crypto : Crypto) (store : TrustStore) : List StoreRequest → TrustStore
  | [] => store
  | request :: requests => after crypto (store.serve crypto request).2 requests

/-- The verifiers over a key store to whose keyring nothing was added: the verifier has loaded its
anchor from an empty store, or its anchor was bound beforehand to a keyring of the store. -/
inductive Fresh (crypto : Crypto) : TrustStore → Prop
  | loaded {verifier : Verifier} {anchor : TrustAnchor} (hbuilt : verifier.Built anchor)
      (hunset : anchor.binding = none) :
      Fresh crypto ⟨verifier, (verifier.load.run (collaborators crypto) ⟨anchor, {}⟩).world⟩
  | preloaded {config : Config} {verifier : Verifier} {name : String} {keyring : Handle}
      {state : KeyStore} (hopened : KeyStore.openKeyring {} name = (.ok keyring, state))
      (hbuilt : Verifier.ofAnchor config (.preloaded config.keyringName keyring) = .ok verifier) :
      Fresh crypto ⟨verifier, ⟨.preloaded config.keyringName keyring, state⟩⟩

/-! ## Replies by what the keyring holds -/

/-- An addition is replied to by what the keyring holds, and it holds what the addition comes to. -/
theorem serve_addCertificate (h : store.Represents accepted) (crypto : Crypto) (data : Bytes) :
    (store.serve crypto (.addCertificate data)).1 =
        (KeyStore.provisioning crypto accepted data).1.map (fun _ => .added) ∧
      (store.serve crypto (.addCertificate data)).2.Represents
        (KeyStore.provisioning crypto accepted data).2 := by
  obtain ⟨verifier, anchor, state⟩ := store
  obtain ⟨keyring, hbound, hholds⟩ := h
  obtain ⟨htrace, hkept⟩ := (ensures_provision verifier data anchor).run (collaborators crypto)
    state
  have hanswer := Operation.answer_run (collaborators crypto) (verifier.provision data)
    ⟨anchor, state⟩
  obtain ⟨houtcome, hlast⟩ := htrace.eq_provisioning hbound hholds hanswer
  exact ⟨congrArg (Except.map fun _ => Answer.added) houtcome, keyring,
    (congrArg TrustAnchor.binding hkept).trans hbound, hlast⟩

/-- A verification is replied to by what the keyring holds, and it holds that still. -/
theorem serve_verify (h : store.Represents accepted) (crypto : Crypto) (certificate : Certificate)
    (digest : Bytes) (digestLength : Nat) :
    (store.serve crypto (.verify certificate digest digestLength)).1 =
        (KeyStore.verification crypto accepted certificate digest digestLength).map .code ∧
      (store.serve crypto (.verify certificate digest digestLength)).2.Represents accepted := by
  obtain ⟨verifier, anchor, state⟩ := store
  obtain ⟨keyring, hbound, hholds⟩ := h
  have htrace := (ensures_verify verifier certificate digest digestLength anchor).run
    (collaborators crypto) state
  have hanswer := Operation.answer_run (collaborators crypto)
    (verifier.verify certificate digest digestLength) ⟨anchor, state⟩
  obtain ⟨hcheck, hkept⟩ := htrace.check_of_binding_eq hbound
  obtain ⟨houtcome, hsame⟩ := hcheck.eq_verification (.held hholds) hanswer
  exact ⟨congrArg (Except.map Answer.code) houtcome, keyring,
    (congrArg TrustAnchor.binding hkept).trans hbound, hsame.holds hholds⟩

/-- A fresh verifier has a keyring without keys. -/
theorem Fresh.represents (h : store.Fresh crypto) : store.Represents [] := by
  cases h with
  | @loaded verifier anchor hbuilt hunset =>
    have htrace := (ensures_load verifier.config.keyringName verifier.owner anchor).run
      (collaborators crypto) {}
    have hanswer := Operation.answer_run (collaborators crypto) verifier.load ⟨anchor, {}⟩
    obtain ⟨keyring, -, hbound, hholds⟩ := htrace.of_empty hunset
      (mayLoad_of_isSome hbuilt.isSome_owner) hbuilt.keyringName_ne hanswer
    exact ⟨keyring, hbound, hholds⟩
  | @preloaded config verifier name keyring state hopened hbuilt =>
    obtain ⟨-, -, rfl⟩ := Verifier.ofAnchor_eq_ok_iff.mp hbuilt
    exact ⟨keyring, rfl, KeyStore.holds_of_openKeyring hopened⟩

/-! ## Trust stores of hosts -/

def Call.request : Call → StoreRequest
  | .addCertificate data => .addCertificate data
  | .verify certificate digest => .verify certificate digest digest.length

def afterCalls (crypto : Crypto) (store : TrustStore) : List Call → TrustStore
  | [] => store
  | call :: calls => afterCalls crypto (store.answer crypto call).2 calls

theorem outcome_map {α β : Type} (f : α → β) (result : Outcome Refusal α) :
    outcome (result.map f) = (outcome result).map f := by
  rcases result with (refusal | message) | value <;> rfl

/-- A host is answered what the verifier replies, with a refusal as a code and a text. -/
theorem answer_eq_serve (crypto : Crypto) (store : TrustStore) (call : Call) :
    store.answer crypto call =
      (outcome (store.serve crypto call.request).1, (store.serve crypto call.request).2) := by
  cases call with
  | addCertificate data =>
    simp only [serve, Call.request, outcome_map]
    rfl
  | verify certificate digest =>
    simp only [serve, Call.request, outcome_map]
    rfl

theorem answers_eq_replies (crypto : Crypto) (store : TrustStore) (calls : List Call) :
    store.answers crypto calls = (store.replies crypto (calls.map Call.request)).map outcome := by
  induction calls generalizing store with
  | nil => rfl
  | cons call calls ih => simp only [answers, replies, answer_eq_serve, ih, List.map_cons]

theorem afterCalls_eq_after (crypto : Crypto) (store : TrustStore) (calls : List Call) :
    store.afterCalls crypto calls = store.after crypto (calls.map Call.request) := by
  induction calls generalizing store with
  | nil => rfl
  | cons call calls ih => simp only [afterCalls, after, answer_eq_serve, ih, List.map_cons]

/-- A store that was made is one whose verifier has loaded its anchor from an empty key store. -/
theorem fresh_of_new {name : Option String} (h : TrustStore.new crypto name = .ok store) :
    store.Fresh crypto := by
  unfold TrustStore.new at h
  dsimp only at h
  split at h
  · cases h
  next verifier hbuilt =>
    unfold perform at h
    dsimp only at h
    split at h
    · cases h
    next hloaded =>
      cases h
      cases (Prod.mk.inj hloaded).2
      exact .loaded (.ofAnchor hbuilt rfl) rfl

end TrustStore

end TrustedKeyring
