import TrustedKeyring.Proofs.KeyStore.History
import TrustedKeyring.Proofs.TrustStore.Selection
import TrustedKeyring.Proofs.Verifier.Loaded

/-!
# Permanence of selections

Members of a keyring keep their order, and their identifiers and keys, so a search that has found a
key finds it ever after.  A verification over a key store that comes to anything but a missing key
therefore comes to the same in every later world (`selection_permanent`).
-/

namespace TrustedKeyring

open TrustStore (collaborators)

variable {crypto : Crypto} {keyring handle : Handle} {description : String} {byEnd : Bool}

namespace KeyStore

variable {store next : KeyStore} {members : List Handle}

theorem find?_of_search_ok
    (h : (store.search keyring .asymmetric description byEnd).1 = .ok handle) :
    ∃ members, store.members keyring = .ok members ∧
      members.find? (store.selects description byEnd) = some handle := by
  unfold search at h
  cases hmembers : store.members keyring with
  | error errno =>
    rw [hmembers] at h
    cases h
  | ok members =>
    simp only [hmembers, ne_eq, not_true_eq_false, if_false] at h
    cases hfound : members.find? (store.selects description byEnd) with
    | none => simp [hfound] at h
    | some found => simp_all

theorem search_ok_of_find? (hmembers : store.members keyring = .ok members)
    (hfound : members.find? (store.selects description byEnd) = some handle) :
    (store.search keyring .asymmetric description byEnd).1 = .ok handle := by
  simp [search, hmembers, hfound]

/-- Keys that are there already are asked for by the same descriptions. -/
theorem Extends.find?_selects (h : store.Extends next)
    (hkeys : ∀ member ∈ members, ∃ entry, store.IsKey member entry) :
    members.find? (next.selects description byEnd) =
      members.find? (store.selects description byEnd) := by
  induction members with
  | nil => rfl
  | cons member members ih =>
    have hrest := ih fun other hother => hkeys other (List.mem_cons_of_mem member hother)
    obtain ⟨entry, hkey⟩ := hkeys member List.mem_cons_self
    have hsame : next.selects description byEnd member =
        store.selects description byEnd member := by
      rw [selects, selects, hkey.1, (h.isKey hkey).1]
    rw [List.find?_cons, List.find?_cons, hsame, hrest]

/-- A search that has found a key finds it in every store that extends the first one. -/
theorem Extends.search_eq_ok (h : store.Extends next) (hsound : store.Sound)
    (hsearch : (store.search keyring .asymmetric description byEnd).1 = .ok handle) :
    (next.search keyring .asymmetric description byEnd).1 = .ok handle := by
  obtain ⟨members, hmembers, hfound⟩ := find?_of_search_ok hsearch
  obtain ⟨more, hmore⟩ := h.members_eq hmembers
  apply search_ok_of_find? hmore
  have hkept : members.find? (next.selects description byEnd) = some handle := by
    rw [h.find?_selects (hsound keyring members hmembers), hfound]
  rw [List.find?_append, hkept, Option.some_or]

theorem exists_isKey_of_search
    (hsearch : (store.search keyring .asymmetric description byEnd).1 = .ok handle) :
    ∃ entry, store.IsKey handle entry := by
  obtain ⟨members, -, hfound⟩ := find?_of_search_ok hsearch
  exact exists_isKey_of_selects (List.find?_some hfound)

end KeyStore

/-! ## Later worlds -/

/-- What any interactions, of any operations, can make of the world of an anchor and a key store. -/
abbrev World.Later (crypto : Crypto) : World KeyStore → World KeyStore → Prop :=
  Relation.ReflTransGen fun world next =>
    ∃ request : Interaction, next = (request.answer (collaborators crypto) world).2

namespace World.Later

variable {world later : World KeyStore}

theorem steps (h : World.Later crypto world later) :
    KeyStore.Steps crypto world.state later.state := by
  induction h with
  | refl => exact .refl
  | tail _ hnext ih =>
    obtain ⟨request, rfl⟩ := hnext
    exact ih.trans (KeyStore.steps_answer crypto request _)

theorem binding_eq {binding : Binding} (h : World.Later crypto world later)
    (hbound : world.anchor.binding = some binding) : later.anchor.binding = some binding := by
  induction h with
  | refl => exact hbound
  | tail _ hnext ih =>
    obtain ⟨request, rfl⟩ := hnext
    cases request with
    | bind other => simp only [Interaction.answer, ih]
    | _ => exact ih

end World.Later

/-! ## Later verifications -/

variable {verifier : Verifier} {certificate : Certificate} {digest : Bytes} {digestLength : Nat}
  {anchor anchor' after after' : TrustAnchor} {calls calls' : List Exchange}
  {state state' last last' : KeyStore}

/-- Two verifications of which the second finds the anchor as the first has left it. -/
theorem VerifyTrace.outcome_eq {outcome outcome' : Outcome Refusal Int32}
    (h : VerifyTrace verifier certificate digest digestLength anchor calls outcome after)
    (hbuilt : verifier.Built anchor) (hsound : state.Sound)
    (hanswer : (collaborators crypto).Answer state calls last)
    (h' : VerifyTrace verifier certificate digest digestLength anchor' calls' outcome' after')
    (hanswer' : (collaborators crypto).Answer state' calls' last')
    (hsteps : KeyStore.Steps crypto last state')
    (hbinding : ∀ binding, after.binding = some binding → anchor'.binding = some binding)
    (hkey : outcome ≠ .error (.error .noKey)) : outcome' = outcome := by
  have hlast := KeyStore.sound_of_steps (KeyStore.steps_of_answer hanswer) hsound
  have hlater := KeyStore.sound_of_steps hsteps hlast
  rcases h.refused_or_verdict hbuilt hsound hanswer with
    ⟨binding, failure, hbound, rfl, hadmission⟩ | ⟨keyring, entries, hbound, hreads, rfl⟩
  · exact h'.of_refused (hbinding binding hbound) hadmission
  · -- what the handle has read before comes first in what it reads later
    obtain ⟨hcheck, -⟩ := h'.check_of_binding_eq (hbinding _ hbound)
    obtain ⟨more, hmore⟩ := (KeyStore.extends_of_steps hsteps).reads hlater hreads
    obtain ⟨houtcome, -⟩ := hcheck.eq_verification hmore hanswer'
    rw [houtcome, KeyStore.verification_append hkey]

/-- No later call changes which key a search selects, or what that key is.  A verification by a
verifier that was built comes to the same outcome in every later world, unless it is that there is
no key. -/
theorem selection_permanent (crypto : Crypto) (calls : List KeyStore.Call) :
    let state := KeyStore.after crypto {} calls
    (∀ keyring description byEnd handle,
      (state.search keyring .asymmetric description byEnd).1 = .ok handle →
        ∃ key, state.publicKey? handle = some key ∧
          ∀ more : List KeyStore.Call,
            ((state.after crypto more).search keyring .asymmetric description byEnd).1 =
              .ok handle ∧
            (state.after crypto more).publicKey? handle = some key) ∧
    ∀ (verifier : Verifier) (anchor : TrustAnchor), verifier.Built anchor →
      ∀ (certificate : Certificate) (digest : Bytes) (digestLength : Nat),
        let verify (world : World KeyStore) : Run KeyStore Int32 :=
          (verifier.verify certificate digest digestLength).run (collaborators crypto) world
        let first := verify ⟨anchor, state⟩
        first.outcome ≠ .error (.error .noKey) →
          ∀ later, World.Later crypto first.world later →
            (verify later).outcome = first.outcome := by
  intro state
  have hsound : state.Sound :=
    KeyStore.sound_of_steps (KeyStore.steps_after crypto {} calls) KeyStore.sound_empty
  constructor
  · intro keyring description byEnd handle hsearch
    obtain ⟨entry, hkey⟩ := KeyStore.exists_isKey_of_search hsearch
    refine ⟨entry.2, hkey.2, ?_⟩
    intro more
    have hext := KeyStore.extends_of_steps (KeyStore.steps_after crypto state more)
    exact ⟨hext.search_eq_ok hsound hsearch, (hext.isKey hkey).2⟩
  · intro verifier anchor hbuilt certificate digest digestLength verify first hkey later hlater
    -- both verifications by their traces, the later one in a store that has only grown
    have htrace := (ensures_verify verifier certificate digest digestLength anchor).run
      (collaborators crypto) state
    have hanswer := Operation.answer_run (collaborators crypto)
      (verifier.verify certificate digest digestLength) ⟨anchor, state⟩
    have htrace' := (ensures_verify verifier certificate digest digestLength later.anchor).run
      (collaborators crypto) later.state
    have hanswer' := Operation.answer_run (collaborators crypto)
      (verifier.verify certificate digest digestLength) later
    apply htrace.outcome_eq hbuilt hsound hanswer htrace' hanswer' hlater.steps _ hkey
    intro binding hbound
    exact hlater.binding_eq hbound

open Shadowing (first second) in
/-- A second certificate with the same last four octets does not take the place of the first one,
and what its key has signed stays rejected. -/
theorem selection_permanent_shadowed :
    let crypto := Crypto.standard
    let state := KeyStore.after crypto {} [.openKeyring ".five", .add ⟨1⟩ .asymmetric first]
    let next := state.after crypto [.add ⟨1⟩ .asymmetric second]
    let description := Shadowing.certificate.header.keyId.description
    let verifier : Verifier := ⟨{}, none⟩
    let verify (world : World KeyStore) : Run KeyStore Int32 :=
      (verifier.verify Shadowing.certificate Shadowing.digest Shadowing.digest.length).run
        (collaborators crypto) world
    let before := verify ⟨{}, state⟩
    let added := (Interaction.add ⟨1⟩ .asymmetric second).answer (collaborators crypto) before.world
    (state.search ⟨1⟩ .asymmetric description true).1 = .ok ⟨2⟩ ∧ next.keyCount ⟨1⟩ = 2 ∧
      (next.search ⟨1⟩ .asymmetric description true).1 = .ok ⟨2⟩ ∧
      state.publicKey? ⟨2⟩ = next.publicKey? ⟨2⟩ ∧
      before.outcome = .ok (-129) ∧ added.1 = .ok ⟨3⟩ ∧ (verify added.2).outcome = .ok (-129) := by
  intro crypto state next description verifier verify before added
  obtain ⟨hsearches, hverifications⟩ :=
    selection_permanent crypto [.openKeyring ".five", .add ⟨1⟩ .asymmetric first]
  have hfound : (state.search ⟨1⟩ .asymmetric description true).1 = .ok ⟨2⟩ := by decide +kernel
  have hcount : next.keyCount ⟨1⟩ = 2 := by decide +kernel
  have hadded : added.1 = .ok ⟨3⟩ := by decide +kernel
  have hrejected : before.outcome = .ok (-129) := by decide +kernel
  have hbuilt : verifier.Built {} := .ofAnchor (show Verifier.ofAnchor {} {} = .ok _ by decide) rfl
  obtain ⟨key, hkey, hlater⟩ := hsearches ⟨1⟩ description true ⟨2⟩ hfound
  obtain ⟨hkept, hsame⟩ := hlater [.add ⟨1⟩ .asymmetric second]
  have hstays : (verify added.2).outcome = before.outcome := by
    apply hverifications verifier {} hbuilt Shadowing.certificate Shadowing.digest
    · change before.outcome ≠ _
      rw [hrejected]
      decide
    · exact .single ⟨.add ⟨1⟩ .asymmetric second, rfl⟩
  exact ⟨hfound, hcount, hkept, hkey.trans hsame.symm, hrejected, hadded,
    hstays.trans hrejected⟩

end TrustedKeyring
