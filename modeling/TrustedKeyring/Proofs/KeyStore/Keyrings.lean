import TrustedKeyring.Proofs.KeyStore.Members
import TrustedKeyring.Proofs.Verifier.Loaded

/-!
# Keyrings by their names

What a key store holds under a name does not depend on the handle that the keyring has been given,
nor on whether it has been made yet.  Only an addition to that very keyring changes it
(`holdsNamed_of_answer`).
-/

namespace TrustedKeyring

open TrustStore (collaborators)

variable {crypto : Crypto} {store next last : KeyStore} {keyring other : Handle} {name : String}
  {entries : List (Bytes × PublicKey)} {calls : List Exchange}

def Interaction.storeCall? : Interaction → Option KeyStore.Call
  | .openKeyring name => some (.openKeyring name)
  | .search keyring kind description byEnd => some (.search keyring kind description byEnd)
  | .release key => some (.release key)
  | .add keyring kind payload => some (.add keyring kind payload)
  | .readAnchor | .lock | .bind _ | .unlock _ | .check _ _ _ _ => none

def Exchange.addedTo? (exchange : Exchange) : Option Handle :=
  match exchange.request with
  | .add keyring _ _ => some keyring
  | _ => none

namespace KeyStore

/-- What a store holds under a name: the entries of the keyring that bears it, or nothing if there
is none. -/
inductive HoldsNamed (store : KeyStore) (name : String) : List (Bytes × PublicKey) → Prop
  | held {keyring : Handle} {entries : List (Bytes × PublicKey)}
      (hname : store.keyringName? keyring = some name) (hholds : store.Holds keyring entries) :
      HoldsNamed store name entries
  | absent (habsent : ∀ keyring, store.keyringName? keyring ≠ some name) :
      HoldsNamed store name []

def AddsTo (store : KeyStore) (name : String) : Call → Prop
  | .add keyring _ _ => store.keyringName? keyring = some name
  | _ => False

theorem Layout.handle_eq (h : store.Layout) (hname : store.keyringName? keyring = some name)
    (hother : store.keyringName? other = some name) : keyring = other := by
  have hlookup := (h.named name keyring).mpr hname
  have hlookup' := (h.named name other).mpr hother
  exact Option.some.inj (hlookup.symm.trans hlookup')

/-- What a name can stand for in a store. -/
theorem Layout.exists_forall_eq (h : store.Layout) (name : String) :
    ∃ keyring, ∀ handle, store.keyringName? handle = some name → handle = keyring := by
  by_cases hmade : ∃ keyring, store.keyringName? keyring = some name
  · obtain ⟨keyring, hname⟩ := hmade
    exact ⟨keyring, fun _ hother => h.handle_eq hother hname⟩
  · exact ⟨⟨0⟩, fun handle hname => absurd ⟨handle, hname⟩ hmade⟩

theorem HoldsNamed.holds (h : store.HoldsNamed name entries) (hlayout : store.Layout)
    (hname : store.keyringName? keyring = some name) : store.Holds keyring entries := by
  cases h with
  | held hother hholds =>
    rw [hlayout.handle_eq hname hother]
    exact hholds
  | absent habsent => exact absurd hname (habsent keyring)

theorem members_eq_memberList (h : store.keyringName? keyring = some name) :
    store.members keyring = .ok (store.memberList keyring) := by
  obtain ⟨members, hget⟩ := get?_eq_of_keyringName? h
  have hmembers : store.members keyring = .ok members := by rw [KeyStore.members, hget]
  rw [memberList_of_members hmembers, hmembers]

/-- A call that adds nothing under a name adds nothing to the keyring that bears it. -/
theorem added?_eq_none {call : Call} (hname : store.keyringName? keyring = some name)
    (hcall : ¬store.AddsTo name call) : store.added? crypto keyring call = none := by
  cases call with
  | add given kind payload =>
    have hne : given ≠ keyring := by
      intro heq
      rw [heq] at hcall
      exact hcall hname
    exact if_neg hne
  | openKeyring | search | release => rfl

/-- A keyring that is made holds nothing. -/
theorem holdsNamed_openKeyring (hlayout : store.Layout) (hname : name ≠ "")
    (habsent : ∀ keyring, store.keyringName? keyring ≠ some name) :
    (store.openKeyring name).2.HoldsNamed name [] := by
  obtain ⟨keyring, hopened⟩ := store.openKeyring_of_ne hname
  have hnamed := hlayout.keyringName?_openKeyring hopened
  have hunused : store.get? keyring = none :=
    (hlayout.get?_of_openKeyring hopened).resolve_left (habsent keyring)
  have hmembers : (store.openKeyring name).2.members keyring = .ok [] := by
    rw [members_eq_memberList hnamed, memberList_openKeyring, memberList_eq_nil hunused]
  exact .held hnamed ⟨[], hmembers, .nil⟩

/-- A call that adds nothing under a name leaves what is held there. -/
theorem holdsNamed_afterCall (hlayout : store.Layout) (h : store.HoldsNamed name entries)
    {call : Call} (hcall : ¬store.AddsTo name call) :
    (store.afterCall crypto call).HoldsNamed name entries := by
  have hstep := step_afterCall crypto store call
  have hext := extends_of_step hstep
  have hnext := layout_of_step hstep hlayout
  cases h with
  | @held keyring entries hname hholds =>
    have hkept := hext.keyringName?_eq hname
    refine .held hkept ?_
    obtain ⟨members, hmembers, hkeys⟩ := hholds
    have hlist := memberList_afterCall crypto store call keyring
    rw [added?_eq_none hname hcall, memberList_of_members hmembers, Option.toList_none,
      List.append_nil] at hlist
    refine ⟨members, ?_, hkeys.imp fun _ _ => hext.isKey⟩
    rw [members_eq_memberList hkept, hlist]
  | absent habsent =>
    have hunknown : (store.names.lookup name).isSome = false := by
      cases hlookup : store.names.lookup name with
      | none => rfl
      | some keyring => exact absurd ((hlayout.named name keyring).mp hlookup) (habsent keyring)
    by_cases hopens : name ≠ "" ∧ call = .openKeyring name
    · obtain ⟨hname, rfl⟩ := hopens
      exact holdsNamed_openKeyring hlayout hname habsent
    · -- only a request for the name itself makes the keyring
      apply HoldsNamed.absent
      intro keyring hmade
      have hlookup := lookup_names_afterCall crypto store call name
      rw [(hnext.named name keyring).mpr hmade, hunknown] at hlookup
      simp [hopens] at hlookup

theorem HoldsNamed.openKeyring (h : store.HoldsNamed name entries) (hlayout : store.Layout)
    (other : String) : (store.openKeyring other).2.HoldsNamed name entries := by
  have hquiet : ¬store.AddsTo name (.openKeyring other) := fun hadds => hadds
  have hkept : (store.afterCall .standard (.openKeyring other)).HoldsNamed name entries :=
    holdsNamed_afterCall hlayout h hquiet
  exact hkept

/-! ## Answered calls -/

theorem eq_of_serve? {request : Interaction} {answer : request.Answer}
    (h : (collaborators crypto).serve? store request = some (answer, next)) :
    next =
      match request.storeCall? with
      | some call => store.afterCall crypto call
      | none => store := by
  cases request with
  | readAnchor | lock | bind _ | unlock _ => cases h
  | _ => exact (congrArg Prod.snd (Option.some.inj h)).symm

/-- Calls that add nothing to the keyring of a name leave what is held under it. -/
theorem holdsNamed_of_answer (hanswer : (collaborators crypto).Answer store calls last)
    (hlayout : store.Layout) (h : store.HoldsNamed name entries)
    (hcalls : ∀ call ∈ calls, ∀ keyring, call.addedTo? = some keyring →
      last.keyringName? keyring ≠ some name) : last.HoldsNamed name entries := by
  induction calls generalizing store with
  | nil =>
    rw [show last = store from hanswer]
    exact h
  | cons call calls ih =>
    obtain ⟨hfirst, hrest⟩ := List.forall_mem_cons.mp hcalls
    obtain ⟨next, hserve, hlater⟩ := Collaborators.answer_cons.mp hanswer
    apply ih hlater (layout_of_steps (steps_of_serve? hserve) hlayout) _ hrest
    rw [eq_of_serve? hserve]
    cases hcall : call.request.storeCall? with
    | none => exact h
    | some made =>
      apply holdsNamed_afterCall hlayout h
      -- a keyring bears its name until the end
      intro hadds
      have hext := extends_of_steps (steps_of_answer hanswer)
      cases made with
      | add keyring kind payload =>
        have hadded : call.addedTo? = some keyring := by
          obtain ⟨request, answer⟩ := call
          cases request <;> cases hcall
          rfl
        exact hfirst keyring hadded (hext.keyringName?_eq hadds)
      | openKeyring | search | release => exact hadds

end KeyStore

end TrustedKeyring
