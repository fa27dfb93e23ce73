import Mathlib.Logic.Relation
import TrustedKeyring.Proofs.KeyStore.Contents
import TrustedKeyring.Proofs.Operation.Calls

/-!
# Growth of a key store

A key store takes nothing back.  A key keeps its identifier and its public key, and a keyring its
members, with new ones at the end (`extends_of_steps`).  In a store that began without entries, the
members of keyrings are keys (`sound_of_steps`).
-/

namespace TrustedKeyring

inductive StoreEntry.Grows : StoreEntry → StoreEntry → Prop
  | keyring (name : String) (members more : List Handle) :
      Grows (.keyring name members) (.keyring name (members ++ more))
  | key (identifier : Bytes) (publicKey : PublicKey) (before after : Nat) :
      Grows (.key identifier publicKey before) (.key identifier publicKey after)

namespace StoreEntry

theorem grows_refl (entry : StoreEntry) : entry.Grows entry := by
  cases entry with
  | keyring name members =>
    have h := Grows.keyring name members []
    rwa [List.append_nil] at h
  | key identifier publicKey references => exact .key identifier publicKey references references

theorem Grows.trans {first second third : StoreEntry} (h : first.Grows second)
    (h' : second.Grows third) : first.Grows third := by
  cases h with
  | keyring name members more =>
    cases h' with
    | keyring _ _ last =>
      rw [List.append_assoc]
      exact .keyring name members (more ++ last)
  | key identifier publicKey before =>
    cases h' with
    | key _ _ _ after => exact .key identifier publicKey before after

end StoreEntry

namespace KeyStore

variable {crypto : Crypto} {store next last : KeyStore} {keyring handle : Handle}
  {entry : Bytes × PublicKey} {members : List Handle} {entries : List (Bytes × PublicKey)}

/-- No entry of a store is taken back in the next. -/
def Extends (store next : KeyStore) : Prop :=
  ∀ handle entry, store.get? handle = some entry →
    ∃ grown, next.get? handle = some grown ∧ entry.Grows grown

def Sound (store : KeyStore) : Prop :=
  ∀ keyring members, store.members keyring = .ok members →
    ∀ member ∈ members, ∃ entry, store.IsKey member entry

/-- What can be asked of a store in one step.  A check of a signature leaves it as it is. -/
inductive Step (crypto : Crypto) (store : KeyStore) : KeyStore → Prop
  | openKeyring (name : String) : Step crypto store (store.openKeyring name).2
  | search (keyring : Handle) (kind : KeyKind) (description : String) (byEnd : Bool) :
      Step crypto store (store.search keyring kind description byEnd).2
  | release (key : Handle) : Step crypto store (store.release key)
  | add (keyring : Handle) (kind : KeyKind) (payload : Bytes) :
      Step crypto store (store.add crypto keyring kind payload).2

abbrev Steps (crypto : Crypto) : KeyStore → KeyStore → Prop :=
  Relation.ReflTransGen (Step crypto)

/-! ## Extensions -/

theorem extends_refl (store : KeyStore) : store.Extends store :=
  fun _ entry h => ⟨entry, h, entry.grows_refl⟩

theorem Extends.trans (h : store.Extends next) (h' : next.Extends last) : store.Extends last := by
  intro handle entry hentry
  rcases h handle entry hentry with ⟨between, hbetween, hgrows⟩
  rcases h' handle between hbetween with ⟨grown, hgrown, hgrows'⟩
  exact ⟨grown, hgrown, hgrows.trans hgrows'⟩

theorem extends_update (store : KeyStore) (handle : Handle) {f : StoreEntry → StoreEntry}
    (hf : ∀ entry : StoreEntry, entry.Grows (f entry)) : store.Extends (store.update handle f) := by
  intro other entry hentry
  rw [get?_update]
  by_cases hother : other = handle
  · rw [if_pos hother, hentry]
    exact ⟨f entry, rfl, hf entry⟩
  · rw [if_neg hother]
    exact ⟨entry, hentry, entry.grows_refl⟩

theorem extends_allocate (store : KeyStore) (entry : StoreEntry) :
    store.Extends (store.allocate entry).2 := by
  intro other old hold
  have hother : other ≠ (store.allocate entry).1 := by
    intro heq
    rw [heq, get?_allocated] at hold
    cases hold
  rw [get?_allocate, if_neg hother]
  exact ⟨old, hold, old.grows_refl⟩

theorem extends_takeReference (store : KeyStore) (handle : Handle) :
    store.Extends (store.takeReference handle) := by
  apply extends_update
  intro entry
  cases entry with
  | keyring name members => exact StoreEntry.grows_refl _
  | key identifier publicKey references => exact .key _ _ _ _

theorem extends_release (store : KeyStore) (handle : Handle) :
    store.Extends (store.release handle) := by
  apply extends_update
  intro entry
  cases entry with
  | keyring name members => exact StoreEntry.grows_refl _
  | key identifier publicKey references => exact .key _ _ _ _

theorem extends_link (store : KeyStore) (keyring : Handle) (identifier : Bytes)
    (publicKey : PublicKey) : store.Extends (store.link keyring identifier publicKey).2 := by
  apply (extends_allocate store (.key identifier publicKey 1)).trans
  apply extends_update
  intro entry
  cases entry with
  | keyring name members => exact .keyring _ _ _
  | key identifier publicKey references => exact StoreEntry.grows_refl _

/-! ## Results of single steps -/

/-- A store is asked for a keyring that it has, or that it makes. -/
theorem openKeyring_eq (store : KeyStore) (name : String) :
    (store.openKeyring name).2 = store ∨
      (store.openKeyring name).2.entries = (store.allocate (.keyring name [])).2.entries := by
  unfold openKeyring
  split
  · exact .inl rfl
  · split
    · exact .inl rfl
    · exact .inr rfl

theorem exists_isKey_of_selects {description : String} {byEnd : Bool}
    (h : store.selects description byEnd handle = true) : ∃ entry, store.IsKey handle entry := by
  unfold selects identifier? at h
  split at h
  next identifier hidentifier =>
    cases hget : store.get? handle with
    | none => rw [hget] at hidentifier; cases hidentifier
    | some found =>
      rw [hget] at hidentifier
      cases found with
      | keyring => cases hidentifier
      | key identifier publicKey references =>
        exact ⟨(identifier, publicKey), by rw [identifier?, hget], by rw [publicKey?, hget]⟩
  next => cases h

/-- A search takes a reference to the key that it has found. -/
theorem search_eq (store : KeyStore) (keyring : Handle) (kind : KeyKind) (description : String)
    (byEnd : Bool) :
    (∃ errno, store.search keyring kind description byEnd = (.error errno, store)) ∨
      ∃ key entry, store.IsKey key entry ∧
        store.search keyring kind description byEnd = (.ok key, store.takeReference key) := by
  unfold search
  split
  · exact .inl ⟨_, rfl⟩
  · split
    · exact .inl ⟨_, rfl⟩
    · split
      next => exact .inl ⟨_, rfl⟩
      next key hfound =>
        rcases exists_isKey_of_selects (List.find?_some hfound) with ⟨entry, hkey⟩
        exact .inr ⟨key, entry, hkey, rfl⟩

/-- An addition links a key into a keyring that there is. -/
theorem add_eq (crypto : Crypto) (store : KeyStore) (keyring : Handle) (kind : KeyKind)
    (payload : Bytes) :
    (∃ errno, store.add crypto keyring kind payload = (.error errno, store)) ∨
      ∃ members identifier publicKey, store.members keyring = .ok members ∧
        material? crypto payload = some (identifier, publicKey) ∧
        (members.any fun member => store.identifier? member == some identifier) = false ∧
        store.add crypto keyring kind payload =
          (.ok (store.link keyring identifier publicKey).1,
            (store.link keyring identifier publicKey).2) := by
  by_cases hkind : kind = .asymmetric
  · cases hmaterial : material? crypto payload with
    | none => exact .inl ⟨Errno.EBADMSG, by simp only [add, hkind, hmaterial, ne_eq,
        not_true_eq_false, if_false]⟩
    | some made =>
      cases hmembers : store.members keyring with
      | error errno => exact .inl ⟨errno, by simp only [add, hkind, hmaterial, hmembers, ne_eq,
          not_true_eq_false, if_false]⟩
      | ok members =>
        cases hpresent : members.any fun member => store.identifier? member == some made.1 with
        | true => exact .inl ⟨Errno.EEXIST, by simp only [add, hkind, hmaterial, hmembers,
            hpresent, ne_eq, not_true_eq_false, if_false, if_true]⟩
        | false =>
          refine .inr ⟨members, made.1, made.2, rfl, rfl, hpresent, ?_⟩
          simp only [add, hkind, hmaterial, hmembers, hpresent, ne_eq, not_true_eq_false,
            Bool.false_eq_true, if_false]
  · exact .inl ⟨Errno.EINVAL, by rw [add, if_pos hkind]⟩

theorem get?_eq_of_entries_eq (h : next.entries = store.entries) : next.get? = store.get? := by
  funext other
  unfold get?
  rw [h]

theorem extends_of_step (h : Step crypto store next) : store.Extends next := by
  cases h with
  | openKeyring name =>
    rcases store.openKeyring_eq name with heq | hentries
    · rw [heq]
      exact extends_refl store
    · unfold Extends
      rw [get?_eq_of_entries_eq hentries]
      exact extends_allocate store (.keyring name [])
  | search keyring kind description byEnd =>
    rcases store.search_eq keyring kind description byEnd with
      ⟨errno, heq⟩ | ⟨key, -, -, heq⟩
    · rw [heq]
      exact extends_refl store
    · rw [heq]
      exact extends_takeReference store key
  | release key => exact extends_release store key
  | add keyring kind payload =>
    rcases store.add_eq crypto keyring kind payload with
      ⟨errno, heq⟩ | ⟨members, identifier, publicKey, -, -, -, heq⟩
    · rw [heq]
      exact extends_refl store
    · rw [heq]
      exact extends_link store keyring identifier publicKey

/-- Nothing that a store holds is taken back in any number of steps. -/
theorem extends_of_steps (h : Steps crypto store next) : store.Extends next := by
  induction h with
  | refl => exact extends_refl store
  | tail _ hstep ih => exact ih.trans (extends_of_step hstep)

/-! ## What an extension keeps -/

theorem Extends.isKey (h : store.Extends next) (hkey : store.IsKey handle entry) :
    next.IsKey handle entry := by
  rcases hkey.get?_eq with ⟨references, hget⟩
  rcases h handle _ hget with ⟨grown, hgrown, hgrows⟩
  cases hgrows with
  | key =>
    constructor
    · rw [identifier?, hgrown]
    · rw [publicKey?, hgrown]

theorem Extends.members_eq (h : store.Extends next)
    (hmembers : store.members keyring = .ok members) :
    ∃ more, next.members keyring = .ok (members ++ more) := by
  rcases get?_eq_of_members hmembers with ⟨name, hget⟩
  rcases h keyring _ hget with ⟨grown, hgrown, hgrows⟩
  cases hgrows with
  | keyring _ _ more => exact ⟨more, by rw [KeyStore.members, hgrown]⟩

theorem exists_forall₂_isKey (hkeys : ∀ member ∈ members, ∃ entry, store.IsKey member entry) :
    ∃ entries, List.Forall₂ store.IsKey members entries := by
  induction members with
  | nil => exact ⟨[], .nil⟩
  | cons member members ih =>
    rcases List.forall_mem_cons.mp hkeys with ⟨⟨entry, hentry⟩, hrest⟩
    rcases ih hrest with ⟨entries, hentries⟩
    exact ⟨entry :: entries, .cons hentry hentries⟩

theorem Sound.exists_holds (h : store.Sound) (hmembers : store.members keyring = .ok members) :
    ∃ entries, store.Holds keyring entries := by
  rcases exists_forall₂_isKey (h keyring members hmembers) with ⟨entries, hkeys⟩
  exact ⟨entries, members, hmembers, hkeys⟩

/-- What a keyring holds goes on being held, before everything that comes later. -/
theorem Extends.holds (h : store.Extends next) (hsound : next.Sound)
    (hholds : store.Holds keyring entries) : ∃ more, next.Holds keyring (entries ++ more) := by
  rcases hholds with ⟨members, hmembers, hkeys⟩
  rcases h.members_eq hmembers with ⟨added, hadded⟩
  have hlast : ∀ member ∈ added, ∃ entry, next.IsKey member entry := by
    intro member hmember
    exact hsound keyring _ hadded member (List.mem_append_right members hmember)
  rcases exists_forall₂_isKey hlast with ⟨more, hmore⟩
  exact ⟨more, members ++ added, hadded, List.rel_append (hkeys.imp fun _ _ => h.isKey) hmore⟩

/-! ## Members of keyrings -/

/-- What a link of a new key changes: the keyring, and the new key. -/
theorem get?_link (hmembers : store.members keyring = .ok members) (identifier : Bytes)
    (publicKey : PublicKey) (other : Handle) :
    ∃ name, store.get? keyring = some (.keyring name members) ∧
      (store.link keyring identifier publicKey).2.get? other =
        if other = keyring then
          some (.keyring name (members ++ [(store.link keyring identifier publicKey).1]))
        else if other = (store.link keyring identifier publicKey).1 then
          some (.key identifier publicKey 1)
        else store.get? other := by
  rcases get?_eq_of_members hmembers with ⟨name, hkeyring⟩
  refine ⟨name, hkeyring, ?_⟩
  have hfresh : keyring ≠ (store.allocate (.key identifier publicKey 1)).1 := by
    intro heq
    rw [heq, get?_allocated] at hkeyring
    cases hkeyring
  change ((store.allocate (.key identifier publicKey 1)).2.update keyring _).get? other = _
  rw [get?_update, get?_allocate]
  by_cases hother : other = keyring
  · rw [if_pos hother, if_pos hother, hother, if_neg hfresh, hkeyring]
    rfl
  · rw [if_neg hother, if_neg hother]
    rfl

theorem isKey_link (hmembers : store.members keyring = .ok members) (identifier : Bytes)
    (publicKey : PublicKey) :
    (store.link keyring identifier publicKey).2.IsKey (store.link keyring identifier publicKey).1
      (identifier, publicKey) := by
  rcases get?_link hmembers identifier publicKey (store.link keyring identifier publicKey).1 with
    ⟨name, hkeyring, hget⟩
  have hfresh : (store.link keyring identifier publicKey).1 ≠ keyring := by
    intro heq
    rw [← heq] at hkeyring
    change store.get? (store.allocate (.key identifier publicKey 1)).1 = _ at hkeyring
    rw [get?_allocated] at hkeyring
    cases hkeyring
  rw [if_neg hfresh, if_pos rfl] at hget
  constructor
  · rw [identifier?, hget]
  · rw [publicKey?, hget]

/-- A step keeps a store sound if every member it has come by is a key. -/
theorem Sound.of_extends (hsound : store.Sound) (h : store.Extends next)
    (hmembers : ∀ keyring members, next.members keyring = .ok members → ∀ member ∈ members,
      (∃ old, store.members keyring = .ok old ∧ member ∈ old) ∨
        ∃ entry, next.IsKey member entry) : next.Sound := by
  intro keyring members hnext member hmember
  rcases hmembers keyring members hnext member hmember with ⟨old, hold, hmember⟩ | hkey
  · rcases hsound keyring old hold member hmember with ⟨entry, hkey⟩
    exact ⟨entry, h.isKey hkey⟩
  · exact hkey

theorem SameContents.sound (h : SameContents store next) (hsound : store.Sound) : next.Sound := by
  intro keyring members hmembers member hmember
  rcases h keyring with ⟨hsame, -⟩
  rcases hsound keyring members (hsame.symm.trans hmembers) member hmember with ⟨entry, hkey⟩
  exact ⟨entry, h.isKey hkey⟩

theorem sound_of_step (h : Step crypto store next) (hsound : store.Sound) : next.Sound := by
  have hext := extends_of_step h
  cases h with
  | openKeyring name =>
    rcases store.openKeyring_eq name with heq | hentries
    · rw [heq]
      exact hsound
    -- a new keyring has no members
    · apply hsound.of_extends hext
      intro keyring members hmembers member hmember
      rw [KeyStore.members, get?_eq_of_entries_eq hentries, get?_allocate] at hmembers
      by_cases hnew : keyring = (store.allocate (.keyring name [])).1
      · rw [if_pos hnew] at hmembers
        cases hmembers
        cases hmember
      · rw [if_neg hnew] at hmembers
        exact .inl ⟨members, hmembers, hmember⟩
  | search keyring kind description byEnd =>
    rcases store.search_eq keyring kind description byEnd with
      ⟨errno, heq⟩ | ⟨key, -, -, heq⟩
    · rw [heq]
      exact hsound
    · rw [heq]
      exact (sameContents_takeReference store key).sound hsound
  | release key => exact (sameContents_release store key).sound hsound
  | add keyring kind payload =>
    rcases store.add_eq crypto keyring kind payload with
      ⟨errno, heq⟩ | ⟨old, identifier, publicKey, hold, -, -, heq⟩
    · rw [heq]
      exact hsound
    -- the only new member is the key that was linked
    · rw [heq] at hext ⊢
      apply hsound.of_extends hext
      intro other members hmembers member hmember
      rcases get?_link hold identifier publicKey other with ⟨name, -, hget⟩
      rw [KeyStore.members, hget] at hmembers
      by_cases hother : other = keyring
      · rw [if_pos hother] at hmembers
        cases hmembers
        rcases List.mem_append.mp hmember with hmember | hmember
        · exact .inl ⟨old, hother ▸ hold, hmember⟩
        · rw [List.mem_singleton.mp hmember]
          exact .inr ⟨_, isKey_link hold identifier publicKey⟩
      · rw [if_neg hother] at hmembers
        by_cases hnew : other = (store.link keyring identifier publicKey).1
        · rw [if_pos hnew] at hmembers
          cases hmembers
        · rw [if_neg hnew] at hmembers
          exact .inl ⟨members, hmembers, hmember⟩

theorem sound_of_steps (h : Steps crypto store next) (hsound : store.Sound) : next.Sound := by
  induction h with
  | refl => exact hsound
  | tail _ hstep ih => exact sound_of_step hstep ih

theorem get?_empty (handle : Handle) : get? {} handle = none := by
  obtain ⟨value⟩ := handle
  cases value <;> rfl

/-- A store without entries has no keyrings. -/
theorem sound_empty : Sound {} := by
  intro keyring members hmembers
  obtain ⟨name, hget⟩ := get?_eq_of_members hmembers
  rw [get?_empty] at hget
  cases hget

/-! ## Operations -/

/-- Each interaction of an operation is a step of the store, or leaves it as it is. -/
theorem steps_answer (crypto : Crypto) (request : Interaction) (world : World KeyStore) :
    Steps crypto world.state
      (request.answer ⟨service crypto, primitive crypto⟩ world).2.state := by
  cases request with
  | readAnchor | lock | unlock _ | check _ _ _ _ => exact .refl
  | bind binding => rw [Interaction.state_of_not_isCall rfl]
  | openKeyring name => exact .single (.openKeyring name)
  | search keyring kind description byEnd =>
    exact .single (.search keyring kind description byEnd)
  | release key => exact .single (.release key)
  | add keyring kind payload => exact .single (.add keyring kind payload)

theorem steps_of_serve? {request : Interaction} {answer : request.Answer}
    (h : Collaborators.serve? ⟨service crypto, primitive crypto⟩ store request =
      some (answer, next)) : Steps crypto store next := by
  have hsteps := steps_answer crypto request ⟨{}, store⟩
  have hanswer : request.answer ⟨service crypto, primitive crypto⟩ ⟨{}, store⟩ =
      (answer, ⟨{}, next⟩) := Interaction.answer_of_serve? h
  rwa [hanswer] at hsteps

theorem steps_run {α : Type} (crypto : Crypto) (operation : Operation α)
    (world : World KeyStore) :
    Steps crypto world.state
      (operation.run ⟨service crypto, primitive crypto⟩ world).world.state := by
  induction operation generalizing world with
  | done outcome => exact .refl
  | interact request next ih => exact (steps_answer crypto request world).trans (ih _ _)

end KeyStore

end TrustedKeyring
