import TrustedKeyring.Proofs.KeyStore.History

/-!
# Layout of a key store

The tables of a key store fit together, whatever is asked of it (`layout_of_steps`).  The name table
leads to the keyrings and back; the members of a keyring are keys, each of them in no other keyring,
and no two with the same identifier.
-/

namespace TrustedKeyring.KeyStore

variable {crypto : Crypto} {store next : KeyStore} {keyring handle : Handle} {name : String}
  {members : List Handle}

def IsMember (store : KeyStore) (keyring key : Handle) : Prop :=
  ∃ members, store.members keyring = .ok members ∧ key ∈ members

/-- How the tables of a store fit together. -/
structure Layout (store : KeyStore) : Prop where
  named : ∀ name handle, store.names.lookup name = some handle ↔
    store.keyringName? handle = some name
  nonempty : ∀ handle, store.keyringName? handle ≠ some ""
  sound : store.Sound
  ordered : ∀ keyring members, store.members keyring = .ok members →
    members.Pairwise fun first second => first.value < second.value
  exclusive : ∀ first second key, store.IsMember first key → store.IsMember second key →
    first = second
  placed : ∀ key, (store.identifier? key).isSome → ∃ keyring, store.IsMember keyring key
  distinct : ∀ keyring members, store.members keyring = .ok members →
    (members.map store.identifier?).Nodup

/-! ## Handles in use -/

theorem allocated_ne_of_members (hmembers : store.members keyring = .ok members)
    (entry : StoreEntry) : keyring ≠ (store.allocate entry).1 := by
  intro heq
  obtain ⟨name, hkeyring⟩ := get?_eq_of_members hmembers
  rw [heq, get?_allocated] at hkeyring
  cases hkeyring

theorem get?_eq_of_keyringName? (h : store.keyringName? handle = some name) :
    ∃ members, store.get? handle = some (.keyring name members) := by
  unfold keyringName? at h
  split at h
  next given members hget =>
    cases h
    exact ⟨members, hget⟩
  next => cases h

theorem allocated_ne_of_keyringName? (h : store.keyringName? handle = some name)
    (entry : StoreEntry) : handle ≠ (store.allocate entry).1 := by
  intro heq
  obtain ⟨members, hkeyring⟩ := get?_eq_of_keyringName? h
  rw [heq, get?_allocated] at hkeyring
  cases hkeyring

/-- The members of a keyring have handles in use, and a new one is larger. -/
theorem Sound.lt_link (hsound : store.Sound) (hmembers : store.members keyring = .ok members)
    {member : Handle} (hmember : member ∈ members) (other : Handle) (identifier : Bytes)
    (publicKey : PublicKey) :
    member.value < (store.link other identifier publicKey).1.value := by
  obtain ⟨entry, hkey⟩ := hsound keyring members hmembers member hmember
  obtain ⟨references, hget⟩ := hkey.get?_eq
  have hinUse := (isSome_get?_iff store member).mp (by rw [hget]; rfl)
  show member.value < store.entries.length + 1
  omega

/-! ## What a step keeps -/

theorem named_of_change (h : store.Change next)
    (hnamed : ∀ name handle, store.names.lookup name = some handle ↔
      store.keyringName? handle = some name) (name : String) (handle : Handle) :
    next.names.lookup name = some handle ↔ next.keyringName? handle = some name := by
  cases h with
  | kept => exact hnamed name handle
  | recounted key f =>
    rw [names_update, keyringName?_update_recount]
    exact hnamed name handle
  | linked hmembers publicKey hfresh =>
    rw [names_link, keyringName?_link hmembers]
    exact hnamed name handle
  | @opened given hname hnew =>
    rw [keyringName?_opened]
    show ((given, (store.allocate (.keyring given [])).1) :: store.names).lookup name = _ ↔ _
    -- the new name leads to the new handle, and no other one does
    by_cases hgiven : name = given
    · subst hgiven
      rw [List.lookup_cons_self]
      by_cases hhandle : handle = (store.allocate (.keyring name [])).1
      · simp [hhandle]
      · have hother : store.keyringName? handle ≠ some name := by
          intro hshown
          rw [(hnamed name handle).mpr hshown] at hnew
          cases hnew
        simp [hhandle, hother, eq_comm]
    · rw [List.lookup_cons, beq_false_of_ne hgiven]
      by_cases hhandle : handle = (store.allocate (.keyring given [])).1
      · have hunused : store.keyringName? handle ≠ some name := by
          intro hshown
          exact allocated_ne_of_keyringName? hshown _ hhandle
        rw [if_pos hhandle]
        constructor
        · intro hlookup
          exact absurd ((hnamed name handle).mp hlookup) hunused
        · intro heq
          exact absurd (Option.some.inj heq).symm hgiven
      · rw [if_neg hhandle]
        exact hnamed name handle

theorem nonempty_of_change (h : store.Change next)
    (hnonempty : ∀ handle, store.keyringName? handle ≠ some "") (handle : Handle) :
    next.keyringName? handle ≠ some "" := by
  cases h with
  | kept => exact hnonempty handle
  | recounted key f =>
    rw [keyringName?_update_recount]
    exact hnonempty handle
  | linked hmembers publicKey hfresh =>
    rw [keyringName?_link hmembers]
    exact hnonempty handle
  | opened hname hnew =>
    rw [keyringName?_opened]
    split
    · simpa using hname
    · exact hnonempty handle

theorem ordered_of_change (h : store.Change next) (hsound : store.Sound)
    (hordered : ∀ keyring members, store.members keyring = .ok members →
      members.Pairwise fun first second => first.value < second.value)
    (hmembers : next.members keyring = .ok members) :
    members.Pairwise fun first second => first.value < second.value := by
  cases h with
  | kept => exact hordered keyring members hmembers
  | recounted key f =>
    rw [(sameContents_update_recount store key f keyring).1] at hmembers
    exact hordered keyring members hmembers
  | opened hname hnew =>
    rw [members_opened] at hmembers
    split at hmembers
    · cases hmembers
      exact .nil
    · exact hordered keyring members hmembers
  | @linked other old identifier hold publicKey hfresh =>
    rw [members_link hold] at hmembers
    split at hmembers
    · cases hmembers
      apply List.pairwise_append.mpr
      refine ⟨hordered other old hold, List.pairwise_singleton _ _, ?_⟩
      intro member hmember new hnew
      rw [List.mem_singleton.mp hnew]
      exact hsound.lt_link hold hmember other identifier publicKey
    · exact hordered keyring members hmembers

/-- Members that were there before keep their identifiers. -/
theorem Sound.map_identifier?_link (hsound : store.Sound) {other : Handle} {old : List Handle}
    {identifier : Bytes} {publicKey : PublicKey} (hold : store.members other = .ok old)
    (hmembers : store.members keyring = .ok members) :
    members.map (store.link other identifier publicKey).2.identifier? =
      members.map store.identifier? := by
  apply List.map_congr_left
  intro member hmember
  have hlt := hsound.lt_link hmembers hmember other identifier publicKey
  have hne : member ≠ (store.link other identifier publicKey).1 := by
    intro heq
    rw [← heq] at hlt
    omega
  rw [identifier?_link hold, if_neg hne]

theorem distinct_of_change (h : store.Change next) (hsound : store.Sound)
    (hdistinct : ∀ keyring members, store.members keyring = .ok members →
      (members.map store.identifier?).Nodup)
    (hmembers : next.members keyring = .ok members) :
    (members.map next.identifier?).Nodup := by
  cases h with
  | kept => exact hdistinct keyring members hmembers
  | recounted key f =>
    have hsame := sameContents_update_recount store key f
    have hidentifier : (store.update key (StoreEntry.recount f)).identifier? =
        store.identifier? := funext fun handle => (hsame handle).2.1
    rw [(hsame keyring).1] at hmembers
    rw [hidentifier]
    exact hdistinct keyring members hmembers
  | opened hname hnew =>
    rw [members_opened] at hmembers
    split at hmembers
    · cases hmembers
      exact .nil
    · rw [funext (identifier?_opened store _ _)]
      exact hdistinct keyring members hmembers
  | @linked other old identifier hold publicKey hfresh =>
    rw [members_link hold] at hmembers
    split at hmembers
    · cases hmembers
      rw [List.map_append, hsound.map_identifier?_link hold hold, List.map_singleton,
        identifier?_link hold, if_pos rfl]
      apply List.nodup_append.mpr
      refine ⟨hdistinct other old hold, by simp, ?_⟩
      intro shown hshown new hnew
      obtain ⟨member, hmember, rfl⟩ := List.mem_map.mp hshown
      rw [List.mem_singleton.mp hnew]
      exact hfresh member hmember
    · rw [hsound.map_identifier?_link hold hmembers]
      exact hdistinct keyring members hmembers

theorem isMember_update_recount (store : KeyStore) (handle keyring key : Handle) (f : Nat → Nat) :
    (store.update handle (StoreEntry.recount f)).IsMember keyring key ↔
      store.IsMember keyring key := by
  unfold IsMember
  rw [(sameContents_update_recount store handle f keyring).1]

theorem isMember_opened (store : KeyStore) (name : String) (names : List (String × Handle))
    (keyring key : Handle) :
    ({ (store.allocate (.keyring name [])).2 with names := names } : KeyStore).IsMember
      keyring key ↔ store.IsMember keyring key := by
  unfold IsMember
  rw [members_opened]
  by_cases hnew : keyring = (store.allocate (.keyring name [])).1
  · rw [if_pos hnew]
    constructor
    · rintro ⟨members, hmembers, hmember⟩
      cases hmembers
      cases hmember
    · rintro ⟨members, hmembers, -⟩
      exact absurd hnew (allocated_ne_of_members hmembers _)
  · rw [if_neg hnew]

theorem isMember_link (hmembers : store.members keyring = .ok members) (identifier : Bytes)
    (publicKey : PublicKey) (other key : Handle) :
    (store.link keyring identifier publicKey).2.IsMember other key ↔
      store.IsMember other key ∨
        other = keyring ∧ key = (store.link keyring identifier publicKey).1 := by
  unfold IsMember
  rw [members_link hmembers]
  by_cases hother : other = keyring
  · subst hother
    simp [hmembers]
  · simp [hother]

theorem exclusive_of_change (h : store.Change next) (hsound : store.Sound)
    (hexclusive : ∀ first second key, store.IsMember first key → store.IsMember second key →
      first = second) (first second key : Handle) (hfirst : next.IsMember first key)
    (hsecond : next.IsMember second key) : first = second := by
  cases h with
  | kept => exact hexclusive first second key hfirst hsecond
  | recounted other f =>
    rw [isMember_update_recount] at hfirst hsecond
    exact hexclusive first second key hfirst hsecond
  | opened hname hnew =>
    rw [isMember_opened] at hfirst hsecond
    exact hexclusive first second key hfirst hsecond
  | @linked keyring members identifier hmembers publicKey hfresh =>
    rw [isMember_link hmembers] at hfirst hsecond
    -- the new key was no member of any keyring
    have hnew : ∀ other, ¬store.IsMember other (store.link keyring identifier publicKey).1 := by
      rintro other ⟨others, hothers, hmember⟩
      exact absurd (hsound.lt_link hothers hmember keyring identifier publicKey) (Nat.lt_irrefl _)
    rcases hfirst with hfirst | ⟨rfl, rfl⟩
    · rcases hsecond with hsecond | ⟨rfl, rfl⟩
      · exact hexclusive first second key hfirst hsecond
      · exact absurd hfirst (hnew first)
    · rcases hsecond with hsecond | ⟨rfl, -⟩
      · exact absurd hsecond (hnew second)
      · rfl

theorem placed_of_change (h : store.Change next)
    (hplaced : ∀ key, (store.identifier? key).isSome → ∃ keyring, store.IsMember keyring key)
    (key : Handle) (hkey : (next.identifier? key).isSome) :
    ∃ keyring, next.IsMember keyring key := by
  cases h with
  | kept => exact hplaced key hkey
  | recounted other f =>
    rw [(sameContents_update_recount store other f key).2.1] at hkey
    obtain ⟨keyring, hmember⟩ := hplaced key hkey
    exact ⟨keyring, (isMember_update_recount store other keyring key f).mpr hmember⟩
  | opened hname hnew =>
    rw [identifier?_opened] at hkey
    obtain ⟨keyring, hmember⟩ := hplaced key hkey
    exact ⟨keyring, (isMember_opened store _ _ keyring key).mpr hmember⟩
  | @linked keyring members identifier hmembers publicKey hfresh =>
    rw [identifier?_link hmembers] at hkey
    by_cases hnew : key = (store.link keyring identifier publicKey).1
    · exact ⟨keyring, (isMember_link hmembers identifier publicKey keyring key).mpr
        (.inr ⟨rfl, hnew⟩)⟩
    · rw [if_neg hnew] at hkey
      obtain ⟨other, hmember⟩ := hplaced key hkey
      exact ⟨other, (isMember_link hmembers identifier publicKey other key).mpr (.inl hmember)⟩

theorem layout_of_step (h : Step crypto store next) (hlayout : store.Layout) : next.Layout := by
  have hchange := change_of_step h
  exact {
    named := named_of_change hchange hlayout.named
    nonempty := nonempty_of_change hchange hlayout.nonempty
    sound := sound_of_step h hlayout.sound
    ordered := fun _ _ => ordered_of_change hchange hlayout.sound hlayout.ordered
    exclusive := exclusive_of_change hchange hlayout.sound hlayout.exclusive
    placed := placed_of_change hchange hlayout.placed
    distinct := fun _ _ => distinct_of_change hchange hlayout.sound hlayout.distinct }

theorem layout_of_steps (h : Steps crypto store next) (hlayout : store.Layout) : next.Layout := by
  induction h with
  | refl => exact hlayout
  | tail _ hstep ih => exact layout_of_step hstep ih

/-- A store without entries has nothing that could not fit. -/
theorem layout_empty : Layout {} where
  named name handle := by
    rw [keyringName?, get?_empty]
    simp
  nonempty handle := by
    rw [keyringName?, get?_empty]
    simp
  sound := sound_empty
  ordered keyring members hmembers := by
    rw [KeyStore.members, get?_empty] at hmembers
    cases hmembers
  exclusive first second key hfirst := by
    obtain ⟨members, hmembers, -⟩ := hfirst
    rw [KeyStore.members, get?_empty] at hmembers
    cases hmembers
  placed key hkey := by
    rw [identifier?, get?_empty] at hkey
    cases hkey
  distinct keyring members hmembers := by
    rw [KeyStore.members, get?_empty] at hmembers
    cases hmembers

/-! ## Names and their keyrings -/

theorem Extends.keyringName?_eq (h : store.Extends next)
    (hname : store.keyringName? handle = some name) : next.keyringName? handle = some name := by
  obtain ⟨members, hget⟩ := get?_eq_of_keyringName? hname
  obtain ⟨grown, hgrown, hgrows⟩ := h handle _ hget
  cases hgrows with
  | keyring _ _ more => rw [keyringName?, hgrown]

/-- A name that leads to a keyring goes on leading to it. -/
theorem Layout.openKeyring_eq (h : store.Layout) (hname : store.keyringName? handle = some name) :
    store.openKeyring name = (.ok handle, store) := by
  have hnonempty : name ≠ "" := by
    intro hempty
    rw [hempty] at hname
    exact h.nonempty handle hname
  rw [openKeyring, if_neg hnonempty, (h.named name handle).mpr hname]

theorem Layout.keyringName?_openKeyring (h : store.Layout)
    (hopened : (store.openKeyring name).1 = .ok handle) :
    (store.openKeyring name).2.keyringName? handle = some name := by
  have hstep : Step Crypto.standard store (store.openKeyring name).2 := .openKeyring name
  rw [← (layout_of_step hstep h).named]
  unfold openKeyring at hopened ⊢
  by_cases hname : name = ""
  · rw [if_pos hname] at hopened
    cases hopened
  · rw [if_neg hname] at hopened ⊢
    cases hlookup : store.names.lookup name with
    | some found =>
      rw [hlookup] at hopened
      cases hopened
      exact hlookup
    | none =>
      rw [hlookup] at hopened
      cases hopened
      exact List.lookup_cons_self

theorem openKeyring_of_ne (store : KeyStore) (hname : name ≠ "") :
    ∃ handle, (store.openKeyring name).1 = .ok handle := by
  rw [openKeyring, if_neg hname]
  cases store.names.lookup name with
  | some handle => exact ⟨handle, rfl⟩
  | none => exact ⟨_, rfl⟩

/-- Whenever two keyrings are asked for, they are the same exactly if their names are. -/
theorem Layout.openKeyring_eq_iff (h : store.Layout) {first second : String}
    {handle other : Handle} (hfirst : (store.openKeyring first).1 = .ok handle)
    (hsteps : Steps crypto (store.openKeyring first).2 next)
    (hsecond : (next.openKeyring second).1 = .ok other) : other = handle ↔ second = first := by
  have hlayout : next.Layout := layout_of_steps (.head (.openKeyring first) hsteps) h
  have hshown : next.keyringName? handle = some first :=
    (extends_of_steps hsteps).keyringName?_eq (h.keyringName?_openKeyring hfirst)
  have hother := hlayout.keyringName?_openKeyring hsecond
  constructor
  · intro heq
    have hstep : Step crypto next (next.openKeyring second).2 := .openKeyring second
    rw [heq, (extends_of_step hstep).keyringName?_eq hshown] at hother
    exact (Option.some.inj hother).symm
  · intro heq
    rw [heq, hlayout.openKeyring_eq hshown] at hsecond
    exact (Except.ok.inj hsecond).symm

end TrustedKeyring.KeyStore
