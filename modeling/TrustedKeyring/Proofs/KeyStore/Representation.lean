import TrustedKeyring.Proofs.KeyStore.Members
import TrustedKeyring.Proofs.KeyStore.Tables

/-!
# Representation of a key store

What holds of the three tables of a key store, whatever has been asked of it
(`representation_kept`): the counter tells which handles are in use, the names lead to the keyrings
and back, the members of keyrings are keys, each in one keyring, and an entry stands for the same
thing ever after.
-/

namespace TrustedKeyring.KeyTables

open KeyStore (Call)

variable {crypto : Crypto} {tables next : KeyTables} {store : KeyStore} {keyring handle : Handle}
  {name : String}

def memberList (tables : KeyTables) (keyring : Handle) : List Handle :=
  match tables.members keyring with
  | .ok members => members
  | .error _ => []

/-- How the tables fit together. -/
structure Layout (tables : KeyTables) : Prop where
  inUse : ∀ handle, handle ∈ tables.entries ↔ 1 ≤ handle.value ∧ handle.value ≤ tables.next
  named : ∀ name handle, tables.byName[name]? = some handle ↔
    tables.keyringName? handle = some name
  nonempty : "" ∉ tables.byName
  ordered : ∀ keyring, (tables.memberList keyring).Pairwise fun first second =>
    first.value < second.value
  keys : ∀ keyring, ∀ member ∈ tables.memberList keyring, (tables.publicKey? member).isSome
  placed : ∀ key, (tables.publicKey? key).isSome → ∃! keyring, key ∈ tables.memberList keyring
  distinct : ∀ keyring, ((tables.memberList keyring).map tables.identifier?).Nodup

/-- Whether no entry is taken back, and none is changed but for its references or by new members at
the end. -/
def Extends (tables next : KeyTables) : Prop :=
  ∀ (handle : Handle) (entry : StoreEntry), tables.entries[handle]? = some entry →
    ∃ grown, next.entries[handle]? = some grown ∧ entry.Grows grown

/-- What is shown of a handle that the tables have as a keyring, as a key, or not at all. -/
def Shows (tables : KeyTables) (handle : Handle) : Option KeyKind → Prop
  | none =>
    (handle.value = 0 ∨ tables.next < handle.value) ∧ tables.keyringName? handle = none ∧
      tables.references? handle = none ∧ tables.publicKey? handle = none
  | some .keyring =>
    (∃ name, tables.byName[name]? = some handle ∧ tables.keyringName? handle = some name) ∧
      tables.references? handle = none ∧ tables.publicKey? handle = none
  | some .asymmetric =>
    (∃ keyring, handle ∈ tables.memberList keyring) ∧ tables.keyringName? handle = none ∧
      (tables.references? handle).isSome ∧ (tables.publicKey? handle).isSome

def added? (crypto : Crypto) (tables : KeyTables) (keyring : Handle) : Call → Option Handle
  | .add given kind payload =>
    if given = keyring then (tables.add crypto keyring kind payload).1.toOption else none
  | _ => none

def additions (crypto : Crypto) (keyring : Handle) (tables : KeyTables) :
    List Call → List Handle
  | [] => []
  | call :: calls =>
    (tables.added? crypto keyring call).toList ++
      additions crypto keyring (tables.afterCall crypto call) calls

/-! ## Tables of a store -/

namespace Represents

theorem memberList_eq (h : tables.Represents store) (keyring : Handle) :
    tables.memberList keyring = store.memberList keyring := by
  rw [KeyTables.memberList, h.members_eq]
  rfl

theorem mem_entries_iff (h : tables.Represents store) (handle : Handle) :
    handle ∈ tables.entries ↔ (store.get? handle).isSome := by
  rw [Std.HashMap.mem_iff_isSome_getElem?, h.entries]

theorem additions_eq (h : tables.Represents store) (crypto : Crypto) (keyring : Handle)
    (calls : List Call) :
    tables.additions crypto keyring calls = store.additions crypto keyring calls := by
  induction calls generalizing tables store with
  | nil => rfl
  | cons call calls ih =>
    have hadded : tables.added? crypto keyring call = store.added? crypto keyring call := by
      cases call with
      | add given kind payload =>
        rw [KeyTables.added?, KeyStore.added?, (h.add crypto keyring kind payload).1]
      | openKeyring | search | release => rfl
    rw [additions, KeyStore.additions, hadded, ih (h.afterCall crypto call)]

theorem layout (h : tables.Represents store) (hlayout : store.Layout) : tables.Layout where
  -- what a handle of the tables leads to is what it leads to in the store
  inUse handle := by
    rw [h.mem_entries_iff, store.isSome_get?_iff, h.next]
  named name handle := by
    rw [h.byName, h.keyringName?_eq]
    exact hlayout.named name handle
  nonempty hmem := by
    rw [Std.HashMap.mem_iff_isSome_getElem?, h.byName] at hmem
    obtain ⟨handle, hhandle⟩ := Option.isSome_iff_exists.mp hmem
    exact hlayout.nonempty handle ((hlayout.named "" handle).mp hhandle)
  ordered keyring := by
    rw [h.memberList_eq]
    rcases store.memberList_cases keyring with hnil | hmembers
    · rw [hnil]
      exact .nil
    · exact hlayout.ordered keyring _ hmembers
  keys keyring member hmember := by
    rw [h.memberList_eq, ← store.isMember_iff] at hmember
    obtain ⟨members, hmembers, hlisted⟩ := hmember
    obtain ⟨entry, hkey⟩ := hlayout.sound keyring members hmembers member hlisted
    rw [h.publicKey?_eq, hkey.2]
    rfl
  placed key hkey := by
    rw [h.publicKey?_eq, ← store.isSome_identifier?] at hkey
    obtain ⟨keyring, hmember⟩ := hlayout.placed key hkey
    simp only [h.memberList_eq, ← store.isMember_iff]
    exact ⟨keyring, hmember, fun other hother => hlayout.exclusive other keyring key hother hmember⟩
  distinct keyring := by
    rw [h.memberList_eq, funext h.identifier?_eq]
    rcases store.memberList_cases keyring with hnil | hmembers
    · rw [hnil]
      exact .nil
    · exact hlayout.distinct keyring _ hmembers

theorem extends_of_extends {later : KeyStore} (h : tables.Represents store)
    (hnext : next.Represents later) (hextends : store.Extends later) : tables.Extends next := by
  intro handle entry hentry
  rw [h.entries] at hentry
  rw [hnext.entries]
  exact hextends handle entry hentry

end Represents

/-! ## Kinds of handles -/

theorem Shows.unique {kind other : Option KeyKind} (h : tables.Shows handle kind)
    (hother : tables.Shows handle other) : other = kind := by
  rcases kind with _ | _ | _ <;> rcases other with _ | _ | _ <;> simp_all [Shows]

namespace Layout

theorem shows_unknown (h : tables.Layout) (hentry : tables.entries[handle]? = none) :
    tables.Shows handle none := by
  have hunused : ¬(1 ≤ handle.value ∧ handle.value ≤ tables.next) := by
    rw [← h.inUse, Std.HashMap.mem_iff_isSome_getElem?, hentry]
    exact Bool.false_ne_true
  refine ⟨by omega, ?_, ?_, ?_⟩
  · rw [keyringName?, hentry]
  · rw [references?, hentry]
  · rw [publicKey?, hentry]

theorem shows_keyring (h : tables.Layout) {members : List Handle}
    (hentry : tables.entries[handle]? = some (.keyring name members)) :
    tables.Shows handle (some .keyring) := by
  have hname : tables.keyringName? handle = some name := by rw [keyringName?, hentry]
  refine ⟨⟨name, (h.named name handle).mpr hname, hname⟩, ?_, ?_⟩
  · rw [references?, hentry]
  · rw [publicKey?, hentry]

theorem shows_key (h : tables.Layout) {identifier : Bytes} {publicKey : PublicKey}
    {references : Nat}
    (hentry : tables.entries[handle]? = some (.key identifier publicKey references)) :
    tables.Shows handle (some .asymmetric) := by
  have hpublicKey : (tables.publicKey? handle).isSome := by
    rw [publicKey?, hentry]
    rfl
  obtain ⟨keyring, hmember, -⟩ := h.placed handle hpublicKey
  refine ⟨⟨keyring, hmember⟩, ?_, ?_, hpublicKey⟩
  · rw [keyringName?, hentry]
  · rw [references?, hentry]
    rfl

/-- Every handle is unknown, or leads to a keyring, or to a key, and only one of these. -/
theorem existsUnique_shows (h : tables.Layout) (handle : Handle) :
    ∃! kind, tables.Shows handle kind := by
  have hshown : ∃ kind, tables.Shows handle kind := by
    cases hentry : tables.entries[handle]? with
    | none => exact ⟨none, h.shows_unknown hentry⟩
    | some entry =>
      cases entry with
      | keyring name members => exact ⟨some .keyring, h.shows_keyring hentry⟩
      | key identifier publicKey references => exact ⟨some .asymmetric, h.shows_key hentry⟩
  obtain ⟨kind, hkind⟩ := hshown
  exact ⟨kind, hkind, fun _ hother => hkind.unique hother⟩

end Layout

/-! ## The representation -/

/-- A keyring is the one of its name, or a new one if there is none. -/
theorem openKeyring_eq_ok (h : (tables.openKeyring name).1 = .ok handle) :
    tables.byName[name]? = some handle ∨
      tables.byName[name]? = none ∧ handle.value = tables.next + 1 := by
  unfold openKeyring at h
  split at h
  · cases h
  · split at h
    next found hfound =>
      cases h
      exact .inl hfound
    next hnone =>
      cases h
      exact .inr ⟨hnone, rfl⟩

/-- What holds of the tables after every history of calls, with any arguments.  They fit together,
and the counter is no larger than the number of calls, so that it stays a word as long as that is
one.  Every handle is unknown, a keyring's or a key's.  The names are those that were asked for, and
the members of a keyring are the keys that were added to it, in this order.  Whatever comes later,
an entry stays what it is, what is entered anew has a handle that nothing had before, and keyrings
are the same exactly if their names are. -/
theorem representation_kept (crypto : Crypto) (calls : List Call) :
    let tables := after crypto {} calls
    tables.Layout ∧ tables.next ≤ calls.length ∧
    (∀ handle, ∃! kind, tables.Shows handle kind) ∧
    (∀ name, name ∈ tables.byName ↔ name ≠ "" ∧ .openKeyring name ∈ calls) ∧
    (∀ keyring, tables.memberList keyring = additions crypto keyring {} calls) ∧
    (∀ more, tables.Extends (tables.after crypto more)) ∧
    (∀ keyring kind payload handle, (tables.add crypto keyring kind payload).1 = .ok handle →
      handle ∉ tables.entries) ∧
    (∀ name handle, (tables.openKeyring name).1 = .ok handle →
      tables.byName[name]? = some handle ∨ name ∉ tables.byName ∧ handle ∉ tables.entries) ∧
    (∀ name, (∃ handle, (tables.openKeyring name).1 = .ok handle) ↔ name ≠ "") ∧
    ∀ first more second handle other, (tables.openKeyring first).1 = .ok handle →
      ((tables.after crypto (.openKeyring first :: more)).openKeyring second).1 = .ok other →
        (other = handle ↔ second = first) := by
  intro tables
  let store := KeyStore.after crypto {} calls
  have hstore : tables.Represents store := represents_empty.after crypto calls
  have hkept : store.Layout :=
    KeyStore.layout_of_steps (KeyStore.steps_after crypto {} calls) KeyStore.layout_empty
  have hlayout : tables.Layout := hstore.layout hkept
  refine ⟨hlayout, ?_, hlayout.existsUnique_shows, ?_, ?_, ?_, ?_, ?_, ?_, ?_⟩
  · have hlength := KeyStore.length_after_le crypto {} calls
    rw [hstore.next]
    simpa using hlength
  · intro name
    have hlookup := KeyStore.lookup_names_after crypto {} calls name
    rw [Std.HashMap.mem_iff_isSome_getElem?, hstore.byName, hlookup]
    simp
  · intro keyring
    rw [hstore.memberList_eq, represents_empty.additions_eq]
    exact KeyStore.memberList_after_empty crypto calls keyring
  · intro more
    exact hstore.extends_of_extends (hstore.after crypto more)
      (KeyStore.extends_of_steps (KeyStore.steps_after crypto store more))
  · intro keyring kind payload handle hadd
    rw [(hstore.add crypto keyring kind payload).1] at hadd
    rw [hstore.mem_entries_iff, KeyStore.get?_eq_none_of_add hadd]
    exact Bool.false_ne_true
  · intro name handle hopened
    rcases openKeyring_eq_ok hopened with hfound | ⟨hnone, hvalue⟩
    · exact .inl hfound
    · refine .inr ⟨?_, ?_⟩
      · rw [Std.HashMap.mem_iff_isSome_getElem?, hnone]
        exact Bool.false_ne_true
      · rw [hlayout.inUse]
        omega
  · intro name
    rw [(hstore.openKeyring name).1]
    constructor
    · rintro ⟨handle, hopened⟩ hname
      rw [KeyStore.openKeyring, if_pos hname] at hopened
      cases hopened
    · exact KeyStore.openKeyring_of_ne store
  · intro first more second handle other hfirst hsecond
    have hlater := hstore.after crypto (.openKeyring first :: more)
    rw [(hstore.openKeyring first).1] at hfirst
    rw [(hlater.openKeyring second).1] at hsecond
    exact hkept.openKeyring_eq_iff hfirst (KeyStore.steps_after crypto _ more) hsecond

end TrustedKeyring.KeyTables
