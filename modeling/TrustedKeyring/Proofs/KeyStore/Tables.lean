import TrustedKeyring.KeyStore.Tables
import TrustedKeyring.Proofs.KeyStore.Releases

/-!
# Key stores by their tables

The tables of a key store are told by a `KeyStore`, whose list of entries is as long as the counter
and has at each place what the table of entries has under that handle (`KeyTables.Represents`).  A
call of the tables is answered as one of the store, and the store that it leaves represents them
again, so that whoever asks either is given the same results (`results_eq`) and finds the same
counts of references (`Represents.references?_after`).
-/

namespace TrustedKeyring.KeyTables

open KeyStore (Call Query Result)

variable {crypto : Crypto} {tables : KeyTables} {store : KeyStore}

structure Represents (tables : KeyTables) (store : KeyStore) : Prop where
  next : tables.next = store.entries.length
  byName : ∀ name, tables.byName[name]? = store.names.lookup name
  entries : ∀ handle, tables.entries[handle]? = store.get? handle

theorem represents_empty : Represents {} {} where
  next := rfl
  byName _ := Std.HashMap.getElem?_empty
  entries handle := by
    rw [KeyStore.get?_empty]
    exact Std.HashMap.getElem?_empty

/-! ## Histories -/

def afterCall (crypto : Crypto) (tables : KeyTables) : Call → KeyTables
  | .openKeyring name => (tables.openKeyring name).2
  | .search keyring kind description byEnd => (tables.search keyring kind description byEnd).2
  | .release key => tables.release key
  | .add keyring kind payload => (tables.add crypto keyring kind payload).2

def after (crypto : Crypto) (tables : KeyTables) : List Call → KeyTables
  | [] => tables
  | call :: calls => after crypto (tables.afterCall crypto call) calls

def result? (crypto : Crypto) (tables : KeyTables) : Query → Option Result
  | .call (.openKeyring name) => some (.answer (tables.openKeyring name).1)
  | .call (.search keyring kind description byEnd) =>
    some (.answer (tables.search keyring kind description byEnd).1)
  | .call (.release _) => none
  | .call (.add keyring kind payload) => some (.answer (tables.add crypto keyring kind payload).1)
  | .publicKey key => some (.publicKey (tables.publicKey? key))
  | .keyCount keyring => some (.keyCount (tables.keyCount keyring))
  | .keyringName keyring => some (.keyringName (tables.keyringName? keyring))

def afterQuery (crypto : Crypto) (tables : KeyTables) : Query → KeyTables
  | .call call => tables.afterCall crypto call
  | _ => tables

def results (crypto : Crypto) (tables : KeyTables) : List Query → List Result
  | [] => []
  | query :: queries =>
    (tables.result? crypto query).toList ++ results crypto (tables.afterQuery crypto query) queries

namespace Represents

/-! ## What is read of a handle -/

section Reads

variable (h : tables.Represents store) (handle : Handle)

include h

theorem members_eq : tables.members handle = store.members handle := by
  rw [KeyTables.members, h.entries]
  rfl

theorem publicKey?_eq : tables.publicKey? handle = store.publicKey? handle := by
  rw [KeyTables.publicKey?, h.entries]
  rfl

theorem references?_eq : tables.references? handle = store.references? handle := by
  rw [KeyTables.references?, h.entries]
  rfl

theorem identifier?_eq : tables.identifier? handle = store.identifier? handle := by
  rw [KeyTables.identifier?, h.entries]
  rfl

theorem keyringName?_eq : tables.keyringName? handle = store.keyringName? handle := by
  rw [KeyTables.keyringName?, h.entries]
  rfl

theorem keyCount_eq : tables.keyCount handle = store.keyCount handle := by
  rw [KeyTables.keyCount, h.members_eq]
  rfl

theorem selects_eq (description : String) (byEnd : Bool) :
    tables.selects description byEnd handle = store.selects description byEnd handle := by
  rw [KeyTables.selects, h.identifier?_eq]
  rfl

end Reads

/-! ## Changes of the tables -/

theorem allocate (h : tables.Represents store) (entry : StoreEntry) :
    (tables.allocate entry).1 = (store.allocate entry).1 ∧
      (tables.allocate entry).2.Represents (store.allocate entry).2 := by
  have hhandle : (tables.allocate entry).1 = (store.allocate entry).1 :=
    congrArg (fun value => Handle.mk (value + 1)) h.next
  refine ⟨hhandle, ?_, h.byName, ?_⟩
  · show tables.next + 1 = (store.entries ++ [entry]).length
    rw [h.next, List.length_append, List.length_singleton]
  · intro other
    show (tables.entries.insert (tables.allocate entry).1 entry)[other]? = _
    rw [hhandle, Std.HashMap.getElem?_insert, KeyStore.get?_allocate, h.entries]
    exact if_congr (beq_iff_eq.trans eq_comm) rfl rfl

theorem modify (h : tables.Represents store) (handle : Handle) (f : StoreEntry → StoreEntry) :
    (tables.modify handle f).Represents (store.update handle f) where
  next := by
    rw [KeyStore.length_update]
    exact h.next
  byName := by
    rw [KeyStore.names_update]
    exact h.byName
  entries other := by
    show (tables.entries.modify handle f)[other]? = _
    rw [Std.HashMap.getElem?_modify, KeyStore.get?_update, h.entries, h.entries]
    by_cases hother : other = handle
    · rw [if_pos (beq_iff_eq.mpr hother.symm), if_pos hother, hother]
    · rw [if_neg (by simpa using Ne.symm hother), if_neg hother]

/-! ## Calls -/

theorem openKeyring (h : tables.Represents store) (name : String) :
    (tables.openKeyring name).1 = (store.openKeyring name).1 ∧
      (tables.openKeyring name).2.Represents (store.openKeyring name).2 := by
  unfold KeyTables.openKeyring KeyStore.openKeyring
  by_cases hname : name = ""
  · rw [if_pos hname, if_pos hname]
    exact ⟨rfl, h⟩
  · rw [if_neg hname, if_neg hname, h.byName]
    cases store.names.lookup name with
    | some handle => exact ⟨rfl, h⟩
    | none =>
      obtain ⟨hhandle, hnext⟩ := h.allocate (.keyring name [])
      refine ⟨congrArg Except.ok hhandle, hnext.next, ?_, hnext.entries⟩
      intro other
      show (tables.byName.insert name (tables.allocate (.keyring name [])).1)[other]? =
        ((name, (store.allocate (.keyring name [])).1) :: store.names).lookup other
      rw [hhandle, Std.HashMap.getElem?_insert, h.byName, List.lookup_cons]
      by_cases hother : other = name
      · rw [if_pos (beq_iff_eq.mpr hother.symm), beq_iff_eq.mpr hother]
      · rw [if_neg (by simpa using Ne.symm hother), beq_false_of_ne hother]

theorem search (h : tables.Represents store) (keyring : Handle) (kind : KeyKind)
    (description : String) (byEnd : Bool) :
    (tables.search keyring kind description byEnd).1 =
        (store.search keyring kind description byEnd).1 ∧
      (tables.search keyring kind description byEnd).2.Represents
        (store.search keyring kind description byEnd).2 := by
  have hselects : tables.selects description byEnd = store.selects description byEnd :=
    funext fun handle => h.selects_eq handle description byEnd
  -- after the members and the selection are rewritten, both go through the same branches
  unfold KeyTables.search KeyStore.search
  rw [h.members_eq, hselects]
  cases store.members keyring with
  | error errno => exact ⟨rfl, h⟩
  | ok members =>
    dsimp only
    by_cases hkind : kind ≠ .asymmetric
    · rw [if_pos hkind, if_pos hkind]
      exact ⟨rfl, h⟩
    · rw [if_neg hkind, if_neg hkind]
      cases members.find? (store.selects description byEnd) with
      | none => exact ⟨rfl, h⟩
      | some handle => exact ⟨rfl, h.modify handle _⟩

theorem release (h : tables.Represents store) (handle : Handle) :
    (tables.release handle).Represents (store.release handle) :=
  h.modify handle _

theorem add (h : tables.Represents store) (crypto : Crypto) (keyring : Handle) (kind : KeyKind)
    (payload : Bytes) :
    (tables.add crypto keyring kind payload).1 = (store.add crypto keyring kind payload).1 ∧
      (tables.add crypto keyring kind payload).2.Represents
        (store.add crypto keyring kind payload).2 := by
  have hidentifier : tables.identifier? = store.identifier? := funext h.identifier?_eq
  unfold KeyTables.add KeyStore.add
  by_cases hkind : kind ≠ .asymmetric
  · rw [if_pos hkind, if_pos hkind]
    exact ⟨rfl, h⟩
  · rw [if_neg hkind, if_neg hkind]
    cases KeyStore.material? crypto payload with
    | none => exact ⟨rfl, h⟩
    | some entry =>
      obtain ⟨identifier, publicKey⟩ := entry
      dsimp only
      rw [h.members_eq, hidentifier]
      cases store.members keyring with
      | error errno => exact ⟨rfl, h⟩
      | ok members =>
        dsimp only
        split
        · exact ⟨rfl, h⟩
        · -- the key is entered, and then listed
          obtain ⟨hhandle, hnext⟩ := h.allocate (.key identifier publicKey 1)
          refine ⟨congrArg Except.ok hhandle, ?_⟩
          rw [hhandle]
          exact hnext.modify keyring _

/-- A call leaves tables that stand for the store which it leaves. -/
theorem afterCall (h : tables.Represents store) (crypto : Crypto) (call : Call) :
    (tables.afterCall crypto call).Represents (store.afterCall crypto call) := by
  cases call with
  | openKeyring name => exact (h.openKeyring name).2
  | search keyring kind description byEnd => exact (h.search keyring kind description byEnd).2
  | release key => exact h.release key
  | add keyring kind payload => exact (h.add crypto keyring kind payload).2

theorem after (h : tables.Represents store) (crypto : Crypto) (calls : List Call) :
    (tables.after crypto calls).Represents (store.after crypto calls) := by
  induction calls generalizing tables store with
  | nil => exact h
  | cons call calls ih => exact ih (h.afterCall crypto call)

/-- The references to a key are counted alike, whatever was asked. -/
theorem references?_after (h : tables.Represents store) (crypto : Crypto) (calls : List Call)
    (key : Handle) :
    (tables.after crypto calls).references? key = (store.after crypto calls).references? key :=
  (h.after crypto calls).references?_eq key

theorem result?_eq (h : tables.Represents store) (crypto : Crypto) (query : Query) :
    tables.result? crypto query = store.result? crypto query := by
  cases query with
  | call call =>
    cases call with
    | openKeyring name => rw [result?, KeyStore.result?, (h.openKeyring name).1]
    | search keyring kind description byEnd =>
      rw [result?, KeyStore.result?, (h.search keyring kind description byEnd).1]
    | release key => rfl
    | add keyring kind payload =>
      rw [result?, KeyStore.result?, (h.add crypto keyring kind payload).1]
  | publicKey key => rw [result?, KeyStore.result?, h.publicKey?_eq]
  | keyCount keyring => rw [result?, KeyStore.result?, h.keyCount_eq]
  | keyringName keyring => rw [result?, KeyStore.result?, h.keyringName?_eq]

end Represents

/-- Whatever is asked, the tables give the results of a store. -/
theorem results_eq (h : tables.Represents store) (crypto : Crypto) (queries : List Query) :
    tables.results crypto queries = store.results crypto queries := by
  induction queries generalizing tables store with
  | nil => rfl
  | cons query queries ih =>
    have hnext : (tables.afterQuery crypto query).Represents (store.afterQuery crypto query) := by
      cases query with
      | call call => exact h.afterCall crypto call
      | publicKey | keyCount | keyringName => exact h
    rw [results, KeyStore.results, h.result?_eq, ih hnext]

end TrustedKeyring.KeyTables
