import TrustedKeyring.Proofs.KeyStore.Contents
import TrustedKeyring.Verifier

/-!
# Answers of a key store

The answers of a store's operations, by what the keyring they are about holds.
-/

namespace TrustedKeyring.KeyStore

variable {store : KeyStore} {keyring handle : Handle} {entry : Bytes × PublicKey}
  {members : List Handle} {entries : List (Bytes × PublicKey)}

@[simp]
theorem reply_eq_ok_iff {answer : Except Errno Handle} :
    reply answer = .ok handle ↔ answer = .ok handle := by
  cases answer <;> simp [reply, Except.mapError]

@[simp]
theorem reply_eq_error_iff {answer : Except Errno Handle} {errno : Errno} :
    reply answer = .error (.error errno) ↔ answer = .error errno := by
  cases answer <;> simp [reply, Except.mapError]

/-- A store never unwinds. -/
@[simp]
theorem reply_ne_panic {answer : Except Errno Handle} {message : String} :
    reply answer ≠ .error (.panic message) := by
  cases answer <;> simp [reply, Except.mapError]

def published? (entries : List (Bytes × PublicKey)) (id : KeyId) : Option (Bytes × PublicKey) :=
  entries.find? fun entry => Crypto.shortKeyId entry.1 = id

theorem selects_of_isKey (h : store.IsKey handle entry) (id : KeyId) :
    store.selects id.description true handle = decide (Crypto.shortKeyId entry.1 = id) := by
  rw [selects, h.1, Bool.eq_iff_iff, decide_eq_true_iff]
  exact isMatch_description entry.1 id

theorem find?_selects (hkeys : List.Forall₂ store.IsKey members entries) (id : KeyId) :
    Option.Rel store.IsKey (members.find? (store.selects id.description true))
      (published? entries id) := by
  unfold published?
  induction hkeys with
  | nil => exact .none
  | cons hkey _ ih =>
    rw [List.find?_cons, List.find?_cons, selects_of_isKey hkey]
    split
    · exact .some hkey
    · exact ih

/-- A search for a 32-bit identifier comes to the first key that is published under it, and takes
a reference to it. -/
theorem search_of_holds (h : store.Holds keyring entries) (id : KeyId) :
    (published? entries id = none ∧
      store.search keyring .asymmetric id.description true = (.error Errno.EAGAIN, store)) ∨
    ∃ entry handle, published? entries id = some entry ∧ store.IsKey handle entry ∧
      store.search keyring .asymmetric id.description true =
        (.ok handle, store.takeReference handle) := by
  rcases h with ⟨members, hmembers, hkeys⟩
  have hfound := find?_selects hkeys id
  simp only [search, hmembers, ne_eq, not_true_eq_false, if_false]
  revert hfound
  generalize members.find? (store.selects id.description true) = found
  generalize published? entries id = first
  intro hfound
  cases hfound with
  | none => exact .inl ⟨rfl, rfl⟩
  | some hkey => exact .inr ⟨_, _, rfl, hkey, rfl⟩

theorem any_identifier? (hkeys : List.Forall₂ store.IsKey members entries) (identifier : Bytes) :
    (members.any fun member => store.identifier? member == some identifier) =
      entries.any fun entry => entry.1 == identifier := by
  induction hkeys with
  | nil => rfl
  | cons hkey _ ih =>
    rw [List.any_cons, List.any_cons, ih, hkey.1]
    rfl

/-- An addition is refused for a payload without a key and for an identifier that the keyring has;
otherwise the key goes to the end of the keyring. -/
theorem add_of_holds (h : store.Holds keyring entries) (crypto : Crypto) (payload : Bytes) :
    match material? crypto payload with
    | none => store.add crypto keyring .asymmetric payload = (.error Errno.EBADMSG, store)
    | some (identifier, publicKey) =>
      if entries.any fun entry => entry.1 == identifier then
        store.add crypto keyring .asymmetric payload = (.error Errno.EEXIST, store)
      else
        ∃ handle next, store.add crypto keyring .asymmetric payload = (.ok handle, next) ∧
          next.Holds keyring (entries ++ [(identifier, publicKey)]) := by
  cases hmaterial : material? crypto payload with
  | none =>
    simp only [add, hmaterial, ne_eq, not_true_eq_false, if_false]
  | some made =>
    rcases made with ⟨identifier, publicKey⟩
    have hlinked := holds_link h identifier publicKey
    rcases h with ⟨members, hmembers, hkeys⟩
    have hany := any_identifier? hkeys identifier
    simp only [add, hmaterial, hmembers, hany, ne_eq, not_true_eq_false, if_false]
    split
    next hpresent => rfl
    next hfresh => exact ⟨_, _, rfl, hlinked⟩

def signatureCode (crypto : Crypto) (key : PublicKey) (certificate : Certificate)
    (digest : Bytes) (digestLength : Nat) : Int32 :=
  match certificate.header.algorithm? with
  | none => Errno.ENOPKG.negated
  | some algorithm =>
    if algorithm.isCheckable = false then Errno.ENOPKG.negated
    else
      match (SignatureQuery.forDigest digest digestLength).declared? with
      | none => Errno.EBADMSG.negated
      | some declared =>
        if declared.length ≠ algorithm.digestSize then Errno.EBADMSG.negated
        else if crypto.verify key algorithm declared certificate.signature = some true then 0
        else Errno.EKEYREJECTED.negated

theorem check_of_isKey (h : store.IsKey handle entry) (crypto : Crypto)
    (certificate : Certificate) (digest : Bytes) (digestLength : Nat) :
    store.check crypto handle ⟨digest, digestLength, none, []⟩ certificate certificate.header =
      signatureCode crypto entry.2 certificate digest digestLength := by
  unfold check signatureCode
  rw [h.2]
  cases certificate.header.algorithm? with
  | none => rfl
  | some algorithm =>
    show (if (!algorithm.isCheckable) = true then _ else _) =
      if algorithm.isCheckable = false then _ else _
    cases algorithm.isCheckable <;> rfl

def keyCodes : List Int32 :=
  [0, Errno.EKEYREJECTED.negated, Errno.ENOPKG.negated, Errno.EBADMSG.negated]

theorem signatureCode_mem (crypto : Crypto) (key : PublicKey) (certificate : Certificate)
    (digest : Bytes) (digestLength : Nat) :
    signatureCode crypto key certificate digest digestLength ∈ keyCodes := by
  unfold signatureCode keyCodes
  split
  · simp
  · split
    · simp
    · split
      · simp
      · split
        · simp
        · split <;> simp

/-- A digest of the declared length is declared as a whole. -/
theorem declared?_forDigest (digest : Bytes) :
    (SignatureQuery.forDigest digest digest.length).declared? = some digest := by
  simp [SignatureQuery.declared?, SignatureQuery.forDigest]

end TrustedKeyring.KeyStore
