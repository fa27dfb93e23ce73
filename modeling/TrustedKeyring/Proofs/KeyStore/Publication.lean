import Mathlib.Data.Nat.PSub
import TrustedKeyring.Proofs.KeyStore.History
import TrustedKeyring.Proofs.TrustStore.Selection

/-!
# Published identifiers

A certificate is published under the last four octets of its identifier, and a key is searched by
them.  The two agree: once a keyring has accepted a certificate, or has refused it for an identifier
that it has, a search for what the certificate is published under finds a key (`search_published`).
-/

namespace TrustedKeyring

namespace Bytes

def from? (bytes : Bytes) (start : Nat) : Option Bytes :=
  if start ≤ bytes.length then some (bytes.drop start) else none

def overwrite? (bytes : Bytes) (start : Nat) (tail : Bytes) : Option Bytes :=
  if start + tail.length = bytes.length then some (bytes.take start ++ tail) else none

end Bytes

namespace Crypto

/-- The short identifier as it comes about in a word of four octets: the tail of the identifier is
copied to the right end of the word.  Nothing, if a position falls out of its byte string. -/
def wordKeyId? (identifier : Bytes) : Option KeyId := do
  let count := min identifier.length 4
  let source ← identifier.length.psub count
  let target ← Nat.psub 4 count
  let tail ← Bytes.from? identifier source
  match ← Bytes.overwrite? (List.replicate 4 0) target tail with
  | [a, b, c, d] => some (.ofBytes a b c d)
  | _ => none

theorem ofBytes_eq {bytes : Bytes} (h : bytes.length = 4) :
    (match bytes with
      | [a, b, c, d] => some (KeyId.ofBytes a b c d)
      | _ => none) = some ⟨UInt32.ofNat bytes.toNat⟩ := by
  obtain ⟨a, b, c, d, rfl⟩ := List.length_eq_four.mp h
  rfl

/-- The word of a short identifier is put together without leaving the bounds of a byte string, for
identifiers of every length. -/
theorem wordKeyId?_eq (identifier : Bytes) :
    wordKeyId? identifier = some (shortKeyId identifier) := by
  -- neither subtraction falls below zero, and neither slice out of its byte string
  have hsource : identifier.length.psub (min identifier.length 4) =
      some (identifier.length - 4) := by
    rw [Nat.psub_eq_some]
    omega
  have htarget : Nat.psub 4 (min identifier.length 4) = some (4 - identifier.length) := by
    rw [Nat.psub_eq_some]
    omega
  have htail : (identifier.drop (identifier.length - 4)).length = min identifier.length 4 := by
    rw [List.length_drop]
    omega
  have hfits : 4 - identifier.length + (identifier.drop (identifier.length - 4)).length =
      (List.replicate 4 (0 : UInt8)).length := by
    rw [htail, List.length_replicate]
    omega
  have hword : (List.replicate 4 (0 : UInt8)).take (4 - identifier.length) =
      List.replicate (4 - identifier.length) 0 := by
    rw [List.take_replicate, Nat.min_eq_left (by omega)]
  simp only [wordKeyId?, hsource, htarget, Bytes.from?, Bytes.overwrite?, hfits, hword,
    Option.bind_eq_bind, Option.bind_some, if_true, if_pos (Nat.sub_le _ _)]
  rw [ofBytes_eq (by rw [List.length_append, List.length_replicate, htail]; omega),
    Bytes.toNat_replicate_zero_append, shortKeyId]

theorem certificateKeyId_of_material? {crypto : Crypto} {payload identifier : Bytes}
    {publicKey : PublicKey}
    (h : KeyStore.material? crypto payload = some (identifier, publicKey)) :
    crypto.certificateKeyId payload = .ok (shortKeyId identifier) := by
  rw [Accepted.material?_eq] at h
  obtain ⟨-, -, -, hid⟩ := Accepted.certificate_of_entry? h
  exact hid

end Crypto

namespace KeyStore

variable {crypto : Crypto} {store : KeyStore} {keyring : Handle} {payload : Bytes}
  {entries : List (Bytes × PublicKey)}

/-- Whether a keyring has the identifier of a payload once the payload was added: the addition has
succeeded, or was refused for a key that was there. -/
def Has (crypto : Crypto) (store : KeyStore) (keyring : Handle) (payload : Bytes) : Prop :=
  (∃ key, (store.add crypto keyring .asymmetric payload).1 = .ok key) ∨
    (store.add crypto keyring .asymmetric payload).1 = .error Errno.EEXIST

theorem Has.exists_members (h : store.Has crypto keyring payload) :
    ∃ members, store.members keyring = .ok members := by
  rcases h with ⟨key, hadded⟩ | hpresent
  · exact exists_members_of_add hadded
  · cases hmembers : store.members keyring with
    | ok members => exact ⟨members, rfl⟩
    | error errno =>
      -- without a keyring, an addition is refused for its payload or for the handle
      have hother : (store.add crypto keyring .asymmetric payload).1 = .error Errno.EBADMSG ∨
          (store.add crypto keyring .asymmetric payload).1 = .error Errno.ENOTDIR := by
        unfold add
        cases material? crypto payload <;> simp [hmembers, errno_of_members hmembers]
      rw [hpresent] at hother
      exact absurd hother (by decide)

/-- After such an addition the keyring holds an entry with the identifier of the payload. -/
theorem Has.exists_entry (h : store.Has crypto keyring payload)
    (hholds : store.Holds keyring entries) :
    ∃ identifier publicKey held, material? crypto payload = some (identifier, publicKey) ∧
      (store.add crypto keyring .asymmetric payload).2.Holds keyring held ∧
      ∃ entry ∈ held, entry.1 = identifier := by
  have hadd := add_of_holds hholds crypto payload
  cases hmaterial : material? crypto payload with
  | none =>
    rw [hmaterial] at hadd
    rcases h with ⟨key, hadded⟩ | hpresent
    · rw [hadd] at hadded
      cases hadded
    · rw [hadd] at hpresent
      exact absurd (Except.error.inj hpresent) (by decide)
  | some made =>
    obtain ⟨identifier, publicKey⟩ := made
    rw [hmaterial] at hadd
    dsimp only at hadd
    refine ⟨identifier, publicKey, ?_⟩
    by_cases hpresent : (entries.any fun entry => entry.1 == identifier) = true
    · rw [if_pos hpresent] at hadd
      obtain ⟨entry, hentry, hsame⟩ := List.any_eq_true.mp hpresent
      rw [hadd]
      exact ⟨entries, rfl, hholds, entry, hentry, eq_of_beq hsame⟩
    · rw [if_neg hpresent] at hadd
      obtain ⟨key, next, heq, hnext⟩ := hadd
      rw [heq]
      exact ⟨_, rfl, hnext, (identifier, publicKey), List.mem_append_right _ (by simp), rfl⟩

/-- A keyring that holds an entry under a short identifier is not searched for it in vain. -/
theorem search_of_mem (hholds : store.Holds keyring entries) {entry : Bytes × PublicKey}
    (hentry : entry ∈ entries) :
    ∃ key identifier,
      (store.search keyring .asymmetric (Crypto.shortKeyId entry.1).description true).1 =
        .ok key ∧
      store.identifier? key = some identifier ∧
      Crypto.shortKeyId identifier = Crypto.shortKeyId entry.1 := by
  rcases search_of_holds hholds (Crypto.shortKeyId entry.1) with
    ⟨hnone, -⟩ | ⟨found, key, hfound, hkey, hsearch⟩
  · exact absurd rfl (ne_of_published?_eq_none hnone entry hentry)
  · have hmatch := List.find?_some hfound
    exact ⟨key, found.1, by rw [hsearch], hkey.1, of_decide_eq_true hmatch⟩

/-- What is published is what is searched.  The description of a short identifier asks for the keys
that have it and for no others, and every identifier has one, whatever its length.  When a
certificate was accepted, or refused because its identifier is there, a search for what it is
published under finds a key that is published under the same. -/
theorem search_published (crypto : Crypto) :
    (∀ identifier id, isMatch identifier id.description true = true ↔
      Crypto.shortKeyId identifier = id) ∧
    (∀ identifier, Crypto.wordKeyId? identifier = some (Crypto.shortKeyId identifier)) ∧
    ∀ calls keyring payload,
      let added := (after crypto {} calls).add crypto keyring .asymmetric payload
      (∃ key, added.1 = .ok key) ∨ added.1 = .error Errno.EEXIST →
        ∃ id key identifier, crypto.certificateKeyId payload = .ok id ∧
          (added.2.search keyring .asymmetric id.description true).1 = .ok key ∧
          added.2.identifier? key = some identifier ∧ Crypto.shortKeyId identifier = id := by
  refine ⟨isMatch_description, Crypto.wordKeyId?_eq, ?_⟩
  intro calls keyring payload added hadded
  have hhas : (after crypto {} calls).Has crypto keyring payload := hadded
  have hsound := sound_of_steps (steps_after crypto {} calls) sound_empty
  obtain ⟨members, hmembers⟩ := hhas.exists_members
  obtain ⟨entries, hholds⟩ := hsound.exists_holds hmembers
  obtain ⟨-, publicKey, held, hmaterial, hheld, entry, hentry, rfl⟩ := hhas.exists_entry hholds
  obtain ⟨key, identifier, hsearch, hkey, hid⟩ := search_of_mem hheld hentry
  exact ⟨_, key, identifier, Crypto.certificateKeyId_of_material? hmaterial, hsearch, hkey, hid⟩

/-- An identifier of one octet, asked for with the zeros that it is published with. -/
theorem search_published_oneOctet :
    let crypto := Crypto.standard
    let payload := X509.bare [0xAB] Shadowing.firstKey
    let store := after crypto {} [.openKeyring ".five"]
    let next := after crypto {} [.openKeyring ".five", .add ⟨1⟩ .asymmetric payload]
    (store.add crypto ⟨1⟩ .asymmetric payload).1 = .ok ⟨2⟩ ∧
      (next.add crypto ⟨1⟩ .asymmetric payload).1 = .error Errno.EEXIST ∧
      crypto.certificateKeyId payload = .ok ⟨0xAB⟩ ∧
      ∃ key identifier, (next.search ⟨1⟩ .asymmetric "id:000000ab" true).1 = .ok key ∧
        next.identifier? key = some identifier ∧ Crypto.shortKeyId identifier = ⟨0xAB⟩ := by
  intro crypto payload store next
  have hadded : (store.add crypto ⟨1⟩ .asymmetric payload).1 = .ok ⟨2⟩ := by decide +kernel
  have hpresent : (next.add crypto ⟨1⟩ .asymmetric payload).1 = .error Errno.EEXIST := by
    decide +kernel
  have hid : crypto.certificateKeyId payload = .ok ⟨0xAB⟩ := by decide +kernel
  obtain ⟨-, -, hsearched⟩ := search_published crypto
  obtain ⟨id, key, identifier, hpublished, hsearch, hkey, hshort⟩ :=
    hsearched [.openKeyring ".five"] ⟨1⟩ payload (.inl ⟨⟨2⟩, hadded⟩)
  rw [hid] at hpublished
  cases hpublished
  have hdescription : KeyId.description ⟨0xAB⟩ = "id:000000ab" := by decide
  rw [hdescription] at hsearch
  exact ⟨hadded, hpresent, hid, key, identifier, hsearch, hkey, hshort⟩

end KeyStore

end TrustedKeyring
