import TrustedKeyring.Proofs.KeyStore.Addition
import TrustedKeyring.Proofs.KeyStore.Linearizable
import TrustedKeyring.Proofs.Pem.Certificate

/-!
# Armoured certificates in a key store

An armoured certificate and the octets that it carries are one to a key store: they have the same
identifier, they are added with the same result, and a keyring that has taken either refuses both
from then on (`armour_interchangeable`).  This rests on two properties of the readers of
certificates, which the standard ones have (`X509.read_hyphen`, `Crypto.readPem_standard`).
-/

namespace TrustedKeyring

theorem Asn1.readTag_of_readElement {bytes rest : Bytes} {element : Asn1.Element}
    (h : Asn1.readElement bytes = some (element, rest)) :
    ∃ isConstructed more, Asn1.readTag bytes = some (element.tag, isConstructed, more) := by
  unfold Asn1.readElement at h
  split at h
  · cases h
  next tag isConstructed more htag =>
    refine ⟨isConstructed, more, htag.trans ?_⟩
    split at h
    · cases h
    · split at h
      · cases h
        rfl
      · cases h
    · split at h
      · cases h
      · obtain ⟨after, -, heq⟩ := Option.map_eq_some_iff.mp h
        cases heq
        rfl

/-- A certificate is a sequence, the tag of which is no hyphen. -/
theorem X509.read_hyphen (rest : Bytes) : X509.read (45 :: rest) = none := by
  unfold X509.read
  split
  · rfl
  next element after helement =>
    obtain ⟨isConstructed, more, htag⟩ := Asn1.readTag_of_readElement helement
    have hother : element.tag ≠ .sequence := by
      intro hsequence
      rw [hsequence] at htag
      cases htag
    rw [Asn1.Element.sequence?, if_neg hother]

theorem Pem.exists_hyphen {text : Bytes} (h : Pem.isArmoured text = true) :
    ∃ rest, text = 45 :: rest := by
  obtain ⟨rest, rfl⟩ := List.isPrefixOf_iff_prefix.mp h
  exact ⟨_, rfl⟩

/-- The standard reader of armoured texts reads what the first certificate block encloses. -/
theorem Crypto.readPem_standard {der text : Bytes} {certificate : X509}
    (hcarries : Pem.Carries der text) (hread : X509.read der = some certificate) :
    Crypto.standard.readPem text = some certificate := by
  have hcontent : der ≠ [] := by
    rintro rfl
    cases hread
  have hfirst : Pem.certificate? text = some der := Pem.certificate?_of_carries hcarries hcontent
  show (Pem.certificate? text).bind X509.read = some certificate
  rw [hfirst, Option.bind_some, hread]

namespace KeyStore

variable {crypto : Crypto} {store : KeyStore} {keyring handle : Handle} {kind : KeyKind}
  {payload other identifier : Bytes}

theorem HasIdentifier.hasMember (h : store.HasIdentifier keyring identifier) :
    store.HasMember keyring identifier := by
  obtain ⟨members, hmembers, hany⟩ := h
  apply (any_identifier?_iff store keyring identifier).mp
  rwa [memberList, hmembers]

/-- An addition reads nothing of its payload but the certificate. -/
theorem add_congr (hread : crypto.readCertificate payload = crypto.readCertificate other) :
    store.add crypto keyring kind payload = store.add crypto keyring kind other := by
  unfold add material?
  rw [hread]

/-- A keyring that has taken a certificate refuses it from then on, in whatever form it is. -/
theorem add_after_of_fst_eq_ok
    (hread : crypto.readCertificate other = crypto.readCertificate payload)
    (hadd : (store.add crypto keyring kind payload).1 = .ok handle) (calls : List Call) :
    let next := after crypto (store.add crypto keyring kind payload).2 calls
    next.add crypto keyring .asymmetric other = (.error Errno.EEXIST, next) := by
  intro next
  obtain ⟨-, hkeyring, identifier, publicKey, hprovides, -, hlink⟩ := add_of_fst_eq_ok hadd
  have hadded : (store.add crypto keyring kind payload).2.HasIdentifier keyring identifier := by
    have hmembers := members_of_isSome_keyringName? hkeyring
    have hlinked := hasIdentifier_link hmembers identifier publicKey
    rwa [hlink] at hlinked
  have hkept : next.HasIdentifier keyring identifier :=
    (extends_of_steps (steps_after crypto _ calls)).hasIdentifier hadded
  obtain ⟨certificate, hcertificate, hkey⟩ := hprovides
  exact add_of_hasMember ⟨certificate, hread.trans hcertificate, hkey⟩ hkept.hasMember

/-- Let no octets that begin with a hyphen be read as a certificate by themselves, and let a text be
read as the octets are that its first certificate block encloses.  Then octets that are read as a
certificate, and an armoured text that carries them, are told apart by their beginning.  Both are
read as the same certificate, have the same identifier, and are added to every keyring of every
store with the same answer and the same store after it.  Once either has been accepted by a keyring,
the keyring refuses both, whatever is asked of the store in between. -/
theorem armour_interchangeable (crypto : Crypto)
    (hhyphen : ∀ rest, crypto.readX509 (45 :: rest) = none)
    (hfirst : ∀ der text certificate, Pem.Carries der text →
      crypto.readX509 der = some certificate → crypto.readPem text = some certificate)
    {der text : Bytes} {certificate : X509} (hread : crypto.readX509 der = some certificate)
    (harmoured : Pem.isArmoured text = true) (hcarries : Pem.Carries der text) :
    (Pem.isArmoured der = false ∧ crypto.readX509 text = none) ∧
    (crypto.readCertificate text = some certificate ∧
      crypto.readCertificate der = some certificate) ∧
    crypto.certificateKeyId text = crypto.certificateKeyId der ∧
    (∀ store keyring kind,
      add crypto store keyring kind text = add crypto store keyring kind der) ∧
    ∀ store keyring kind handle, ∀ taken ∈ [text, der], ∀ refused ∈ [text, der],
      (add crypto store keyring kind taken).1 = .ok handle → ∀ calls,
        let next := after crypto (add crypto store keyring kind taken).2 calls
        next.add crypto keyring .asymmetric refused = (.error Errno.EEXIST, next) := by
  -- the two forms differ in the first octet, so each reader leaves the other form alone
  have hbare : Pem.isArmoured der = false := by
    rw [← Bool.not_eq_true]
    intro h
    obtain ⟨rest, rfl⟩ := Pem.exists_hyphen h
    rw [hhyphen] at hread
    cases hread
  have hother : crypto.readX509 text = none := by
    obtain ⟨rest, rfl⟩ := Pem.exists_hyphen harmoured
    exact hhyphen rest
  have hder : crypto.readCertificate der = some certificate := by
    rw [Crypto.readCertificate, hbare]
    exact hread
  have htext : crypto.readCertificate text = some certificate := by
    rw [Crypto.readCertificate, if_pos harmoured]
    exact hfirst der text certificate hcarries hread
  have hboth : ∀ form ∈ [text, der], crypto.readCertificate form = some certificate := by
    simp only [List.forall_mem_cons, htext, hder, true_and]
    nofun
  refine ⟨⟨hbare, hother⟩, ⟨htext, hder⟩, ?_, ?_, ?_⟩
  · rw [Crypto.certificateKeyId, Crypto.certificateKeyId, htext, hder]
  · intro store keyring kind
    exact add_congr (htext.trans hder.symm)
  · intro store keyring kind handle taken htaken refused hrefused hadd
    exact add_after_of_fst_eq_ok ((hboth refused hrefused).trans (hboth taken htaken).symm) hadd

open Shadowing in
/-- The first of two certificates in a text, after the block of another label. -/
theorem armour_interchangeable_first :
    let crypto := Crypto.standard
    let certificates := Bytes.ascii "CERTIFICATE"
    let text := Pem.write [Pem.lineFeed] (Bytes.ascii "PUBLIC KEY") [1, 2, 3] ++
      Pem.write [Pem.carriageReturn, Pem.lineFeed] certificates first ++
      Pem.write [Pem.lineFeed] certificates second
    let store := (openKeyring {} ".five").2
    let added := store.add crypto ⟨1⟩ .asymmetric first
    X509.read first = some ⟨some [0x01, 0x0B, 0xAD, 0xCA, 0xFE], some firstKey⟩ ∧
      Pem.isArmoured text = true ∧ Pem.Carries first text ∧
      crypto.certificateKeyId text = .ok ⟨0x0BADCAFE⟩ ∧ added.1 = .ok ⟨2⟩ ∧
      store.add crypto ⟨1⟩ .asymmetric text = added ∧
      added.2.add crypto ⟨1⟩ .asymmetric text = (.error Errno.EEXIST, added.2) := by
  intro crypto certificates text store added
  have hread : X509.read first =
      some ⟨some [0x01, 0x0B, 0xAD, 0xCA, 0xFE], some firstKey⟩ := by
    decide +kernel
  have harmoured : Pem.isArmoured text = true := by decide +kernel
  have hprologue : Pem.Prologue
      (Pem.write [Pem.lineFeed] (Bytes.ascii "PUBLIC KEY") [1, 2, 3]) := by
    have hother : Pem.Prologue
        (Pem.write [Pem.lineFeed] (Bytes.ascii "PUBLIC KEY") [1, 2, 3] ++ []) :=
      Pem.prologue_write .lf ⟨by decide, by decide, by decide⟩ (by decide) (by decide) nofun .nil
    rwa [List.append_nil] at hother
  have hcarries : Pem.Carries first text :=
    Pem.carries_write .crlf (by decide) hprologue first _
  have hadded : added.1 = .ok ⟨2⟩ := by decide +kernel
  obtain ⟨-, -, hkeyId, hsame, hrefused⟩ :=
    armour_interchangeable crypto X509.read_hyphen (fun _ _ _ => Crypto.readPem_standard) hread
      harmoured hcarries
  have hkey : crypto.certificateKeyId first = .ok ⟨0x0BADCAFE⟩ := by decide +kernel
  exact ⟨hread, harmoured, hcarries, hkeyId.trans hkey, hadded, hsame store ⟨1⟩ .asymmetric,
    hrefused store ⟨1⟩ .asymmetric ⟨2⟩ first (by simp) text (by simp) hadded []⟩

end KeyStore

end TrustedKeyring
