import TrustedKeyring.Proofs.KeyStore.Growth
import TrustedKeyring.Proofs.TrustStore.Refinement

/-!
# Selection of keys

A certificate that was accepted is published under the 32-bit identifier that hosts compute from it.
Signatures of its key are verified from then on (`verify_of_provision`), unless the first key that
the keyring already held under that identifier is another one: identifiers are told apart in full
when a certificate is added, but only by their last four octets when a key is searched.
-/

namespace TrustedKeyring

open TrustStore (Answer)

variable {crypto : Crypto} {accepted more : Accepted} {entry : Bytes × PublicKey} {data : Bytes}
  {id : KeyId} {key : PublicKey}

/-- Whether the first key that a keyring holds under the identifier is another one. -/
def KeyStore.Shadows (store : KeyStore) (keyring : Handle) (id : KeyId) (key : PublicKey) :
    Prop :=
  ∃ entries earlier, store.Holds keyring entries ∧
    KeyStore.published? entries id = some earlier ∧ earlier.2 ≠ key

/-- A subject key identifier is published by its last four octets. -/
theorem Crypto.certificateKeyId_of_subjectKeyId {identifier : Bytes} {key : Option PublicKey}
    (h : crypto.readCertificate data = some ⟨some identifier, key⟩) :
    crypto.certificateKeyId data = .ok (shortKeyId identifier) := by
  rw [certificateKeyId, h]
  rfl

namespace Accepted

/-- A certificate that is accepted goes to the end of the list. -/
theorem eq_append_of_added (h : (accepted.add crypto data).1 = .ok .added) :
    ∃ entry, entry? crypto data = some entry ∧
      (accepted.add crypto data).2 = accepted ++ [entry] := by
  unfold add at h ⊢
  by_cases hdata : data = []
  · rw [if_pos hdata] at h
    cases h
  · rw [if_neg hdata] at h ⊢
    cases hentry : entry? crypto data with
    | none => rw [hentry] at h; cases h
    | some entry =>
      rw [hentry] at h
      dsimp only at h ⊢
      by_cases hpresent : entry.1 ∈ accepted.map Prod.fst
      · rw [if_pos hpresent] at h
        cases h
      · rw [if_neg hpresent]
        exact ⟨entry, rfl, rfl⟩

/-- What is kept of a certificate is its public key, and the identifier that it is published under.
-/
theorem certificate_of_entry? (h : entry? crypto data = some entry) :
    ∃ certificate, crypto.readCertificate data = some certificate ∧
      certificate.publicKey = some entry.2 ∧
      crypto.certificateKeyId data = .ok (Crypto.shortKeyId entry.1) := by
  unfold entry? at h
  cases hread : crypto.readCertificate data with
  | none => rw [hread] at h; cases h
  | some certificate =>
    rcases certificate with ⟨subjectKeyId, publicKey⟩
    rw [hread, Option.bind_some] at h
    cases publicKey with
    | none => cases h
    | some key =>
      cases h
      refine ⟨_, rfl, rfl, ?_⟩
      cases subjectKeyId <;> simp only [Crypto.certificateKeyId, hread, Crypto.keyIdentifier?,
        Option.map_some, Option.getD_some, Option.getD_none]

/-- The first key under an identifier is the one that was added, if the first before was none
other. -/
theorem published?_append (hid : Crypto.shortKeyId entry.1 = id)
    (hfirst : ∀ earlier, KeyStore.published? accepted id = some earlier → earlier.2 = entry.2)
    (more : Accepted) :
    ∃ found, KeyStore.published? (accepted ++ [entry] ++ more) id = some found ∧
      found.2 = entry.2 := by
  rw [List.append_assoc, KeyStore.published?, List.find?_append]
  cases hearlier : accepted.find? fun entry => Crypto.shortKeyId entry.1 = id with
  | some earlier => exact ⟨earlier, rfl, hfirst earlier hearlier⟩
  | none =>
    refine ⟨entry, ?_, rfl⟩
    rw [Option.none_or, List.singleton_append, List.find?_cons, decide_eq_true hid]

/-- A signature of the key that the list comes to first is verified. -/
theorem verify_eq_zero {certificate : Certificate} {digest : Bytes} {algorithm : HashAlgorithm}
    {found : Bytes × PublicKey}
    (hfound : KeyStore.published? accepted certificate.header.keyId = some found)
    (halgorithm : certificate.header.algorithm? = some algorithm)
    (hcheckable : algorithm.isCheckable = true) (hsize : digest.length = algorithm.digestSize)
    (hsignature : crypto.verify found.2 algorithm digest certificate.signature = some true) :
    accepted.verify crypto certificate digest = .ok (.code 0) := by
  have hknown : ¬20 ≤ certificate.header.hashNumber := by
    have hsome : (HashAlgorithm.ofByte? certificate.header.hashNumber).isSome := by
      rw [show HashAlgorithm.ofByte? certificate.header.hashNumber = some algorithm from halgorithm]
      rfl
    rw [UInt8.not_le]
    exact of_decide_eq_true ((HashAlgorithm.ofByte?_isSome_iff _).mp hsome)
  have hhash : hash? certificate.header.hashNumber.toNat =
      some (algorithm, algorithm.digestSize) := by
    have hlisted : HashAlgorithm.all[certificate.header.hashNumber.toNat]? = some algorithm :=
      halgorithm
    rw [hash?_eq, hlisted, Option.filter_some_pos hcheckable, Option.map_some]
  have hcode : code crypto found.2 certificate digest = 0 := by
    unfold code
    rw [hhash]
    dsimp only
    rw [if_neg (not_not_intro hsize), if_pos hsignature]
  rw [KeyStore.published?] at hfound
  rw [verify, if_neg hknown, hfound]
  dsimp only
  rw [hcode]

end Accepted

theorem ok_of_map_code {result : Outcome TrustStore.Error Int32} {code : Int32}
    (h : result.map Answer.code = .ok (.code code)) : result = .ok code := by
  cases result with
  | error failure => cases h
  | ok given => cases h; rfl

theorem ok_of_outcome {α : Type} {result : Outcome Refusal α} {value : α}
    (h : TrustStore.outcome result = .ok value) : result = .ok value := by
  cases result with
  | error failure => cases h
  | ok given => cases h; rfl

/-- A store verifies the signatures of the key that its keyring comes to first. -/
theorem TrustStore.verify_eq_zero {verifier : Verifier} {world : World KeyStore}
    {certificate : Certificate} {digest : Bytes} {algorithm : HashAlgorithm}
    {found : Bytes × PublicKey} (h : TrustStore.Represents ⟨verifier, world⟩ accepted)
    (hfound : KeyStore.published? accepted certificate.header.keyId = some found)
    (halgorithm : certificate.header.algorithm? = some algorithm)
    (hcheckable : algorithm.isCheckable = true) (hsize : digest.length = algorithm.digestSize)
    (hsignature : crypto.verify found.2 algorithm digest certificate.signature = some true) :
    (TrustStore.verify crypto ⟨verifier, world⟩ certificate digest).1 = .ok 0 := by
  apply ok_of_map_code
  calc (TrustStore.verify crypto ⟨verifier, world⟩ certificate digest).1.map Answer.code
    _ = accepted.verify crypto certificate digest :=
      (answer_of_represents h crypto (.verify certificate digest)).1
    _ = .ok (.code 0) :=
      Accepted.verify_eq_zero hfound halgorithm hcheckable hsize hsignature

/-- A keyring that a store has added to is one that it has. -/
theorem KeyStore.exists_members_of_add {store : KeyStore} {keyring key : Handle} {kind : KeyKind}
    (h : (store.add crypto keyring kind data).1 = .ok key) :
    ∃ members, store.members keyring = .ok members := by
  rcases store.add_eq crypto keyring kind data with ⟨errno, heq⟩ | ⟨members, _, _, hmembers, -⟩
  · rw [heq] at h
    cases h
  · exact ⟨members, hmembers⟩

/-- A certificate that was provisioned is the last of those that the keyring holds. -/
theorem ProvisionTrace.holds_of_ok {verifier : Verifier} {anchor : TrustAnchor}
    {calls : List Exchange} {state last : KeyStore}
    (h : ProvisionTrace verifier data anchor calls (.ok ()))
    (hanswer : (TrustStore.collaborators crypto).Answer state calls last)
    (hsound : state.Sound) :
    ∃ keyring accepted entry,
      anchor.binding = some ⟨keyring, verifier.config.keyringName, verifier.owner⟩ ∧
        state.Holds keyring accepted ∧ Accepted.entry? crypto data = some entry ∧
        last.Holds keyring (accepted ++ [entry]) := by
  have htrace := h
  cases h with
  | @added keyring hbound hdata key =>
    have hadd : (state.add crypto keyring .asymmetric data).1 = .ok key :=
      KeyStore.reply_eq_ok_iff.mp hanswer.1.symm
    rcases KeyStore.exists_members_of_add hadd with ⟨members, hmembers⟩
    rcases hsound.exists_holds hmembers with ⟨accepted, hholds⟩
    rcases htrace.of_holds hbound hholds hanswer with ⟨hadded, hlast⟩
    rcases Accepted.eq_append_of_added hadded.symm with ⟨entry, hentry, hlist⟩
    rw [hlist] at hlast
    exact ⟨keyring, accepted, entry, hbound, hholds, hentry, hlast⟩

/-- A certificate that a verifier has provisioned is published under the identifier that hosts
compute from it.  From then on, whatever else is done to the key store, a signature of its key over
a digest of the right length is verified, unless the first key that the keyring held under that
identifier before was another one. -/
theorem verify_of_provision (crypto : Crypto) (verifier : Verifier) (anchor : TrustAnchor)
    (state : KeyStore) (hstate : KeyStore.Steps crypto {} state) (data : Bytes) :
    let added := (verifier.provision data).run (TrustStore.collaborators crypto) ⟨anchor, state⟩
    added.outcome = .ok () →
      ∃ keyring id key certificate,
        anchor.binding = some ⟨keyring, verifier.config.keyringName, verifier.owner⟩ ∧
        crypto.readCertificate data = some certificate ∧ certificate.publicKey = some key ∧
        crypto.certificateKeyId data = .ok id ∧
        (¬state.Shadows keyring id key →
          ∀ world : World KeyStore, world.anchor.binding = anchor.binding →
            KeyStore.Steps crypto added.world.state world.state →
          ∀ (certificate : Certificate) (digest : Bytes) (algorithm : HashAlgorithm),
            certificate.header.keyId = id → certificate.header.algorithm? = some algorithm →
            algorithm.isCheckable = true → digest.length = algorithm.digestSize →
            crypto.verify key algorithm digest certificate.signature = some true →
              ((verifier.verify certificate digest digest.length).run
                (TrustStore.collaborators crypto) world).outcome = .ok 0 ∧
              (TrustStore.verify crypto ⟨verifier, world⟩ certificate digest).1 = .ok 0) := by
  intro added hadded
  have hsound := KeyStore.sound_of_steps hstate KeyStore.sound_empty
  obtain ⟨htrace, -⟩ := (ensures_provision verifier data anchor).run
    (TrustStore.collaborators crypto) state
  have hanswer := Operation.answer_run (TrustStore.collaborators crypto)
    (verifier.provision data) ⟨anchor, state⟩
  change ProvisionTrace verifier data anchor added.calls added.outcome at htrace
  rw [hadded] at htrace
  rcases htrace.holds_of_ok hanswer hsound with
    ⟨keyring, accepted, entry, hbound, hbefore, hentry, hafter⟩
  rcases Accepted.certificate_of_entry? hentry with ⟨certificate, hread, hkey, hid⟩
  refine ⟨keyring, _, entry.2, certificate, hbound, hread, hkey, hid, ?_⟩
  intro hunshadowed world hworld hsteps certificate digest algorithm hkeyId halgorithm hcheckable
    hsize hsignature
  have hfirst : ∀ earlier,
      KeyStore.published? accepted (Crypto.shortKeyId entry.1) = some earlier →
        earlier.2 = entry.2 := by
    intro earlier hearlier
    by_contra hother
    exact hunshadowed ⟨accepted, earlier, hbefore, hearlier, hother⟩
  -- what the keyring held after the certificate was added is still there, in the same order
  have hlast : KeyStore.Steps crypto {} added.world.state :=
    hstate.trans (KeyStore.steps_run crypto (verifier.provision data) ⟨anchor, state⟩)
  have hlater := KeyStore.sound_of_steps (hlast.trans hsteps) KeyStore.sound_empty
  rcases (KeyStore.extends_of_steps hsteps).holds hlater hafter with ⟨more, hholds⟩
  rw [← hkeyId] at hfirst
  rcases Accepted.published?_append hkeyId.symm hfirst more with ⟨found, hfound, hsamekey⟩
  have hrepresents : TrustStore.Represents ⟨verifier, world⟩ (accepted ++ [entry] ++ more) :=
    ⟨keyring, hworld.trans hbound, hholds⟩
  have hcode := TrustStore.verify_eq_zero hrepresents hfound halgorithm hcheckable hsize
    (by rw [hsamekey]; exact hsignature)
  exact ⟨ok_of_outcome hcode, hcode⟩

/-! ## Two certificates under one identifier -/

def X509.bare (subjectKeyId : Bytes) (key : PublicKey) : Bytes :=
  let algorithm := Asn1.writeSequence
    [Asn1.writeObjectIdentifier [0x2A, 0x86, 0x48, 0x86, 0xF7, 0x0D, 0x01, 0x01, 0x0B],
      Asn1.writeNull]
  let time := Asn1.write 0x17 "250101000000Z".toUTF8.toList
  let extension := Asn1.writeSequence
    [Asn1.writeObjectIdentifier X509.subjectKeyIdIdentifier,
      Asn1.writeOctetString (Asn1.writeOctetString subjectKeyId)]
  let signed := Asn1.writeSequence
    [Asn1.write 0xA0 (Asn1.writeNatural 2), Asn1.writeNatural 1, algorithm,
      Asn1.writeSequence [], Asn1.writeSequence [time, time], Asn1.writeSequence [], key.encode,
      Asn1.write 0xA3 (Asn1.writeSequence [extension])]
  Asn1.writeSequence [signed, algorithm, Asn1.writeBitString []]

namespace Shadowing

def digest : Bytes := List.replicate 31 0 ++ [1]

def message : Nat :=
  (((Rsa.digestInfo? .sha256 digest).bind (Rsa.padded? 128)).map Bytes.toNat).getD 0

/-- A signature whose cube is larger than the message by the modulus of the second key. -/
def signature : Nat := 5 * Nat.pow 2 339

def firstKey : PublicKey := .rsa (Nat.pow 2 1023 + 1) 3

def secondKey : PublicKey := .rsa (Nat.pow signature 3 - message) 3

/-- The identifiers of the two certificates differ, but not in the last four octets. -/
def first : Bytes := X509.bare [0x01, 0x0B, 0xAD, 0xCA, 0xFE] firstKey

def second : Bytes := X509.bare [0x02, 0x0B, 0xAD, 0xCA, 0xFE] secondKey

/-- The second key once more, under a third identifier that ends alike. -/
def third : Bytes := X509.bare [0x03, 0x0B, 0xAD, 0xCA, 0xFE] secondKey

def certificate : Certificate :=
  ⟨.forAlgorithm .sha256 ⟨0x0BADCAFE⟩, Bytes.ofNat 128 signature⟩

theorem readCertificate_second : Crypto.standard.readCertificate second =
    some ⟨some [0x02, 0x0B, 0xAD, 0xCA, 0xFE], some secondKey⟩ := by
  decide +kernel

theorem certificateKeyId_second :
    Crypto.standard.certificateKeyId second = .ok ⟨0x0BADCAFE⟩ :=
  Crypto.certificateKeyId_of_subjectKeyId readCertificate_second

theorem readCertificate_third : Crypto.standard.readCertificate third =
    some ⟨some [0x03, 0x0B, 0xAD, 0xCA, 0xFE], some secondKey⟩ := by
  decide +kernel

theorem verify_secondKey :
    Crypto.standard.verify secondKey .sha256 digest certificate.signature = some true := by
  decide +kernel

end Shadowing

open Shadowing in
/-- Both certificates are accepted, and what the second one's key has signed is rejected. -/
theorem rejected_of_shadowing :
    Crypto.standard.certificateKeyId second = .ok certificate.header.keyId ∧
      (∃ parsed, Crypto.standard.readCertificate second = some parsed ∧
        parsed.publicKey = some secondKey) ∧
      certificate.header.algorithm? = some .sha256 ∧ HashAlgorithm.sha256.isCheckable = true ∧
      digest.length = HashAlgorithm.sha256.digestSize ∧
      Crypto.standard.verify secondKey .sha256 digest certificate.signature = some true ∧
      ∃ store, TrustStore.new Crypto.standard none = .ok store ∧
        store.answers Crypto.standard
            [.addCertificate first, .addCertificate second, .verify certificate digest] =
          [.ok .added, .ok .added, .ok (.code (-129))] := by
  refine ⟨certificateKeyId_second, ⟨_, readCertificate_second, rfl⟩, rfl, rfl, rfl,
    verify_secondKey, _, rfl, ?_⟩
  decide +kernel

open Shadowing in
/-- The keyring has the second certificate and then the first, under the same identifier.  The third
is not shadowed, since the first key under the identifier is its own. -/
theorem verify_of_provision_third :
    let verifier : Verifier := ⟨{}, none⟩
    let anchor := TrustAnchor.preloaded ".five" ⟨1⟩
    let state := KeyStore.after Crypto.standard {}
      [.openKeyring ".five", .add ⟨1⟩ .asymmetric second, .add ⟨1⟩ .asymmetric first]
    let others := TrustStore.collaborators Crypto.standard
    let added := (verifier.provision third).run others ⟨anchor, state⟩
    state.Holds ⟨1⟩ [([0x02, 0x0B, 0xAD, 0xCA, 0xFE], secondKey),
        ([0x01, 0x0B, 0xAD, 0xCA, 0xFE], firstKey)] ∧
      added.outcome = .ok () ∧
      ((verifier.verify certificate digest digest.length).run others added.world).outcome =
        .ok 0 := by
  intro verifier anchor state others added
  have hstate : state =
      { entries := [.keyring ".five" [⟨2⟩, ⟨3⟩],
          .key [0x02, 0x0B, 0xAD, 0xCA, 0xFE] secondKey 1,
          .key [0x01, 0x0B, 0xAD, 0xCA, 0xFE] firstKey 1]
        names := [(".five", ⟨1⟩)] } := by
    decide +kernel
  have hholds : state.Holds ⟨1⟩ [([0x02, 0x0B, 0xAD, 0xCA, 0xFE], secondKey),
      ([0x01, 0x0B, 0xAD, 0xCA, 0xFE], firstKey)] := by
    rw [hstate]
    exact ⟨[⟨2⟩, ⟨3⟩], rfl, .cons ⟨rfl, rfl⟩ (.cons ⟨rfl, rfl⟩ .nil)⟩
  have hadded : added.outcome = .ok () := by decide +kernel
  obtain ⟨keyring, id, key, parsed, hbound, hread, hkey, hid, hverify⟩ :=
    verify_of_provision Crypto.standard verifier anchor state (KeyStore.steps_after _ _ _) third
      hadded
  cases hbound
  rw [readCertificate_third] at hread
  cases hread
  cases hkey
  rw [Crypto.certificateKeyId_of_subjectKeyId readCertificate_third] at hid
  cases hid
  have hunshadowed : ¬state.Shadows ⟨1⟩ ⟨0x0BADCAFE⟩ secondKey := by
    rintro ⟨entries, earlier, hentries, hearlier, hother⟩
    rw [hentries.unique hholds] at hearlier
    cases hearlier
    exact hother rfl
  have hanchor : added.world.anchor.binding = anchor.binding := by
    rw [((ensures_provision verifier third anchor).run others state).2]
  exact ⟨hholds, hadded, (hverify hunshadowed added.world hanchor .refl certificate digest .sha256
    rfl rfl rfl rfl verify_secondKey).1⟩

end TrustedKeyring
