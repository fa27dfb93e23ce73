import TrustedKeyring.Asn1.Writer
import TrustedKeyring.FileTree
import TrustedKeyring.Proofs.Text.Utf8
import TrustedKeyring.Proofs.Verifier.Provision
import TrustedKeyring.TrustStore

/-!
# Carriers of certificates

A certificate can be kept in a file or in a variable.  A file is read octet by octet, a variable as
text, so the two can stand for each other exactly if their content encodes a text
(`carriers_agree_iff`).
-/

namespace TrustedKeyring

variable {host : Host} {path name : String} {content : Bytes}

/-- A service's refusals keep its error numbers, so none of them is about a configuration. -/
theorem ProvisionTrace.ne_badConfig {verifier : Verifier} {anchor : TrustAnchor} {data : Bytes}
    {calls : List Exchange} {outcome : Outcome Refusal Unit}
    (h : ProvisionTrace verifier data anchor calls outcome) (detail : String) :
    outcome ≠ .error (.error (.badConfig detail)) := by
  rintro rfl
  cases h with
  | refused _ hanswer => cases hanswer

namespace CertificateSource

def notFound (name : String) : Refusal :=
  .badConfig ("Environment variable not found: " ++ name)

theorem read_file (hfile : host.readFile path = .ok content) :
    (file path).read host = .ok content := by
  rw [read, hfile]
  rfl

theorem read_environment_of_isText (hvariable : host.environment name = some content)
    (htext : Text.IsText content) : (environment name).read host = .ok content := by
  simp only [read, hvariable, (Text.isUtf8_iff content).mpr htext, if_true]

theorem read_environment_of_not_isText (hvariable : host.environment name = some content)
    (hbinary : ¬Text.IsText content) :
    (environment name).read host = .error (notFound name) := by
  apply read_eq_error_iff.mpr
  refine .environment ?_
  intro other hother
  rw [hvariable] at hother
  cases hother
  exact Bool.eq_false_iff.mpr (mt (Text.isUtf8_iff content).mp hbinary)

theorem read_environment_eq_ok_iff (hvariable : host.environment name = some content) :
    (environment name).read host = .ok content ↔ Text.IsText content := by
  refine ⟨?_, read_environment_of_isText hvariable⟩
  intro hread
  by_contra hbinary
  rw [read_environment_of_not_isText hvariable hbinary] at hread
  cases hread

theorem read_environment_eq_error_iff (hvariable : host.environment name = some content) :
    (environment name).read host = .error (notFound name) ↔ ¬Text.IsText content := by
  refine ⟨?_, read_environment_of_not_isText hvariable⟩
  intro hread htext
  rw [read_environment_of_isText hvariable htext] at hread
  cases hread

/-- What a service answers never looks like a variable that is not found. -/
theorem provision_ne_notFound {σ : Type} (others : Collaborators σ) (world : World σ)
    (verifier : Verifier) (data : Bytes) (name : String) :
    ((verifier.provision data).run others world).outcome ≠ .error (.error (notFound name)) :=
  (trace_provision others world.state verifier data world.anchor).1.ne_badConfig _

/-- Provisioning from a file is provisioning its content.  From a variable with the same content it
is the same exactly if the content encodes a text, and otherwise nothing is called. -/
theorem run_provisionFrom_iff {σ : Type} (hfile : host.readFile path = .ok content)
    (hvariable : host.environment name = some content) (others : Collaborators σ)
    (world : World σ) (verifier : Verifier) :
    let fromFile := (verifier.provisionFrom host (.file path)).run others world
    let fromVariable := (verifier.provisionFrom host (.environment name)).run others world
    fromFile = (verifier.provision content).run others world ∧
    (fromVariable = fromFile ↔ Text.IsText content) ∧
    (fromVariable = ⟨.error (.error (notFound name)), world, []⟩ ↔ ¬Text.IsText content) := by
  dsimp only
  rw [verifier.provisionFrom_of_ok (read_file hfile)]
  have hkept := provision_ne_notFound others world verifier content name
  by_cases htext : Text.IsText content
  · rw [verifier.provisionFrom_of_ok (read_environment_of_isText hvariable htext)]
    refine ⟨rfl, iff_of_true rfl htext, iff_of_false ?_ (not_not_intro htext)⟩
    intro hlost
    exact hkept (congrArg Run.outcome hlost)
  · rw [verifier.provisionFrom_of_error (read_environment_of_not_isText hvariable htext)]
    refine ⟨rfl, iff_of_false ?_ htext, iff_of_true rfl htext⟩
    intro halike
    exact hkept (congrArg Run.outcome halike).symm

/-- A file is read as it is, and provisioning from it is provisioning its content.  A variable with
the same content is read alike, and provisioning from it has the same outcome, the same calls and
the same effects in every world, exactly if the content encodes a text; otherwise it is refused as a
variable that is not found, and nothing is called. -/
theorem carriers_agree_iff (hfile : host.readFile path = .ok content)
    (hvariable : host.environment name = some content) :
    (file path).read host = .ok content ∧
    ((environment name).read host = .ok content ↔ Text.IsText content) ∧
    ((environment name).read host = .error (notFound name) ↔ ¬Text.IsText content) ∧
    ∀ (σ : Type) (others : Collaborators σ) (world : World σ) (verifier : Verifier),
      let fromFile := (verifier.provisionFrom host (.file path)).run others world
      let fromVariable := (verifier.provisionFrom host (.environment name)).run others world
      fromFile = (verifier.provision content).run others world ∧
      (fromVariable = fromFile ↔ Text.IsText content) ∧
      (fromVariable = ⟨.error (.error (notFound name)), world, []⟩ ↔ ¬Text.IsText content) := by
  refine ⟨read_file hfile, read_environment_eq_ok_iff hvariable,
    read_environment_eq_error_iff hvariable, ?_⟩
  intro σ others world verifier
  exact run_provisionFrom_iff hfile hvariable others world verifier

/-- A text whose characters are encoded in one to four octets, in a file of a directory. -/
theorem carriers_agree_iff_wide :
    let content := Text.encode "# Schlüssel — 鍵 🔑"
    let host := FileTree.host (.ofList [("keys/ca.pem", content)]) [("CA_PEM", content)]
    let others := TrustStore.collaborators Crypto.standard
    let verifier : Verifier := ⟨{}, none⟩
    let world := (verifier.load.run others ⟨{}, {}⟩).world
    host.readFile "keys/ca.pem" = .ok content ∧ host.environment "CA_PEM" = some content ∧
      (environment "CA_PEM").read host = .ok content ∧
      (verifier.provisionFrom host (.environment "CA_PEM")).run others world =
        (verifier.provisionFrom host (.file "keys/ca.pem")).run others world := by
  intro content host others verifier world
  have hfile : host.readFile "keys/ca.pem" = .ok content := by decide +kernel
  have hvariable : host.environment "CA_PEM" = some content := by decide +kernel
  obtain ⟨-, hread, -, hruns⟩ := carriers_agree_iff hfile hvariable
  obtain ⟨-, hsame, -⟩ := hruns KeyStore others world verifier
  exact ⟨hfile, hvariable, hread.mpr ⟨_, rfl⟩, hsame.mpr ⟨_, rfl⟩⟩

/-! ## A binary certificate in a variable -/

namespace Binary

/-- A certificate without zero octets, so that a variable can hold it.  The octets of the key have
an unused bit, which lies in an octet after the key. -/
def certificate : Bytes :=
  let algorithm := Asn1.writeSequence
    [Asn1.writeObjectIdentifier [0x2A, 0x86, 0x48, 0x86, 0xF7, 0x0D, 0x01, 0x01, 0x0B]]
  let commonName := Asn1.writeSequence
    [Asn1.writeObjectIdentifier [0x55, 0x04, 0x03], Asn1.write 0x0C (Bytes.ascii "A")]
  let name := Asn1.writeSequence [Asn1.write 0x31 commonName]
  let time := Asn1.write 0x17 (Bytes.ascii "250101010101Z")
  let numbers := Asn1.writeSequence
    [Asn1.writeNatural (Nat.pow 2 1023 - 1), Asn1.writeNatural 3]
  let key := Asn1.writeSequence
    [Asn1.writeSequence [Asn1.writeObjectIdentifier PublicKey.rsaIdentifier],
      Asn1.write 0x03 (1 :: numbers ++ [2])]
  let extension := Asn1.writeSequence
    [Asn1.writeObjectIdentifier X509.subjectKeyIdIdentifier,
      Asn1.writeOctetString (Asn1.writeOctetString [0x0B, 0xAD, 0xCA, 0xFE])]
  let signed := Asn1.writeSequence
    [Asn1.writeNatural 1, algorithm, name, Asn1.writeSequence [time, time], name, key,
      Asn1.write 0xA3 (Asn1.writeSequence [extension])]
  Asn1.writeSequence [signed, algorithm, Asn1.write 0x03 [1, 2]]

end Binary

open Binary in
/-- The certificate is accepted from the file, and its variable is reported as not found. -/
theorem not_found_of_binary :
    let host := FileTree.host (.ofList [("cert.der", certificate)]) [("TRUSTED_CERT", certificate)]
    let others := TrustStore.collaborators Crypto.standard
    let verifier : Verifier := ⟨{}, none⟩
    let world := (verifier.load.run others ⟨{}, {}⟩).world
    let fromFile := (verifier.provisionFrom host (.file "cert.der")).run others world
    let fromVariable :=
      (verifier.provisionFrom host (.environment "TRUSTED_CERT")).run others world
    0 ∉ certificate ∧ host.readFile "cert.der" = .ok certificate ∧
      host.environment "TRUSTED_CERT" = some certificate ∧
      (file "cert.der").read host = .ok certificate ∧
      (environment "TRUSTED_CERT").read host = .error (notFound "TRUSTED_CERT") ∧
      fromFile.outcome = .ok () ∧
      fromVariable = ⟨.error (.error (notFound "TRUSTED_CERT")), world, []⟩ := by
  intro host others verifier world fromFile fromVariable
  have hfile : host.readFile "cert.der" = .ok certificate := by decide +kernel
  have hlost : (environment "TRUSTED_CERT").read host = .error (notFound "TRUSTED_CERT") := by
    decide +kernel
  refine ⟨by decide +kernel, hfile, by decide +kernel, read_file hfile, hlost, by decide +kernel,
    ?_⟩
  exact congrArg (Operation.run others · world) (verifier.provisionFrom_of_error hlost)

end CertificateSource

end TrustedKeyring
