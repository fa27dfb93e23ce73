import TrustedKeyring.Proofs.Operation.Twin
import TrustedKeyring.Verifier

/-!
# Twin verifiers

Whatever is asked of a verifier with an owner and of one without, for the same keyring name, the two
operations are twins.
-/

namespace TrustedKeyring

variable {owner : ServiceId}

open Operation (Twin)

/-- An owner is admitted where it has bound the anchor, and nobody where nobody has. -/
theorem check_owned (handle : Handle) (bound name : String) :
    Binding.check ⟨handle, bound, some owner⟩ name (some owner) =
      Binding.check ⟨handle, bound, none⟩ name none := by
  unfold Binding.check
  by_cases hname : bound = name
  · simp [hname]
  · simp [hname]

theorem twin_check (handle : Handle) (bound name : String) :
    (Operation.ofExcept (Binding.check ⟨handle, bound, some owner⟩ name (some owner))).Twin owner
      (Operation.ofExcept (Binding.check ⟨handle, bound, none⟩ name none)) := by
  rw [check_owned]
  exact .of_ofExcept _

/-- Loads are twins, also where another caller has bound the anchor before the lock was taken, and
where the service fails or panics. -/
theorem twin_load (owner : ServiceId) (name : String) :
    (TrustAnchor.load name (some owner)).Twin owner (TrustAnchor.load name none) := by
  refine .readAnchor fun anchor mirror hmirrors => ?_
  cases hmirrors with
  | bound handle bound => exact twin_check handle bound name
  | unset isPoisoned isProcess wasPoisoned =>
    have howned : (isProcess && (some owner).isNone) = false := Bool.and_false isProcess
    simp only [Operation.perform, Operation.andThen, bind, howned]
    refine .same rfl fun _ => .readAnchor fun anchor mirror hmirrors => ?_
    cases hmirrors with
    | bound handle bound => exact .same rfl fun _ => twin_check handle bound name
    | unset =>
      refine .same rfl fun answer => ?_
      rcases answer with (errno | message) | handle
      · exact .same rfl fun _ => .done _
      · exact .same rfl fun _ => .done _
      · exact .bind handle name fun handle bound => .same rfl fun _ => .done (.ok handle)

theorem twin_peek (owner : ServiceId) (name : String) :
    (TrustAnchor.peek name (some owner)).Twin owner (TrustAnchor.peek name none) := by
  refine .readAnchor fun anchor mirror hmirrors => ?_
  cases hmirrors with
  | unset => exact .done (.ok none)
  | bound handle bound =>
    simp only [Operation.andThen, check_owned]
    exact .of_ofExcept _

theorem twin_search (owner : ServiceId) (keyring : Option Handle) (id : KeyId) :
    (findKey keyring id).Twin owner (findKey keyring id) := by
  cases keyring with
  | none => exact .done _
  | some keyring =>
    refine .same rfl fun answer => ?_
    rcases answer with (errno | message) | key
    · exact .done _
    · exact .done _
    · exact .done (.ok key)

namespace Verifier

variable (config : Config) (owner : ServiceId)

theorem twin_findKey (id : KeyId) :
    ((⟨config, some owner⟩ : Verifier).findKey id).Twin owner
      ((⟨config, none⟩ : Verifier).findKey id) :=
  .andThen (twin_peek owner config.keyringName) fun keyring => twin_search owner keyring id

theorem twin_verify (certificate : Certificate) (digest : Bytes) (digestLength : Nat) :
    ((⟨config, some owner⟩ : Verifier).verify certificate digest digestLength).Twin owner
      ((⟨config, none⟩ : Verifier).verify certificate digest digestLength) := by
  refine .andThen (twin_load owner config.keyringName) fun _ => ?_
  refine .andThen (.of_ofExcept _) fun _ => ?_
  refine .andThen (twin_findKey config owner certificate.header.keyId) fun key => ?_
  refine .andThen (.of_perform rfl) fun reply => ?_
  refine .andThen (.of_perform rfl) fun _ => ?_
  rcases reply with (reason | message) | code
  · cases reason
  · exact .done _
  · exact .done (.ok code)

theorem twin_provision (data : Bytes) :
    ((⟨config, some owner⟩ : Verifier).provision data).Twin owner
      ((⟨config, none⟩ : Verifier).provision data) := by
  refine .andThen (twin_peek owner config.keyringName) fun keyring => ?_
  cases keyring with
  | none => exact .done _
  | some keyring =>
    dsimp only
    by_cases hempty : data.isEmpty = true
    · rw [if_pos hempty]
      exact .done _
    · rw [if_neg hempty]
      refine .same rfl fun answer => ?_
      rcases answer with (errno | message) | key
      · exact .done _
      · exact .done _
      · exact .of_perform rfl

theorem twin_provisionFrom (host : Host) (source : CertificateSource) :
    ((⟨config, some owner⟩ : Verifier).provisionFrom host source).Twin owner
      ((⟨config, none⟩ : Verifier).provisionFrom host source) :=
  .andThen (.of_ofExcept _) fun data => twin_provision config owner data

end Verifier

end TrustedKeyring
