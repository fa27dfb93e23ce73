import TrustedKeyring.CertificateSource
import TrustedKeyring.Operation

/-!
# Environments

Key services and signature primitives by number, all acting on one shared state.
-/

namespace TrustedKeyring

abbrev PrimitiveId := Nat

structure Environment (σ : Type) where
  service : ServiceId → KeyService σ
  primitive : PrimitiveId → SignaturePrimitive σ
  host : Host

def Environment.collaborators {σ : Type} (environment : Environment σ) (service : ServiceId)
    (primitive : PrimitiveId) : Collaborators σ :=
  ⟨environment.service service, environment.primitive primitive⟩

structure Event where
  service : ServiceId
  primitive : PrimitiveId
  exchange : Exchange

end TrustedKeyring
