import TrustedKeyring.Certificate
import TrustedKeyring.Errno

/-!
# Collaborators

The two collaborators of a verification: the key service that holds keyrings, and the primitive
that checks signatures.  Either may answer in any way that depends on its own state, and may panic.
-/

namespace TrustedKeyring

/-- Why a call has no value: an error of its own kind, or a panic that unwinds to the caller. -/
inductive Failure (ε : Type) where
  | error (reason : ε)
  | panic (message : String)
deriving DecidableEq, Repr

abbrev Outcome (ε α : Type) := Except (Failure ε) α

/-- A key service with states of type `σ`.  A handle that a search or an addition answers with
carries one reference, which is handed back through `release` once. -/
structure KeyService (σ : Type) where
  openKeyring : String → σ → Outcome Errno Handle × σ
  search : Handle → KeyKind → String → Bool → σ → Outcome Errno Handle × σ
  release : Handle → σ → σ
  add : Handle → KeyKind → Bytes → σ → Outcome Errno Handle × σ

/-- A signature primitive with states of type `σ`.  Codes below zero are rejections; the others are
successes whose meaning is the primitive's own. -/
structure SignaturePrimitive (σ : Type) where
  check : Handle → SignatureQuery → Certificate → Header → σ → Outcome Empty Int32 × σ

end TrustedKeyring
