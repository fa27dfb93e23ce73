import TrustedKeyring.Operation
import TrustedKeyring.Text.Quoted

/-!
# Trust anchors

A trust anchor is filled by the first load that succeeds and keeps its binding from then on.  A
failed load leaves it unset, so that the next caller tries again.  A caller that asks a bound
anchor for another keyring, or through another key service, is refused.
-/

namespace TrustedKeyring

namespace Binding

def check (binding : Binding) (name : String) (owner : Option ServiceId) :
    Except Refusal Handle :=
  if binding.keyring ≠ name then .error (.otherKeyring binding.keyring name)
  else if binding.owner ≠ owner then .error .otherService
  else .ok binding.handle

def describe (binding : Binding) : String :=
  "Binding \x7b handle: " ++ binding.handle.describe ++ ", keyring: " ++
    Text.quoted binding.keyring ++ ", owned: " ++ toString binding.owner.isSome ++ " \x7d"

end Binding

def ownerRequired : Refusal :=
  .invalidArgument "process-wide trust anchor needs an owning key service"

namespace TrustAnchor

/-- An anchor that is already bound, for hosts that own the keyring themselves. -/
def preloaded (keyring : String) (handle : Handle) : TrustAnchor :=
  { binding := some ⟨handle, keyring, none⟩ }

def shared : TrustAnchor :=
  { isProcess := true }

/-- The anchor's handle.  An unset anchor is loaded with the named keyring; loads are made one at
a time under the bootstrap lock, and a load that panics leaves the anchor unset. -/
def load (name : String) (owner : Option ServiceId) : Operation Handle := do
  let anchor ← Operation.perform .readAnchor
  match anchor.binding with
  | some binding => Operation.ofExcept (binding.check name owner)
  | none =>
    if anchor.isProcess && owner.isNone then Operation.refuse ownerRequired
    else
      Operation.perform .lock
      -- another caller may have loaded the anchor before the lock was free
      let anchor ← Operation.perform .readAnchor
      match anchor.binding with
      | some binding =>
        Operation.perform (.unlock false)
        Operation.ofExcept (binding.check name owner)
      | none =>
        match ← Operation.perform (.openKeyring name) with
        | .ok handle =>
          let binding ← Operation.perform (.bind ⟨handle, name, owner⟩)
          Operation.perform (.unlock false)
          pure binding.handle
        | .error (.error errno) =>
          Operation.perform (.unlock false)
          Operation.refuse (.loadFailed errno)
        | .error (.panic message) =>
          -- unwinding gives the lock up and poisons it, which no later load minds
          Operation.perform (.unlock true)
          Operation.unwind message

/-- The handle as a caller may use it, or nothing while the anchor is unset. -/
def peek (name : String) (owner : Option ServiceId) : Operation (Option Handle) := do
  let anchor ← Operation.perform .readAnchor
  match anchor.binding with
  | some binding => Operation.ofExcept ((binding.check name owner).map some)
  | none => pure none

def describe (anchor : TrustAnchor) : String :=
  "TrustAnchor \x7b binding: OnceCell(" ++
    (match anchor.binding with
      | some binding => binding.describe
      | none => "Uninit") ++
    "), bootstrap: Mutex \x7b data: (), poisoned: " ++ toString anchor.isPoisoned ++
    ", .. \x7d, process: " ++ toString anchor.isProcess ++ " \x7d"

end TrustAnchor

end TrustedKeyring
