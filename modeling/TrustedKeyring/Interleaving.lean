import TrustedKeyring.Environment

/-!
# Operations at the same time

Several operations on anchors with one shared state of collaborators, taking turns interaction by
interaction.  An operation that asks for the bootstrap lock of its anchor waits while another one
holds it; nothing else waits.
-/

namespace TrustedKeyring

/-- An anchor that operations under way use, and which of them holds its bootstrap lock. -/
structure Slot where
  anchor : TrustAnchor
  holder : Option Nat := none
deriving DecidableEq, Repr

def Slot.holderAfter (slot : Slot) (number : Nat) : Interaction → Option Nat
  | .lock => some number
  | .unlock _ => none
  | _ => slot.holder

structure Thread (α : Type) where
  slot : Nat
  service : ServiceId
  primitive : PrimitiveId
  rest : Operation α

structure Scene (σ α : Type) where
  state : σ
  slots : List Slot
  threads : List (Thread α)

namespace Scene

variable {σ α : Type}

/-- Lets a thread have its next interaction.  Nothing happens if it waits or has ended. -/
def step (environment : Environment σ) (scene : Scene σ α) (number : Nat) :
    Scene σ α × List Event :=
  match scene.threads[number]? with
  | none => (scene, [])
  | some thread =>
    match scene.slots[thread.slot]?, thread.rest with
    | some slot, .interact request next =>
      -- a thread that waits for the lock keeps its turn's interaction for later
      if request = .lock ∧ slot.holder.isSome then (scene, [])
      else
        let (answer, world) :=
          request.answer (environment.collaborators thread.service thread.primitive)
            ⟨slot.anchor, scene.state⟩
        ({ state := world.state
           slots := scene.slots.set thread.slot ⟨world.anchor, slot.holderAfter number request⟩
           threads := scene.threads.set number { thread with rest := next answer } },
          [⟨thread.service, thread.primitive, ⟨request, answer⟩⟩])
    | _, _ => (scene, [])

def run (environment : Environment σ) (scene : Scene σ α) : List Nat → Scene σ α × List Event
  | [] => (scene, [])
  | number :: schedule =>
    let (scene, events) := scene.step environment number
    let (scene, later) := scene.run environment schedule
    (scene, events ++ later)

def outcome? (scene : Scene σ α) (number : Nat) : Option (Outcome Refusal α) :=
  match (scene.threads[number]?).map Thread.rest with
  | some (.done outcome) => some outcome
  | _ => none

def anchor (scene : Scene σ α) (slot : Nat) : TrustAnchor :=
  match scene.slots[slot]? with
  | some slot => slot.anchor
  | none => {}

end Scene

end TrustedKeyring
