import TrustedKeyring.Refusal
import TrustedKeyring.KeyService

/-!
# Operations

An operation on a trust anchor is a tree of interactions, each with one continuation for every
possible answer.  The interactions are the steps that nothing can come between.  An operation that
runs alone has its interactions answered one after the other (`Operation.run`) and leaves a record
of them; one that is put together of two parts runs the one and then the other
(`Operation.run_andThen`).
-/

namespace TrustedKeyring

abbrev ServiceId := Nat

structure Binding where
  handle : Handle
  keyring : String
  owner : Option ServiceId
deriving DecidableEq, Repr

/-- A write-once slot for the keyring that verifications search, poisoned once a load that held the
bootstrap lock has panicked.  The whole process shares one slot. -/
structure TrustAnchor where
  binding : Option Binding := none
  isPoisoned : Bool := false
  isProcess : Bool := false
deriving DecidableEq, Repr

/-- One indivisible interaction of an operation with its anchor, its key service or its signature
primitive. -/
inductive Interaction where
  | readAnchor
  | lock
  | bind (binding : Binding)
  | unlock (poisoning : Bool)
  | openKeyring (name : String)
  | search (keyring : Handle) (kind : KeyKind) (description : String) (byEnd : Bool)
  | release (key : Handle)
  | add (keyring : Handle) (kind : KeyKind) (payload : Bytes)
  | check (key : Handle) (query : SignatureQuery) (certificate : Certificate) (header : Header)
deriving DecidableEq, Repr

abbrev Interaction.Answer : Interaction → Type
  | readAnchor => TrustAnchor
  | lock => Unit
  | bind _ => Binding
  | unlock _ => Unit
  | openKeyring _ => Outcome Errno Handle
  | search _ _ _ _ => Outcome Errno Handle
  | release _ => Unit
  | add _ _ _ => Outcome Errno Handle
  | check _ _ _ _ => Outcome Empty Int32

inductive Operation (α : Type) where
  | done (outcome : Outcome Refusal α)
  | interact (request : Interaction) (next : request.Answer → Operation α)

namespace Operation

def andThen {α β : Type} : Operation α → (α → Operation β) → Operation β
  | done (.ok value), next => next value
  | done (.error failure), _ => done (.error failure)
  | interact request answered, next =>
    interact request fun answer => (answered answer).andThen next

instance : Monad Operation where
  pure value := done (.ok value)
  bind := andThen

theorem andThen_done {α : Type} (operation : Operation α) :
    (operation.andThen fun value => done (.ok value)) = operation := by
  induction operation with
  | done outcome => cases outcome <;> rfl
  | interact request next ih => exact congrArg (interact request) (funext ih)

theorem andThen_assoc {α β γ : Type} (operation : Operation α) (next : α → Operation β)
    (last : β → Operation γ) :
    (operation.andThen next).andThen last =
      operation.andThen fun value => (next value).andThen last := by
  induction operation with
  | done outcome => cases outcome <;> rfl
  | interact request answered ih => exact congrArg (interact request) (funext ih)

instance : LawfulMonad Operation :=
  LawfulMonad.mk' Operation (fun operation => andThen_done operation) (fun _ _ => rfl)
    (fun operation next last => andThen_assoc operation next last)

def perform (request : Interaction) : Operation request.Answer :=
  interact request fun answer => done (.ok answer)

def refuse {α : Type} (refusal : Refusal) : Operation α :=
  done (.error (.error refusal))

def unwind {α : Type} (message : String) : Operation α :=
  done (.error (.panic message))

def ofExcept {α : Type} : Except Refusal α → Operation α
  | .ok value => done (.ok value)
  | .error refusal => refuse refusal

end Operation

structure World (σ : Type) where
  anchor : TrustAnchor
  state : σ

structure Collaborators (σ : Type) where
  service : KeyService σ
  primitive : SignaturePrimitive σ

structure Exchange where
  request : Interaction
  answer : request.Answer

namespace Interaction

def answer {σ : Type} (others : Collaborators σ) (world : World σ) :
    (request : Interaction) → request.Answer × World σ
  | readAnchor => (world.anchor, world)
  | lock => ((), world)
  | bind binding =>
    match world.anchor.binding with
    | some bound => (bound, world)
    | none => (binding, { world with anchor := { world.anchor with binding := some binding } })
  | unlock poisoning =>
    ((), { world with
      anchor := { world.anchor with isPoisoned := world.anchor.isPoisoned || poisoning } })
  | openKeyring name =>
    let (reply, state) := others.service.openKeyring name world.state
    (reply, { world with state := state })
  | search keyring kind description byEnd =>
    let (reply, state) := others.service.search keyring kind description byEnd world.state
    (reply, { world with state := state })
  | release key => ((), { world with state := others.service.release key world.state })
  | add keyring kind payload =>
    let (reply, state) := others.service.add keyring kind payload world.state
    (reply, { world with state := state })
  | check key query certificate header =>
    let (reply, state) := others.primitive.check key query certificate header world.state
    (reply, { world with state := state })

end Interaction

structure Run (σ α : Type) where
  outcome : Outcome Refusal α
  world : World σ
  exchanges : List Exchange

/-- Runs an operation with nothing in between. -/
def Operation.run {σ α : Type} (others : Collaborators σ) : Operation α → World σ → Run σ α
  | .done outcome, world => ⟨outcome, world, []⟩
  | .interact request next, world =>
    let (answer, world) := request.answer others world
    let rest := (next answer).run others world
    ⟨rest.outcome, rest.world, ⟨request, answer⟩ :: rest.exchanges⟩

/-- An operation in two parts has the interactions of the first part and then, if that comes to a
value, those of the second. -/
theorem Operation.run_andThen {σ α β : Type} (others : Collaborators σ) (operation : Operation α)
    (next : α → Operation β) (world : World σ) :
    (operation.andThen next).run others world =
      let first := operation.run others world
      match first.outcome with
      | .ok value =>
        let second := (next value).run others first.world
        ⟨second.outcome, second.world, first.exchanges ++ second.exchanges⟩
      | .error failure => ⟨.error failure, first.world, first.exchanges⟩ := by
  induction operation generalizing world with
  | done outcome => cases outcome <;> rfl
  | interact request answered ih =>
    simp only [andThen, run, ih]
    split <;> simp_all

end TrustedKeyring
