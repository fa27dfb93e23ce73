import TrustedKeyring.Environment
import TrustedKeyring.Proofs.Operation.Calls

/-!
# References to keys

A search or an addition that finds a key gives a reference to it, and a release returns one.
`settle` follows the references that are owed along a list of such effects; it has no result if one
is returned that is not owed.
-/

namespace TrustedKeyring

inductive Effect where
  | gives
  | returns
  | neither
deriving DecidableEq, Repr

def Exchange.effect (key : Handle) : Exchange → Effect
  | ⟨.search _ _ _ _, .ok given⟩ => if given = key then .gives else .neither
  | ⟨.add _ _ _, .ok given⟩ => if given = key then .gives else .neither
  | ⟨.release returned, _⟩ => if returned = key then .returns else .neither
  | _ => .neither

def Event.effect (service : ServiceId) (key : Handle) (event : Event) : Effect :=
  if event.service = service then event.exchange.effect key else .neither

namespace Effect

/-- The references that are owed after a list of effects, if none is returned that is not owed. -/
def settle : Nat → List Effect → Option Nat
  | owed, [] => some owed
  | owed, .gives :: effects => settle (owed + 1) effects
  | 0, .returns :: _ => none
  | owed + 1, .returns :: effects => settle owed effects
  | owed, .neither :: effects => settle owed effects

theorem settle_neither (owed : Nat) (effects : List Effect) :
    settle owed (.neither :: effects) = settle owed effects := by
  cases owed <;> rfl

theorem settle_append (owed : Nat) (first last : List Effect) :
    settle owed (first ++ last) = (settle owed first).bind fun owed => settle owed last := by
  induction first generalizing owed with
  | nil => rfl
  | cons effect first ih =>
    cases effect with
    | gives => exact ih (owed + 1)
    | returns =>
      cases owed with
      | zero => rfl
      | succ owed => exact ih owed
    | neither =>
      rw [List.cons_append, settle_neither, settle_neither]
      exact ih owed

theorem settle_cons (owed : Nat) (effect : Effect) (effects : List Effect) :
    settle owed (effect :: effects) =
      (settle owed [effect]).bind fun owed => settle owed effects :=
  settle_append owed [effect] effects

/-- Effects on other keys settle nothing. -/
theorem settle_of_forall_neither {effects : List Effect} (owed : Nat)
    (h : ∀ effect ∈ effects, effect = .neither) : settle owed effects = some owed := by
  induction effects with
  | nil => rfl
  | cons effect effects ih =>
    rw [h effect List.mem_cons_self, settle_neither]
    exact ih fun other hother => h other (List.mem_cons_of_mem effect hother)

/-- What is owed in the end is what was given less what was returned. -/
theorem count_eq_of_settle {owed left : Nat} {effects : List Effect}
    (h : settle owed effects = some left) :
    owed + effects.count .gives = effects.count .returns + left := by
  induction effects generalizing owed with
  | nil =>
    cases h
    rw [List.count_nil, List.count_nil]
    omega
  | cons effect effects ih =>
    cases effect with
    | gives =>
      have hrest := ih h
      rw [List.count_cons_self, List.count_cons_of_ne (by decide)]
      omega
    | returns =>
      cases owed with
      | zero => cases h
      | succ owed =>
        have hrest := ih h
        rw [List.count_cons_self, List.count_cons_of_ne (by decide)]
        omega
    | neither =>
      rw [settle_neither] at h
      rw [List.count_cons_of_ne (by decide), List.count_cons_of_ne (by decide)]
      exact ih h

/-- At no point have more references been returned than were owed and given before. -/
theorem count_take_le_of_settle {owed left : Nat} {effects : List Effect}
    (h : settle owed effects = some left) (n : Nat) :
    (effects.take n).count .returns ≤ owed + (effects.take n).count .gives := by
  rw [← List.take_append_drop n effects, settle_append] at h
  cases hbefore : settle owed (effects.take n) with
  | none => rw [hbefore] at h; cases h
  | some between =>
    have hcount := count_eq_of_settle hbefore
    omega

/-- Effects that never return more than was owed and given can be settled. -/
theorem exists_settle {owed : Nat} {effects : List Effect}
    (h : ∀ n, (effects.take n).count .returns ≤ owed + (effects.take n).count .gives) :
    ∃ left, settle owed effects = some left := by
  -- each hypothesis about a longer prefix is one about the rest, with one more owed or fewer
  induction effects generalizing owed with
  | nil => exact ⟨owed, rfl⟩
  | cons effect effects ih =>
    cases effect with
    | gives =>
      apply ih
      intro n
      have hn := h (n + 1)
      rw [List.take_succ_cons, List.count_cons_of_ne (by decide), List.count_cons_self] at hn
      omega
    | returns =>
      cases owed with
      | zero => exact absurd (h 1) (by simp)
      | succ owed =>
        apply ih
        intro n
        have hn := h (n + 1)
        rw [List.take_succ_cons, List.count_cons_self, List.count_cons_of_ne (by decide)] at hn
        omega
    | neither =>
      rw [settle_neither]
      apply ih
      intro n
      have hn := h (n + 1)
      rwa [List.take_succ_cons, List.count_cons_of_ne (by decide),
        List.count_cons_of_ne (by decide)] at hn

def recount (count : Nat) : Effect → Nat
  | .gives => count + 1
  | .returns => count - 1
  | .neither => count

/-- A count that follows effects that can be settled comes to what is owed. -/
theorem foldl_recount_of_settle {owed left : Nat} {effects : List Effect}
    (h : settle owed effects = some left) : effects.foldl recount owed = left := by
  induction effects generalizing owed with
  | nil => exact Option.some.inj h
  | cons effect effects ih =>
    cases effect with
    | gives => exact ih h
    | returns =>
      cases owed with
      | zero => cases h
      | succ owed => exact ih h
    | neither =>
      rw [settle_neither] at h
      exact ih h

end Effect

/-- An interaction that is no call concerns no key. -/
theorem Exchange.effect_of_not_isCall {exchange : Exchange}
    (hlocal : exchange.request.isCall = false) (key : Handle) : exchange.effect key = .neither := by
  rcases exchange with ⟨request, answer⟩
  cases request with
  | readAnchor | lock | bind _ | unlock _ => rfl
  | _ => cases hlocal

/-- The calls among a list of interactions settle what the whole list does. -/
theorem settle_calls (owed : Nat) (key : Handle) (exchanges : List Exchange) :
    Effect.settle owed ((exchanges.filter fun exchange => exchange.request.isCall).map
      (Exchange.effect key)) = Effect.settle owed (exchanges.map (Exchange.effect key)) := by
  induction exchanges generalizing owed with
  | nil => rfl
  | cons exchange exchanges ih =>
    cases hcall : exchange.request.isCall with
    | false =>
      rw [List.filter_cons, if_neg (by rw [hcall]; decide), List.map_cons,
        exchange.effect_of_not_isCall hcall, Effect.settle_neither]
      exact ih owed
    | true =>
      rw [List.filter_cons, if_pos hcall, List.map_cons, List.map_cons]
      refine (Effect.settle_cons owed _ _).trans (Eq.trans ?_ (Effect.settle_cons owed _ _).symm)
      exact congrArg (Option.bind _) (funext ih)

end TrustedKeyring
