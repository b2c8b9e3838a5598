import Mathlib.Tactic

/-!
# Loops with fuel

A `while` loop of the source, with the `return` statements inside its body, is
an iteration of a body that yields either the next loop state or the result.
The fuel bounds the number of iterations; `none` means that the loop is still
running.  `iterate_total` is the total-correctness rule: an invariant, a
well-founded order that every iteration decreases, and a result that then no
longer depends on the fuel.
-/

namespace Srcpd.Transition

universe u v

variable {σ : Type u} {ρ : Type v}

/-- Run a loop body until it yields a result, at most `fuel` times. -/
def iterate (body : σ → σ ⊕ ρ) : Nat → σ → Option ρ
  | 0, _ => none
  | fuel + 1, state =>
      match body state with
      | .inl next => iterate body fuel next
      | .inr result => some result

theorem iterate_succ_inl {body : σ → σ ⊕ ρ} {state next : σ} (fuel : Nat)
    (taken : body state = .inl next) :
    iterate body (fuel + 1) state = iterate body fuel next := by
  simp [iterate, taken]

theorem iterate_succ_inr {body : σ → σ ⊕ ρ} {state : σ} {result : ρ} (fuel : Nat)
    (left : body state = .inr result) :
    iterate body (fuel + 1) state = some result := by
  simp [iterate, left]

/-- More fuel does not change a result. -/
theorem iterate_mono {body : σ → σ ⊕ ρ} {fuel more : Nat} {state : σ} {result : ρ}
    (le : fuel ≤ more) (finished : iterate body fuel state = some result) :
    iterate body more state = some result := by
  induction fuel generalizing more state with
  | zero => simp [iterate] at finished
  | succ fuel ih =>
      obtain ⟨more, rfl⟩ : ∃ n, more = n + 1 := ⟨more - 1, by omega⟩
      cases taken : body state with
      | inl next =>
          rw [iterate_succ_inl _ taken] at finished ⊢
          exact ih (by omega) finished
      | inr value =>
          rw [iterate_succ_inr _ taken] at finished ⊢
          exact finished

/-- Partial correctness: whatever fuel a loop finished with, its result
satisfies what the invariant gives at the exit. -/
theorem iterate_partial {body : σ → σ ⊕ ρ} {inv : σ → Prop} {post : ρ → Prop}
    (continues : ∀ state next, inv state → body state = .inl next → inv next)
    (exits : ∀ state result, inv state → body state = .inr result → post result)
    {fuel : Nat} {state : σ} {result : ρ} (initially : inv state)
    (finished : iterate body fuel state = some result) : post result := by
  induction fuel generalizing state with
  | zero => simp [iterate] at finished
  | succ fuel ih =>
      cases taken : body state with
      | inl next =>
          rw [iterate_succ_inl _ taken] at finished
          exact ih (continues _ _ initially taken) finished
      | inr value =>
          rw [iterate_succ_inr _ taken] at finished
          cases finished
          exact exits _ _ initially taken

/-- Total correctness: with a well-founded order that each iteration decreases,
enough fuel always yields a result. -/
theorem iterate_total {body : σ → σ ⊕ ρ} {inv : σ → Prop} {post : ρ → Prop}
    {lt : σ → σ → Prop} (wellFounded : WellFounded lt)
    (continues : ∀ state next, inv state → body state = .inl next →
      inv next ∧ lt next state)
    (exits : ∀ state result, inv state → body state = .inr result → post result)
    {state : σ} (initially : inv state) :
    ∃ enough result, post result ∧
      ∀ fuel, enough ≤ fuel → iterate body fuel state = some result := by
  induction state using wellFounded.induction with
  | _ state ih =>
      cases taken : body state with
      | inl next =>
          obtain ⟨holds, decreases⟩ := continues _ _ initially taken
          obtain ⟨enough, result, good, finished⟩ := ih next decreases holds
          refine ⟨enough + 1, result, good, fun fuel le => ?_⟩
          obtain ⟨fuel, rfl⟩ : ∃ n, fuel = n + 1 := ⟨fuel - 1, by omega⟩
          rw [iterate_succ_inl _ taken]
          exact finished fuel (by omega)
      | inr result =>
          refine ⟨1, result, exits _ _ initially taken, fun fuel le => ?_⟩
          obtain ⟨fuel, rfl⟩ : ∃ n, fuel = n + 1 := ⟨fuel - 1, by omega⟩
          exact iterate_succ_inr _ taken

/-! ## Runs of the body -/

/-- The loop state after some iterations. -/
def LoopReaches (body : σ → σ ⊕ ρ) : σ → σ → Prop :=
  Relation.ReflTransGen fun state next => body state = .inl next

theorem LoopReaches.refl (body : σ → σ ⊕ ρ) (state : σ) : LoopReaches body state state :=
  Relation.ReflTransGen.refl

/-- What every iteration keeps holds in all loop states. -/
theorem LoopReaches.invariant {body : σ → σ ⊕ ρ} {inv : σ → Prop}
    (continues : ∀ state next, inv state → body state = .inl next → inv next)
    {state last : σ} (reaches : LoopReaches body state last) (initially : inv state) :
    inv last := by
  induction reaches with
  | refl => exact initially
  | tail _ taken ih => exact continues _ _ ih taken

/-- A result is what the body yields in the last of the loop states. -/
theorem iterate_last {body : σ → σ ⊕ ρ} {fuel : Nat} {state : σ} {result : ρ}
    (finished : iterate body fuel state = some result) :
    ∃ last, LoopReaches body state last ∧ body last = .inr result := by
  induction fuel generalizing state with
  | zero => contradiction
  | succ fuel ih =>
      cases taken : body state with
      | inl next =>
          rw [iterate_succ_inl _ taken] at finished
          rcases ih finished with ⟨last, reaches, left⟩
          exact ⟨last, Relation.ReflTransGen.head taken reaches, left⟩
      | inr value =>
          rw [iterate_succ_inr _ taken] at finished
          cases finished
          exact ⟨state, LoopReaches.refl body state, taken⟩

/-! ## Loops in lock step -/

/-- Two bodies that keep their states related also relate their results. -/
theorem iterate_simulates {τ : Type u} {π : Type v} {body : σ → σ ⊕ ρ} {model : τ → τ ⊕ π}
    {states : σ → τ → Prop} {results : ρ → π → Prop}
    (inStep : ∀ state abstract, states state abstract →
      Sum.LiftRel states results (body state) (model abstract))
    {fuel : Nat} {state : σ} {abstract : τ} {outcome : π} (initially : states state abstract)
    (finished : iterate model fuel abstract = some outcome) :
    ∃ result, iterate body fuel state = some result ∧ results result outcome := by
  induction fuel generalizing state abstract with
  | zero => contradiction
  | succ fuel ih =>
      have together := inStep state abstract initially
      rw [iterate] at finished ⊢
      revert together finished
      cases body state with
      | inl next =>
          cases model abstract with
          | inl nextAbstract =>
              intro finished together
              exact ih (Sum.liftRel_inl_inl.mp together) finished
          | inr value => exact fun _ together => absurd together Sum.not_liftRel_inl_inr
      | inr result =>
          cases model abstract with
          | inl nextAbstract => exact fun _ together => absurd together Sum.not_liftRel_inr_inl
          | inr value =>
              intro finished together
              cases finished
              exact ⟨result, rfl, Sum.liftRel_inr_inr.mp together⟩

/-- A loop that cannot leave an invariant is running for ever. -/
theorem iterate_diverges {body : σ → σ ⊕ ρ} {inv : σ → Prop}
    (continues : ∀ state, inv state → ∃ next, body state = .inl next ∧ inv next)
    {state : σ} (initially : inv state) (fuel : Nat) : iterate body fuel state = none := by
  induction fuel generalizing state with
  | zero => rfl
  | succ fuel ih =>
      rcases continues state initially with ⟨next, taken, holds⟩
      rw [iterate_succ_inl _ taken]
      exact ih holds

end Srcpd.Transition
