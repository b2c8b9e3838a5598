import Mathlib.Tactic

/-!
# Labelled steps, runs and invariants

A concurrent system is given by an option-valued step: `step state label` is
the state after the action named by `label`, or `none` when that action is not
enabled.  An interleaving of several parties is a list of labels, so a
statement about every interleaving is a statement about every list.

Besides the usual invariant rule, the file treats runs of which every step
meets a side condition.  `holdsAlong_iff_meetsAlong` is the rule for an exact
condition: the property holds in every state of a run precisely when every step
of it meets the condition.
-/

namespace Srcpd.Transition

universe u v

/-- An option-valued step labelled by the action that is taken. -/
abbrev Step (σ : Type u) (ε : Type v) := σ → ε → Option σ

variable {σ : Type u} {ε : Type v}

/-- Execute the actions of a list from left to right. -/
def run (step : Step σ ε) : σ → List ε → Option σ
  | state, [] => some state
  | state, label :: labels =>
      match step state label with
      | some next => run step next labels
      | none => none

@[simp]
theorem run_nil (step : Step σ ε) (state : σ) : run step state [] = some state :=
  rfl

theorem run_cons_eq_some_iff {step : Step σ ε} {state last : σ} {label : ε}
    {labels : List ε} :
    run step state (label :: labels) = some last ↔
      ∃ next, step state label = some next ∧ run step next labels = some last := by
  cases taken : step state label with
  | none => simp [run, taken]
  | some next => simp [run, taken]

theorem run_append (step : Step σ ε) (state : σ) (first second : List ε) :
    run step state (first ++ second) =
      (run step state first).bind fun middle => run step middle second := by
  induction first generalizing state with
  | nil => rfl
  | cons label labels ih =>
      cases taken : step state label with
      | none => simp [run, taken]
      | some next => simpa [run, taken] using ih next

theorem run_append_singleton {step : Step σ ε} {state last : σ} {labels : List ε}
    {label : ε} :
    run step state (labels ++ [label]) = some last ↔
      ∃ middle, run step state labels = some middle ∧ step middle label = some last := by
  rw [run_append, Option.bind_eq_some_iff]
  constructor
  · rintro ⟨middle, before, after⟩
    obtain ⟨next, taken, rest⟩ := run_cons_eq_some_iff.mp after
    cases rest
    exact ⟨middle, before, taken⟩
  · rintro ⟨middle, before, taken⟩
    exact ⟨middle, before, run_cons_eq_some_iff.mpr ⟨last, taken, rfl⟩⟩

/-- Reached from `start` by some interleaving. -/
def Reachable (step : Step σ ε) (start state : σ) : Prop :=
  ∃ labels, run step start labels = some state

theorem Reachable.refl (step : Step σ ε) (state : σ) : Reachable step state state :=
  ⟨[], rfl⟩

theorem Reachable.of_step {step : Step σ ε} {state next : σ} {label : ε}
    (taken : step state label = some next) : Reachable step state next :=
  ⟨[label], run_cons_eq_some_iff.mpr ⟨next, taken, rfl⟩⟩

theorem Reachable.trans {step : Step σ ε} {first second third : σ}
    (before : Reachable step first second) (after : Reachable step second third) :
    Reachable step first third := by
  obtain ⟨labels, executed⟩ := before
  obtain ⟨labels', executed'⟩ := after
  refine ⟨labels ++ labels', ?_⟩
  rw [run_append, executed]
  exact executed'

/-- The invariant rule: what every step preserves, every run preserves. -/
theorem run_invariant {step : Step σ ε} {inv : σ → Prop}
    (preserved : ∀ state label next, inv state → step state label = some next → inv next)
    {start last : σ} {labels : List ε} (initially : inv start)
    (executed : run step start labels = some last) : inv last := by
  induction labels generalizing start with
  | nil =>
      cases executed
      exact initially
  | cons label labels ih =>
      obtain ⟨next, taken, rest⟩ := run_cons_eq_some_iff.mp executed
      exact ih (preserved _ _ _ initially taken) rest

theorem Reachable.invariant {step : Step σ ε} {inv : σ → Prop}
    (preserved : ∀ state label next, inv state → step state label = some next → inv next)
    {start state : σ} (initially : inv start) (reached : Reachable step start state) :
    inv state := by
  obtain ⟨labels, executed⟩ := reached
  exact run_invariant preserved initially executed

/-! ## Side conditions along a run -/

/-- Every step taken along the labels meets `ok` in the state it is taken in. -/
def MeetsAlong (step : Step σ ε) (ok : σ → ε → Prop) : σ → List ε → Prop
  | _, [] => True
  | state, label :: labels =>
      ∀ next, step state label = some next → ok state label ∧ MeetsAlong step ok next labels

theorem meetsAlong_cons_iff {step : Step σ ε} {ok : σ → ε → Prop} {state next : σ} {label : ε}
    {labels : List ε} (taken : step state label = some next) :
    MeetsAlong step ok state (label :: labels) ↔
      ok state label ∧ MeetsAlong step ok next labels := by
  constructor
  · intro meets
    exact meets next taken
  · intro met other taken'
    rw [taken] at taken'
    cases taken'
    exact met

/-- Two side conditions that agree under an invariant are met along the same runs. -/
theorem meetsAlong_iff_of_invariant {step : Step σ ε} {first second : σ → ε → Prop}
    {inv : σ → Prop}
    (agree : ∀ state label next, inv state → step state label = some next →
      (first state label ↔ second state label))
    (preserved : ∀ state label next, inv state → second state label →
      step state label = some next → inv next)
    {start : σ} {labels : List ε} (initially : inv start) :
    MeetsAlong step first start labels ↔ MeetsAlong step second start labels := by
  induction labels generalizing start with
  | nil => exact Iff.rfl
  | cons label labels ih =>
      constructor
      · intro meets next taken
        rcases meets next taken with ⟨met, rest⟩
        have metSecond := (agree _ _ _ initially taken).mp met
        exact ⟨metSecond, (ih (preserved _ _ _ initially metSecond taken)).mp rest⟩
      · intro meets next taken
        rcases meets next taken with ⟨met, rest⟩
        exact ⟨(agree _ _ _ initially taken).mpr met,
          (ih (preserved _ _ _ initially met taken)).mpr rest⟩

/-- A condition that the labels meet in every state is met along every run. -/
theorem meetsAlong_of_forall (step : Step σ ε) {ok : σ → ε → Prop} {labels : List ε}
    (each : ∀ label ∈ labels, ∀ state, ok state label) (start : σ) :
    MeetsAlong step ok start labels := by
  induction labels generalizing start with
  | nil => trivial
  | cons label labels ih =>
      intro next _
      exact ⟨each label List.mem_cons_self start,
        ih (fun other mem => each other (List.mem_cons_of_mem _ mem)) next⟩

/-- A condition on the labels alone is met along every run. -/
theorem meetsAlong_of_forall_mem (step : Step σ ε) {ok : ε → Prop} {labels : List ε}
    (each : ∀ label ∈ labels, ok label) (start : σ) :
    MeetsAlong step (fun _ label => ok label) start labels :=
  meetsAlong_of_forall step (fun label mem _ => each label mem) start

/-- Every state reached along the labels, the first one included, satisfies
`property`. -/
def HoldsAlong (step : Step σ ε) (property : σ → Prop) : σ → List ε → Prop
  | state, [] => property state
  | state, label :: labels =>
      property state ∧
        ∀ next, step state label = some next → HoldsAlong step property next labels

theorem HoldsAlong.head {step : Step σ ε} {property : σ → Prop} {state : σ}
    {labels : List ε} (holds : HoldsAlong step property state labels) : property state := by
  cases labels with
  | nil => exact holds
  | cons label labels => exact holds.1

theorem HoldsAlong.last {step : Step σ ε} {property : σ → Prop} {start last : σ}
    {labels : List ε} (holds : HoldsAlong step property start labels)
    (executed : run step start labels = some last) : property last := by
  induction labels generalizing start with
  | nil =>
      cases executed
      exact holds
  | cons label labels ih =>
      obtain ⟨next, taken, rest⟩ := run_cons_eq_some_iff.mp executed
      exact ih (holds.2 next taken) rest

/-- The invariant rule for runs whose steps all meet a side condition. -/
theorem run_invariant_of_meets {step : Step σ ε} {ok : σ → ε → Prop} {inv : σ → Prop}
    (preserved : ∀ state label next, inv state → ok state label →
      step state label = some next → inv next)
    {start last : σ} {labels : List ε} (initially : inv start)
    (meets : MeetsAlong step ok start labels)
    (executed : run step start labels = some last) : inv last := by
  induction labels generalizing start with
  | nil =>
      cases executed
      exact initially
  | cons label labels ih =>
      obtain ⟨next, taken, rest⟩ := run_cons_eq_some_iff.mp executed
      obtain ⟨met, metAfter⟩ := meets next taken
      exact ih (preserved _ _ _ initially met taken) metAfter rest

/-- A property that follows from an invariant holds along every run whose steps
all meet the side condition. -/
theorem holdsAlong_of_meets {step : Step σ ε} {ok : σ → ε → Prop}
    {inv property : σ → Prop}
    (sound : ∀ state, inv state → property state)
    (preserved : ∀ state label next, inv state → ok state label →
      step state label = some next → inv next)
    {start : σ} {labels : List ε} (initially : inv start)
    (meets : MeetsAlong step ok start labels) : HoldsAlong step property start labels := by
  induction labels generalizing start with
  | nil => exact sound _ initially
  | cons label labels ih =>
      refine ⟨sound _ initially, fun next taken => ?_⟩
      obtain ⟨met, metAfter⟩ := meets next taken
      exact ih (preserved _ _ _ initially met taken) metAfter

/-- The rule for an exact condition: a step that meets it preserves the
invariant, and a step that does not leads out of the property at once. -/
theorem holdsAlong_iff_meetsAlong {step : Step σ ε} {ok : σ → ε → Prop}
    {inv property : σ → Prop}
    (sound : ∀ state, inv state → property state)
    (preserved : ∀ state label next, inv state → ok state label →
      step state label = some next → inv next)
    (broken : ∀ state label next, inv state → ¬ ok state label →
      step state label = some next → ¬ property next)
    {start : σ} {labels : List ε} (initially : inv start) :
    HoldsAlong step property start labels ↔ MeetsAlong step ok start labels := by
  refine ⟨fun holds => ?_, holdsAlong_of_meets sound preserved initially⟩
  induction labels generalizing start with
  | nil => trivial
  | cons label labels ih =>
      intro next taken
      have after := holds.2 next taken
      have met : ok start label := by
        by_contra violated
        exact broken _ _ _ initially violated taken after.head
      exact ⟨met, ih (preserved _ _ _ initially met taken) after⟩

end Srcpd.Transition
