import Srcpd.Transition.Loop

/-!
# Search with backtracking

A partial solution is a stack of choices, the newest on top.  The search extends it by
the greatest choice below a bound that is allowed there; where there is none it takes
the newest choice back and goes on below it.  `search_total` says that it comes to an
end, and what each of its ends means: a goal that is reached by allowed choices, a
stack of the greatest length, or that no goal can be reached at all.
-/

namespace Srcpd.Search

open Srcpd.Transition

/-- A search for a stack of choices. -/
structure Problem where
  choices : Nat
  /-- May the choice be put on the stack? -/
  allowed : List Nat → Nat → Bool
  goal : List Nat → Bool

variable {p : Problem} {limit : Nat}

/-- The greatest allowed choice below a bound. -/
def Problem.candidate (p : Problem) (stack : List Nat) : Nat → Option Nat
  | 0 => none
  | below + 1 => if p.allowed stack below then some below else p.candidate stack below

theorem Problem.candidate_eq_some {stack : List Nat} {below choice : Nat}
    (taken : p.candidate stack below = some choice) :
    choice < below ∧ p.allowed stack choice = true ∧
      ∀ other, choice < other → other < below → p.allowed stack other = false := by
  induction below with
  | zero => contradiction
  | succ below ih =>
      rw [candidate] at taken
      split at taken
      · next allowed =>
          cases taken
          exact ⟨Nat.lt_succ_self _, allowed, fun other above under => by omega⟩
      · next refused =>
          rcases ih taken with ⟨under, allowed, greatest⟩
          refine ⟨Nat.lt_succ_of_lt under, allowed, fun other above inside => ?_⟩
          rcases Nat.lt_succ_iff_lt_or_eq.mp inside with inside | rfl
          · exact greatest other above inside
          · exact Bool.eq_false_of_not_eq_true refused

theorem Problem.candidate_eq_none {stack : List Nat} {below : Nat}
    (stuck : p.candidate stack below = none) {choice : Nat} (under : choice < below) :
    p.allowed stack choice = false := by
  induction below with
  | zero => contradiction
  | succ below ih =>
      rw [candidate] at stuck
      split at stuck
      · contradiction
      · next refused =>
          rcases Nat.lt_succ_iff_lt_or_eq.mp under with under | rfl
          · exact ih stuck under
          · exact Bool.eq_false_of_not_eq_true refused

/-! ## The search -/

/-- The choices from `below` on have been tried on top of the stack. -/
structure State where
  stack : List Nat
  below : Nat
  deriving DecidableEq, Repr

/-- How a search ends. -/
inductive Outcome where
  | found (stack : List Nat)
  | tooDeep (stack : List Nat)
  | exhausted
  deriving DecidableEq, Repr

/-- One turn of the search: a choice is pushed, or the last one taken back. -/
def Problem.step (p : Problem) (limit : Nat) (s : State) : State ⊕ Outcome :=
  if p.goal s.stack then
    .inr (.found s.stack)
  else
    match p.candidate s.stack s.below with
    | some choice =>
        if limit ≤ s.stack.length + 1 then .inr (.tooDeep (choice :: s.stack))
        else .inl ⟨choice :: s.stack, p.choices⟩
    | none =>
        match s.stack with
        | [] => .inr .exhausted
        | choice :: stack => .inl ⟨stack, choice⟩

/-- The empty stack, with all choices to be tried. -/
def Problem.start (p : Problem) : State := ⟨[], p.choices⟩

/-- What one step of the search can do. -/
inductive Problem.Stepped (p : Problem) (limit : Nat) (s : State) :
    State ⊕ Outcome → Prop
  | found (reached : p.goal s.stack = true) : Stepped p limit s (.inr (.found s.stack))
  | tooDeep {choice : Nat} (missed : p.goal s.stack = false)
      (taken : p.candidate s.stack s.below = some choice)
      (deep : limit ≤ s.stack.length + 1) :
      Stepped p limit s (.inr (.tooDeep (choice :: s.stack)))
  | push {choice : Nat} (missed : p.goal s.stack = false)
      (taken : p.candidate s.stack s.below = some choice)
      (room : s.stack.length + 1 < limit) :
      Stepped p limit s (.inl ⟨choice :: s.stack, p.choices⟩)
  | exhausted (missed : p.goal s.stack = false)
      (stuck : p.candidate s.stack s.below = none) (empty : s.stack = []) :
      Stepped p limit s (.inr .exhausted)
  | pop {choice : Nat} {stack : List Nat} (missed : p.goal s.stack = false)
      (stuck : p.candidate s.stack s.below = none) (top : s.stack = choice :: stack) :
      Stepped p limit s (.inl ⟨stack, choice⟩)

theorem Problem.stepped (p : Problem) (limit : Nat) (s : State) :
    p.Stepped limit s (p.step limit s) := by
  rw [step]
  split
  · next reached => exact .found reached
  · next missed =>
      have missed := Bool.eq_false_of_not_eq_true missed
      split
      · next choice taken =>
          split
          · next deep => exact .tooDeep missed taken deep
          · next room => exact .push missed taken (Nat.lt_of_not_le room)
      · next stuck =>
          split
          · next empty => exact .exhausted missed stuck empty
          · next choice stack top => exact .pop missed stuck top

/-! ## What has been explored -/

/-- Every choice was allowed when it was made. -/
def Problem.Valid (p : Problem) : List Nat → Prop
  | [] => True
  | choice :: stack => choice < p.choices ∧ p.allowed stack choice = true ∧ p.Valid stack

/-- No goal can be reached from here. -/
def Problem.Dead (p : Problem) (stack : List Nat) : Prop :=
  ∀ more, p.Valid (more ++ stack) → p.goal (more ++ stack) = false

/-- The choices that have been tried at each level lead nowhere. -/
def Problem.Explored (p : Problem) : List Nat → Nat → Prop
  | [], below => ∀ choice, below ≤ choice → p.Dead [choice]
  | top :: stack, below =>
      (∀ choice, below ≤ choice → p.Dead (choice :: top :: stack)) ∧ p.Explored stack (top + 1)

theorem Problem.Valid.of_append {stack : List Nat} (more : List Nat)
    (valid : p.Valid (more ++ stack)) : p.Valid stack := by
  induction more with
  | nil => exact valid
  | cons choice more ih => exact ih valid.2.2

theorem Problem.Dead.of_not_valid {stack : List Nat} (invalid : ¬ p.Valid stack) :
    p.Dead stack :=
  fun more valid => absurd (valid.of_append more) invalid

theorem Problem.Explored.dead {stack : List Nat} {below choice : Nat}
    (explored : p.Explored stack below) (tried : below ≤ choice) : p.Dead (choice :: stack) := by
  cases stack with
  | nil => exact explored choice tried
  | cons top stack => exact explored.1 choice tried

/-- All choices on top of the stack lead nowhere, and it is no goal itself. -/
theorem Problem.Explored.dead_stack {stack : List Nat} {below : Nat}
    (explored : p.Explored stack below) (missed : p.goal stack = false)
    (stuck : p.candidate stack below = none) : p.Dead stack := by
  have next (choice : Nat) : p.Dead (choice :: stack) := by
    rcases Nat.lt_or_ge choice below with under | tried
    · apply Dead.of_not_valid
      rintro ⟨-, allowed, -⟩
      rw [candidate_eq_none stuck under] at allowed
      contradiction
    · exact explored.dead tried
  intro more valid
  rcases List.eq_nil_or_concat more with rfl | ⟨front, last, rfl⟩
  · exact missed
  · rw [List.concat_append] at valid ⊢
    exact next last front valid

/-- Nothing has been tried yet on top of a new choice. -/
theorem Problem.Explored.push {stack : List Nat} {below choice : Nat}
    (explored : p.Explored stack below) (taken : p.candidate stack below = some choice) :
    p.Explored (choice :: stack) p.choices := by
  have next (other : Nat) (above : choice + 1 ≤ other) : p.Dead (other :: stack) := by
    rcases Nat.lt_or_ge other below with under | tried
    · apply Dead.of_not_valid
      rintro ⟨-, allowed, -⟩
      rw [(candidate_eq_some taken).2.2 other above under] at allowed
      contradiction
    · exact explored.dead tried
  refine ⟨fun other outside => Dead.of_not_valid fun valid => ?_, ?_⟩
  · exact absurd valid.1 (Nat.not_lt.mpr outside)
  · cases stack with
    | nil => exact next
    | cons top stack => exact ⟨next, explored.2⟩

/-- A choice that leads nowhere joins those that were tried before it. -/
theorem Problem.Explored.pop {stack : List Nat} {below choice : Nat}
    (explored : p.Explored (choice :: stack) below) (dead : p.Dead (choice :: stack)) :
    p.Explored stack choice := by
  have next (other : Nat) (tried : choice ≤ other) : p.Dead (other :: stack) := by
    rcases Nat.eq_or_lt_of_le tried with rfl | above
    · exact dead
    · exact explored.2.dead above
  cases stack with
  | nil => exact next
  | cons top stack => exact ⟨next, explored.2.2⟩

/-! ## The invariant and the measure -/

/-- The stack is allowed, and everything above it in the order of the search was explored. -/
structure Problem.Inv (p : Problem) (limit : Nat) (s : State) : Prop where
  valid : p.Valid s.stack
  room : s.stack.length < limit
  below : s.below ≤ p.choices
  explored : p.Explored s.stack s.below

theorem Problem.inv_start (p : Problem) {limit : Nat} (room : 0 < limit) :
    p.Inv limit p.start := by
  refine ⟨trivial, room, le_refl _, fun choice outside => Dead.of_not_valid fun valid => ?_⟩
  exact absurd valid.1 (Nat.not_lt.mpr outside)

/-- A level counts for more than everything above it. -/
def Problem.level (p : Problem) (limit : Nat) (stack : List Nat) : Nat :=
  (p.choices + 2) ^ (limit - stack.length)

/-- A number that goes down with each turn. -/
def Problem.weight (p : Problem) (limit : Nat) : List Nat → Nat
  | [] => 0
  | choice :: stack => p.weight limit stack + (choice + 1) * p.level limit stack

/-- The choices that are left at each level. -/
def Problem.left (p : Problem) (limit : Nat) (s : State) : Nat :=
  p.weight limit s.stack + (s.below + 1) * p.level limit s.stack

theorem Problem.level_pos (p : Problem) (limit : Nat) (stack : List Nat) :
    0 < p.level limit stack :=
  Nat.pow_pos (Nat.succ_pos _)

theorem Problem.level_eq {stack : List Nat} (room : stack.length < limit) (choice : Nat) :
    p.level limit stack = p.level limit (choice :: stack) * (p.choices + 2) := by
  rw [level, level, ← pow_succ]
  congr 1
  simp only [List.length_cons]
  omega

theorem Problem.left_push {stack : List Nat} {below choice : Nat}
    (room : stack.length < limit) (under : choice < below) :
    p.left limit ⟨choice :: stack, p.choices⟩ < p.left limit ⟨stack, below⟩ := by
  have smaller : (p.choices + 1) * p.level limit (choice :: stack) < p.level limit stack := by
    rw [level_eq room choice, Nat.mul_comm]
    exact Nat.mul_lt_mul_of_pos_left (Nat.lt_succ_self _) (p.level_pos _ _)
  have fewer : (choice + 2) * p.level limit stack ≤ (below + 1) * p.level limit stack :=
    Nat.mul_le_mul_right _ (by omega)
  calc p.left limit ⟨choice :: stack, p.choices⟩
      = p.weight limit stack + (choice + 1) * p.level limit stack +
          (p.choices + 1) * p.level limit (choice :: stack) := rfl
    _ < p.weight limit stack + (choice + 1) * p.level limit stack + p.level limit stack :=
        Nat.add_lt_add_left smaller _
    _ = p.weight limit stack + (choice + 2) * p.level limit stack := by ring
    _ ≤ p.left limit ⟨stack, below⟩ := Nat.add_le_add_left fewer _

theorem Problem.left_pop (stack : List Nat) (below choice : Nat) :
    p.left limit ⟨stack, choice⟩ < p.left limit ⟨choice :: stack, below⟩ :=
  Nat.lt_add_of_pos_right (Nat.mul_pos (Nat.succ_pos _) (p.level_pos _ _))

theorem Problem.Inv.step {s next : State} (inv : p.Inv limit s)
    (continues : p.step limit s = .inl next) :
    p.Inv limit next ∧ p.left limit next < p.left limit s := by
  have stepped := p.stepped limit s
  rw [continues] at stepped
  cases stepped with
  | @push choice missed taken room =>
      obtain ⟨under, allowed, -⟩ := candidate_eq_some taken
      refine ⟨⟨⟨?_, allowed, inv.valid⟩, room, le_refl _, inv.explored.push taken⟩, ?_⟩
      · exact Nat.lt_of_lt_of_le under inv.below
      · exact left_push inv.room under
  | @pop choice stack missed stuck top =>
      rcases s with ⟨_, below⟩
      cases top
      have dead := inv.explored.dead_stack missed stuck
      refine ⟨⟨inv.valid.2.2, Nat.lt_of_succ_lt inv.room, Nat.le_of_lt inv.valid.1, ?_⟩, ?_⟩
      · exact inv.explored.pop dead
      · exact left_pop stack below choice

/-- What the end of a search means. -/
def Problem.Settles (p : Problem) (limit : Nat) : Outcome → Prop
  | .found stack => p.Valid stack ∧ p.goal stack = true ∧ stack.length < limit
  | .tooDeep stack => p.Valid stack ∧ stack.length = limit
  | .exhausted => ∀ stack, p.Valid stack → p.goal stack = false

theorem Problem.Inv.settles {s : State} {outcome : Outcome} (inv : p.Inv limit s)
    (left : p.step limit s = .inr outcome) : p.Settles limit outcome := by
  have stepped := p.stepped limit s
  rw [left] at stepped
  cases stepped with
  | found reached => exact ⟨inv.valid, reached, inv.room⟩
  | @tooDeep choice missed taken deep =>
      obtain ⟨under, allowed, -⟩ := candidate_eq_some taken
      refine ⟨⟨Nat.lt_of_lt_of_le under inv.below, allowed, inv.valid⟩, ?_⟩
      exact Nat.le_antisymm inv.room deep
  | exhausted missed stuck empty =>
      rcases s with ⟨_, below⟩
      cases empty
      intro stack valid
      have dead := inv.explored.dead_stack missed stuck
      rw [← List.append_nil stack] at valid ⊢
      exact dead stack valid

/-- The search comes to an end, and its end means what it says. -/
theorem Problem.search_total (p : Problem) {limit : Nat} (room : 0 < limit) :
    ∃ enough outcome, p.Settles limit outcome ∧
      ∀ fuel, enough ≤ fuel → iterate (p.step limit) fuel p.start = some outcome :=
  iterate_total (measure (p.left limit)).wf (fun _ _ inv continues => inv.step continues)
    (fun _ _ inv left => inv.settles left) (p.inv_start room)

end Srcpd.Search
