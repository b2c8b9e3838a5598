import Mathlib.Tactic

/-!
# Sweeps over a table

A loop over keys that applies one operation to the entry of each key and collects what
the operations write.  When every key is met once, the entries do not depend on each
other, and a reader of what is written can follow one entry alone.
-/

namespace Srcpd.Transition

universe u v w x

variable {κ : Type u} {α : Type v} {μ : Type w} {β : Type x} [DecidableEq κ]

/-- An operation at the entries of a table, one after the other. -/
def sweep (operation : κ → α → α × List μ) : List κ → (κ → α) → (κ → α) × List μ
  | [], table => (table, [])
  | key :: keys, table =>
      let result := operation key (table key)
      let rest := sweep operation keys (Function.update table key result.1)
      (rest.1, result.2 ++ rest.2)

variable {operation : κ → α → α × List μ} {keys : List κ} {table : κ → α} {key place : κ}

theorem sweep_cons : sweep operation (key :: keys) table =
    ((sweep operation keys (Function.update table key (operation key (table key)).1)).1,
      (operation key (table key)).2 ++
        (sweep operation keys (Function.update table key (operation key (table key)).1)).2) :=
  rfl

theorem sweep_of_not_mem (absent : place ∉ keys) : (sweep operation keys table).1 place =
    table place := by
  induction keys generalizing table with
  | nil => rfl
  | cons key keys ih =>
      rw [sweep_cons, ih (List.not_mem_of_not_mem_cons absent)]
      exact Function.update_of_ne (List.ne_of_not_mem_cons absent) _ _

theorem sweep_of_mem (distinct : keys.Nodup) (present : place ∈ keys) :
    (sweep operation keys table).1 place = (operation place (table place)).1 := by
  induction keys generalizing table with
  | nil => cases present
  | cons key keys ih =>
      rw [sweep_cons]
      rcases List.nodup_cons.mp distinct with ⟨once, distinct⟩
      rcases List.mem_cons.mp present with rfl | behind
      · rw [sweep_of_not_mem once, Function.update_self]
      · have other : place ≠ key := by
          rintro rfl
          exact once behind
        rw [ih distinct behind, Function.update_of_ne other]

/-- Every entry changes by itself. -/
theorem sweep_table [Decidable (place ∈ keys)] (distinct : keys.Nodup) :
    (sweep operation keys table).1 place =
      if place ∈ keys then (operation place (table place)).1 else table place := by
  split
  · rename_i present
    exact sweep_of_mem distinct present
  · rename_i absent
    exact sweep_of_not_mem absent

section Reader

variable {read : β → μ → β} {value : β}

theorem sweep_reads_of_not_mem (absent : place ∉ keys)
    (others : ∀ key, key ≠ place →
      ∀ state value, (operation key state).2.foldl read value = value) :
    (sweep operation keys table).2.foldl read value = value := by
  induction keys generalizing table with
  | nil => rfl
  | cons key keys ih =>
      rw [sweep_cons, List.foldl_append, others key (List.ne_of_not_mem_cons absent).symm]
      exact ih (List.not_mem_of_not_mem_cons absent)

/-- A reader that only the operation on one entry concerns follows this entry. -/
theorem sweep_reads (view : α → β) (distinct : keys.Nodup)
    (own : (operation place (table place)).2.foldl read (view (table place)) =
      view (operation place (table place)).1)
    (others : ∀ key, key ≠ place →
      ∀ state value, (operation key state).2.foldl read value = value) :
    (sweep operation keys table).2.foldl read (view (table place)) =
      view ((sweep operation keys table).1 place) := by
  induction keys generalizing table with
  | nil => rfl
  | cons key keys ih =>
      rw [sweep_cons, List.foldl_append]
      rcases List.nodup_cons.mp distinct with ⟨once, distinct⟩
      by_cases same : place = key
      · subst same
        rw [own, sweep_reads_of_not_mem once others, sweep_of_not_mem once, Function.update_self]
      · have kept : Function.update table key (operation key (table key)).1 place = table place :=
          Function.update_of_ne same _ _
        have rest := @ih (Function.update table key (operation key (table key)).1) distinct
          (by rw [kept]; exact own)
        rw [kept] at rest
        rw [others key (Ne.symm same), rest]

end Reader

end Srcpd.Transition
