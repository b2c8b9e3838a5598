import Mathlib.Tactic

/-!
# Tables of timers

A timer is stored in the first free slot of a table, and the slots that are due are
cleared in the order of the table.  `Holds` compares the table with the timers that are
still to come, in any order; `Holds.store` and `Holds.expire` say that nothing is lost
and that nothing expires twice.
-/

namespace Srcpd.Timer

universe u v

variable {α : Type u} {β : Type v}

/-- The slots that are due, and the table without them. -/
def expire (due : β → Bool) (clear : β → β) : List β → List β × List β
  | [] => ([], [])
  | slot :: slots =>
      let rest := expire due clear slots
      if due slot then (slot :: rest.1, clear slot :: rest.2) else (rest.1, slot :: rest.2)

/-- The table with an entry in its first free slot. -/
def store (free : β → Bool) (entry : β) : List β → Option (List β)
  | [] => none
  | slot :: slots =>
      if free slot then some (entry :: slots) else (store free entry slots).map (slot :: ·)

/-- The slots of a table that are not free are those of the timers. -/
inductive Holds (free : β → Bool) (slotOf : α → β) : List β → Multiset α → Prop
  | nil : Holds free slotOf [] 0
  | free {slot : β} {slots : List β} {timers : Multiset α} :
      free slot = true → Holds free slotOf slots timers → Holds free slotOf (slot :: slots) timers
  | used (timer : α) {slots : List β} {timers : Multiset α} :
      Holds free slotOf slots timers → Holds free slotOf (slotOf timer :: slots) (timer ::ₘ timers)

variable {free due : β → Bool} {clear : β → β} {slotOf : α → β} {slots : List β}
  {timers : Multiset α}

theorem Holds.of_all_free (all : ∀ slot ∈ slots, free slot = true) :
    Holds free slotOf slots 0 := by
  induction slots with
  | nil => exact .nil
  | cons slot slots ih =>
      rcases List.forall_mem_cons.mp all with ⟨first, others⟩
      exact .free first (ih others)

theorem store_eq_none_iff {entry : β} :
    store free entry slots = none ↔ ∀ slot ∈ slots, free slot = false := by
  induction slots with
  | nil => simp [store]
  | cons slot slots ih =>
      rw [store, List.forall_mem_cons, ← ih]
      cases unused : free slot with
      | true => simp
      | false => simp

theorem Holds.store {timer : α} {stored : List β} (used : ∀ timer, free (slotOf timer) = false)
    (holds : Holds free slotOf slots timers)
    (found : store free (slotOf timer) slots = some stored) :
    Holds free slotOf stored (timer ::ₘ timers) := by
  induction holds generalizing stored with
  | nil => cases found
  | free unused rest ih =>
      rw [Timer.store, if_pos unused] at found
      cases found
      exact .used timer rest
  | used other rest ih =>
      rw [Timer.store, if_neg (by rw [used other]; decide)] at found
      obtain ⟨behind, inserted, rfl⟩ := Option.map_eq_some_iff.mp found
      rw [Multiset.cons_swap]
      exact .used other (ih inserted)

/-- The timers that are due leave the table, each once. -/
theorem Holds.expire (clears : ∀ slot, free (clear slot) = true)
    (idle : ∀ slot, free slot = true → due slot = false)
    (holds : Holds free slotOf slots timers) :
    ∃ (served : List α) (rest : Multiset α), timers = served + rest ∧
      (expire due clear slots).1 = served.map slotOf ∧
      Holds free slotOf (expire due clear slots).2 rest ∧
      (∀ timer ∈ served, due (slotOf timer) = true) ∧
      ∀ timer ∈ rest, due (slotOf timer) = false := by
  induction holds with
  | nil => exact ⟨[], 0, rfl, rfl, .nil, by simp, by simp⟩
  | @free slot slots timers unused rest ih =>
      obtain ⟨served, waiting, split, first, second, ready, early⟩ := ih
      refine ⟨served, waiting, split, ?_, ?_, ready, early⟩
      · rw [Timer.expire, if_neg (by rw [idle slot unused]; decide)]
        exact first
      · rw [Timer.expire, if_neg (by rw [idle slot unused]; decide)]
        exact .free unused second
  | @used timer slots timers rest ih =>
      obtain ⟨served, waiting, split, first, second, ready, early⟩ := ih
      cases ripe : due (slotOf timer) with
      | true =>
          refine ⟨timer :: served, waiting, ?_, ?_, ?_, ?_, early⟩
          · rw [split, ← Multiset.cons_coe, Multiset.cons_add]
          · rw [Timer.expire, if_pos ripe]
            exact congrArg (slotOf timer :: ·) first
          · rw [Timer.expire, if_pos ripe]
            exact .free (clears _) second
          · exact List.forall_mem_cons.mpr ⟨ripe, ready⟩
      | false =>
          refine ⟨served, timer ::ₘ waiting, ?_, ?_, ?_, ready, ?_⟩
          · rw [split, Multiset.add_cons]
          · rw [Timer.expire, if_neg (by rw [ripe]; decide)]
            exact first
          · rw [Timer.expire, if_neg (by rw [ripe]; decide)]
            exact .used timer second
          · rw [Multiset.forall_mem_cons]
            exact ⟨ripe, early⟩

end Srcpd.Timer
