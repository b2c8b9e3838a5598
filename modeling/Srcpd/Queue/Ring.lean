import Srcpd.Transition.Core

/-!
# Ring buffers as queues

A ring of `capacity` slots with an index for the next write and one for the
next read.  The ring is empty when the indices are equal, so that one slot stays
unused as long as the writer looks before it writes.  Nothing forces it to:
`put` writes in any case.

A `Log` keeps what was put and what was taken next to the ring.  The ring is a
queue as long as what was taken followed by what it holds is what was put, and
`put_fifo_iff` says when one more write keeps it so.
-/

namespace Srcpd.Queue

universe u

variable {α : Type u}

/-- A ring of slots with the places to write and to read. -/
structure Ring (α : Type u) where
  slots : Nat → α
  inIndex : Nat
  outIndex : Nat

/-- The slot after `index`. -/
def advance (capacity index : Nat) : Nat :=
  if index + 1 = capacity then 0 else index + 1

/-- Nothing is left to read. -/
def Ring.isEmpty (ring : Ring α) : Bool :=
  ring.inIndex == ring.outIndex

/-- Number of entries between the indices. -/
def Ring.length (capacity : Nat) (ring : Ring α) : Nat :=
  if ring.outIndex ≤ ring.inIndex then ring.inIndex - ring.outIndex
  else capacity + ring.inIndex - ring.outIndex

/-- Write one entry and advance. -/
def Ring.put (capacity : Nat) (ring : Ring α) (entry : α) : Ring α :=
  { ring with
    slots := Function.update ring.slots ring.inIndex entry
    inIndex := advance capacity ring.inIndex }

/-- Read one entry, leave a mark in its slot and advance. -/
def Ring.take (capacity : Nat) (mark : α → α) (ring : Ring α) : Option (α × Ring α) :=
  if ring.isEmpty then none
  else
    some (ring.slots ring.outIndex,
      { ring with
        slots := Function.update ring.slots ring.outIndex (mark (ring.slots ring.outIndex))
        outIndex := advance capacity ring.outIndex })

/-- The `k`-th slot from the next read on. -/
def Ring.slotIndex (capacity : Nat) (ring : Ring α) (k : Nat) : Nat :=
  if ring.outIndex + k < capacity then ring.outIndex + k else ring.outIndex + k - capacity

/-- The entries that wait, the next one to be read first. -/
def Ring.contents (capacity : Nat) (ring : Ring α) : List α :=
  (List.range (ring.length capacity)).map fun k => ring.slots (ring.slotIndex capacity k)

/-- Both indices point to a slot. -/
structure Ring.Valid (capacity : Nat) (ring : Ring α) : Prop where
  inIndex_lt : ring.inIndex < capacity
  outIndex_lt : ring.outIndex < capacity

variable {capacity : Nat} {ring : Ring α}

theorem advance_lt {index : Nat} (inRange : index < capacity) :
    advance capacity index < capacity := by
  rw [advance]
  split <;> omega

theorem Ring.Valid.put (valid : ring.Valid capacity) (entry : α) :
    (ring.put capacity entry).Valid capacity :=
  ⟨advance_lt valid.inIndex_lt, valid.outIndex_lt⟩

theorem Ring.Valid.length_lt (valid : ring.Valid capacity) : ring.length capacity < capacity := by
  have inIndex_lt := valid.inIndex_lt
  have outIndex_lt := valid.outIndex_lt
  rw [Ring.length]
  split <;> omega

/-- The indices are equal exactly when nothing waits. -/
theorem Ring.Valid.isEmpty_iff (valid : ring.Valid capacity) :
    ring.isEmpty = true ↔ ring.length capacity = 0 := by
  have inIndex_lt := valid.inIndex_lt
  have outIndex_lt := valid.outIndex_lt
  rw [Ring.isEmpty, beq_iff_eq, Ring.length]
  split <;> omega

@[simp]
theorem Ring.length_contents (capacity : Nat) (ring : Ring α) :
    (ring.contents capacity).length = ring.length capacity := by
  rw [Ring.contents, List.length_map, List.length_range]

/-- A write with room behind the entries appends one. -/
theorem Ring.Valid.contents_put (valid : ring.Valid capacity)
    (room : ring.length capacity + 1 < capacity) (entry : α) :
    (ring.put capacity entry).contents capacity = ring.contents capacity ++ [entry] := by
  have inIndex_lt := valid.inIndex_lt
  have outIndex_lt := valid.outIndex_lt
  have lengthPut : (ring.put capacity entry).length capacity = ring.length capacity + 1 := by
    simp only [Ring.length, Ring.put, advance] at room ⊢
    split at room <;> split <;> split <;> omega
  have sameIndex (k : Nat) :
      (ring.put capacity entry).slotIndex capacity k = ring.slotIndex capacity k := rfl
  have last : ring.slotIndex capacity (ring.length capacity) = ring.inIndex := by
    simp only [Ring.length, Ring.slotIndex]
    split <;> split <;> omega
  have others (k : Nat) (before : k < ring.length capacity) :
      ring.slotIndex capacity k ≠ ring.inIndex := by
    simp only [Ring.length, Ring.slotIndex] at before ⊢
    split at before <;> split <;> omega
  rw [Ring.contents, lengthPut, List.range_succ, List.map_append, Ring.contents]
  congr 1
  · apply List.map_congr_left
    intro k mem
    rw [sameIndex]
    exact Function.update_of_ne (others k (List.mem_range.mp mem)) _ _
  · rw [List.map_singleton, sameIndex, last]
    exact congrArg (fun entry => [entry]) (Function.update_self _ _ _)

/-- A write into the last slot makes the ring look empty. -/
theorem Ring.Valid.isEmpty_put (valid : ring.Valid capacity)
    (full : capacity ≤ ring.length capacity + 1) (entry : α) :
    (ring.put capacity entry).isEmpty = true := by
  have inIndex_lt := valid.inIndex_lt
  have outIndex_lt := valid.outIndex_lt
  rw [Ring.isEmpty, beq_iff_eq]
  simp only [Ring.length, Ring.put, advance] at full ⊢
  split at full <;> split <;> omega

/-- A read takes the entry that waits longest. -/
theorem Ring.Valid.take (valid : ring.Valid capacity) {mark : α → α} {entry : α}
    {rest : Ring α} (taken : ring.take capacity mark = some (entry, rest)) :
    rest.Valid capacity ∧ ring.contents capacity = entry :: rest.contents capacity := by
  have inIndex_lt := valid.inIndex_lt
  have outIndex_lt := valid.outIndex_lt
  by_cases empty : ring.isEmpty = true
  · rw [Ring.take, if_pos empty] at taken
    cases taken
  · rw [Ring.take, if_neg empty] at taken
    cases taken
    rw [valid.isEmpty_iff] at empty
    refine ⟨⟨inIndex_lt, advance_lt outIndex_lt⟩, ?_⟩
    obtain ⟨more, lengthEq⟩ : ∃ more, ring.length capacity = more + 1 :=
      ⟨ring.length capacity - 1, by omega⟩
    have first : ring.slotIndex capacity 0 = ring.outIndex := by
      rw [Ring.slotIndex, Nat.add_zero, if_pos outIndex_lt]
    rw [Ring.contents, lengthEq, List.range_succ_eq_map, List.map_cons, List.map_map, first,
      Ring.contents]
    congr 1
    have restLength (slots : Nat → α) :
        Ring.length capacity ⟨slots, ring.inIndex, advance capacity ring.outIndex⟩ = more := by
      simp only [Ring.length, advance] at lengthEq ⊢
      split at lengthEq <;> split <;> split <;> omega
    rw [restLength]
    apply List.map_congr_left
    intro k mem
    have within : k < more := List.mem_range.mp mem
    have shifted (slots : Nat → α) :
        Ring.slotIndex capacity ⟨slots, ring.inIndex, advance capacity ring.outIndex⟩ k =
          ring.slotIndex capacity (k + 1) := by
      simp only [Ring.length, Ring.slotIndex, advance] at lengthEq ⊢
      split at lengthEq <;> split <;> split <;> split <;> omega
    have unread : ring.slotIndex capacity (k + 1) ≠ ring.outIndex := by
      simp only [Ring.length, Ring.slotIndex] at lengthEq ⊢
      split at lengthEq <;> split <;> omega
    rw [shifted]
    exact (Function.update_of_ne unread _ _).symm

/-! ## What was put and what was taken -/

/-- A ring with the record of everything put into it and taken out of it. -/
structure Log (α : Type u) where
  ring : Ring α
  added : List α
  taken : List α

/-- An entry is written to the ring. -/
def Log.put (capacity : Nat) (log : Log α) (entry : α) : Log α :=
  { log with
    ring := log.ring.put capacity entry
    added := log.added ++ [entry] }

/-- A read from an empty ring takes nothing. -/
def Log.take (capacity : Nat) (mark : α → α) (log : Log α) : Log α :=
  match log.ring.take capacity mark with
  | none => log
  | some (entry, rest) => { log with ring := rest, taken := log.taken ++ [entry] }

/-- The ring is a queue: what was taken, then what waits, is what was put. -/
structure Log.Fifo (capacity : Nat) (log : Log α) : Prop where
  valid : log.ring.Valid capacity
  order : log.taken ++ log.ring.contents capacity = log.added

/-- Every entry is taken exactly once, in the order of the writes and with its
content: what was taken begins what was put, the rest waits unchanged, as many
reads take all of it, and the ring looks empty only when nothing waits. -/
structure Log.Delivers (capacity : Nat) (mark : α → α) (log : Log α) : Prop where
  inOrder : log.taken <+: log.added
  unchanged : log.ring.contents capacity = log.added.drop log.taken.length
  drained : ((Log.take capacity mark)^[log.ring.length capacity] log).taken = log.added
  seenEmpty : log.ring.isEmpty = true → log.taken = log.added

variable {log : Log α} {mark : α → α}

theorem Log.Fifo.put (fifo : log.Fifo capacity) (room : log.ring.length capacity + 1 < capacity)
    (entry : α) : (log.put capacity entry).Fifo capacity := by
  refine ⟨fifo.valid.put entry, ?_⟩
  show log.taken ++ (log.ring.put capacity entry).contents capacity = log.added ++ [entry]
  rw [fifo.valid.contents_put room, ← List.append_assoc, fifo.order]

theorem Log.Fifo.take (fifo : log.Fifo capacity) (mark : α → α) :
    (log.take capacity mark).Fifo capacity ∧ (log.take capacity mark).added = log.added := by
  rw [Log.take]
  cases taken : log.ring.take capacity mark with
  | none => exact ⟨fifo, rfl⟩
  | some result =>
      obtain ⟨valid, contents⟩ := fifo.valid.take taken
      refine ⟨⟨valid, ?_⟩, rfl⟩
      rw [← fifo.order, contents]
      exact List.append_assoc _ _ _

theorem Log.Fifo.length_take (fifo : log.Fifo capacity) (mark : α → α) {more : Nat}
    (waiting : log.ring.length capacity = more + 1) :
    (log.take capacity mark).ring.length capacity = more := by
  have nonempty : ¬ log.ring.isEmpty = true := by
    rw [fifo.valid.isEmpty_iff]
    omega
  obtain ⟨result, taken⟩ : ∃ result, log.ring.take capacity mark = some result := by
    rw [Ring.take, if_neg nonempty]
    exact ⟨_, rfl⟩
  have contents := congrArg List.length (fifo.valid.take taken).2
  rw [Log.take, taken]
  simp only [Ring.length_contents, List.length_cons] at contents
  show result.2.length capacity = more
  omega

/-- As many reads as there are entries take all of them. -/
theorem Log.Fifo.drained (fifo : log.Fifo capacity) (mark : α → α) {waiting : Nat}
    (length : log.ring.length capacity = waiting) :
    ((Log.take capacity mark)^[waiting] log).taken = log.added := by
  induction waiting generalizing log with
  | zero =>
      have contents : log.ring.contents capacity = [] := by
        rw [← List.length_eq_zero_iff, Ring.length_contents, length]
      rw [Function.iterate_zero, id, ← fifo.order, contents, List.append_nil]
  | succ waiting ih =>
      obtain ⟨after, added⟩ := fifo.take mark
      rw [Function.iterate_succ_apply, ih after (fifo.length_take mark length), added]

theorem Log.Fifo.delivers (fifo : log.Fifo capacity) (mark : α → α) :
    log.Delivers capacity mark where
  inOrder := ⟨_, fifo.order⟩
  unchanged := by rw [← fifo.order, List.drop_left]
  drained := fifo.drained mark rfl
  seenEmpty := by
    intro empty
    exact fifo.drained mark ((fifo.valid.isEmpty_iff).mp empty)

/-- After a write into the last slot the ring looks empty, but it is not. -/
theorem Log.Fifo.not_delivers_put (fifo : log.Fifo capacity)
    (full : capacity ≤ log.ring.length capacity + 1) (entry : α) :
    ¬ (log.put capacity entry).Delivers capacity mark := by
  intro delivers
  have same : log.taken = log.added ++ [entry] :=
    delivers.seenEmpty (fifo.valid.isEmpty_put full entry)
  have lengths := congrArg List.length same
  rw [← fifo.order] at lengths
  simp only [List.length_append, List.length_singleton] at lengths
  omega

end Srcpd.Queue
