import Srcpd.Queue.Ring

/-!
# Several producers and one consumer

Producers look whether the ring is full before they lock it and append.  The
test and the append are two steps, and any number of other steps may lie between
them: tests and appends of other producers, reads by the consumer, changes of
the tables that the entries are filled from.

`holdsAlong_delivers_iff` is the exact condition for the ring to be a queue: no
append finds the ring full.
-/

namespace Srcpd.Queue

open Srcpd.Transition

universe u v w

/-- What distinguishes one queue: its size, which commands it takes, and how an
append fills the slot from the tables, the command and what the slot held. -/
structure Kind (α : Type u) (ε : Type v) (κ : Type w) where
  capacity : Nat
  accepts : ε → κ → Bool
  fill : ε → κ → α → α

variable {α : Type u} {ε : Type v} {κ : Type w}

/-- The ring with its record, the tables, and the command of every session that
found room and has not appended yet. -/
structure Producers (α : Type u) (ε : Type v) (κ : Type w) where
  log : Log α
  tables : ε
  tested : Nat → Option κ

/-- What the tables, the sessions and the consumer do, in any order. -/
inductive Action (ε : Type v) (κ : Type w)
  | change (tables : ε)
  | test (session : Nat) (command : κ)
  | append (session : Nat)
  | dequeue

/-- Maybe, one element in the queue cannot be used. -/
def Kind.isFull (kind : Kind α ε κ) (ring : Ring α) : Bool :=
  kind.capacity - 1 ≤ ring.length kind.capacity

/-- One step.  A session that finds the ring full, or whose command is not
accepted, is answered with an error and done; the append is the step after which
a session is answered OK. -/
def Kind.step (kind : Kind α ε κ) : Step (Producers α ε κ) (Action ε κ)
  | state, .change tables => some { state with tables := tables }
  | state, .test session command =>
      if (state.tested session).isSome then none
      else if !kind.accepts state.tables command || kind.isFull state.log.ring then some state
      else some { state with tested := Function.update state.tested session (some command) }
  | state, .append session =>
      (state.tested session).map fun command =>
        { state with
          log := state.log.put kind.capacity
            (kind.fill state.tables command (state.log.ring.slots state.log.ring.inIndex))
          tested := Function.update state.tested session none }
  | state, .dequeue => some { state with log := state.log.take kind.capacity id }

/-- A whole call without interference. -/
def Kind.enqueue (kind : Kind α ε κ) (tables : ε) (log : Log α) (command : κ) : Log α :=
  if !kind.accepts tables command || kind.isFull log.ring then log
  else log.put kind.capacity (kind.fill tables command (log.ring.slots log.ring.inIndex))

/-- No session is in a call, nothing was put yet. -/
def Producers.init (slots : Nat → α) (tables : ε) : Producers α ε κ :=
  { log := ⟨⟨slots, 0, 0⟩, [], []⟩
    tables := tables
    tested := fun _ => none }

/-- The append still finds room. -/
def Kind.FindsRoom (kind : Kind α ε κ) (state : Producers α ε κ) : Action ε κ → Prop
  | .append _ => kind.isFull state.log.ring = false
  | _ => True

/-- Every command answered OK is dequeued exactly once and in order. -/
def Kind.Delivers (kind : Kind α ε κ) (state : Producers α ε κ) : Prop :=
  state.log.Delivers kind.capacity id

variable {kind : Kind α ε κ} {state next : Producers α ε κ}

/-- The call of a session is its test and its append. -/
theorem Kind.reachable_enqueue {session : Nat} (idle : state.tested session = none)
    (command : κ) :
    Reachable kind.step state
      { state with log := kind.enqueue state.tables state.log command } := by
  by_cases refused :
      (!kind.accepts state.tables command || kind.isFull state.log.ring) = true
  · refine ⟨[.test session command], ?_⟩
    simp [run, Kind.step, Kind.enqueue, idle, refused]
  · refine ⟨[.test session command, .append session], ?_⟩
    have again : Function.update state.tested session none = state.tested := by
      rw [← idle, Function.update_eq_self]
    simp [run, Kind.step, Kind.enqueue, idle, refused, again]

/-- What a step does to the ring. -/
theorem Kind.step_log {action : Action ε κ} (taken : kind.step state action = some next) :
    next.log = state.log ∨ next.log = state.log.take kind.capacity id ∨
      ∃ session entry, action = .append session ∧
        next.log = state.log.put kind.capacity entry := by
  cases action with
  | change tables =>
      cases taken
      exact Or.inl rfl
  | test session command =>
      left
      rw [Kind.step] at taken
      split at taken
      · cases taken
      · split at taken <;> (cases taken; rfl)
  | append session =>
      obtain ⟨command, _, rfl⟩ := Option.map_eq_some_iff.mp taken
      exact Or.inr (Or.inr ⟨session, _, rfl, rfl⟩)
  | dequeue =>
      cases taken
      exact Or.inr (Or.inl rfl)

theorem Kind.isFull_eq_false (some_room : 0 < kind.capacity) (ring : Ring α) :
    kind.isFull ring = false ↔ ring.length kind.capacity + 1 < kind.capacity := by
  rw [Kind.isFull, decide_eq_false_iff_not]
  omega

theorem Kind.step_fifo (some_room : 0 < kind.capacity) {action : Action ε κ}
    (fifo : state.log.Fifo kind.capacity) (room : kind.FindsRoom state action)
    (taken : kind.step state action = some next) : next.log.Fifo kind.capacity := by
  rcases Kind.step_log taken with same | dequeued | ⟨session, entry, rfl, appended⟩
  · rw [same]
    exact fifo
  · rw [dequeued]
    exact (fifo.take id).1
  · rw [appended]
    exact fifo.put ((Kind.isFull_eq_false some_room _).mp room) entry

theorem Kind.not_delivers_of_full {action : Action ε κ} (some_room : 0 < kind.capacity)
    (fifo : state.log.Fifo kind.capacity) (full : ¬ kind.FindsRoom state action)
    (taken : kind.step state action = some next) : ¬ kind.Delivers next := by
  cases action with
  | append session =>
      obtain ⟨command, _, rfl⟩ := Option.map_eq_some_iff.mp taken
      rw [Kind.FindsRoom, Kind.isFull_eq_false some_room] at full
      exact fifo.not_delivers_put (Nat.le_of_not_lt full) _
  | _ => exact absurd trivial full

/-- In every interleaving of any number of producers with the consumer the
commands are delivered in every state reached if and only if every append still
finds room. -/
theorem Kind.holdsAlong_delivers_iff (some_room : 0 < kind.capacity) (slots : Nat → α)
    (tables : ε) (actions : List (Action ε κ)) :
    HoldsAlong kind.step kind.Delivers (Producers.init slots tables) actions ↔
      MeetsAlong kind.step kind.FindsRoom (Producers.init slots tables) actions := by
  have sound (state : Producers α ε κ) (fifo : state.log.Fifo kind.capacity) :
      kind.Delivers state := fifo.delivers id
  have initially : (Producers.init slots tables : Producers α ε κ).log.Fifo kind.capacity := by
    refine ⟨⟨some_room, some_room⟩, ?_⟩
    simp [Producers.init, Ring.contents, Ring.length]
  apply holdsAlong_iff_meetsAlong sound _ _ initially
  · intro state action next fifo room taken
    exact Kind.step_fifo some_room fifo room taken
  · intro state action next fifo full taken
    exact Kind.not_delivers_of_full some_room fifo full taken

end Srcpd.Queue
