import Srcpd.Ddl.GlRuns

/-!
# Commands of sessions arrive

Without further commands the thread of the bus empties its queue with at most three steps for
each command, and then the refresh thread brings the last one to its decoder (`run_delivers`).
-/

namespace Srcpd.Ddl.GlRuns

open Srcpd.Command Srcpd.Pool Srcpd.Queue Srcpd.Transition
open Srcpd.Ddl.RefreshThread (Config Input)

/-! ## The thread of the bus -/

/-- The steps of the bus thread with a locomotive command. -/
def Action.OfBus : Action → Prop
  | .dequeue => True
  | .sendGl _ _ _ => True
  | .queueAdd => True
  | _ => False

/-- The commands that are not composed yet. -/
def State.left (state : State) : List GlState :=
  state.dequeued.toList ++ state.queue.log.ring.contents glQueuelen

/-- The steps that are left for the thread of the bus, at most. -/
def State.busSteps (state : State) : Nat :=
  3 * (state.queue.log.ring.contents glQueuelen).length + 2 * state.dequeued.toList.length +
    state.track.adding.length

/-- The packets that wait or are still to be added, at most. -/
def State.packets (state : State) : Nat :=
  (state.track.bus.ddl.queue.ring.contents qsize).length + state.track.adding.length +
    state.left.length

/-- What a step of the thread of the bus brings. -/
structure Nearer (config : Config) (address : Int) (state next : State) : Prop where
  inv : Inv config address next
  handled : ∀ gltmp ∈ next.left, Handled gltmp
  packets : next.packets ≤ state.packets
  added : next.queue.log.added = state.queue.log.added
  power : next.track.bus.powerState = state.track.bus.powerState

section Steps

variable {config : Config} {address : Int} {state : State}

theorem queueAdd_nearer (inv : Inv config address state)
    (silent : TrackRuns.Silent config address) (range : 1 ≤ address ∧ address ≤ 255)
    (handled : ∀ gltmp ∈ state.left, Handled gltmp) (room : state.packets < qsize)
    {data : QData} {rest : List QData} (adding : state.track.adding = data :: rest) :
    ∃ next, step config state .queueAdd = some next ∧ Nearer config address state next ∧
      next.busSteps < state.busSteps := by
  have place : TrackRuns.HasRoom state.track := by
    rw [State.packets, adding, List.length_cons, Ring.length_contents] at room
    rw [TrackRuns.HasRoom]
    omega
  have taken : step config state .queueAdd = some { state with track :=
      { state.track with
        bus := { state.track.bus with
          ddl := { state.track.bus.ddl with queue := state.track.bus.ddl.queue.put qsize data } }
        adding := rest } } := by
    rw [step, TrackRuns.step, adding]
    rfl
  refine ⟨_, taken, ⟨inv.queueAdd silent range place taken, handled, ?_, rfl, rfl⟩, ?_⟩
  · have contents := TrackRuns.contents_add inv.track.served data place
    rw [State.packets, State.packets, adding, List.length_cons]
    dsimp only
    rw [contents, List.length_append, List.length_singleton]
    show (state.track.bus.ddl.queue.ring.contents qsize).length + 1 + rest.length +
      state.left.length ≤ _
    omega
  · rw [State.busSteps, State.busSteps, adding, List.length_cons]
    exact Nat.lt_succ_self _

theorem sendGl_nearer (inv : Inv config address state)
    (silent : TrackRuns.Silent config address) (range : 1 ≤ address ∧ address ≤ 255)
    (handled : ∀ gltmp ∈ state.left, Handled gltmp) {gltmp : GlState}
    (held : state.dequeued = some gltmp) :
    ∃ next, step config state (.sendGl 0 none .zero) = some next ∧
      Nearer config address state next ∧ next.busSteps < state.busSteps := by
  have alone := inv.alone gltmp held
  have mine : Handled gltmp := handled gltmp (by
    rw [State.left, held]
    exact List.mem_cons_self)
  obtain ⟨next, taken⟩ : ∃ next, step config state (.sendGl 0 none .zero) = some next := by
    rcases mine.sendGl 0 none .zero ⟨state.track.bus.ddl, state.queue.tables⟩ with ⟨tables, sent⟩
    rw [step, held, Option.bind_some, sent, Option.map_some]
    exact ⟨_, rfl⟩
  have proper : Proper address state (.sendGl 0 none .zero) := by
    intro other same
    rw [held] at same
    cases same
    exact mine
  rcases sendGl_track alone held mine taken with ⟨log, free, sent⟩
  have one : next.track.adding.length ≤ 1 ∧
      next.track.bus.ddl.queue = state.track.bus.ddl.queue ∧
        next.track.bus.powerState = state.track.bus.powerState := by
    by_cases type2 : IsType2 gltmp
    · rw [if_pos type2] at sent
      rcases (mine.inRange type2).stores state.track.bus.ddl with ⟨entry, data, stores⟩
      rw [TrackRuns.step, if_pos alone] at sent
      rw [← Option.some.inj sent]
      dsimp only
      rw [stores.added, List.drop_left]
      exact ⟨le_rfl, rfl, rfl⟩
    · rw [if_neg type2] at sent
      rw [sent, alone]
      exact ⟨Nat.zero_le 1, rfl, rfl⟩
  have waiting : next.left.length + 1 = state.left.length := by
    rw [State.left, State.left, held, free, log]
    simp
  refine ⟨next, taken, ⟨inv.sendGl silent range proper taken, ?_, ?_, by rw [log], one.2.2⟩, ?_⟩
  · intro other mem
    refine handled other ?_
    rw [State.left, free, log] at mem
    rw [State.left]
    exact List.mem_append_right _ mem
  · rw [State.packets, State.packets, one.2.1, alone, List.length_nil]
    have most := one.1
    omega
  · rw [State.busSteps, State.busSteps, log, free, held, alone]
    have most := one.1
    simp only [Option.toList_none, Option.toList_some, List.length_nil, List.length_singleton]
    omega

theorem dequeue_nearer (inv : Inv config address state)
    (handled : ∀ gltmp ∈ state.left, Handled gltmp) (free : state.dequeued = none)
    (alone : state.track.adding = [])
    (waits : state.queue.log.ring.contents glQueuelen ≠ []) :
    ∃ next, step config state .dequeue = some next ∧ Nearer config address state next ∧
      next.busSteps < state.busSteps := by
  obtain ⟨⟨gltmp, rest⟩, got⟩ : ∃ result,
      state.queue.log.ring.take glQueuelen id = some result := by
    have some : ¬ state.queue.log.ring.isEmpty = true := by
      rw [inv.fifo.valid.isEmpty_iff, ← Ring.length_contents, List.length_eq_zero_iff]
      exact waits
    rw [Ring.take, if_neg some]
    exact ⟨_, rfl⟩
  have contents := (inv.fifo.valid.take got).2
  have log : state.queue.log.take glQueuelen id =
      { state.queue.log with ring := rest, taken := state.queue.log.taken ++ [gltmp] } := by
    rw [Log.take, got]
  have taken : step config state .dequeue = some { state with
      queue := { state.queue with log := state.queue.log.take glQueuelen id }
      dequeued := some gltmp } := by
    rw [step, if_pos ⟨free, alone⟩, got]
    rfl
  have same : State.left { state with
      queue := { state.queue with log := state.queue.log.take glQueuelen id }
      dequeued := some gltmp } = state.left := by
    rw [State.left, State.left, free, log, contents]
    rfl
  refine ⟨_, taken, ⟨inv.dequeue taken, by rw [same]; exact handled, ?_, by rw [log], rfl⟩, ?_⟩
  · rw [State.packets, State.packets, same]
  · rw [State.busSteps, State.busSteps, free, alone, contents, log]
    simp only [Option.toList_none, Option.toList_some, List.length_nil, List.length_cons]
    omega

theorem bus_empties (silent : TrackRuns.Silent config address)
    (range : 1 ≤ address ∧ address ≤ 255) (steps : Nat) (inv : Inv config address state)
    (handled : ∀ gltmp ∈ state.left, Handled gltmp) (room : state.packets < qsize)
    (most : state.busSteps ≤ steps) :
    ∃ actions next, actions.length ≤ steps ∧ (∀ action ∈ actions, Action.OfBus action) ∧
      run (step config) state actions = some next ∧ Nearer config address state next ∧
        next.busSteps = 0 := by
  induction steps generalizing state with
  | zero =>
      exact ⟨[], state, le_rfl, fun _ mem => absurd mem List.not_mem_nil, rfl,
        ⟨inv, handled, le_rfl, rfl, rfl⟩, Nat.le_zero.mp most⟩
  | succ steps ih =>
      have one : state.busSteps = 0 ∨ ∃ action next, Action.OfBus action ∧
          step config state action = some next ∧ Nearer config address state next ∧
            next.busSteps < state.busSteps := by
        cases adding : state.track.adding with
        | cons data rest =>
            exact Or.inr ⟨.queueAdd, (queueAdd_nearer inv silent range handled room adding).imp
              fun _ near => ⟨trivial, near⟩⟩
        | nil =>
            cases held : state.dequeued with
            | some gltmp =>
                exact Or.inr ⟨.sendGl 0 none .zero,
                  (sendGl_nearer inv silent range handled held).imp fun _ near => ⟨trivial, near⟩⟩
            | none =>
                by_cases waits : state.queue.log.ring.contents glQueuelen = []
                · left
                  rw [State.busSteps, adding, held, waits]
                  rfl
                · exact Or.inr ⟨.dequeue,
                    (dequeue_nearer inv handled held adding waits).imp
                      fun _ near => ⟨trivial, near⟩⟩
      rcases one with idle | ⟨action, next, ofBus, taken, near, less⟩
      · exact ⟨[], state, Nat.zero_le _, fun _ mem => absurd mem List.not_mem_nil, rfl,
          ⟨inv, handled, le_rfl, rfl, rfl⟩, idle⟩
      · rcases ih near.inv near.handled (lt_of_le_of_lt near.packets room) (by omega) with
          ⟨actions, last, length, all, executed, near', idle⟩
        refine ⟨action :: actions, last, Nat.succ_le_succ length, ?_,
          run_cons_eq_some_iff.mpr ⟨next, taken, executed⟩,
          ⟨near'.inv, near'.handled, near'.packets.trans near.packets,
            near'.added.trans near.added, near'.power.trans near.power⟩, idle⟩
        intro other mem
        rcases List.mem_cons.mp mem with rfl | mem
        · exact ofBus
        · exact all other mem

/-- Steps of the refresh thread are steps of the track. -/
theorem run_threadRun {track : TrackRuns.State} {inputs : List Input}
    (executed : run (TrackRuns.step config) state.track (TrackRuns.threadRun inputs) =
      some track) :
    run (step config) state (inputs.map fun input => .bus (.thread input)) =
      some { state with track := track } := by
  induction inputs generalizing state with
  | nil =>
      cases executed
      rfl
  | cons input inputs ih =>
      obtain ⟨middle, taken, rest⟩ := run_cons_eq_some_iff.mp executed
      refine run_cons_eq_some_iff.mpr ⟨{ state with track := middle }, ?_, ih rest⟩
      rw [step, taken]
      rfl

end Steps

/-! ## Runs -/

/-- From every state reached in which the power is on, the commands that are left can be composed
and their packets find room: the thread of the bus alone, with at most three steps for each
command, and then the refresh thread alone, with nine steps for each packet and seventeen more on
lines that show no alarm, bring the last command that was answered OK to its decoder. -/
theorem run_delivers {config : Config} {address : Int}
    (silent : TrackRuns.Silent config address) (range : 1 ≤ address ∧ address ≤ 255)
    (slots : Nat → GlState) (tables : Gl) {ddl : DdlData} (fresh : TrackRuns.Fresh ddl)
    (autoPowerOn : Bool) (time : Timeval) {actions : List Action} {state : State}
    (proper : MeetsAlong (step config) (Proper address)
      (.start slots tables ddl autoPowerOn time) actions)
    (executed : run (step config) (.start slots tables ddl autoPowerOn time) actions = some state)
    (on : state.track.bus.powerState = true) (handled : ∀ gltmp ∈ state.left, Handled gltmp)
    (room : state.packets < qsize) :
    ∃ composed next, composed.length ≤ state.busSteps ∧
      (∀ action ∈ composed, Action.OfBus action) ∧
      run (step config) state composed = some next ∧
        ∀ inputs : List Input, (∀ input ∈ inputs, TrackRuns.Quiet config input) →
          9 * state.packets + 17 ≤ inputs.length →
            ∃ last, run (step config) next (inputs.map fun input => .bus (.thread input)) =
                some last ∧
              last.track.decoder config address =
                (lastUpdate GlState.id (state.queue.log.added.filter IsType2) address).map
                  told := by
  have inv := run_invariant_of_meets (step_inv silent range)
    (start_inv config address slots tables fresh autoPowerOn time) proper executed
  rcases bus_empties silent range state.busSteps inv handled room le_rfl with
    ⟨composed, next, length, ofBus, emptied, near, idle⟩
  refine ⟨composed, next, length, ofBus, emptied, fun inputs quiet enough => ?_⟩
  rw [State.busSteps] at idle
  have adding : next.track.adding = [] := List.length_eq_zero_iff.mp (by omega)
  have waiting : next.queue.log.ring.contents glQueuelen = [] :=
    List.length_eq_zero_iff.mp (by omega)
  have free : next.dequeued.toList = [] := List.length_eq_zero_iff.mp (by omega)
  have most := near.packets
  rw [State.packets] at most
  have place := TrackRuns.placeRank_le next.track.bus.place
  rcases TrackRuns.threadRun_drains silent range near.inv.track (near.power.trans on) quiet
    (Or.inr (by rw [TrackRuns.potential]; omega)) with
    ⟨track, drains, inv', drained, kept, calls⟩
  refine ⟨_, run_threadRun drains, ?_⟩
  have composedAll : sentCalls state.queue.log.added = next.track.calls := by
    have order := near.inv.order
    have all := near.inv.fifo.order
    rw [waiting, List.append_nil] at all
    rw [all, free, near.added] at order
    rw [order]
    exact List.append_nil _
  have last := inv'.last
  rw [TrackRuns.State.waiting, drained.1, drained.2, kept, adding, List.append_nil,
    List.append_nil, List.filterMap_nil, List.getLast?_nil, Option.none_or,
    TrackRuns.State.target, calls, ← composedAll, lastUpdate_sentCalls] at last
  exact last

/-- A command of a session behind the start, with nothing composed yet. -/
theorem run_delivers_half :
    let actions : List Action := [.session (.test 1 ⟨24, 1, 7, 14, 1⟩), .session (.append 1)]
    ∃ state, run (step RefreshThread.plainConfig)
        (.start (fun _ => .zero) type2Tables maerklinBus true ⟨0, 0⟩) actions = some state ∧
      ∃ composed next, composed.length ≤ state.busSteps ∧
        (∀ action ∈ composed, Action.OfBus action) ∧
        run (step RefreshThread.plainConfig) state composed = some next ∧
          ∀ inputs : List Input,
            (∀ input ∈ inputs, TrackRuns.Quiet RefreshThread.plainConfig input) →
            9 * state.packets + 17 ≤ inputs.length →
              ∃ last, run (step RefreshThread.plainConfig) next
                  (inputs.map fun input => .bus (.thread input)) = some last ∧
                last.track.decoder RefreshThread.plainConfig 24 =
                  (lastUpdate GlState.id (state.queue.log.added.filter IsType2) 24).map told := by
  intro actions
  have proper : MeetsAlong (step RefreshThread.plainConfig) (Proper 24)
      (.start (fun _ => .zero) type2Tables maerklinBus true ⟨0, 0⟩) actions := by
    intro next taken
    refine ⟨trivial, ?_⟩
    cases taken
    intro next taken
    exact ⟨rfl, trivial⟩
  refine ⟨_, rfl, run_delivers (TrackRuns.silent_plainConfig 24) (by decide) _ type2Tables
    TrackRuns.fresh_maerklinBus true ⟨0, 0⟩ proper rfl rfl ?_ (by decide)⟩
  intro gltmp mem
  cases List.mem_singleton.mp mem
  exact ⟨by decide, by decide, by decide, by decide⟩

end Srcpd.Ddl.GlRuns
