import Srcpd.Ddl.Bus
import Srcpd.Ddl.TrackArrival

/-!
# From a session to the decoder

Sessions queue commands for the locomotives of a DDL bus, and the thread of the bus takes them
out one after the other and hands each to its composer.  Such a run is a run of `TrackRuns`, as
`sendGl_track` says of the step of the composer; so in every interleaving a decoder has heard the
last command that was answered OK as soon as nothing waits (`run_heard`).
-/

namespace Srcpd.Ddl.GlRuns

open Srcpd.Command Srcpd.Pool Srcpd.Queue Srcpd.Transition
open Srcpd.Ddl.RefreshThread (Config)

/-! ## What is sent for an entry of the queue -/

/-- The speed is in the range of the composers. -/
def IsType2 (gltmp : GlState) : Prop :=
  gltmp.protocol = 'M' ∧ 0 ≤ maerklinSpeed gltmp ∧ maerklinSpeed gltmp ≤ 15

instance : DecidablePred IsType2 := fun gltmp =>
  inferInstanceAs (Decidable (gltmp.protocol = 'M' ∧ 0 ≤ maerklinSpeed gltmp ∧
    maerklinSpeed gltmp ≤ 15))

/-- The call of the composer. -/
def type2Command (gltmp : GlState) : Type2Command where
  extended := 80 < gltmp.id
  address := gltmp.id
  direction := gltmp.direction
  speed := maerklinSpeed gltmp
  func := gltmp.funcs.getLsbD 0
  f := maerklinFuncs gltmp

/-- The calls of the composer that the entries of the queue lead to. -/
def sentCalls (entries : List GlState) : List Type2Command :=
  (entries.filter IsType2).map type2Command

/-- Maerklin locomotives are of the second version and have 14 speed steps; others are of a
protocol that no composer of the bus is for. -/
structure Handled (gltmp : GlState) : Prop where
  version : gltmp.protocol = 'M' → sentVersion gltmp = 2 ∧ gltmp.nFs = 14
  address : gltmp.protocol = 'M' → 0 ≤ gltmp.id ∧ gltmp.id ≤ 255 ∧ gltmp.id ≠ maerklinIdle
  speed : gltmp.protocol = 'M' → 0 ≤ maerklinSpeed gltmp
  dcc : gltmp.protocol ≠ 'N'

variable {gltmp : GlState}

theorem sentCalls_append (first second : List GlState) :
    sentCalls (first ++ second) = sentCalls first ++ sentCalls second := by
  rw [sentCalls, List.filter_append, List.map_append]
  rfl

theorem sentCalls_singleton (gltmp : GlState) :
    sentCalls [gltmp] = if IsType2 gltmp then [type2Command gltmp] else [] := by
  rw [sentCalls, List.filter_singleton]
  by_cases type2 : IsType2 gltmp <;> simp [type2]

theorem sendMaerklin_type2 (version : sentVersion gltmp = 2) (steps : gltmp.nFs = 14)
    (ddl : DdlData) (loco : GlState) :
    sendMaerklin ddl gltmp loco (sentVersion gltmp) = ((type2Command gltmp).process ddl).2 := by
  have other : ¬ (gltmp.nFs = 28 ∧ gltmp.id ≤ 80) := by
    rw [steps]
    exact fun both => absurd both.1 (by decide)
  rw [version, sendMaerklin, Type2Command.process]
  dsimp only
  rw [if_neg (by decide), if_pos rfl, if_pos steps, if_neg other]
  by_cases low : gltmp.id ≤ 80
  · have short : ¬ (type2Command gltmp).extended = true := by
      simp only [type2Command, decide_eq_true_eq]
      omega
    rw [if_pos low, if_neg short]
    rfl
  · have long : (type2Command gltmp).extended = true := by
      simp only [type2Command, decide_eq_true_eq]
      omega
    rw [if_neg low, if_pos long]
    rfl

/-- A speed above the range is refused. -/
theorem process_refused (ddl : DdlData) (above : 15 < maerklinSpeed gltmp) :
    ((type2Command gltmp).process ddl).2 = ddl := by
  rw [Type2Command.process_eq]
  rcases compMaerklinType2_pool (if (type2Command gltmp).extended then 255 else 80)
    (!(type2Command gltmp).extended) ddl (type2Command gltmp).address
    (type2Command gltmp).direction (type2Command gltmp).speed (type2Command gltmp).func
    (type2Command gltmp).f with ⟨accepted, -, -⟩ | ⟨-, refused⟩
  · have speed : (type2Command gltmp).speed = maerklinSpeed gltmp := rfl
    simp only [maerklin2Accepts, Bool.not_eq_true', Bool.or_eq_false_iff, decide_eq_false_iff_not,
      speed] at accepted
    rcases accepted with ⟨⟨-, low⟩, high⟩
    by_cases back : (type2Command gltmp).direction = 0
    · rw [if_pos back] at low
      omega
    · rw [if_neg back] at high
      omega
  · rw [refused]

theorem Handled.sendGl (handled : Handled gltmp) (fuel : Nat) (malloc : Option NmraPacket)
    (memory : GlState) (bus : DdlBus) :
    ∃ tables, sendGl fuel malloc memory bus gltmp =
      some ⟨if IsType2 gltmp then ((type2Command gltmp).process bus.ddl).2 else bus.ddl,
        tables⟩ := by
  refine ⟨(cacheSetGL bus.gl gltmp.id gltmp).2, ?_⟩
  rw [Ddl.sendGl]
  by_cases maerklin : gltmp.protocol = 'M'
  · rcases handled.version maerklin with ⟨version, steps⟩
    rw [if_pos maerklin, sendMaerklin_type2 version steps]
    by_cases type2 : IsType2 gltmp
    · rw [if_pos type2]
      rfl
    · have above : 15 < maerklinSpeed gltmp := by
        by_contra below
        exact type2 ⟨maerklin, handled.speed maerklin, by omega⟩
      rw [if_neg type2, process_refused bus.ddl above]
      rfl
  · have other : ¬ IsType2 gltmp := fun type2 => maerklin type2.1
    rw [if_neg maerklin, if_neg handled.dcc, if_neg other]
    rfl

theorem Handled.inRange (handled : Handled gltmp) (type2 : IsType2 gltmp) :
    TrackRuns.Type2Command.InRange (type2Command gltmp) where
  address := by
    rcases handled.address type2.1 with ⟨least, most, -⟩
    refine ⟨least, ?_⟩
    by_cases long : 80 < gltmp.id
    · simp [type2Command, long, most]
    · simp only [type2Command, long, decide_false]
      exact Int.not_lt.mp long
  speed := type2.2

/-! ## The bus -/

/-- The queue of commands, the one that the thread of the bus has taken and not composed yet,
and everything behind it. -/
structure State where
  queue : Producers GlState Gl GlCommand
  dequeued : Option GlState
  track : TrackRuns.State

/-- The steps of the sessions, of the bus thread with a command, and of the refresh. -/
inductive Action
  | session (action : Queue.Action Gl GlCommand)
  | dequeue
  | sendGl (fuel : Nat) (malloc : Option NmraPacket) (memory : GlState)
  | queueAdd
  | bus (action : RefreshThread.Action)

/-- The thread of the bus takes the next command when the packets of the last one are in the
queue of packets. -/
def step (config : Config) : Step State Action
  | _, .session .dequeue => none
  | state, .session action =>
      (glQueue.step state.queue action).map fun queue => { state with queue := queue }
  | state, .dequeue =>
      if state.dequeued = none ∧ state.track.adding = [] then
        (state.queue.log.ring.take glQueuelen id).map fun result =>
          { state with
            queue := { state.queue with log := state.queue.log.take glQueuelen id }
            dequeued := some result.1 }
      else none
  | state, .sendGl fuel malloc memory =>
      state.dequeued.bind fun gltmp =>
        (sendGl fuel malloc memory ⟨state.track.bus.ddl, state.queue.tables⟩ gltmp).map fun next =>
          { queue := { state.queue with tables := next.gl }
            dequeued := none
            track := {
              bus := { state.track.bus with
                ddl := { next.ddl with queue := state.track.bus.ddl.queue } }
              adding := next.ddl.queue.added.drop state.track.bus.ddl.queue.added.length
              calls := state.track.calls ++ sentCalls [gltmp] } }
  | state, .queueAdd =>
      (TrackRuns.step config state.track .queueAdd).map fun track => { state with track := track }
  | state, .bus action =>
      (TrackRuns.step config state.track (.bus action)).map fun track =>
        { state with track := track }

/-- Each append finds room, and the commands that are composed are for the composers of the
second version or for none. -/
def Proper (address : Int) (state : State) : Action → Prop
  | .session action => glQueue.FindsRoom state.queue action
  | .dequeue => True
  | .sendGl _ _ _ => ∀ gltmp, state.dequeued = some gltmp → Handled gltmp
  | .queueAdd => TrackRuns.Proper address state.track .queueAdd
  | .bus action => TrackRuns.Proper address state.track (.bus action)

section Steps

variable {config : Config} {address : Int} {state next : State}

/-- A step of the composer is one of the track, or nothing is sent. -/
theorem sendGl_track (alone : state.track.adding = []) (held : state.dequeued = some gltmp)
    (handled : Handled gltmp) {fuel : Nat} {malloc : Option NmraPacket} {memory : GlState}
    (taken : step config state (.sendGl fuel malloc memory) = some next) :
    next.queue.log = state.queue.log ∧ next.dequeued = none ∧
      if IsType2 gltmp then
        TrackRuns.step config state.track (.command (type2Command gltmp)) = some next.track
      else next.track = state.track := by
  rcases handled.sendGl fuel malloc memory ⟨state.track.bus.ddl, state.queue.tables⟩ with
    ⟨tables, sent⟩
  rw [step, held, Option.bind_some, sent, Option.map_some] at taken
  cases taken
  refine ⟨rfl, rfl, ?_⟩
  by_cases type2 : IsType2 gltmp
  · rw [if_pos type2, TrackRuns.step, if_pos alone, sentCalls_singleton, if_pos type2]
    dsimp only
    rcases compMaerklin_frame state.track.bus.ddl (TrackRuns.call (type2Command gltmp)) with
      ⟨pool, queue, frame⟩
    rw [TrackRuns.compMaerklin_call] at frame
    rw [if_pos type2, frame]
  · rw [if_neg type2, sentCalls_singleton, if_neg type2]
    dsimp only
    rw [if_neg type2, List.append_nil, List.drop_length, ← alone]

theorem session_taken {queue : Producers GlState Gl GlCommand}
    {action : Queue.Action Gl GlCommand} (other : action ≠ .dequeue)
    (taken : glQueue.step state.queue action = some queue) :
    queue.log.taken = state.queue.log.taken := by
  cases action with
  | change tables =>
      cases taken
      rfl
  | test session command =>
      rw [Kind.step] at taken
      split at taken
      · cases taken
      · split at taken <;> (cases taken; rfl)
  | append session =>
      obtain ⟨command, _, rfl⟩ := Option.map_eq_some_iff.mp taken
      rfl
  | dequeue => exact absurd rfl other

/-- The queue keeps its order, the track its invariant, and the composer has had every command
that was taken, up to the one that the thread holds. -/
structure Inv (config : Config) (address : Int) (state : State) : Prop where
  fifo : state.queue.log.Fifo glQueuelen
  track : TrackRuns.Inv config address state.track
  alone : ∀ gltmp, state.dequeued = some gltmp → state.track.adding = []
  order : sentCalls state.queue.log.taken = state.track.calls ++ sentCalls state.dequeued.toList

theorem Inv.session (inv : Inv config address state) {action : Queue.Action Gl GlCommand}
    (room : glQueue.FindsRoom state.queue action)
    (taken : step config state (.session action) = some next) : Inv config address next := by
  by_cases dequeue : action = .dequeue
  · rw [dequeue] at taken
    cases taken
  · have stepped : (glQueue.step state.queue action).map
        (fun queue => { state with queue := queue }) = some next := by
      cases action with
      | dequeue => exact absurd rfl dequeue
      | _ => exact taken
    obtain ⟨queue, executed, rfl⟩ := Option.map_eq_some_iff.mp stepped
    refine ⟨Kind.step_fifo (by decide) inv.fifo room executed, inv.track, inv.alone, ?_⟩
    rw [session_taken dequeue executed]
    exact inv.order

theorem Inv.dequeue (inv : Inv config address state)
    (taken : step config state .dequeue = some next) : Inv config address next := by
  rw [step] at taken
  split at taken
  · rename_i free
    obtain ⟨⟨gltmp, rest⟩, got, rfl⟩ := Option.map_eq_some_iff.mp taken
    refine ⟨(inv.fifo.take id).1, inv.track, fun _ _ => free.2, ?_⟩
    have before : sentCalls state.queue.log.taken = state.track.calls := by
      rw [inv.order, free.1]
      exact List.append_nil _
    rw [Log.take, got]
    dsimp only
    rw [sentCalls_append, before]
    rfl
  · cases taken

theorem Inv.sendGl (inv : Inv config address state) (silent : TrackRuns.Silent config address)
    (range : 1 ≤ address ∧ address ≤ 255) {fuel : Nat} {malloc : Option NmraPacket}
    {memory : GlState} (proper : Proper address state (.sendGl fuel malloc memory))
    (taken : step config state (.sendGl fuel malloc memory) = some next) :
    Inv config address next := by
  obtain ⟨gltmp, held, -⟩ := Option.bind_eq_some_iff.mp taken
  have handled := proper gltmp held
  have alone := inv.alone gltmp held
  have order := inv.order
  rcases sendGl_track alone held handled taken with ⟨log, none, sent⟩
  rw [held, Option.toList_some, sentCalls_singleton] at order
  by_cases type2 : IsType2 gltmp
  · rw [if_pos type2] at sent order
    have calls : next.track.calls = state.track.calls ++ [type2Command gltmp] := by
      have stepped := sent
      rw [TrackRuns.step, if_pos alone] at stepped
      rw [← Option.some.inj stepped]
    have inv' := TrackRuns.step_inv silent range state.track (.command (type2Command gltmp))
      next.track inv.track ⟨handled.inRange type2, (handled.address type2.1).2.2⟩ sent
    refine ⟨log ▸ inv.fifo, inv', ?_, ?_⟩
    · intro other mem
      rw [none] at mem
      cases mem
    · rw [log, order, none, calls]
      exact (List.append_nil _).symm
  · rw [if_neg type2] at sent order
    refine ⟨log ▸ inv.fifo, sent ▸ inv.track, ?_, ?_⟩
    · intro other mem
      rw [none] at mem
      cases mem
    · rw [log, order, none, sent]
      rfl

theorem Inv.queueAdd (inv : Inv config address state) (silent : TrackRuns.Silent config address)
    (range : 1 ≤ address ∧ address ≤ 255) (proper : Proper address state .queueAdd)
    (taken : step config state .queueAdd = some next) : Inv config address next := by
  obtain ⟨track, stepped, rfl⟩ := Option.map_eq_some_iff.mp taken
  have inv' := TrackRuns.step_inv silent range state.track .queueAdd track inv.track proper stepped
  rw [TrackRuns.step] at stepped
  split at stepped
  · cases stepped
  · rename_i data rest adding
    cases stepped
    refine ⟨inv.fifo, inv', ?_, inv.order⟩
    intro gltmp held
    have empty := inv.alone gltmp held
    rw [adding] at empty
    cases empty

theorem Inv.bus (inv : Inv config address state) (silent : TrackRuns.Silent config address)
    (range : 1 ≤ address ∧ address ≤ 255) {action : RefreshThread.Action}
    (proper : Proper address state (.bus action))
    (taken : step config state (.bus action) = some next) : Inv config address next := by
  obtain ⟨track, stepped, rfl⟩ := Option.map_eq_some_iff.mp taken
  have inv' := TrackRuns.step_inv silent range state.track (.bus action) track inv.track proper
    stepped
  obtain ⟨bus, -, rfl⟩ := Option.map_eq_some_iff.mp stepped
  exact ⟨inv.fifo, inv', inv.alone, inv.order⟩

theorem step_inv (silent : TrackRuns.Silent config address)
    (range : 1 ≤ address ∧ address ≤ 255) (state : State) (action : Action) (next : State)
    (inv : Inv config address state) (proper : Proper address state action)
    (taken : step config state action = some next) : Inv config address next := by
  cases action with
  | session action => exact inv.session proper taken
  | dequeue => exact inv.dequeue taken
  | sendGl fuel malloc memory => exact inv.sendGl silent range proper taken
  | queueAdd => exact inv.queueAdd silent range proper taken
  | bus action => exact inv.bus silent range proper taken

end Steps

/-! ## Runs -/

/-- Speed and F0 of an entry. -/
def told (gltmp : GlState) : Nat × Bool :=
  ((maerklinSpeed gltmp).toNat, gltmp.funcs.getLsbD 0)

theorem maerklinSpeed_ne_one (gltmp : GlState) : maerklinSpeed gltmp ≠ 1 := by
  unfold maerklinSpeed
  dsimp only
  split
  · decide
  · split <;> omega

theorem told_type2Command (type2 : IsType2 gltmp) :
    TrackRuns.told (type2Command gltmp) = told gltmp := by
  have speed : (type2Command gltmp).speed = maerklinSpeed gltmp := rfl
  have other := maerklinSpeed_ne_one gltmp
  have least := type2.2.1
  rw [TrackRuns.told, sentSpeed, speed, if_neg (by omega), told]
  congr 1
  omega

/-- The last entry that is sent to an address decides what it is told. -/
theorem lastUpdate_sentCalls (entries : List GlState) (address : Int) :
    (lastUpdate Type2Command.address (sentCalls entries) address).map TrackRuns.told =
      (lastUpdate GlState.id (entries.filter IsType2) address).map told := by
  induction entries using List.reverseRecOn with
  | nil => rfl
  | append_singleton entries gltmp ih =>
      rw [sentCalls_append, sentCalls_singleton, List.filter_append, List.filter_singleton]
      by_cases type2 : IsType2 gltmp
      · have place : (type2Command gltmp).address = gltmp.id := rfl
        rw [if_pos type2, decide_eq_true type2, cond_true, lastUpdate_append_singleton,
          lastUpdate_append_singleton, place]
        by_cases same : gltmp.id = address
        · rw [if_pos same, if_pos same, Option.map_some, Option.map_some,
            told_type2Command type2]
        · rw [if_neg same, if_neg same]
          exact ih
      · rw [if_neg type2, decide_eq_false type2, cond_false, List.append_nil, List.append_nil]
        exact ih

/-- A bus before its first command, with the power as the configuration says. -/
def State.start (slots : Nat → GlState) (tables : Gl) (ddl : DdlData) (autoPowerOn : Bool)
    (time : Timeval) : State :=
  ⟨.init slots tables, none, .start ddl autoPowerOn time⟩

theorem start_inv (config : Config) (address : Int) (slots : Nat → GlState) (tables : Gl)
    {ddl : DdlData} (fresh : TrackRuns.Fresh ddl) (autoPowerOn : Bool)
    (time : Timeval) :
    Inv config address (.start slots tables ddl autoPowerOn time) where
  fifo := ⟨⟨Nat.succ_pos _, Nat.succ_pos _⟩, rfl⟩
  track := fresh.inv config address autoPowerOn time
  alone := fun _ held => by cases held
  order := rfl

/-- In every interleaving of sessions that queue commands with the thread of the bus, the refresh
thread, and sessions that change the power or the locomotives: when no command is left in the
queue or the thread, and no packet for the address waits, the decoder has last heard speed and F0
of the last command for its address that was answered OK. -/
theorem run_heard {config : Config} {address : Int} (silent : TrackRuns.Silent config address)
    (range : 1 ≤ address ∧ address ≤ 255) (slots : Nat → GlState) (tables : Gl) {ddl : DdlData}
    (fresh : TrackRuns.Fresh ddl) (autoPowerOn : Bool) (time : Timeval)
    {actions : List Action} {state : State}
    (proper : MeetsAlong (step config) (Proper address)
      (.start slots tables ddl autoPowerOn time) actions)
    (executed : run (step config) (.start slots tables ddl autoPowerOn time) actions = some state)
    (empty : state.queue.log.ring.isEmpty = true) (free : state.dequeued = none)
    (sent : ∀ data ∈ state.track.waiting, TrackRuns.dataTells address data = none) :
    state.track.decoder config address =
      (lastUpdate GlState.id (state.queue.log.added.filter IsType2) address).map told := by
  have inv := run_invariant_of_meets (step_inv silent range)
    (start_inv config address slots tables fresh autoPowerOn time) proper executed
  have all : state.queue.log.taken = state.queue.log.added :=
    (inv.fifo.delivers id).seenEmpty empty
  have calls : sentCalls state.queue.log.added = state.track.calls := by
    have order := inv.order
    rw [free, all] at order
    rw [order]
    exact List.append_nil _
  have nothing : state.track.waiting.filterMap (TrackRuns.dataTells address) = [] :=
    List.filterMap_eq_nil_iff.mpr sent
  have last := inv.track.last
  rw [nothing, List.getLast?_nil, Option.none_or, TrackRuns.State.target, ← calls,
    lastUpdate_sentCalls] at last
  exact last

/-- A hundred locomotives of the second version. -/
def type2Tables : Gl where
  configured := true
  numberOfGl := 100
  glstate := fun addr => { GlState.zero with
    state := 1
    protocol := 'M'
    protocolversion := 2
    nFs := 14
    nFunc := 5
    id := addr }
  clock := 0

/-- A session sets a locomotive to half speed. -/
theorem run_heard_half :
    let actions : List Action := .session (.test 1 ⟨24, 1, 7, 14, 1⟩) :: .session (.append 1) ::
      .dequeue :: .sendGl 0 none .zero :: .queueAdd ::
        List.replicate 11 (.bus (.thread RefreshThread.quietInput))
    ∃ state, run (step RefreshThread.plainConfig)
        (.start (fun _ => .zero) type2Tables maerklinBus true ⟨0, 0⟩) actions = some state ∧
      state.track.decoder RefreshThread.plainConfig 24 =
        (lastUpdate GlState.id (state.queue.log.added.filter IsType2) 24).map told := by
  intro actions
  have proper : MeetsAlong (step RefreshThread.plainConfig) (Proper 24)
      (.start (fun _ => .zero) type2Tables maerklinBus true ⟨0, 0⟩) actions := by
    intro next taken
    refine ⟨trivial, ?_⟩
    cases taken
    intro next taken
    refine ⟨rfl, ?_⟩
    cases taken
    intro next taken
    refine ⟨trivial, ?_⟩
    cases taken
    intro next taken
    refine ⟨?_, ?_⟩
    · intro gltmp held
      cases held
      exact ⟨by decide, by decide, by decide, by decide⟩
    cases taken
    intro next taken
    refine ⟨by show _ + 1 < qsize; decide, ?_⟩
    apply meetsAlong_of_forall
    intro action mem state
    rw [List.eq_of_mem_replicate mem]
    rfl
  refine ⟨_, rfl, run_heard (TrackRuns.silent_plainConfig 24) (by decide) _ type2Tables
    TrackRuns.fresh_maerklinBus true ⟨0, 0⟩ proper rfl (by decide) rfl ?_⟩
  intro data mem
  have empty : data ∈ ([] : List QData) := mem
  cases empty

end Srcpd.Ddl.GlRuns
