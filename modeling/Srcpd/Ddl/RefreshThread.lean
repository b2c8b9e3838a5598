import Srcpd.Ddl.Accessory
import Srcpd.Ddl.MaerklinAccessory
import Srcpd.Ddl.Refresh
import Srcpd.Types

/-!
# The refresh thread of a DDL bus

`thr_refresh_cycle` with `power_is_off` and `send_packet`.  The thread sends the packets
of the queue and, when there are none, refreshes the locomotives; before everything it
sends it looks at the power of the bus, which sessions change while it runs.

`run_commands` is about the packets, `run_transmitted` about the power and
`holdsAlong_linesFollow_iff` about the lines that switch the booster.
-/

namespace Srcpd.Ddl.RefreshThread

open Srcpd.Queue Srcpd.Transition

/-! ## Time and lines -/

/-- The difference in microseconds, as `compute_delta` computes it. -/
def computeDelta (tv1 tv2 : Timeval) : Int :=
  let deltaSec := tv2.sec - tv1.sec
  if deltaSec = 0 then tv2.usec - tv1.usec
  else if deltaSec = 1 then tv2.usec + (1000000 - tv1.usec)
  else 1000000 * (deltaSec - 1) + tv2.usec + (1000000 - tv1.usec)

theorem computeDelta_eq (tv1 tv2 : Timeval) :
    computeDelta tv1 tv2 = tv2.micros - tv1.micros := by
  simp only [computeDelta, Timeval.micros]
  split_ifs <;> omega

/-- `TIOCM_DSR`. -/
def tiocmDsr : BitVec 32 := 0x100

/-- `TIOCM_RI`. -/
def tiocmRi : BitVec 32 := 0x80

/-- The configuration of the bus, and the packet that is written between packets. -/
structure Config where
  checkshort : Bool
  riCheck : Bool
  dsrInverse : Bool
  shortcutdelay : Int
  idleData : Packetstream
  nmraIdleData : Packetstream

/-- What the thread gets from the system at one of its steps: the lines that
`TIOCMGET` yields, unless it fails, two times, and whether `setSerialMode` succeeds. -/
structure Input where
  arg : Option (BitVec 32)
  first : Timeval
  second : Timeval
  modeSet : Bool

/-- The lines show a shortcut. -/
def Config.shows (config : Config) (arg : BitVec 32) : Bool :=
  (arg &&& tiocmDsr ≠ 0 && !config.dsrInverse) || (~~~ arg &&& tiocmDsr ≠ 0 && config.dsrInverse)

/-- The answer, and the time of detection that is kept; 0 stands for none. -/
def checkShortcut (config : Config) (shortDetected : Int) (input : Input) : Bool × Int :=
  match input.arg with
  | none => (true, shortDetected)
  | some arg =>
      if config.shows arg then
        let detected := if shortDetected = 0 then input.first.micros else shortDetected
        (decide (config.shortcutdelay ≤ input.second.micros - detected), detected)
      else (false, 0)

/-- The test of the ring indicator line; an `ioctl` that fails counts as active. -/
def checkRingIndicator (input : Input) : Bool :=
  match input.arg with
  | none => true
  | some arg => arg &&& tiocmRi ≠ 0

/-! ## Sending a packet -/

/-- The writes of a packet: how often, and how many of its bytes. -/
def sendPacket (config : Config) (packet : Packetstream) (packetSize : Nat)
    (packetType : PacketType) (refresh modeSet : Bool) : List Packetstream :=
  if !modeSet then []
  else
    match packetType with
    | .m1LocoPkt | .m2LocoPkt =>
        List.replicate (2 * if refresh then 2 else 4) (packet.take 18)
    | .m2FxPkt => List.replicate (2 * if refresh then 2 else 3) (packet.take 18)
    | .m1FuncPkt | .m1SolePkt => List.replicate (2 * 2) (packet.take 9)
    | .nbLocoPkt | .nbAccPkt =>
        [packet.take packetSize, config.nmraIdleData, packet.take packetSize]
    | .noValidPkt => []

/-- What the thread hands to the line in a turn, and whether the mode could be set. -/
inductive Transmission
  | idle
  | command (data : QData) (modeSet : Bool)
  | refresh (sent : Refresh) (modeSet : Bool)

/-- What the thread writes to the line; `both` is for both protocols enabled. -/
def Transmission.writes (config : Config) (both : Bool) : Transmission → List Packetstream
  | .idle => [config.idleData]
  | .command data modeSet =>
      sendPacket config data.packet.val data.packetSize data.packetType false modeSet ++
        if both then [config.nmraIdleData] else []
  | .refresh sent modeSet =>
      sendPacket config sent.packet sent.packet.length sent.packetType true modeSet

/-! ## The thread and the sessions -/

/-- Where `power_is_off` is called: at the head of the loop, with a packet from the
queue, or because the queue was empty. -/
inductive Caller
  | top
  | held (data : QData)
  | gap

/-- The parts of `power_is_off`. -/
inductive Point
  | shortcut
  | ring
  | changed
  | testOff
  | testOn
  | clear
  | testPower

/-- Where the refresh thread is. -/
inductive Place
  | check (caller : Caller) (point : Point)
  | idle
  | get
  | send (data : QData)
  | next
  | refresh

/-- With the power on, and with the power off. -/
def Caller.on : Caller → Place
  | .top => .idle
  | .held data => .send data
  | .gap => .refresh

/-- Where the thread goes on when the power is off. -/
def Caller.off : Caller → Place
  | .top => .check .top .shortcut
  | .held data => .check (.held data) .shortcut
  | .gap => .check .top .shortcut

/-- The bus; `settingPower` counts the sessions in `setPower` that have not written
`power_changed` yet. -/
structure State where
  ddl : DdlData
  powerState : Bool
  powerChanged : Bool
  powerMsg : String
  settingPower : Nat
  linesOn : Bool
  shortDetected : Int
  lastRefresh : Timeval
  place : Place
  transmitted : List Transmission
  /-- State and message of what `infoPower` reports. -/
  infos : List (Bool × String)

/-- The steps of the sessions, of the composers and of the refresh thread. -/
inductive Action
  | setPowerState (on : Bool) (msg : String)
  | setPowerChanged
  | add (data : QData)
  | updatePools (nmra : NmraPacketPool) (maerklin : MaerklinPacketPool)
  | thread (input : Input)

/-- A check that found the track has to be switched off. -/
def State.alert (state : State) (msg : String) : State :=
  { state with
    powerState := false
    powerChanged := true
    powerMsg := msg
    infos := state.infos ++ [(false, msg)] }

/-- One step of `check_short` and of the test of the power behind it. -/
def checkStep (config : Config) (state : State) (caller : Caller) (input : Input) :
    Point → State
  | .shortcut =>
      if config.checkshort then
        let result := checkShortcut config state.shortDetected input
        let checked := { state with
          shortDetected := result.2
          place := .check caller .ring }
        if result.1 then checked.alert "SHORTCUT DETECTED" else checked
      else { state with place := .check caller .ring }
  | .ring =>
      let checked := { state with place := .check caller .changed }
      if config.riCheck ∧ checkRingIndicator input then
        checked.alert "RINGINDICATOR DETECTED"
      else checked
  | .changed =>
      { state with place := .check caller (if state.powerChanged then .testOff else .testPower) }
  | .testOff =>
      { state with
        linesOn := if state.powerState then state.linesOn else false
        place := .check caller .testOn }
  | .testOn =>
      { state with
        linesOn := if state.powerState then true else state.linesOn
        place := .check caller .clear }
  | .clear =>
      { state with
        powerChanged := false
        infos := state.infos ++ [(state.powerState, state.powerMsg)]
        place := .check caller .testPower }
  | .testPower => { state with place := if state.powerState then caller.on else caller.off }

/-- `queue_get`, and where the thread goes without a packet. -/
def State.fetch (state : State) (without : Place) : State :=
  match state.ddl.queue.ring.take qsize QData.taken with
  | none => { state with place := without }
  | some (data, _) =>
      { state with
        ddl := { state.ddl with queue := queueGet state.ddl.queue }
        place :=
          if data.packetType = .noValidPkt then without else .check (.held data) .shortcut }

/-- `none` when the memory of a missing packet would be read. -/
def threadStep (config : Config) (state : State) (input : Input) : Option State :=
  match state.place with
  | .check caller point => some (checkStep config state caller input point)
  | .idle =>
      some { state with transmitted := state.transmitted ++ [.idle], place := .get }
  | .get => some (state.fetch (.check .gap .shortcut))
  | .send data =>
      some { state with
        transmitted := state.transmitted ++ [.command data input.modeSet]
        place := .next }
  | .next => some (state.fetch (.check .top .shortcut))
  | .refresh =>
      if 100000 < computeDelta state.lastRefresh input.first then
        (refreshLoco state.ddl).map fun (sent, ddl) =>
          { state with
            ddl := ddl
            lastRefresh := input.second
            transmitted := state.transmitted ++ [.refresh sent input.modeSet]
            place := .check .top .shortcut }
      else some { state with place := .check .top .shortcut }

/-- One step of anybody. -/
def step (config : Config) : Step State Action
  | state, .setPowerState on msg =>
      some { state with
        powerState := on
        powerMsg := msg
        settingPower := state.settingPower + 1 }
  | state, .setPowerChanged =>
      if 0 < state.settingPower then
        some { state with powerChanged := true, settingPower := state.settingPower - 1 }
      else none
  | state, .add data =>
      some { state with ddl := { state.ddl with queue := state.ddl.queue.put qsize data } }
  | state, .updatePools nmra maerklin =>
      some { state with
        ddl := { state.ddl with nmraPacketPool := nmra, maerklinPacketPool := maerklin } }
  | state, .thread input => threadStep config state input

/-- Behind the setup of the lines.  `create_all_bus_threads` has written `power_state`
and is still to write `power_changed`. -/
def State.start (ddl : DdlData) (autoPowerOn : Bool) (time : Timeval) : State :=
  { ddl := { ddl with queue := queueInit }
    powerState := autoPowerOn
    powerChanged := false
    powerMsg := if autoPowerOn then "AUTO POWER ON" else "AUTO POWER OFF"
    settingPower := 1
    linesOn := true
    shortDetected := 0
    lastRefresh := time
    place := .check .top .shortcut
    transmitted := []
    infos := [] }

/-! ## Commands -/

/-- The packet of the queue in a transmission. -/
def Transmission.command? : Transmission → Option QData
  | .command data _ => some data
  | _ => none

/-- The commands that were sent, in their order. -/
def State.commands (state : State) : List QData :=
  state.transmitted.filterMap Transmission.command?

/-- The packet that waits while the power is checked. -/
def Caller.packet : Caller → List QData
  | .held data => [data]
  | _ => []

/-- The packet that the thread has taken from the queue and not sent yet. -/
def Place.packet : Place → List QData
  | .check caller _ => caller.packet
  | .send data => [data]
  | _ => []

/-- The packet has a type that is sent. -/
def QData.isValid (data : QData) : Bool :=
  data.packetType ≠ .noValidPkt

/-- Nothing that was taken from the queue is lost, sent twice or in another order. -/
def State.InOrder (state : State) : Prop :=
  state.commands ++ state.place.packet = state.ddl.queue.taken.filter QData.isValid

theorem Caller.packet_on (caller : Caller) : caller.on.packet = caller.packet := by
  cases caller <;> rfl

theorem Caller.packet_off (caller : Caller) : caller.off.packet = caller.packet := by
  cases caller <;> rfl

/-- `power_is_off` sends nothing and keeps the packet. -/
structure State.Checked (state next : State) (caller : Caller) : Prop where
  ddl : next.ddl = state.ddl
  transmitted : next.transmitted = state.transmitted
  settingPower : next.settingPower = state.settingPower
  lastRefresh : next.lastRefresh = state.lastRefresh
  packet : next.place.packet = caller.packet

theorem checkStep_checked (config : Config) (state : State) (caller : Caller) (input : Input)
    (point : Point) : state.Checked (checkStep config state caller input point) caller := by
  cases point with
  | shortcut =>
      rw [checkStep]
      split
      · dsimp only
        split <;> exact ⟨rfl, rfl, rfl, rfl, rfl⟩
      · exact ⟨rfl, rfl, rfl, rfl, rfl⟩
  | ring =>
      rw [checkStep]
      split <;> exact ⟨rfl, rfl, rfl, rfl, rfl⟩
  | changed => exact ⟨rfl, rfl, rfl, rfl, rfl⟩
  | testOff => exact ⟨rfl, rfl, rfl, rfl, rfl⟩
  | testOn => exact ⟨rfl, rfl, rfl, rfl, rfl⟩
  | clear => exact ⟨rfl, rfl, rfl, rfl, rfl⟩
  | testPower =>
      refine ⟨rfl, rfl, rfl, rfl, ?_⟩
      rw [checkStep]
      split
      · exact caller.packet_on
      · exact caller.packet_off

theorem refreshLoco_queue {ddl next : DdlData} {sent : Refresh}
    (done : refreshLoco ddl = some (sent, next)) : next.queue = ddl.queue := by
  rcases Option.map_eq_some_iff.mp done with ⟨⟨sent', moved⟩, turn, result⟩
  cases result
  split at turn
  · rw [Option.some.injEq, refreshMaerklinLoco] at turn
    split at turn
    all_goals
      cases turn
      rfl
  · rcases Option.map_eq_some_iff.mp turn with ⟨sent'', _, result⟩
    dsimp only at result
    split at result
    all_goals
      split at result
      all_goals
        cases result
        rfl

/-- A fetch takes the next packet, if there is one, and sends nothing. -/
theorem State.InOrder.fetch {state : State} {without : Place} (inOrder : state.InOrder)
    (empty : state.place.packet = []) (none : without.packet = []) :
    (state.fetch without).InOrder := by
  rw [InOrder, empty, List.append_nil] at inOrder
  rw [State.fetch]
  cases taken : state.ddl.queue.ring.take qsize QData.taken with
  | none =>
      rw [InOrder, none, List.append_nil]
      exact inOrder
  | some result =>
      have logged : (queueGet state.ddl.queue).taken = state.ddl.queue.taken ++ [result.1] := by
        rw [queueGet, Log.take, taken]
      rw [InOrder]
      dsimp only
      rw [logged, List.filter_append, ← inOrder]
      congr 1
      by_cases invalid : result.1.packetType = .noValidPkt
      · have dropped : QData.isValid result.1 = false := by
          rw [QData.isValid, invalid]
          rfl
        rw [if_pos invalid, none, List.filter_cons, dropped]
        rfl
      · have kept : QData.isValid result.1 = true := by
          rw [QData.isValid, decide_eq_true_eq]
          exact invalid
        rw [if_neg invalid, List.filter_cons, kept]
        rfl

theorem step_inOrder {config : Config} {state next : State} {action : Action}
    (inOrder : state.InOrder) (taken : step config state action = some next) : next.InOrder := by
  cases action with
  | setPowerState on msg =>
      cases taken
      exact inOrder
  | setPowerChanged =>
      rw [step] at taken
      split at taken
      · cases taken
        exact inOrder
      · cases taken
  | add data =>
      cases taken
      exact inOrder
  | updatePools nmra maerklin =>
      cases taken
      exact inOrder
  | thread input =>
      rw [step, threadStep] at taken
      split at taken
      · rename_i caller point place
        cases taken
        have checked := checkStep_checked config state caller input point
        rw [State.InOrder, place] at inOrder
        rw [State.InOrder, State.commands, checked.transmitted, checked.ddl, checked.packet]
        exact inOrder
      · rename_i place
        cases taken
        rw [State.InOrder, place] at inOrder
        rw [State.InOrder, State.commands, List.filterMap_append]
        rw [← inOrder]
        exact congrArg (· ++ []) (List.append_nil _)
      · rename_i place
        cases taken
        exact inOrder.fetch (congrArg Place.packet place) rfl
      · rename_i data place
        cases taken
        rw [State.InOrder, place] at inOrder
        rw [State.InOrder, State.commands, List.filterMap_append]
        rw [← inOrder]
        exact List.append_nil _
      · rename_i place
        cases taken
        exact inOrder.fetch (congrArg Place.packet place) rfl
      · rename_i place
        rw [State.InOrder, place] at inOrder
        split at taken
        · obtain ⟨⟨sent, ddl⟩, done, rfl⟩ := Option.map_eq_some_iff.mp taken
          rw [State.InOrder, State.commands, List.filterMap_append]
          dsimp only
          rw [refreshLoco_queue done, ← inOrder]
          exact congrArg (· ++ []) (List.append_nil _)
        · cases taken
          exact inOrder

/-! ### Packets of the composers -/

/-- `send_packet` writes as many bytes of this packet as it has. -/
def QData.Fits (data : QData) : Prop :=
  match data.packetType with
  | .m1LocoPkt | .m2LocoPkt | .m2FxPkt => data.packetSize = 18
  | .m1FuncPkt | .m1SolePkt => data.packetSize = 9
  | .nbLocoPkt | .nbAccPkt => True
  | .noValidPkt => False

theorem QData.Fits.isValid {data : QData} (fits : QData.Fits data) : QData.isValid data := by
  rw [QData.isValid, decide_eq_true_eq]
  intro invalid
  rw [QData.Fits, invalid] at fits
  exact fits

/-- A packet that fits is written at least twice, and next to it nothing but the NMRA
packet between two packets is written. -/
theorem QData.Fits.sendPacket {data : QData} (fits : QData.Fits data) (config : Config)
    (refresh : Bool) :
    let writes :=
      sendPacket config data.packet.val data.packetSize data.packetType refresh true
    let whole := data.packet.val.take data.packetSize
    2 ≤ writes.count whole ∧ ∀ bytes ∈ writes, bytes = whole ∨ bytes = config.nmraIdleData := by
  intro writes whole
  rw [QData.Fits] at fits
  have copies (count : Nat) (two : 2 ≤ count) : 2 ≤ (List.replicate count whole).count whole ∧
      ∀ bytes ∈ List.replicate count whole, bytes = whole ∨ bytes = config.nmraIdleData := by
    refine ⟨?_, ?_⟩
    · rw [List.count_replicate_self]
      exact two
    · intro bytes mem
      exact Or.inl (List.eq_of_mem_replicate mem)
  have laps (more : Nat) : 2 ≤ 2 * if refresh then 2 else more + 3 := by
    split <;> omega
  have nmra : 2 ≤ [whole, config.nmraIdleData, whole].count whole ∧
      ∀ bytes ∈ [whole, config.nmraIdleData, whole],
        bytes = whole ∨ bytes = config.nmraIdleData := by
    refine ⟨?_, by simp⟩
    rw [List.count_cons_self, List.count_cons, List.count_cons_self]
    omega
  simp only [writes, RefreshThread.sendPacket]
  split at fits
  all_goals
    simp only [Bool.not_true, Bool.false_eq_true, if_false]
  all_goals first
    | exact nmra
    | exact fits.elim
    | rw [← fits]
  · exact copies _ (laps 1)
  · exact copies _ (laps 1)
  · exact copies _ (laps 0)
  · exact copies 4 (by decide)
  · exact copies 4 (by decide)

/-- A composer that ran between the two only added packets that fit. -/
def Composed (before after : DdlData) : Prop :=
  ∃ sent : List QData, after.queue = sent.foldl (Log.put qsize) before.queue ∧
    ∀ data ∈ sent, QData.Fits data

theorem Composed.refl (ddl : DdlData) : Composed ddl ddl :=
  ⟨[], rfl, fun _ mem => absurd mem List.not_mem_nil⟩

theorem Composed.trans {first second third : DdlData} (composed : Composed first second)
    (composed' : Composed second third) : Composed first third := by
  obtain ⟨sent, queue, fits⟩ := composed
  obtain ⟨sent', queue', fits'⟩ := composed'
  refine ⟨sent ++ sent', ?_, ?_⟩
  · rw [List.foldl_append, ← queue]
    exact queue'
  · intro data mem
    rcases List.mem_append.mp mem with mem | mem
    · exact fits data mem
    · exact fits' data mem

theorem Composed.one {before after : DdlData} {data : QData}
    (queue : after.queue = before.queue.put qsize data) (fits : QData.Fits data) :
    Composed before after :=
  ⟨[data], queue, fun _ mem => List.mem_singleton.mp mem ▸ fits⟩

theorem compMaerklinType2_composed (maxAddress : Int) (speed1Obsolete : Bool) (ddl : DdlData)
    (address direction speed : Int) (func : Bool) (f : Fin 4 → Bool) :
    Composed ddl (compMaerklinType2 maxAddress speed1Obsolete ddl address direction speed func
      f).2 := by
  rw [compMaerklinType2]
  split
  · exact Composed.refl ddl
  · dsimp only
    split
    · exact Composed.one rfl rfl
    · exact Composed.one rfl rfl

theorem compMaerklin_composed (ddl : DdlData) (call : MaerklinCall) :
    Composed ddl (compMaerklin ddl call).2 := by
  cases call with
  | m1 address direction speed func locoDirection =>
      rw [compMaerklin, compMaerklin1]
      split
      · exact Composed.refl ddl
      · exact Composed.one rfl rfl
  | m2 address direction speed func f => exact compMaerklinType2_composed _ _ _ _ _ _ _ _
  | m4 address direction speed func f => exact compMaerklinType2_composed _ _ _ _ _ _ _ _
  | m5 address direction speed func f locoSpeed =>
      rw [compMaerklin, compMaerklin5]
      split
      · exact Composed.refl ddl
      · dsimp only
        split
        · exact (compMaerklinType2_composed _ _ _ _ _ _ _ _).trans
            (compMaerklinType2_composed _ _ _ _ _ _ _ _)
        · exact compMaerklinType2_composed _ _ _ _ _ _ _ _

theorem compNmraMultiFunc_composed {fuel : Nat} {malloc : Option NmraPacket} {ddl after : DdlData}
    {call : MultiFuncCall} {rc : Nat}
    (done : compNmraMultiFunc fuel malloc ddl call = some (rc, after)) : Composed ddl after := by
  rw [compNmraMultiFunc] at done
  split at done
  · cases done
    exact Composed.refl ddl
  · rcases Option.bind_eq_some_iff.mp done with ⟨⟨j, packetstream⟩, _, done⟩
    rcases Option.bind_eq_some_iff.mp done with ⟨⟨jj, packetstream2⟩, _, done⟩
    dsimp only at done
    split at done
    · rcases Option.map_eq_some_iff.mp done with ⟨pool, _, done⟩
      rw [Prod.mk.injEq] at done
      rw [← done.2]
      split
      · exact ⟨[.of _ packetstream .nbLocoPkt j, .of _ packetstream2 .nbLocoPkt jj], rfl, by
          intro data mem
          rcases List.mem_cons.mp mem with rfl | mem
          · trivial
          · rw [List.mem_singleton.mp mem]
            trivial⟩
      · exact ⟨[.of _ packetstream .nbLocoPkt j], rfl, by
          intro data mem
          rw [List.mem_singleton.mp mem]
          trivial⟩
    · cases done
      exact Composed.refl ddl

theorem compNmraAccessory_composed {fuel : Nat} {ddl after : DdlData} {call : Accessory.Call}
    {offset : Int} {rc : Nat}
    (done : Accessory.compNmraAccessory fuel ddl call offset = some (rc, after)) :
    Composed ddl after := by
  rw [Accessory.compNmraAccessory] at done
  split at done
  · cases done
    exact Composed.refl ddl
  · rcases Option.map_eq_some_iff.mp done with ⟨⟨j, packetstream⟩, _, done⟩
    dsimp only at done
    split at done
    · cases done
      exact Composed.one rfl trivial
    · cases done
      exact Composed.refl ddl

theorem comp38k_composed (memory : Nat → BitVec 8) (ddl : DdlData) (call : Call38k) :
    Composed ddl (comp38k memory ddl call).2 := by
  rw [comp38k_eq]
  split
  · refine Composed.one rfl ?_
    cases call with
    | solenoid address port action => rfl
    | functions address f1 f2 f3 f4 => rfl
  · exact Composed.refl ddl

/-- A call of a composer. -/
inductive ComposerCall
  | maerklin (call : MaerklinCall)
  | maerklin38k (memory : Nat → BitVec 8) (call : Call38k)
  | multiFunc (malloc : Option NmraPacket) (call : MultiFuncCall)
  | accessory (call : Accessory.Call) (offset : Int)

/-- `none` when a translation is still running or the pool is locked. -/
def compose (fuel : Nat) : Step DdlData ComposerCall
  | ddl, .maerklin call => some (compMaerklin ddl call).2
  | ddl, .maerklin38k memory call => some (comp38k memory ddl call).2
  | ddl, .multiFunc malloc call => (compNmraMultiFunc fuel malloc ddl call).map Prod.snd
  | ddl, .accessory call offset => (Accessory.compNmraAccessory fuel ddl call offset).map Prod.snd

theorem compose_composed {fuel : Nat} {ddl after : DdlData} {call : ComposerCall}
    (done : compose fuel ddl call = some after) : Composed ddl after := by
  cases call with
  | maerklin call =>
      cases done
      exact compMaerklin_composed ddl call
  | maerklin38k memory call =>
      cases done
      exact comp38k_composed memory ddl call
  | multiFunc malloc call =>
      obtain ⟨result, called, rfl⟩ := Option.map_eq_some_iff.mp done
      exact compNmraMultiFunc_composed called
  | accessory call offset =>
      obtain ⟨result, called, rfl⟩ := Option.map_eq_some_iff.mp done
      exact compNmraAccessory_composed called

/-- For every sequence of calls of the composers: whatever packet they put into the queue,
`send_packet` writes all its bytes and no others, at least twice, whether or not it is a
refresh. -/
theorem compose_run_sendPacket (fuel : Nat) (calls : List ComposerCall) {ddl after : DdlData}
    (executed : run (compose fuel) ddl calls = some after) :
    ∃ sent : List QData, after.queue = sent.foldl (Log.put qsize) ddl.queue ∧
      ∀ data ∈ sent, ∀ (config : Config) (refresh : Bool),
        let writes :=
          sendPacket config data.packet.val data.packetSize data.packetType refresh true
        let whole := data.packet.val.take data.packetSize
        2 ≤ writes.count whole ∧
          ∀ bytes ∈ writes, bytes = whole ∨ bytes = config.nmraIdleData := by
  have composed : Composed ddl after := by
    induction calls generalizing ddl with
    | nil =>
        cases executed
        exact Composed.refl _
    | cons call calls ih =>
        obtain ⟨next, taken, rest⟩ := run_cons_eq_some_iff.mp executed
        exact (compose_composed taken).trans (ih rest)
  obtain ⟨sent, queue, fits⟩ := composed
  exact ⟨sent, queue, fun data mem config refresh => (fits data mem).sendPacket config refresh⟩

/-- A solenoid is switched. -/
theorem compose_run_sendPacket_one :
    ∃ after, run (compose 0) maerklinBus [.maerklin38k (fun _ => 0) (.solenoid 1 0 1)] =
        some after ∧
      ∃ sent : List QData, after.queue = sent.foldl (Log.put qsize) maerklinBus.queue ∧
        ∀ data ∈ sent, ∀ (config : Config) (refresh : Bool),
          let writes :=
            sendPacket config data.packet.val data.packetSize data.packetType refresh true
          let whole := data.packet.val.take data.packetSize
          2 ≤ writes.count whole ∧
            ∀ bytes ∈ writes, bytes = whole ∨ bytes = config.nmraIdleData :=
  ⟨_, rfl, compose_run_sendPacket 0
    [.maerklin38k (fun _ => 0) (.solenoid 1 0 1)] rfl⟩

/-! ### The run of the thread -/

/-- What is added fits and finds a free slot. -/
def Proper (state : State) : Action → Prop
  | .add data => QData.Fits data ∧ state.ddl.queue.ring.length qsize + 1 < qsize
  | _ => True

/-- The queue is first in first out, and what was transmitted is what was added. -/
structure State.Served (state : State) : Prop where
  inOrder : state.InOrder
  fifo : state.ddl.queue.Fifo qsize
  fits : ∀ data ∈ state.ddl.queue.added, QData.Fits data

/-- The queue, when nothing is added. -/
def State.QueueKept (state next : State) : Prop :=
  next.ddl.queue = state.ddl.queue ∨ next.ddl.queue = queueGet state.ddl.queue

theorem State.fetch_queue (state : State) (without : Place) :
    state.QueueKept (state.fetch without) := by
  rw [State.fetch]
  split
  · exact Or.inl rfl
  · exact Or.inr rfl

theorem threadStep_queue {config : Config} {state next : State} {input : Input}
    (taken : threadStep config state input = some next) : state.QueueKept next := by
  rw [threadStep] at taken
  split at taken
  · cases taken
    exact Or.inl (congrArg DdlData.queue (checkStep_checked config state _ input _).ddl)
  · cases taken
    exact Or.inl rfl
  · cases taken
    exact state.fetch_queue _
  · cases taken
    exact Or.inl rfl
  · cases taken
    exact state.fetch_queue _
  · split at taken
    · obtain ⟨⟨sent, ddl⟩, done, rfl⟩ := Option.map_eq_some_iff.mp taken
      exact Or.inl (refreshLoco_queue done)
    · cases taken
      exact Or.inl rfl

theorem step_served {config : Config} (state : State) (action : Action) (next : State)
    (served : state.Served) (proper : Proper state action)
    (taken : step config state action = some next) : next.Served := by
  refine ⟨step_inOrder served.inOrder taken, ?_, ?_⟩
  all_goals
    cases action with
    | setPowerState on msg =>
        cases taken
        first | exact served.fifo | exact served.fits
    | setPowerChanged =>
        rw [step] at taken
        split at taken
        · cases taken
          first | exact served.fifo | exact served.fits
        · cases taken
    | updatePools nmra maerklin =>
        cases taken
        first | exact served.fifo | exact served.fits
    | add data => ?_
    | thread input => ?_
  · cases taken
    exact served.fifo.put proper.2 data
  · rcases threadStep_queue taken with same | got
    · rw [same]
      exact served.fifo
    · rw [got]
      exact (served.fifo.take QData.taken).1
  · cases taken
    intro other mem
    rcases List.mem_append.mp mem with mem | mem
    · exact served.fits other mem
    · rw [List.mem_singleton.mp mem]
      exact proper.1
  · rcases threadStep_queue taken with same | got
    · rw [same]
      exact served.fits
    · rw [got]
      have added := (served.fifo.take QData.taken).2
      rw [queueGet, added]
      exact served.fits

theorem State.start_served (ddl : DdlData) (autoPowerOn : Bool) (time : Timeval) :
    (State.start ddl autoPowerOn time).Served :=
  ⟨rfl, queueInit_fifo, fun _ mem => absurd mem List.not_mem_nil⟩

theorem State.Served.all {state : State} (served : state.Served) :
    state.commands ++ state.place.packet ++ state.ddl.queue.ring.contents qsize =
      state.ddl.queue.added := by
  have valid : state.ddl.queue.taken.filter QData.isValid = state.ddl.queue.taken := by
    apply List.filter_eq_self.mpr
    intro data mem
    apply (served.fits data _).isValid
    rw [← served.fifo.order]
    exact List.mem_append_left _ mem
  have inOrder := served.inOrder
  rw [State.InOrder, valid] at inOrder
  rw [inOrder, served.fifo.order]

/-- For every interleaving of the thread with sessions that change the power and with
threads that add packets and update the pools, when each packet fits and finds a free slot:
the packets sent, the one the thread has in its hands and those that wait are at any time
the packets added, in their order. -/
theorem run_commands (config : Config) (ddl : DdlData) (autoPowerOn : Bool) (time : Timeval)
    {actions : List Action} {state : State}
    (proper : MeetsAlong (step config) Proper (.start ddl autoPowerOn time) actions)
    (executed : run (step config) (.start ddl autoPowerOn time) actions = some state) :
    state.commands ++ state.place.packet ++ state.ddl.queue.ring.contents qsize =
      state.ddl.queue.added :=
  (run_invariant_of_meets step_served (State.start_served ddl autoPowerOn time) proper
    executed).all

/-- A bus without any checks. -/
def plainConfig : Config :=
  { checkshort := false
    riCheck := false
    dsrInverse := false
    shortcutdelay := 0
    idleData := List.replicate 20 0x55
    nmraIdleData := List.replicate 80 0x55 }

/-- An input without alarms. -/
def quietInput : Input :=
  ⟨some 0, ⟨0, 0⟩, ⟨0, 0⟩, true⟩

/-- A packet that is added, taken and sent. -/
theorem run_commands_one :
    let data := QData.of 3 (List.replicate 18 lo) .m2LocoPkt 18
    let actions := .add data :: List.replicate 11 (.thread quietInput)
    ∃ state, run (step plainConfig) (.start maerklinBus true ⟨0, 0⟩) actions = some state ∧
      state.commands ++ state.place.packet ++ state.ddl.queue.ring.contents qsize =
        state.ddl.queue.added := by
  intro data actions
  have proper : MeetsAlong (step plainConfig) Proper (.start maerklinBus true ⟨0, 0⟩) actions := by
    intro next taken
    refine ⟨⟨rfl, by decide⟩, ?_⟩
    apply meetsAlong_of_forall
    intro action mem state
    rw [List.eq_of_mem_replicate mem]
    trivial
  exact ⟨_, rfl, run_commands plainConfig maerklinBus true ⟨0, 0⟩ proper rfl⟩

end Srcpd.Ddl.RefreshThread
