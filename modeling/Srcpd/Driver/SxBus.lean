import Srcpd.Command.Queues
import Srcpd.Command.Gl

/-!
# The bytes of a Selectrix bus

Locomotives and accessories share the array `bus_data`: a command reads the byte of its
address, changes it, writes it to the interface and keeps it.  `readconfig_Selectrix`
clears the 112 addresses of one bus only, while the array and the limit of the addresses
are those of two, also for an interface that has one bus and sees seven bits of an address.
`stepsRight_iff` says for which commands the array is what was written.
-/

namespace Srcpd.Driver.SxBus

open Srcpd.Command Srcpd.Queue Srcpd.Transition

/-! ## The port -/

/-- Levels above it write nothing to a port. -/
def dbgDebug : Int := 5

/-- Write command on the Selectrix bus. -/
def sxWrite : BitVec 8 := 0x80

/-- Rautenhaus control address. -/
def rautenhsCC : BitVec 8 := 126

/-- Select bus 0. -/
def rautenhsB0 : BitVec 8 := 0x00

/-- Select bus 1. -/
def rautenhsB1 : BitVec 8 := 0x02

/-- Rautenhaus commanding the bus. -/
def rautenhausMode : BitVec 32 := 0x0002

/-- Two buses are controlled. -/
def rautenhausDbl : BitVec 32 := 0x0020

/-- Last selected bus. -/
def rautenhausRtbs : BitVec 32 := 0x0080

/-- The data of the bus, the locomotives, and the bytes that were handed to the port. -/
structure State where
  fd : Int
  debuglevel : Int
  sxFlags : BitVec 32
  maxAddress : Int
  busData : Int → BitVec 32
  gl : Gl
  written : List (BitVec 8)

/-- All bits of a flag are set. -/
def State.checkSXflag (state : State) (flag : BitVec 32) : Prop :=
  state.sxFlags &&& flag = flag

instance (state : State) (flag : BitVec 32) : Decidable (state.checkSXflag flag) :=
  inferInstanceAs (Decidable (state.sxFlags &&& flag = flag))

/-- One byte to the port. -/
def writePort (state : State) (b : BitVec 8) : State :=
  if state.debuglevel ≤ dbgDebug then { state with written := state.written ++ [b] } else state

/-- Make bus selector for Rautenhaus interface. -/
def selRautenhaus (state : State) (adres : Int) : State :=
  if state.checkSXflag (rautenhausMode + rautenhausDbl) then
    if 127 < adres then
      if ¬ state.checkSXflag rautenhausRtbs then
        let state := writePort (writePort state (sxWrite + rautenhsCC)) rautenhsB1
        { state with sxFlags := state.sxFlags ||| rautenhausRtbs }
      else state
    else if state.checkSXflag rautenhausRtbs then
      let state := writePort (writePort state (sxWrite + rautenhsCC)) rautenhsB0
      { state with sxFlags := state.sxFlags &&& ~~~ rautenhausRtbs }
    else state
  else state

/-- The write command for an address. -/
def sxAddress (sxAdres : Int) : BitVec 8 :=
  sxWrite + (BitVec.ofInt 32 sxAdres &&& 0x7f).setWidth 8

/-- Write data to the bus. -/
def writeSXbus (state : State) (sxAdres : Int) (sxData : BitVec 32) : State :=
  if state.fd ≠ -1 then
    let state := selRautenhaus state sxAdres
    writePort (writePort state (sxAddress sxAdres)) (sxData.setWidth 8)
  else state

/-! ## The commands -/

/-- Direction, and the speed that is left. -/
def glDirection (old : BitVec 32) (gltmp : GlState) : BitVec 32 × GlState :=
  if gltmp.direction = 0 then (0x20, gltmp)
  else if gltmp.direction = 1 then (0x00, gltmp)
  else (old &&& 0x20, { gltmp with speed := 0 })

/-- Speed, light and function beside the direction. -/
def glData (direction : BitVec 32) (gltmp : GlState) : BitVec 32 :=
  direction + BitVec.ofInt 32 gltmp.speed + (if gltmp.funcs.getLsbD 0 then 0x40 else 0) +
    (if gltmp.funcs.getLsbD 1 then 0x80 else 0)

/-- The part of the thread for a locomotive. -/
def handleGl (state : State) (gltmp : GlState) : State :=
  let addr := gltmp.id
  if addr < state.maxAddress then
    if gltmp.state = 2 then state
    else
      let driven := glDirection (state.busData addr) gltmp
      let data := glData driven.1 driven.2
      let state := writeSXbus state addr data
      { state with
        busData := Function.update state.busData addr data
        gl := (cacheSetGL state.gl addr driven.2).2 }
  else state

/-- Set pin to "0". -/
def clearMask (port : Int) : Option (BitVec 32) :=
  match port with
  | 1 => some 0xfe
  | 2 => some 0xfd
  | 3 => some 0xfb
  | 4 => some 0xf7
  | 5 => some 0xef
  | 6 => some 0xdf
  | 7 => some 0xbf
  | 8 => some 0x7f
  | _ => none

/-- Set pin to "1". -/
def setMask (port : Int) : Option (BitVec 32) :=
  match port with
  | 1 => some 0x01
  | 2 => some 0x02
  | 3 => some 0x04
  | 4 => some 0x08
  | 5 => some 0x10
  | 6 => some 0x20
  | 7 => some 0x40
  | 8 => some 0x80
  | _ => none

/-- An invalid port number changes nothing. -/
def gaData (old : BitVec 32) (gatmp : GaState) : BitVec 32 :=
  if gatmp.action = 0 then
    match clearMask gatmp.port with
    | some mask => old &&& mask
    | none => old
  else
    match setMask gatmp.port with
    | some mask => old ||| mask
    | none => old

/-- The part of the thread for an accessory. -/
def handleGa (state : State) (gatmp : GaState) : State :=
  let addr := gatmp.id
  if addr < state.maxAddress then
    let data := gaData (state.busData addr) gatmp
    let state := writeSXbus state addr data
    { state with busData := Function.update state.busData addr data }
  else state

/-- What is in the queues. -/
inductive Command
  | gl (gltmp : GlState)
  | ga (gatmp : GaState)

/-- The address. -/
def Command.id : Command → Int
  | .gl gltmp => gltmp.id
  | .ga gatmp => gatmp.id

/-- What the thread does with a command. -/
def handle (state : State) : Command → State
  | .gl gltmp => handleGl state gltmp
  | .ga gatmp => handleGa state gatmp

/-! ## The interface -/

/-- A bus and the number of a byte on it. -/
abbrev BusByte := Nat × Nat

/-- A Rautenhaus interface, with its control byte at address 126. -/
abbrev State.rautenhaus (state : State) : Prop :=
  state.checkSXflag rautenhausMode

/-- One for two buses. -/
abbrev State.double (state : State) : Prop :=
  state.checkSXflag (rautenhausMode + rautenhausDbl)

/-- The bus byte of an address; the command has room for seven bits of it. -/
def State.busByte (state : State) (addr : Int) : BusByte :=
  (if state.double ∧ 127 < addr then 1 else 0, (BitVec.ofInt 32 addr &&& 0x7f).toNat)

/-- The bus that is selected as far as the flags tell. -/
def State.flaggedBus (state : State) : Nat :=
  if state.double ∧ state.checkSXflag rautenhausRtbs then 1 else 0

/-- What the interface makes of write commands: the bus that is selected behind them, and the
bytes of the buses that are written.  The control byte of a Rautenhaus interface is none of
them. -/
def received (state : State) : Nat → List (BitVec 8) → Nat × List (BusByte × BitVec 8)
  | bus, address :: data :: rest =>
      if state.rautenhaus ∧ address = sxWrite + rautenhsCC then
        received state (if state.double ∧ data.getLsbD 1 then 1 else 0) rest
      else
        let later := received state bus rest
        (later.1, ((bus, (address &&& 0x7f).toNat), data) :: later.2)
  | bus, _ => (bus, [])

/-- The driver, with the selected bus, the last byte written to each byte of the buses, and
the addresses that there were commands for. -/
structure Watched where
  state : State
  bus : Nat
  last : BusByte → Option (BitVec 8)
  addressed : Int → Bool

/-- No command yet. -/
def Watched.start (state : State) : Watched :=
  ⟨state, state.flaggedBus, fun _ => none, fun _ => false⟩

/-- What the interface makes of a command. -/
def Watched.received (watched : Watched) (command : Command) :
    Nat × List (BusByte × BitVec 8) :=
  SxBus.received watched.state watched.bus
    ((handle watched.state command).written.drop watched.state.written.length)

/-- A command, and what is written with it. -/
def Watched.next (watched : Watched) (command : Command) : Watched :=
  { state := handle watched.state command
    bus := (watched.received command).1
    last := (watched.received command).2.foldl
      (fun last write => Function.update last write.1 (some write.2)) watched.last
    addressed :=
      if command.id < watched.state.maxAddress then
        Function.update watched.addressed command.id true
      else watched.addressed }

/-- Every command is processed. -/
def step : Step Watched Command := fun watched command => some (watched.next command)

/-- The bus byte of an address as it was written last; before that, as it is remembered. -/
def Watched.content (watched : Watched) (addr : Int) : BitVec 32 :=
  (watched.last (watched.state.busByte addr)).elim (watched.state.busData addr)
    fun byte => byte.setWidth 32

/-! ## The queue -/

/-- A command that the queue has handed out in one of its runs. -/
def Queued (gltmp : GlState) : Prop :=
  ∃ tables actions queue,
    run glQueue.step (Producers.init (fun _ => GlState.zero) tables) actions = some queue ∧
      gltmp ∈ queue.log.taken

/-- Neither a slot nor a command that was taken has a state. -/
structure Stateless (log : Log GlState) : Prop where
  slots : ∀ i, (log.ring.slots i).state = 0
  taken : ∀ gltmp ∈ log.taken, gltmp.state = 0

theorem Stateless.take {log : Log GlState} (stateless : Stateless log) :
    Stateless (log.take glQueuelen id) := by
  rw [Log.take]
  split
  · exact stateless
  · rename_i entry rest found
    rw [Ring.take] at found
    split at found
    · cases found
    · cases found
      constructor
      · intro i
        dsimp only
        rw [Function.update_apply]
        split
        · exact stateless.slots _
        · exact stateless.slots i
      · intro gltmp mem
        rcases List.mem_append.mp mem with earlier | now
        · exact stateless.taken gltmp earlier
        · rw [List.mem_singleton.mp now]
          exact stateless.slots _

/-- An entry keeps the state of its slot. -/
theorem stateless_step (queue : Producers GlState Gl GlCommand) (action : Action Gl GlCommand)
    (next : Producers GlState Gl GlCommand) (stateless : Stateless queue.log)
    (taken : glQueue.step queue action = some next) : Stateless next.log := by
  cases action with
  | change tables =>
      cases taken
      exact stateless
  | test session command =>
      rw [Kind.step] at taken
      split_ifs at taken <;>
      · cases taken
        exact stateless
  | append session =>
      rcases Option.map_eq_some_iff.mp taken with ⟨command, -, rfl⟩
      constructor
      · intro i
        have entry : (glEntry queue.tables command
            (queue.log.ring.slots queue.log.ring.inIndex)).state = 0 := stateless.slots _
        change (Function.update queue.log.ring.slots _ _ i).state = 0
        rw [Function.update_apply]
        split
        · exact entry
        · exact stateless.slots i
      · exact stateless.taken
  | dequeue =>
      cases taken
      exact stateless.take

/-- A command that is taken from the queue has no state. -/
theorem taken_state {tables : Gl} {actions : List (Action Gl GlCommand)}
    {queue : Producers GlState Gl GlCommand}
    (executed : run glQueue.step (Producers.init (fun _ => GlState.zero) tables) actions =
      some queue) : ∀ gltmp ∈ queue.log.taken, gltmp.state = 0 := by
  have start : Stateless (Log.mk ⟨fun _ => GlState.zero, 0, 0⟩ [] []) :=
    ⟨fun _ => rfl, fun _ mem => absurd mem List.not_mem_nil⟩
  exact (run_invariant stateless_step start executed).taken

theorem Queued.state {gltmp : GlState} (queued : Queued gltmp) : gltmp.state = 0 := by
  rcases queued with ⟨_, _, _, executed, taken⟩
  exact taken_state executed gltmp taken

/-! ## What has to hold -/

/-- Behind `readconfig_Selectrix`.  `SXmax` is 112; the other entries are what the memory
contained. -/
structure Configured (state : State) : Prop where
  maxAddress : state.maxAddress = 0x100
  cleared : ∀ addr, 0 ≤ addr → addr < 112 → state.busData addr = 0

/-- A command from the queue with numbers in range. -/
def Command.Admitted : Command → Prop
  | .gl gltmp => 0 < gltmp.id ∧ Queued gltmp ∧ (0 ≤ gltmp.speed ∧ gltmp.speed ≤ 31) ∧
      0 ≤ gltmp.direction ∧ gltmp.direction ≤ 2
  | .ga gatmp => (0 < gatmp.id ∧ gatmp.id < 0x100) ∧ (1 ≤ gatmp.port ∧ gatmp.port ≤ 8) ∧
      (gatmp.action = 0 ∨ gatmp.action = 1)

/-- Speed, direction, light and function. -/
structure GlByte (old data : BitVec 32) (gltmp : GlState) : Prop where
  speed : ((data.toNat % 32 : Nat) : Int) = if gltmp.direction = 2 then 0 else gltmp.speed
  direction : data.getLsbD 5 =
    if gltmp.direction = 2 then old.getLsbD 5 else decide (gltmp.direction = 0)
  light : data.getLsbD 6 = gltmp.funcs.getLsbD 0
  function : data.getLsbD 7 = gltmp.funcs.getLsbD 1

/-- The bit of the port, and no other. -/
structure GaByte (old data : BitVec 32) (gatmp : GaState) : Prop where
  pin : data.getLsbD (gatmp.port - 1).toNat = decide (gatmp.action = 1)
  others : ∀ i : Nat, i < 8 → (i : Int) ≠ gatmp.port - 1 → data.getLsbD i = old.getLsbD i

/-- The byte on the bus tells what the command says and keeps the rest. -/
def Command.Byte (old data : BitVec 32) : Command → Prop
  | .gl gltmp => GlByte old data gltmp
  | .ga gatmp => GaByte old data gatmp

/-- One byte of the buses is written, the one of the address, and remembered; it is the byte
that was there with what the command changes; nothing else is remembered, and no other address
of this byte remembers what is no longer there. -/
structure Right (watched : Watched) (command : Command) : Prop where
  last : ∃ data,
    (watched.received command).2 = [(watched.state.busByte command.id, data)] ∧
      (handle watched.state command).busData command.id = data.setWidth 32
  byte : command.Byte (watched.content command.id)
    ((handle watched.state command).busData command.id)
  others : ∀ addr ≠ command.id,
    (handle watched.state command).busData addr = watched.state.busData addr
  aliases : ∀ addr, watched.addressed addr = true →
    watched.state.busByte addr = watched.state.busByte command.id →
      (handle watched.state command).busData addr =
        (handle watched.state command).busData command.id

/-- There is no byte for an address from the limit on. -/
def StepRight (watched : Watched) (command : Command) : Prop :=
  if command.id < watched.state.maxAddress then Right watched command
  else handle watched.state command = watched.state

/-- Something is written to the port. -/
def State.Open (state : State) : Prop :=
  state.fd ≠ -1 ∧ state.debuglevel ≤ dbgDebug

/-- A bit is set in a byte. -/
def Command.OnByte (old : BitVec 32) : Command → Prop
  | .gl _ => True
  | .ga gatmp => gatmp.action = 1 → old.toNat < 256

/-- The condition on a command: the port is open, the byte is one of a bus, and an address
that has the same byte already has what the command makes of it. -/
structure Fits (watched : Watched) (command : Command) : Prop where
  isOpen : watched.state.Open
  onByte : command.OnByte (watched.state.busData command.id)
  onBus : ¬ (watched.state.rautenhaus ∧ (watched.state.busByte command.id).2 = 126)
  aliases : ∀ addr ≠ command.id, watched.addressed addr = true →
    watched.state.busByte addr = watched.state.busByte command.id →
      command.Byte (watched.state.busData command.id) (watched.state.busData addr)

/-- Nothing is asked for an address from the limit on. -/
def StepFits (watched : Watched) (command : Command) : Prop :=
  command.id < watched.state.maxAddress → Fits watched command

/-! ## The port -/

variable {state : State} {addr : Int} {data old : BitVec 32} {gltmp : GlState} {gatmp : GaState}
  {command : Command}

/-- A bit that is set or cleared is none of the mode. -/
theorem and_mode (flags mask mode : BitVec 32) (apart : mask &&& mode = 0) :
    (flags ||| mask) &&& mode = flags &&& mode ∧
      (flags &&& ~~~ mask) &&& mode = flags &&& mode := by
  constructor
  · rw [BitVec.and_or_distrib_right, apart]
    exact BitVec.or_zero
  · have kept : ~~~ mask &&& mode = mode := by
      ext i inside
      have zero : (mask &&& mode)[i] = false := by simp [apart]
      rw [BitVec.getElem_and] at zero
      rw [BitVec.getElem_and, BitVec.getElem_not]
      cases first : mask[i]
      · rfl
      · rw [first, Bool.true_and] at zero
        rw [zero]
        rfl
    rw [BitVec.and_assoc, kept]

/-- What no write changes. -/
structure SameBus (state next : State) : Prop where
  fd : next.fd = state.fd
  debuglevel : next.debuglevel = state.debuglevel
  maxAddress : next.maxAddress = state.maxAddress
  busData : next.busData = state.busData
  rautenhaus : next.rautenhaus ↔ state.rautenhaus
  double : next.double ↔ state.double

theorem SameBus.trans {first second third : State} (before : SameBus first second)
    (after : SameBus second third) : SameBus first third :=
  ⟨after.fd.trans before.fd, after.debuglevel.trans before.debuglevel,
    after.maxAddress.trans before.maxAddress, after.busData.trans before.busData,
    after.rautenhaus.trans before.rautenhaus, after.double.trans before.double⟩

theorem SameBus.refl (state : State) : SameBus state state :=
  ⟨rfl, rfl, rfl, rfl, Iff.rfl, Iff.rfl⟩

theorem writePort_same (state : State) (b : BitVec 8) : SameBus state (writePort state b) := by
  unfold writePort
  split
  · exact ⟨rfl, rfl, rfl, rfl, Iff.rfl, Iff.rfl⟩
  · exact SameBus.refl state

/-- The flag of the selected bus is none of the mode. -/
theorem rtbs_same (state : State) :
    SameBus state { state with sxFlags := state.sxFlags ||| rautenhausRtbs } ∧
      SameBus state { state with sxFlags := state.sxFlags &&& ~~~ rautenhausRtbs } := by
  have mode := and_mode state.sxFlags rautenhausRtbs rautenhausMode (by decide)
  have double := and_mode state.sxFlags rautenhausRtbs (rautenhausMode + rautenhausDbl) (by decide)
  constructor
  · refine ⟨rfl, rfl, rfl, rfl, ?_, ?_⟩
    · exact iff_of_eq (congrArg (· = _) mode.1)
    · exact iff_of_eq (congrArg (· = _) double.1)
  · refine ⟨rfl, rfl, rfl, rfl, ?_, ?_⟩
    · exact iff_of_eq (congrArg (· = _) mode.2)
    · exact iff_of_eq (congrArg (· = _) double.2)

theorem writePort_of_open (debug : state.debuglevel ≤ dbgDebug) (b : BitVec 8) :
    writePort state b = { state with written := state.written ++ [b] } :=
  if_pos debug

theorem writePort_of_debug (debug : ¬ state.debuglevel ≤ dbgDebug) (b : BitVec 8) :
    writePort state b = state :=
  if_neg debug

theorem selRautenhaus_same (state : State) (addr : Int) :
    SameBus state (selRautenhaus state addr) := by
  have written (b : BitVec 8) :
      SameBus state (writePort (writePort state (sxWrite + rautenhsCC)) b) :=
    (writePort_same state _).trans (writePort_same _ b)
  unfold selRautenhaus
  split_ifs
  · exact SameBus.refl state
  · exact (written _).trans (rtbs_same _).1
  · exact (written _).trans (rtbs_same _).2
  · exact SameBus.refl state
  · exact SameBus.refl state

theorem writeSXbus_same (state : State) (addr : Int) (data : BitVec 32) :
    SameBus state (writeSXbus state addr data) := by
  unfold writeSXbus
  split
  · exact (selRautenhaus_same state addr).trans
      ((writePort_same _ _).trans (writePort_same _ _))
  · exact SameBus.refl state

/-- The bytes that select the bus of an address. -/
def selection (state : State) (addr : Int) : List (BitVec 8) :=
  if state.double ∧ ¬ (state.checkSXflag rautenhausRtbs ↔ 127 < addr) then
    [sxWrite + rautenhsCC, if 127 < addr then rautenhsB1 else rautenhsB0]
  else []

/-- The flag is set and cleared. -/
theorem rtbs_flag (state : State) :
    State.checkSXflag { state with sxFlags := state.sxFlags ||| rautenhausRtbs }
        rautenhausRtbs ∧
      ¬ State.checkSXflag { state with sxFlags := state.sxFlags &&& ~~~ rautenhausRtbs }
        rautenhausRtbs := by
  constructor
  · change (state.sxFlags ||| rautenhausRtbs) &&& rautenhausRtbs = rautenhausRtbs
    ext i inside
    simp only [BitVec.getElem_and, BitVec.getElem_or]
    cases state.sxFlags[i] <;> cases rautenhausRtbs[i] <;> rfl
  · intro set
    have none : (state.sxFlags &&& ~~~ rautenhausRtbs) &&& rautenhausRtbs = 0 := by
      rw [BitVec.and_assoc, BitVec.and_comm (~~~ rautenhausRtbs), BitVec.and_not_self]
      exact BitVec.and_zero
    exact absurd (none.symm.trans set) (by decide)

theorem selRautenhaus_of_open (debug : state.debuglevel ≤ dbgDebug) :
    (selRautenhaus state addr).written = state.written ++ selection state addr ∧
      (state.double →
        ((selRautenhaus state addr).checkSXflag rautenhausRtbs ↔ 127 < addr)) := by
  unfold selRautenhaus selection
  by_cases double : state.double
  · rw [if_pos double]
    by_cases high : 127 < addr
    · rw [if_pos high]
      by_cases set : state.checkSXflag rautenhausRtbs
      · rw [if_neg (not_not.mpr set), if_neg fun other => other.2 (iff_of_true set high)]
        exact ⟨(List.append_nil _).symm, fun _ => iff_of_true set high⟩
      · rw [if_pos set, if_pos ⟨double, fun same => set (same.mpr high)⟩, if_pos high,
          writePort_of_open debug, writePort_of_open (by exact debug)]
        refine ⟨List.append_assoc _ _ _, fun _ => iff_of_true ?_ high⟩
        exact (rtbs_flag { state with written := _ }).1
    · rw [if_neg high]
      by_cases set : state.checkSXflag rautenhausRtbs
      · rw [if_pos set, if_pos ⟨double, fun same => high (same.mp set)⟩, if_neg high,
          writePort_of_open debug, writePort_of_open (by exact debug)]
        refine ⟨List.append_assoc _ _ _, fun _ => iff_of_false ?_ high⟩
        exact (rtbs_flag { state with written := _ }).2
      · rw [if_neg set, if_neg fun other => other.2 (iff_of_false set high)]
        exact ⟨(List.append_nil _).symm, fun _ => iff_of_false set high⟩
  · rw [if_neg double, if_neg fun other => double other.1]
    exact ⟨(List.append_nil _).symm, fun other => absurd other double⟩

theorem selRautenhaus_of_debug (debug : ¬ state.debuglevel ≤ dbgDebug) :
    (selRautenhaus state addr).debuglevel = state.debuglevel ∧
      (selRautenhaus state addr).written = state.written := by
  unfold selRautenhaus
  rw [writePort_of_debug debug, writePort_of_debug debug, writePort_of_debug debug]
  split_ifs <;> exact ⟨rfl, rfl⟩

/-- The address and the byte, behind a selection of the bus. -/
theorem writeSXbus_of_open (isOpen : state.Open) :
    (writeSXbus state addr data).written =
        state.written ++ (selection state addr ++ [sxAddress addr, data.setWidth 8]) ∧
      (state.double →
        ((writeSXbus state addr data).checkSXflag rautenhausRtbs ↔ 127 < addr)) := by
  rcases isOpen with ⟨fd, debug⟩
  have onBus : (selRautenhaus state addr).written = _ ∧ _ := selRautenhaus_of_open debug
  rcases onBus with ⟨written, flag⟩
  rw [← (selRautenhaus_same state addr).debuglevel] at debug
  rw [writeSXbus, if_pos fd]
  dsimp only
  rw [writePort_of_open debug, writePort_of_open (by exact debug)]
  refine ⟨?_, flag⟩
  dsimp only
  rw [written]
  simp only [List.append_assoc, List.cons_append, List.nil_append]

theorem writeSXbus_of_closed (closed : ¬ state.Open) :
    (writeSXbus state addr data).written = state.written := by
  rw [writeSXbus]
  split
  · rename_i fd
    have debug : ¬ state.debuglevel ≤ dbgDebug := fun debug => closed ⟨fd, debug⟩
    have selected : (selRautenhaus state addr).debuglevel = state.debuglevel ∧
        (selRautenhaus state addr).written = state.written := selRautenhaus_of_debug debug
    rw [← selected.1] at debug
    dsimp only
    rw [writePort_of_debug debug, writePort_of_debug debug]
    exact selected.2
  · rfl

/-! ## The byte of a locomotive -/

/-- The fields do not overlap. -/
theorem fields : ∀ (direction light function : Bool) (speed : Fin 32),
    let data : BitVec 32 := (if direction then 0x20 else 0) + BitVec.ofNat 32 speed +
      (if light then 0x40 else 0) + (if function then 0x80 else 0)
    data.toNat % 32 = speed ∧ data.getLsbD 5 = direction ∧ data.getLsbD 6 = light ∧
      data.getLsbD 7 = function ∧ data.toNat < 256 := by
  decide

theorem and_direction : old &&& 0x20 = if old.getLsbD 5 then 0x20 else 0 :=
  BitVec.and_twoPow old 5

theorem glDirection_drive (direction : gltmp.direction ≠ 2)
    (bounds : 0 ≤ gltmp.direction ∧ gltmp.direction ≤ 2) :
    glDirection old gltmp = (if decide (gltmp.direction = 0) then 0x20 else 0, gltmp) := by
  unfold glDirection
  by_cases backward : gltmp.direction = 0
  · rw [if_pos backward, if_pos (decide_eq_true backward)]
  · rw [if_neg backward, if_pos (by omega), if_neg fun isBackward =>
      backward (of_decide_eq_true isBackward)]

theorem glDirection_stop (direction : gltmp.direction = 2) :
    glDirection old gltmp =
      (if old.getLsbD 5 then 0x20 else 0, { gltmp with speed := 0 }) := by
  unfold glDirection
  rw [if_neg (by omega), if_neg (by omega), and_direction]

theorem glData_fields (admitted : (Command.gl gltmp).Admitted) :
    GlByte old (glData (glDirection old gltmp).1 (glDirection old gltmp).2) gltmp ∧
      (glData (glDirection old gltmp).1 (glDirection old gltmp).2).toNat < 256 := by
  rcases admitted with ⟨-, -, ⟨slow, fast⟩, bounds⟩
  by_cases stop : gltmp.direction = 2
  · rw [glDirection_stop stop, glData]
    rcases fields (old.getLsbD 5) (gltmp.funcs.getLsbD 0) (gltmp.funcs.getLsbD 1) 0 with
      ⟨speed, direction, light, function, byte⟩
    refine ⟨⟨?_, ?_, light, function⟩, byte⟩
    · rw [if_pos stop]
      exact congrArg Nat.cast speed
    · rw [if_pos stop]
      exact direction
  · have steps : gltmp.speed.toNat < 32 := by omega
    have speedEq : BitVec.ofInt 32 gltmp.speed = BitVec.ofNat 32 gltmp.speed.toNat := by
      rw [← BitVec.ofInt_natCast, Int.toNat_of_nonneg slow]
    rw [glDirection_drive stop bounds, glData]
    dsimp only
    rw [speedEq]
    rcases fields (decide (gltmp.direction = 0)) (gltmp.funcs.getLsbD 0)
      (gltmp.funcs.getLsbD 1) ⟨gltmp.speed.toNat, steps⟩ with
      ⟨speed, direction, light, function, byte⟩
    refine ⟨⟨?_, ?_, light, function⟩, byte⟩
    · rw [if_neg stop]
      exact (congrArg Nat.cast speed).trans (Int.toNat_of_nonneg slow)
    · rw [if_neg stop]
      exact direction

/-! ## The byte of an accessory -/

variable {port : Int}

theorem clearMask_bits (low : 1 ≤ port) (high : port ≤ 8) :
    ∃ mask, clearMask port = some mask ∧ mask.toNat < 256 ∧
      ∀ i : Nat, i < 8 → mask.getLsbD i = decide ((i : Int) ≠ port - 1) := by
  interval_cases port <;> exact ⟨_, rfl, by decide, by decide⟩

theorem setMask_bits (low : 1 ≤ port) (high : port ≤ 8) :
    ∃ mask, setMask port = some mask ∧ mask.toNat < 256 ∧
      ∀ i : Nat, i < 8 → mask.getLsbD i = decide ((i : Int) = port - 1) := by
  interval_cases port <;> exact ⟨_, rfl, by decide, by decide⟩

/-- A pin is cleared in a byte, and set in what was there. -/
theorem gaData_fields (admitted : (Command.ga gatmp).Admitted) :
    GaByte old (gaData old gatmp) gatmp ∧
      ((gaData old gatmp).toNat < 256 ↔ (gatmp.action = 1 → old.toNat < 256)) := by
  rcases admitted with ⟨-, ⟨low, high⟩, action⟩
  have inside : (gatmp.port - 1).toNat < 8 := by omega
  have pin : ((gatmp.port - 1).toNat : Int) = gatmp.port - 1 := by omega
  rcases action with cleared | set
  · rcases clearMask_bits low high with ⟨mask, known, small, bits⟩
    have data : gaData old gatmp = old &&& mask := by
      rw [gaData, if_pos cleared, known]
    rw [data]
    refine ⟨⟨?_, fun i byte other => ?_⟩, fun _ set => by omega, fun _ => ?_⟩
    · rw [BitVec.getLsbD_and, bits _ inside, decide_eq_false (not_not.mpr pin), Bool.and_false,
        cleared]
      rfl
    · rw [BitVec.getLsbD_and, bits i byte, decide_eq_true other, Bool.and_true]
    · rw [BitVec.toNat_and]
      exact Nat.and_le_right.trans_lt small
  · rcases setMask_bits low high with ⟨mask, known, small, bits⟩
    have data : gaData old gatmp = old ||| mask := by
      rw [gaData, if_neg (by omega), known]
    rw [data]
    refine ⟨⟨?_, fun i byte other => ?_⟩, fun byte _ => ?_, fun fits => ?_⟩
    · rw [BitVec.getLsbD_or, bits _ inside, decide_eq_true pin, Bool.or_true, set]
      rfl
    · rw [BitVec.getLsbD_or, bits i byte, decide_eq_false other, Bool.or_false]
    · rw [BitVec.toNat_or] at byte
      exact Nat.left_le_or.trans_lt byte
    · rw [BitVec.toNat_or]
      exact Nat.or_lt_two_pow (show old.toNat < 2 ^ 8 from fits set) small

/-! ## One command -/

theorem handle_gl (inside : gltmp.id < state.maxAddress) (alive : gltmp.state ≠ 2) :
    let driven := glDirection (state.busData gltmp.id) gltmp
    let data := glData driven.1 driven.2
    handle state (.gl gltmp) =
      { writeSXbus state gltmp.id data with
        busData := Function.update state.busData gltmp.id data
        gl := (cacheSetGL (writeSXbus state gltmp.id data).gl gltmp.id driven.2).2 } := by
  intro driven data
  have kept := (writeSXbus_same state gltmp.id data).busData
  rw [← kept]
  exact (if_pos inside).trans (if_neg alive)

theorem handle_ga (inside : gatmp.id < state.maxAddress) :
    let data := gaData (state.busData gatmp.id) gatmp
    handle state (.ga gatmp) =
      { writeSXbus state gatmp.id data with
        busData := Function.update state.busData gatmp.id data } := by
  intro data
  have kept := (writeSXbus_same state gatmp.id data).busData
  rw [← kept]
  exact if_pos inside

theorem handle_outside (outside : ¬ command.id < state.maxAddress) :
    handle state command = state := by
  cases command with
  | gl gltmp => exact if_neg outside
  | ga gatmp => exact if_neg outside

/-- A command leaves everything as it is, or writes one byte and stores it. -/
theorem handle_cases (state : State) (command : Command) :
    handle state command = state ∨ ∃ data gl, handle state command =
      { writeSXbus state command.id data with
        busData := Function.update state.busData command.id data
        gl := gl } := by
  by_cases inside : command.id < state.maxAddress
  · cases command with
    | gl gltmp =>
        by_cases removed : gltmp.state = 2
        · exact .inl ((if_pos inside).trans (if_pos removed))
        · exact .inr ⟨_, _, handle_gl inside removed⟩
    | ga gatmp => exact .inr ⟨_, _, handle_ga inside⟩
  · exact .inl (handle_outside inside)

/-- What is written and stored for an address below the limit. -/
theorem handle_inside (admitted : command.Admitted) (inside : command.id < state.maxAddress) :
    ∃ data gl, handle state command =
        { writeSXbus state command.id data with
          busData := Function.update state.busData command.id data
          gl := gl } ∧
      command.Byte (state.busData command.id) data ∧
      (data.toNat < 256 ↔ command.OnByte (state.busData command.id)) := by
  cases command with
  | gl gltmp =>
      have alive : gltmp.state ≠ 2 := by
        rw [admitted.2.1.state]
        decide
      have fields : GlByte (state.busData gltmp.id) _ gltmp ∧ _ := glData_fields admitted
      exact ⟨_, _, handle_gl inside alive, fields.1, fun _ => trivial, fun _ => fields.2⟩
  | ga gatmp =>
      have fields : GaByte (state.busData gatmp.id) _ gatmp ∧ _ := gaData_fields admitted
      exact ⟨_, _, handle_ga inside, fields.1, fields.2⟩

theorem handle_same (state : State) (command : Command) :
    (handle state command).fd = state.fd ∧
      (handle state command).debuglevel = state.debuglevel ∧
      (handle state command).maxAddress = state.maxAddress ∧
      ((handle state command).double ↔ state.double) := by
  rcases handle_cases state command with unchanged | ⟨data, gl, stored⟩
  · rw [unchanged]
    exact ⟨rfl, rfl, rfl, Iff.rfl⟩
  · have same := writeSXbus_same state command.id data
    rw [stored]
    exact ⟨same.fd, same.debuglevel, same.maxAddress, same.double⟩

theorem handle_busByte (state : State) (command : Command) (addr : Int) :
    (handle state command).busByte addr = state.busByte addr := by
  unfold State.busByte
  simp only [(handle_same state command).2.2.2]

theorem handle_open (isOpen : state.Open) : (handle state command).Open := by
  rcases handle_same state command with ⟨fd, debuglevel, -⟩
  rw [State.Open, fd, debuglevel]
  exact isOpen

theorem setWidth_of_lt (byte : data.toNat < 256) : (data.setWidth 8).setWidth 32 = data := by
  apply BitVec.eq_of_toNat_eq
  rw [BitVec.toNat_setWidth, BitVec.toNat_setWidth]
  omega

theorem toNat_setWidth_lt (byte : BitVec 8) : (byte.setWidth 32).toNat < 256 := by
  rw [BitVec.toNat_setWidth]
  omega

/-! ## The byte that a command makes -/

/-- A byte is its eight bits. -/
theorem byte_ext {first second : BitVec 32} (firstByte : first.toNat < 256)
    (secondByte : second.toNat < 256)
    (same : ∀ i < 8, first.getLsbD i = second.getLsbD i) : first = second := by
  apply BitVec.eq_of_getLsbD_eq
  intro i _
  by_cases inside : i < 8
  · exact same i inside
  · have none (value : BitVec 32) (byte : value.toNat < 256) : value.getLsbD i = false := by
      apply Nat.testBit_lt_two_pow
      exact lt_of_lt_of_le (show value.toNat < 2 ^ 8 from byte)
        (Nat.pow_le_pow_right (by decide) (by omega))
    rw [none first firstByte, none second secondByte]

theorem GlByte.bits {first second : BitVec 32} (one : GlByte old first gltmp)
    (two : GlByte old second gltmp) : ∀ i < 8, first.getLsbD i = second.getLsbD i := by
  have low : first.toNat % 32 = second.toNat % 32 :=
    Int.ofNat_inj.mp (one.speed.trans two.speed.symm)
  intro i inside
  by_cases speed : i < 5
  · have bit (value : BitVec 32) : value.getLsbD i = (value.toNat % 2 ^ 5).testBit i := by
      rw [Nat.testBit_mod_two_pow, decide_eq_true speed, Bool.true_and]
      rfl
    rw [bit first, bit second, show first.toNat % 2 ^ 5 = second.toNat % 2 ^ 5 from low]
  · have field : i = 5 ∨ i = 6 ∨ i = 7 := by omega
    rcases field with rfl | rfl | rfl
    · exact one.direction.trans two.direction.symm
    · exact one.light.trans two.light.symm
    · exact one.function.trans two.function.symm

theorem GaByte.bits {first second : BitVec 32} (one : GaByte old first gatmp)
    (two : GaByte old second gatmp) : ∀ i < 8, first.getLsbD i = second.getLsbD i := by
  intro i inside
  by_cases pin : (i : Int) = gatmp.port - 1
  · have index : i = (gatmp.port - 1).toNat := by omega
    rw [index]
    exact one.pin.trans two.pin.symm
  · exact (one.others i inside pin).trans (two.others i inside pin).symm

/-- A command makes one byte. -/
theorem Command.Byte.unique {first second : BitVec 32} (one : command.Byte old first)
    (two : command.Byte old second) (firstByte : first.toNat < 256)
    (secondByte : second.toNat < 256) : first = second := by
  cases command with
  | gl gltmp => exact byte_ext firstByte secondByte (GlByte.bits one two)
  | ga gatmp => exact byte_ext firstByte secondByte (GaByte.bits one two)

/-- What a command makes of a byte it makes of itself. -/
theorem Command.Byte.again (byte : command.Byte old data) : command.Byte data data := by
  cases command with
  | gl gltmp =>
      rcases byte with ⟨speed, direction, light, function⟩
      refine ⟨speed, ?_, light, function⟩
      split at direction
      · rw [if_pos ‹_›]
      · rw [if_neg ‹_›]
        exact direction
  | ga gatmp => exact ⟨byte.pin, fun _ _ _ => rfl⟩

/-! ## What the interface makes of a command -/

theorem low_bits : ∀ low < 128, ((sxWrite + BitVec.ofNat 8 low) &&& 0x7f).toNat = low ∧
    (sxWrite + BitVec.ofNat 8 low = sxWrite + rautenhsCC ↔ low = 126) := by
  decide

theorem sxAddress_low (state : State) (addr : Int) :
    (sxAddress addr &&& 0x7f).toNat = (state.busByte addr).2 ∧
      (sxAddress addr = sxWrite + rautenhsCC ↔ (state.busByte addr).2 = 126) := by
  have small : (BitVec.ofInt 32 addr &&& 0x7f).toNat < 128 := by
    rw [BitVec.toNat_and]
    exact Nat.lt_succ_of_le Nat.and_le_right
  have width : (BitVec.ofInt 32 addr &&& 0x7f).setWidth 8 =
      BitVec.ofNat 8 (BitVec.ofInt 32 addr &&& 0x7f).toNat := rfl
  rw [sxAddress, width]
  exact low_bits _ small

theorem State.rautenhaus_of_double (double : state.double) : state.rautenhaus := by
  have both : rautenhausMode + rautenhausDbl = rautenhausMode ||| rautenhausDbl := by decide
  have bits : state.sxFlags &&& (rautenhausMode ||| rautenhausDbl) =
      rautenhausMode ||| rautenhausDbl := both ▸ double
  have mode : (rautenhausMode ||| rautenhausDbl) &&& rautenhausMode = rautenhausMode := by decide
  change state.sxFlags &&& rautenhausMode = rautenhausMode
  rw [← mode, ← BitVec.and_assoc, bits]

/-- The selection is understood: behind it the bus of the address is selected. -/
theorem received_selection (rest : List (BitVec 8)) :
    received state state.flaggedBus (selection state addr ++ rest) =
      received state (state.busByte addr).1 rest := by
  unfold selection State.flaggedBus State.busByte
  by_cases double : state.double
  · have control := State.rautenhaus_of_double double
    simp only [double, true_and]
    by_cases high : 127 < addr
    · by_cases set : state.checkSXflag rautenhausRtbs
      · simp [high, set]
      · simp only [high, set, iff_true, not_false_iff, if_true, if_false, List.cons_append,
          List.nil_append]
        rw [received, if_pos ⟨control, rfl⟩, if_pos ⟨double, by decide⟩]
    · by_cases set : state.checkSXflag rautenhausRtbs
      · simp only [high, set, iff_false, not_true_eq_false, not_false_iff, if_true, if_false,
          List.cons_append, List.nil_append]
        rw [received, if_pos ⟨control, rfl⟩, if_neg fun both => absurd both.2 (by decide)]
      · simp [high, set]
  · simp [double]

/-- A command for a byte of a bus writes it; one for the control byte writes none. -/
theorem received_writeSXbus (isOpen : state.Open) :
    received state state.flaggedBus
        ((writeSXbus state addr data).written.drop state.written.length) =
      if state.rautenhaus ∧ (state.busByte addr).2 = 126 then
        (if state.double ∧ (data.setWidth 8).getLsbD 1 then 1 else 0, [])
      else ((state.busByte addr).1, [(state.busByte addr, data.setWidth 8)]) := by
  have written : (writeSXbus state addr data).written = _ ∧ _ := writeSXbus_of_open isOpen
  rcases sxAddress_low state addr with ⟨low, control⟩
  rw [written.1, List.drop_left, received_selection, received]
  simp only [control, low, received]

/-! ## Invariants -/

/-- The selected bus is the one of the flag, an address that there was a command for remembers
what its byte is, and no other byte was written. -/
structure Watched.Inv (watched : Watched) : Prop where
  bus : watched.bus = watched.state.flaggedBus
  stored : ∀ addr, watched.addressed addr = true →
    ∃ byte, watched.last (watched.state.busByte addr) = some byte ∧
      watched.state.busData addr = byte.setWidth 32
  known : ∀ place byte, watched.last place = some byte →
    ∃ addr, watched.addressed addr = true ∧ watched.state.busByte addr = place

theorem Watched.inv_start (state : State) : (Watched.start state).Inv where
  bus := rfl
  stored := by
    intro addr addressed
    cases addressed
  known := by
    intro place byte last
    cases last

section Commands

variable {watched : Watched}

theorem Watched.received_inside {gl : Gl} (inv : watched.Inv) (isOpen : watched.state.Open)
    (result : handle watched.state command =
      { writeSXbus watched.state command.id data with
        busData := Function.update watched.state.busData command.id data
        gl := gl }) :
    watched.received command =
      if watched.state.rautenhaus ∧ (watched.state.busByte command.id).2 = 126 then
        (if watched.state.double ∧ (data.setWidth 8).getLsbD 1 then 1 else 0, [])
      else ((watched.state.busByte command.id).1,
        [(watched.state.busByte command.id, data.setWidth 8)]) := by
  rw [Watched.received, result, inv.bus]
  exact received_writeSXbus isOpen

/-- Behind a command the flag says which bus its address is on. -/
theorem flaggedBus_of_result {state : State} {gl : Gl} (isOpen : state.Open)
    (result : handle state command =
      { writeSXbus state command.id data with
        busData := Function.update state.busData command.id data
        gl := gl }) :
    (handle state command).flaggedBus = (state.busByte command.id).1 := by
  have written : (writeSXbus state command.id data).written = _ ∧ _ := writeSXbus_of_open isOpen
  have flag : (handle state command).checkSXflag rautenhausRtbs ↔
      (writeSXbus state command.id data).checkSXflag rautenhausRtbs := by
    rw [result]
    rfl
  have double := (handle_same state command).2.2.2
  unfold State.flaggedBus State.busByte
  by_cases two : state.double
  · have set := flag.trans (written.2 two)
    simp only [two, double, set]
  · simp only [two, double, false_and, if_false]

theorem Watched.received_closed (closed : ¬ watched.state.Open) :
    (watched.received command).2 = [] := by
  have same : (handle watched.state command).written = watched.state.written := by
    rcases handle_cases watched.state command with unchanged | ⟨data, gl, stored⟩
    · rw [unchanged]
    · rw [stored]
      exact writeSXbus_of_closed closed
  rw [Watched.received, same, List.drop_length]
  rfl

/-- The byte of an address that remembers what the command makes. -/
theorem Watched.Inv.unique {addr : Int} (inv : watched.Inv)
    (byte : command.Byte (watched.state.busData command.id) data)
    (small : data.toNat < 256) (addressed : watched.addressed addr = true)
    (agrees : command.Byte (watched.state.busData command.id) (watched.state.busData addr)) :
    watched.state.busData addr = data := by
  rcases inv.stored addr addressed with ⟨stored, -, same⟩
  apply agrees.unique byte _ small
  rw [same]
  exact toNat_setWidth_lt stored

/-- What was there before is what the command started from, or what it makes. -/
theorem Watched.Inv.content (inv : watched.Inv) (fits : Fits watched command)
    (byte : command.Byte (watched.state.busData command.id) data) (small : data.toNat < 256) :
    command.Byte (watched.content command.id) data := by
  rw [Watched.content]
  rcases last : watched.last (watched.state.busByte command.id) with _ | old
  · exact byte
  · rcases inv.known _ old last with ⟨addr, addressed, same⟩
    rcases inv.stored addr addressed with ⟨stored, found, remembered⟩
    rw [same, last] at found
    cases found
    rw [Option.elim_some, ← remembered]
    by_cases own : addr = command.id
    · rw [own]
      exact byte
    · rw [inv.unique byte small addressed (fits.aliases addr own addressed same)]
      exact byte.again

theorem command_right_iff (inv : watched.Inv) (admitted : command.Admitted)
    (inside : command.id < watched.state.maxAddress) :
    Right watched command ↔ Fits watched command := by
  rcases handle_inside admitted inside with ⟨data, gl, result, byte, onByte⟩
  have stored : (handle watched.state command).busData =
      Function.update watched.state.busData command.id data := by
    rw [result]
  have here : (handle watched.state command).busData command.id = data := by
    rw [stored, Function.update_self]
  have elsewhere : ∀ addr ≠ command.id,
      (handle watched.state command).busData addr = watched.state.busData addr := by
    intro addr other
    rw [stored, Function.update_of_ne other]
  constructor
  · intro right
    rcases right.last with ⟨sent, one, kept⟩
    have isOpen : watched.state.Open := by
      by_contra closed
      rw [Watched.received_closed closed] at one
      cases one
    have small : data.toNat < 256 := by
      rw [← here, kept]
      exact toNat_setWidth_lt sent
    refine ⟨isOpen, onByte.mp small, ?_, ?_⟩
    · intro control
      rw [Watched.received_inside inv isOpen result, if_pos control] at one
      cases one
    · intro addr other addressed same
      have agrees := right.aliases addr addressed same
      rw [here, elsewhere addr other] at agrees
      rwa [agrees]
  · intro fits
    have small := onByte.mpr fits.onByte
    refine ⟨⟨data.setWidth 8, ?_, ?_⟩, ?_, elsewhere, ?_⟩
    · rw [Watched.received_inside inv fits.isOpen result, if_neg fits.onBus]
    · rw [here, setWidth_of_lt small]
    · rw [here]
      exact inv.content fits byte small
    · intro addr addressed same
      by_cases own : addr = command.id
      · rw [own]
      · rw [elsewhere addr own, here]
        exact inv.unique byte small addressed (fits.aliases addr own addressed same)

theorem Watched.next_outside (outside : ¬ command.id < watched.state.maxAddress) :
    watched.next command = watched := by
  have same : watched.received command = (watched.bus, []) := by
    rw [Watched.received, handle_outside outside, List.drop_length]
    rfl
  rw [Watched.next, same, handle_outside outside, if_neg outside]
  rfl

theorem stepRight_iff (inv : watched.Inv) (admitted : command.Admitted) :
    StepRight watched command ↔ StepFits watched command := by
  unfold StepRight StepFits
  split
  · rename_i inside
    rw [command_right_iff inv admitted inside]
    exact ⟨fun fits _ => fits, fun fits => fits inside⟩
  · rename_i outside
    exact ⟨fun _ inside => absurd inside outside, fun _ => handle_outside outside⟩

theorem Watched.Inv.next (inv : watched.Inv) (admitted : command.Admitted)
    (fits : StepFits watched command) : (watched.next command).Inv := by
  by_cases inside : command.id < watched.state.maxAddress
  · have fits := fits inside
    rcases handle_inside admitted inside with ⟨data, gl, result, byte, onByte⟩
    have small := onByte.mpr fits.onByte
    have taken := Watched.received_inside inv fits.isOpen result
    rw [if_neg fits.onBus] at taken
    have last : (watched.next command).last =
        Function.update watched.last (watched.state.busByte command.id)
          (some (data.setWidth 8)) := by
      rw [Watched.next, taken]
      rfl
    have addressed : (watched.next command).addressed =
        Function.update watched.addressed command.id true := if_pos inside
    have busByte (addr : Int) : (watched.next command).state.busByte addr =
        watched.state.busByte addr := handle_busByte _ _ addr
    have busData : (watched.next command).state.busData =
        Function.update watched.state.busData command.id data := by
      change (handle watched.state command).busData = _
      rw [result]
    constructor
    · change (watched.received command).1 = (handle watched.state command).flaggedBus
      rw [taken, flaggedBus_of_result fits.isOpen result]
    · intro addr known
      rw [addressed] at known
      rw [busByte, last, busData]
      by_cases own : addr = command.id
      · refine ⟨data.setWidth 8, ?_, ?_⟩
        · rw [own, Function.update_self]
        · rw [own, Function.update_self, setWidth_of_lt small]
      · rw [Function.update_of_ne own] at known ⊢
        by_cases same : watched.state.busByte addr = watched.state.busByte command.id
        · refine ⟨data.setWidth 8, ?_, ?_⟩
          · rw [same, Function.update_self]
          · rw [inv.unique byte small known (fits.aliases addr own known same),
              setWidth_of_lt small]
        · rw [Function.update_of_ne same]
          exact inv.stored addr known
    · intro place stored written
      rw [last] at written
      by_cases own : place = watched.state.busByte command.id
      · refine ⟨command.id, ?_, ?_⟩
        · rw [addressed, Function.update_self]
        · rw [busByte, own]
      · rw [Function.update_of_ne own] at written
        rcases inv.known place stored written with ⟨addr, known, same⟩
        refine ⟨addr, ?_, (busByte addr).trans same⟩
        rw [addressed]
        by_cases here : addr = command.id
        · rw [here, Function.update_self]
        · rwa [Function.update_of_ne here]
  · rw [Watched.next_outside inside]
    exact inv

end Commands

/-! ## Runs -/

variable {commands : List Command}

/-- Steps from a state that is as its invariant says. -/
theorem meetsAlong_iff {watched : Watched} (inv : watched.Inv)
    (admitted : ∀ command ∈ commands, command.Admitted) :
    MeetsAlong step StepRight watched commands ↔ MeetsAlong step StepFits watched commands := by
  induction commands generalizing watched with
  | nil => exact Iff.rfl
  | cons command commands ih =>
      have valid := admitted command List.mem_cons_self
      rw [meetsAlong_cons_iff rfl, meetsAlong_cons_iff rfl, stepRight_iff inv valid]
      refine and_congr_right fun fits => ?_
      exact ih (inv.next valid fits) fun other mem => admitted other (List.mem_cons_of_mem _ mem)

/-- After every command the array is what was written, if and only if something is written, bits
are set in bytes only, the byte is one of a bus, and other addresses of it agree. -/
theorem stepsRight_iff (state : State) (admitted : ∀ command ∈ commands, command.Admitted) :
    MeetsAlong step StepRight (.start state) commands ↔
      MeetsAlong step StepFits (.start state) commands :=
  meetsAlong_iff (Watched.inv_start state) admitted

/-! ## Examples -/

/-- A configured bus with an open port; `content` is what the memory contained. -/
def configuredBus (content : BitVec 32) : State where
  fd := 3
  debuglevel := 3
  sxFlags := 0
  maxAddress := 0x100
  busData := fun addr => if addr < 112 then 0 else content
  gl := { configured := true, numberOfGl := 10, glstate := fun _ => .zero, clock := 0 }
  written := []

/-- Action 1 for a port. -/
def switchOn (id port : Int) : GaState :=
  { protocol := 'S', id := id, port := port, action := 1, activetime := 0, tv := fun _ => 0 }

theorem admitted_switchOn : ∀ command ∈ [Command.ga (switchOn 112 1)], command.Admitted := by
  intro command mem
  rw [List.mem_singleton.mp mem]
  exact ⟨by decide, by decide, .inr rfl⟩

theorem stepsRight_iff_switchOn :
    (∀ command ∈ [Command.ga (switchOn 112 1)], command.Admitted) ∧
      (MeetsAlong step StepRight (.start (configuredBus 0)) [.ga (switchOn 112 1)] ↔
        MeetsAlong step StepFits (.start (configuredBus 0)) [.ga (switchOn 112 1)]) :=
  ⟨admitted_switchOn, stepsRight_iff _ admitted_switchOn⟩

/-- The first address that is not cleared. -/
theorem uncleared_not_right : ¬ ∀ (state : State) (commands : List Command), Configured state →
    (∀ command ∈ commands, command.Admitted) →
      MeetsAlong step StepRight (.start state) commands := by
  intro always
  have configured : Configured (configuredBus 0x100) := ⟨rfl, fun addr _ high => if_pos high⟩
  have meets := always _ _ configured admitted_switchOn
  rw [meetsAlong_cons_iff rfl] at meets
  have valid := admitted_switchOn _ (List.mem_singleton_self _)
  have fits := (stepRight_iff (Watched.inv_start _) valid).mp meets.1 (by decide)
  exact absurd (fits.onByte rfl) (by decide)

/-- Two addresses of one byte, with cleared memory: the second command takes the pin of the
first away. -/
theorem aliased_not_right :
    ¬ MeetsAlong step StepRight (.start (configuredBus 0))
      [.ga (switchOn 2 1), .ga (switchOn 130 2)] := by
  intro meets
  rw [meetsAlong_cons_iff rfl, meetsAlong_cons_iff rfl] at meets
  have right : Right _ _ := (if_pos (by decide)).mp meets.2.1
  have lost := right.byte.others 0 (by decide) (by decide)
  exact absurd lost (by decide)

/-! ## The cleared addresses -/

/-- What is so as long as only the cleared addresses are used. -/
structure Watched.Cleared (watched : Watched) : Prop where
  inv : watched.Inv
  isOpen : watched.state.Open
  addressed : ∀ addr, watched.addressed addr = true → 0 < addr ∧ addr < 112
  bytes : ∀ addr, 0 ≤ addr → addr < 112 → (watched.state.busData addr).toNat < 256

theorem busByte_small {addr : Int} (low : 0 < addr) (high : addr < 112) :
    state.busByte addr = (0, addr.toNat) := by
  have bits : (BitVec.ofInt 32 addr &&& 0x7f).toNat = addr.toNat := by
    have natural : BitVec.ofInt 32 addr = BitVec.ofNat 32 addr.toNat := by
      rw [← BitVec.ofInt_natCast, Int.toNat_of_nonneg low.le]
    have mask : ∀ number < 112, (BitVec.ofNat 32 number &&& 0x7f).toNat = number := by decide
    rw [natural]
    exact mask addr.toNat (by omega)
  rw [State.busByte, if_neg (by omega), bits]

theorem Watched.Cleared.fits {watched : Watched} (cleared : watched.Cleared)
    (low : 0 < command.id) (high : command.id < 112) : Fits watched command := by
  have own := @busByte_small watched.state _ low high
  constructor
  · exact cleared.isOpen
  · cases command with
    | gl gltmp => trivial
    | ga gatmp => exact fun _ => cleared.bytes gatmp.id low.le high
  · rintro ⟨-, control⟩
    rw [own] at control
    omega
  · intro addr other known same
    rcases cleared.addressed addr known with ⟨positive, small⟩
    rw [own, busByte_small positive small, Prod.mk.injEq] at same
    omega

/-- The configuration has cleared them. -/
theorem Watched.cleared_start (configured : Configured state) (isOpen : state.Open) :
    (Watched.start state).Cleared where
  inv := Watched.inv_start state
  isOpen := isOpen
  addressed := by
    intro addr addressed
    cases addressed
  bytes := by
    intro addr low high
    change (state.busData addr).toNat < 256
    rw [configured.cleared addr low high]
    decide

/-- The bytes of the cleared addresses behind a command for one of them. -/
theorem Watched.Cleared.bytes_next {watched : Watched} (cleared : watched.Cleared)
    (admitted : command.Admitted) (fits : Fits watched command) {addr : Int} (low : 0 ≤ addr)
    (high : addr < 112) : ((handle watched.state command).busData addr).toNat < 256 := by
  by_cases inside : command.id < watched.state.maxAddress
  · rcases handle_inside admitted inside with ⟨data, gl, result, -, byte⟩
    rw [result]
    dsimp only
    by_cases own : addr = command.id
    · rw [own, Function.update_self]
      exact byte.mpr fits.onByte
    · rw [Function.update_of_ne own]
      exact cleared.bytes addr low high
  · rw [handle_outside inside]
    exact cleared.bytes addr low high

theorem Watched.Cleared.next {watched : Watched} (cleared : watched.Cleared)
    (admitted : command.Admitted) (positive : 0 < command.id) (small : command.id < 112) :
    (watched.next command).Cleared where
  inv := cleared.inv.next admitted fun _ => cleared.fits positive small
  isOpen := handle_open cleared.isOpen
  addressed := by
    intro addr known
    rw [Watched.next] at known
    dsimp only at known
    split at known
    · by_cases own : addr = command.id
      · rw [own]
        exact ⟨positive, small⟩
      · rw [Function.update_of_ne own] at known
        exact cleared.addressed addr known
    · exact cleared.addressed addr known
  bytes := fun _ => cleared.bytes_next admitted (cleared.fits positive small)

/-- Only valid addresses come to the driver. -/
theorem Command.Admitted.positive (admitted : command.Admitted) : 0 < command.id := by
  cases command with
  | gl gltmp => exact admitted.1
  | ga gatmp => exact admitted.1.1

theorem stepsFit_of_cleared {watched : Watched} (cleared : watched.Cleared)
    (admitted : ∀ command ∈ commands, command.Admitted ∧ command.id < 112) :
    MeetsAlong step StepFits watched commands := by
  induction commands generalizing watched with
  | nil => trivial
  | cons command commands ih =>
      rcases admitted command List.mem_cons_self with ⟨valid, small⟩
      rw [meetsAlong_cons_iff rfl]
      constructor
      · exact fun _ => cleared.fits valid.positive small
      · apply ih (cleared.next valid valid.positive small)
        intro other mem
        exact admitted other (List.mem_cons_of_mem _ mem)

/-- Every command to one of the addresses that the configuration cleared. -/
theorem stepsRight_of_cleared (configured : Configured state) (isOpen : state.Open)
    (admitted : ∀ command ∈ commands, command.Admitted ∧ command.id < 112) :
    MeetsAlong step StepRight (.start state) commands := by
  have valid : ∀ command ∈ commands, command.Admitted := fun command mem =>
    (admitted command mem).1
  rw [meetsAlong_iff (Watched.inv_start state) valid]
  exact stepsFit_of_cleared (Watched.cleared_start configured isOpen) admitted

end Srcpd.Driver.SxBus
