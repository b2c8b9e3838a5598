import Srcpd.Driver.M605x
import Srcpd.Ddl.Bus

/-!
# What the drivers accept

The `init_gl_func` and the protocol string of every driver with locomotives, and the
functions of `srcp-gl.c` that go through them.  `enqueueGL` initialises a locomotive
that nobody has initialised with protocol `P`, and does not look whether the driver
accepts that.  `queues_iff` says for which commands this makes a difference.
-/

namespace Srcpd.Inits

open Srcpd.Command Srcpd.Queue Srcpd.Transition

/-! ## The drivers -/

/-- `init_gl_DCCAR`. -/
def initGlDCCAR (gl : GlState) : SrcpCode :=
  if gl.nFs = 28 then .ok else .wrongValue

/-- Modifies the data used to initialize the device. -/
def initGlIB (gl : GlState) : SrcpCode × GlState :=
  let gl := { gl with nFs := Driver.speedSteps }
  if 29 < gl.nFunc then (.wrongValue, gl) else (.ok, { gl with protocol := 'P' })

/-- `init_gl_LI100`, which changes the protocol. -/
def initGlLI100 (gl : GlState) : SrcpCode × GlState :=
  (.ok, { gl with protocol := 'N' })

/-- `init_gl_LOCONET`. -/
def initGlLOCONET (_ : GlState) : SrcpCode :=
  .ok

/-- `init_gl_LOOPBACK`, with the speed steps of each protocol. -/
def initGlLOOPBACK (gl : GlState) : SrcpCode :=
  if gl.protocol = 'L' ∨ gl.protocol = 'S' then if gl.nFs = 31 then .ok else .wrongValue
  else if gl.protocol = 'P' then .ok
  else if gl.protocol = 'M' then
    if gl.protocolversion = 1 then if gl.nFs = 14 then .ok else .wrongValue
    else if gl.protocolversion = 2 then
      if gl.nFs = 14 ∨ gl.nFs = 27 ∨ gl.nFs = 28 then .ok else .wrongValue
    else .wrongValue
  else if gl.protocol = 'N' then
    if gl.protocolversion = 1 then
      if gl.nFs = 14 ∨ gl.nFs = 28 ∨ gl.nFs = 128 then .ok else .wrongValue
    else if gl.protocolversion = 2 then
      if gl.nFs = 14 ∨ gl.nFs = 28 ∨ gl.nFs = 128 then .ok else .wrongValue
    else .wrongValue
  else .unsupportedDeviceProtocol

/-- `init_gl_Selectrix`. -/
def initGlSelectrix (gl : GlState) : SrcpCode :=
  if gl.protocol = 'S' ∨ gl.protocol = 's' then
    if gl.nFs = 31 ∧ gl.protocolversion = 1 ∧ gl.nFunc = 2 then .ok else .wrongValue
  else .unsupportedDeviceProtocol

/-- The drivers that call `init_GL`; a DDL bus has the protocols that are enabled. -/
inductive Kind
  | ddl (maerklin nmra : Bool)
  | dccar
  | ib
  | li100
  | loconet
  | loopback
  | m6051
  | selectrix
  | zimo
  | i2cDev
  deriving DecidableEq, Repr

/-- The protocols that a driver offers. -/
def Kind.protocols : Kind → List Char
  | .ddl maerklin nmra => (if maerklin then ['M'] else []) ++ if nmra then ['N'] else []
  | .dccar => ['M', 'N']
  | .ib => ['M', 'N', 'P']
  | .li100 => ['N']
  | .loconet => ['L', 'P', 'M', 'N']
  | .loopback => ['L', 'S', 'P', 'M', 'N']
  | .m6051 => ['M', 'P']
  | .selectrix => ['S']
  | .zimo => ['M', 'N']
  | .i2cDev => ['P']

/-- A driver that only looks at the data. -/
def checking (check : GlState → SrcpCode) : Option (GlState → SrcpCode × GlState) :=
  some fun gl => (check gl, gl)

/-- The function that a driver registers for inits. -/
def Kind.initGlFunc : Kind → Option (GlState → SrcpCode × GlState)
  | .ddl .. => checking Ddl.initGlDDL
  | .dccar => checking initGlDCCAR
  | .ib => some initGlIB
  | .li100 => some initGlLI100
  | .loconet => checking initGlLOCONET
  | .loopback => checking initGlLOOPBACK
  | .m6051 => checking Driver.M605x.initGlM6051
  | .selectrix => checking initGlSelectrix
  | .zimo | .i2cDev => none

/-- A driver as the tables see it. -/
def Kind.driver (kind : Kind) : GlDriver :=
  ⟨kind.protocols, kind.initGlFunc⟩

/-- Neither tests the number of speed steps nor sets it. -/
def Kind.TakesAnySteps (protocol : Char) : Kind → Prop
  | .li100 | .loconet | .zimo | .i2cDev => True
  | .loopback => protocol = 'P'
  | .ddl .. | .dccar | .ib | .m6051 | .selectrix => False

/-- Accepts protocol `P` with version 1 and 14 speed steps. -/
def Kind.TakesDefault : Kind → Prop
  | .ib | .loconet | .loopback | .i2cDev => True
  | .ddl .. | .dccar | .li100 | .m6051 | .selectrix | .zimo => False

/-! ## Accepted data -/

/-- Data that the driver takes for an init, with speed steps to divide by. -/
structure Accepts (driver : GlDriver) (gl : GlState) : Prop where
  supported : gl.protocol ∈ driver.protocols
  steps : 0 < gl.nFs
  accepted : (driver.initGl gl).1 = .ok

/-- The values of an init. -/
structure SameInit (first second : GlState) : Prop where
  protocol : first.protocol = second.protocol
  protocolversion : first.protocolversion = second.protocolversion
  nFs : first.nFs = second.nFs
  nFunc : first.nFunc = second.nFunc
  id : first.id = second.id

theorem supportsProtocol_eq_ok_iff {driver : GlDriver} {protocol : Char} :
    driver.supportsProtocol protocol = .ok ↔ protocol ∈ driver.protocols := by
  simp [GlDriver.supportsProtocol]

section Drivers

variable {kind : Kind} {gl first second : GlState}

/-- Only the values of the init count. -/
theorem Kind.initGl_congr (same : SameInit first second) :
    (kind.driver.initGl first).1 = (kind.driver.initGl second).1 := by
  obtain ⟨protocol, protocolversion, nFs, nFunc, id⟩ := same
  cases kind with
  | ddl maerklin nmra =>
      show Ddl.initGlDDL first = Ddl.initGlDDL second
      simp only [Ddl.initGlDDL, protocol, protocolversion, nFs, nFunc, id]
  | dccar =>
      show initGlDCCAR first = initGlDCCAR second
      simp only [initGlDCCAR, nFs]
  | ib =>
      show (initGlIB first).1 = (initGlIB second).1
      simp only [initGlIB, nFunc]
      split <;> rfl
  | li100 => rfl
  | loconet => rfl
  | loopback =>
      show initGlLOOPBACK first = initGlLOOPBACK second
      simp only [initGlLOOPBACK, protocol, protocolversion, nFs]
  | m6051 =>
      show Driver.M605x.initGlM6051 first = Driver.M605x.initGlM6051 second
      simp only [Driver.M605x.initGlM6051, protocol, protocolversion, nFs]
  | selectrix =>
      show initGlSelectrix first = initGlSelectrix second
      simp only [initGlSelectrix, protocol, protocolversion, nFs, nFunc]
  | zimo => rfl
  | i2cDev => rfl

theorem Accepts.congr (accepts : Accepts kind.driver first) (same : SameInit first second) :
    Accepts kind.driver second where
  supported := same.protocol ▸ accepts.supported
  steps := same.nFs ▸ accepts.steps
  accepted := Kind.initGl_congr same ▸ accepts.accepted

/-- The steps of accepted data are positive where the driver tests them. -/
theorem Kind.steps_pos (accepted : (kind.driver.initGl gl).1 = .ok)
    (positive : kind.TakesAnySteps gl.protocol → 0 < gl.nFs) :
    0 < (kind.driver.initGl gl).2.nFs := by
  cases kind with
  | ddl maerklin nmra =>
      change Ddl.initGlDDL gl = .ok at accepted
      show 0 < gl.nFs
      rw [Ddl.initGlDDL] at accepted
      split_ifs at accepted <;> omega
  | dccar =>
      change initGlDCCAR gl = .ok at accepted
      show 0 < gl.nFs
      rw [initGlDCCAR] at accepted
      split_ifs at accepted
      omega
  | ib =>
      have fixed : (initGlIB gl).2.nFs = Driver.speedSteps := by
        rw [initGlIB]
        dsimp only
        split <;> rfl
      show 0 < (initGlIB gl).2.nFs
      rw [fixed]
      decide
  | li100 => exact positive trivial
  | loconet => exact positive trivial
  | loopback =>
      change initGlLOOPBACK gl = .ok at accepted
      show 0 < gl.nFs
      rw [initGlLOOPBACK] at accepted
      by_cases plain : gl.protocol = 'P'
      · exact positive plain
      · split_ifs at accepted <;> omega
  | m6051 =>
      change Driver.M605x.initGlM6051 gl = .ok at accepted
      show 0 < gl.nFs
      rw [Driver.M605x.initGlM6051] at accepted
      split_ifs at accepted <;> omega
  | selectrix =>
      change initGlSelectrix gl = .ok at accepted
      show 0 < gl.nFs
      rw [initGlSelectrix] at accepted
      split_ifs at accepted
      omega
  | zimo => exact positive trivial
  | i2cDev => exact positive trivial

/-- What a driver makes of data that it takes, it takes again. -/
theorem Kind.accepts_initGl (supported : gl.protocol ∈ kind.protocols)
    (accepted : (kind.driver.initGl gl).1 = .ok)
    (positive : kind.TakesAnySteps gl.protocol → 0 < gl.nFs) :
    Accepts kind.driver (kind.driver.initGl gl).2 := by
  have steps : 0 < (kind.driver.initGl gl).2.nFs := Kind.steps_pos accepted positive
  cases kind with
  | ib =>
      change (initGlIB gl).1 = .ok at accepted
      rw [initGlIB] at accepted
      dsimp only at accepted
      split at accepted
      · cases accepted
      · rename_i few
        have made : (Kind.ib.driver.initGl gl).2 =
            { gl with nFs := Driver.speedSteps, protocol := 'P' } := by
          show (initGlIB gl).2 = _
          rw [initGlIB]
          exact congrArg Prod.snd (if_neg few)
        refine ⟨?_, steps, ?_⟩
        · have listed : 'P' ∈ Kind.ib.protocols := by decide
          rw [made]
          exact listed
        · rw [made]
          show (initGlIB _).1 = .ok
          rw [initGlIB]
          exact congrArg Prod.fst (if_neg few)
  | li100 =>
      have listed : 'N' ∈ Kind.li100.protocols := by decide
      exact ⟨listed, steps, rfl⟩
  | ddl maerklin nmra => exact ⟨supported, steps, accepted⟩
  | dccar => exact ⟨supported, steps, accepted⟩
  | loconet => exact ⟨supported, steps, accepted⟩
  | loopback => exact ⟨supported, steps, accepted⟩
  | m6051 => exact ⟨supported, steps, accepted⟩
  | selectrix => exact ⟨supported, steps, accepted⟩
  | zimo => exact ⟨supported, steps, accepted⟩
  | i2cDev => exact ⟨supported, steps, accepted⟩

theorem Kind.initGl_id : (kind.driver.initGl gl).2.id = gl.id := by
  cases kind with
  | ib =>
      show (initGlIB gl).2.id = gl.id
      rw [initGlIB]
      dsimp only
      split <;> rfl
  | _ => rfl

/-- What `cacheInitGL` has the driver check for a default init. -/
def defaultGl (clock : Nat) (addr : Int) : GlState :=
  { GlState.zero with
    inittime := clock
    tv := clock
    nFs := 14
    nFunc := 1
    protocolversion := 1
    protocol := 'P'
    id := addr }

theorem Kind.takesDefault_iff (clock : Nat) (addr : Int) :
    'P' ∈ kind.driver.protocols ∧ (kind.driver.initGl (defaultGl clock addr)).1 = .ok ↔
      kind.TakesDefault := by
  have plain : (defaultGl clock addr).protocol = 'P' := rfl
  cases kind with
  | ddl maerklin nmra =>
      refine iff_of_false ?_ id
      rintro ⟨supported, -⟩
      cases maerklin <;> cases nmra <;> revert supported <;> decide
  | dccar => exact iff_of_false (fun both => absurd both.1 (by decide)) id
  | ib =>
      refine iff_of_true ⟨by decide, ?_⟩ trivial
      have few : (defaultGl clock addr).nFunc = 1 := rfl
      show (initGlIB (defaultGl clock addr)).1 = .ok
      rw [initGlIB]
      dsimp only
      rw [few, if_neg (by decide)]
  | li100 => exact iff_of_false (fun both => absurd both.1 (by decide)) id
  | loconet => exact iff_of_true ⟨by decide, rfl⟩ trivial
  | loopback =>
      refine iff_of_true ⟨by decide, ?_⟩ trivial
      show initGlLOOPBACK (defaultGl clock addr) = .ok
      rw [initGlLOOPBACK, plain, if_neg (by decide), if_pos rfl]
  | m6051 =>
      refine iff_of_false ?_ id
      rintro ⟨-, accepted⟩
      change Driver.M605x.initGlM6051 (defaultGl clock addr) = .ok at accepted
      rw [Driver.M605x.initGlM6051, plain, if_pos (by decide)] at accepted
      cases accepted
  | selectrix => exact iff_of_false (fun both => absurd both.1 (by decide)) id
  | zimo => exact iff_of_false (fun both => absurd both.1 (by decide)) id
  | i2cDev => exact iff_of_true ⟨by decide, rfl⟩ trivial

end Drivers

/-! ## Runs -/

/-- The locomotives of a bus and their queue. -/
structure Bus where
  gl : Gl
  queue : Log GlState

/-- Calls by sessions and by the driver; `store` is what a driver hands to
`cacheSetGL`. -/
inductive Op
  | tick (clock : Nat)
  | init (addr : Int) (protocol : Char) (protoversion nFs nFunc : Int)
  | set (command : GlCommand)
  | term (addr : Int)
  | dequeue
  | store (addr : Int) (l : GlState)

/-- First brake if the speed is not 0; the record is cleared in any case. -/
def cacheTermGL (driver : GlDriver) (bus : Bus) (addr : Int) : Bus :=
  if bus.gl.isInitialized addr then
    let gltmp := bus.gl.glstate addr
    let braked : Bus :=
      if gltmp.speed ≠ 0 then
        let gltmp := { gltmp with speed := 0, state := 2, direction := 2 }
        let result := enqueueGL driver bus.gl bus.queue
          ⟨addr, gltmp.direction, gltmp.speed, gltmp.nFs, gltmp.funcs⟩
        ⟨(cacheSetGL result.2.1 addr gltmp).2, result.2.2⟩
      else bus
    { braked with gl := braked.gl.setState addr .zero }
  else bus

/-- One call, of a session or of the driver. -/
def step (driver : GlDriver) : Step Bus Op
  | bus, .tick clock => some { bus with gl := { bus.gl with clock := clock } }
  | bus, .init addr protocol protoversion nFs nFunc =>
      let result := cacheInitGL driver bus.gl bus.queue addr protocol protoversion nFs nFunc
      some ⟨result.2.1, result.2.2⟩
  | bus, .set command =>
      let result := enqueueGL driver bus.gl bus.queue command
      some ⟨result.2.1, result.2.2⟩
  | bus, .term addr => some (cacheTermGL driver bus addr)
  | bus, .dequeue => some { bus with queue := bus.queue.take glQueuelen id }
  | bus, .store addr l => some { bus with gl := (cacheSetGL bus.gl addr l).2 }

/-- After `init_GL`: no locomotive is initialised and nothing is queued. -/
def Bus.start (numberOfGl : Int) : Bus where
  gl := { configured := true, numberOfGl := numberOfGl, glstate := fun _ => .zero, clock := 0 }
  queue := ⟨⟨fun _ => .zero, 0, 0⟩, [], []⟩

/-- An init has speed steps where the driver takes any number, and what a driver stores
for a locomotive goes with the protocol that this has then. -/
def Fits (kind : Kind) (bus : Bus) : Op → Prop
  | .init _ protocol _ nFs _ => kind.TakesAnySteps protocol → 0 < nFs
  | .store addr l =>
      bus.gl.isInitialized addr = true →
        Accepts kind.driver { bus.gl.glstate addr with nFs := l.nFs, nFunc := l.nFunc }
  | .tick _ | .set _ | .term _ | .dequeue => True

/-- Whatever is initialised has accepted data. -/
def Sound (kind : Kind) (gl : Gl) : Prop :=
  ∀ addr, gl.isInitialized addr = true →
    (gl.glstate addr).id = addr ∧ Accepts kind.driver (gl.glstate addr)

/-- The records of the bus are such as the driver accepts. -/
def Bus.Sound (kind : Kind) (bus : Bus) : Prop :=
  Inits.Sound kind bus.gl

/-- A command that is answered OK is for an initialised locomotive and the last one in
the queue, with accepted data. -/
def Queues (driver : GlDriver) (command : GlCommand) (result : SrcpCode × Gl × Log GlState) :
    Prop :=
  result.1 = .ok →
    result.2.1.isInitialized command.addr = true ∧
      ∃ before entry, result.2.2.added = before ++ [entry] ∧ entry.id = command.addr ∧
        Accepts driver entry

section Runs

variable {kind : Kind} {bus next : Bus} {gl : Gl} {queue : Log GlState} {addr : Int}
  {state l : GlState} {command : GlCommand}

theorem Sound.setState (sound : Sound kind gl)
    (new : state.state = 1 → state.id = addr ∧ Accepts kind.driver state) :
    Sound kind (gl.setState addr state) := by
  intro other initialized
  rw [Gl.isInitialized_iff, Gl.isValid_setState] at initialized
  obtain ⟨valid, living⟩ := initialized
  by_cases same : other = addr
  · subst same
    simp only [Gl.setState, Function.update_self] at living ⊢
    exact new living
  · simp only [Gl.setState, Function.update_of_ne same] at living ⊢
    exact sound other (Gl.isInitialized_iff.mpr ⟨valid, living⟩)

theorem Sound.cacheInitGL {protocol : Char} {protoversion nFs nFunc : Int}
    (sound : Sound kind gl) (positive : kind.TakesAnySteps protocol → 0 < nFs) :
    Sound kind
      (Command.cacheInitGL kind.driver gl queue addr protocol protoversion nFs nFunc).2.1 := by
  rcases Command.cacheInitGL_cases kind.driver gl queue addr protocol protoversion nFs nFunc with
    ⟨-, supported, accepted, result⟩ | ⟨-, -, unchanged⟩
  · rw [result]
    apply sound.setState
    intro _
    have listed := supportsProtocol_eq_ok_iff.mp supported
    have accepts := Kind.accepts_initGl listed accepted positive
    exact ⟨Kind.initGl_id, accepts.congr ⟨rfl, rfl, rfl, rfl, rfl⟩⟩
  · rw [unchanged]
    exact sound

theorem Sound.enqueueGL (sound : Sound kind gl) :
    Sound kind (Command.enqueueGL kind.driver gl queue command).2.1 := by
  rw [Command.enqueueGL]
  split
  · dsimp only
    split
    · exact sound
    · exact sound.cacheInitGL fun _ => by decide
  · exact sound

theorem Sound.cacheSetGL (sound : Sound kind gl)
    (fits : gl.isInitialized addr = true →
      Accepts kind.driver { gl.glstate addr with nFs := l.nFs, nFunc := l.nFunc }) :
    Sound kind (Command.cacheSetGL gl addr l).2 := by
  rw [Command.cacheSetGL]
  split
  · rename_i valid
    apply sound.setState
    intro living
    split at living
    · cases living
    · rename_i alive
      rw [if_neg alive]
      have initialized : gl.isInitialized addr = true :=
        Gl.isInitialized_iff.mpr ⟨valid, living⟩
      exact ⟨(sound addr initialized).1, (fits initialized).congr ⟨rfl, rfl, rfl, rfl, rfl⟩⟩
  · exact sound

theorem Sound.cacheTermGL (sound : Sound kind bus.gl) :
    Sound kind (Inits.cacheTermGL kind.driver bus addr).gl := by
  have dead (gl : Gl) (other : Sound kind gl) : Sound kind (gl.setState addr .zero) :=
    other.setState fun living => by cases living
  rw [Inits.cacheTermGL]
  split
  · rename_i initialized
    apply dead
    split
    · have valid := (Gl.isInitialized_iff.mp initialized).1
      have unchanged (command : GlCommand) (same : command.addr = addr) :
          (Command.enqueueGL kind.driver bus.gl bus.queue command).2.1 = bus.gl := by
        rw [Command.enqueueGL, same, if_pos valid, if_pos initialized]
      dsimp only
      rw [unchanged _ rfl]
      apply sound.cacheSetGL
      intro _
      exact (sound addr initialized).2
    · exact sound
  · exact sound

theorem Bus.Sound.step (sound : bus.Sound kind) {op : Op} (fits : Fits kind bus op)
    (taken : Inits.step kind.driver bus op = some next) : next.Sound kind := by
  change Inits.Sound kind bus.gl at sound
  change Inits.Sound kind next.gl
  cases op with
  | tick clock =>
      cases taken
      exact sound
  | init addr protocol protoversion nFs nFunc =>
      cases taken
      exact sound.cacheInitGL fits
  | set command =>
      cases taken
      exact sound.enqueueGL
  | term addr =>
      cases taken
      exact sound.cacheTermGL
  | dequeue =>
      cases taken
      exact sound
  | store addr l =>
      cases taken
      exact sound.cacheSetGL fits

theorem sound_start (kind : Kind) (numberOfGl : Int) : (Bus.start numberOfGl).Sound kind := by
  intro addr initialized
  cases (Gl.isInitialized_iff.mp initialized).2

/-! ## A command -/

/-- The entry for an initialised locomotive has the data of this. -/
theorem queues_enqueueInitializedGL (sound : Sound kind gl)
    (initialized : gl.isInitialized command.addr = true) :
    Queues kind.driver command
      ((enqueueInitializedGL gl queue command).1, gl,
        (enqueueInitializedGL gl queue command).2) := by
  intro answered
  refine ⟨initialized, ?_⟩
  obtain ⟨id, accepts⟩ := sound command.addr initialized
  rw [enqueueInitializedGL] at answered ⊢
  split at answered
  · cases answered
  · rename_i room
    rw [if_neg room]
    exact ⟨_, _, rfl, rfl, accepts.congr ⟨rfl, rfl, rfl, rfl, id⟩⟩

/-- The default init succeeds with the drivers that take it. -/
theorem isInitialized_default (takes : kind.TakesDefault) (valid : gl.isValid addr = true) :
    (Command.cacheInitGL kind.driver gl queue addr 'P' 1 14 1).2.1.isInitialized addr = true := by
  obtain ⟨listed, accepted⟩ := (Kind.takesDefault_iff gl.clock addr).mpr takes
  have supported := supportsProtocol_eq_ok_iff.mpr listed
  rcases Command.cacheInitGL_cases kind.driver gl queue addr 'P' 1 14 1 with
    ⟨-, -, -, result⟩ | ⟨refused, -⟩
  · exact cacheInitGL_isInitialized (congrArg Prod.fst result)
  · exact absurd ⟨valid, supported, accepted⟩ refused

/-- With the others it leaves everything as it is. -/
theorem cacheInitGL_default (refuses : ¬ kind.TakesDefault) :
    (Command.cacheInitGL kind.driver gl queue addr 'P' 1 14 1).2 = (gl, queue) := by
  rcases Command.cacheInitGL_cases kind.driver gl queue addr 'P' 1 14 1 with
    ⟨-, supported, accepted, -⟩ | ⟨-, -, unchanged⟩
  · have listed := supportsProtocol_eq_ok_iff.mp supported
    exact absurd ((Kind.takesDefault_iff gl.clock addr).mp ⟨listed, accepted⟩) refuses
  · exact unchanged

theorem enqueueGL_of_isInitialized (initialized : gl.isInitialized command.addr = true) :
    Command.enqueueGL kind.driver gl queue command =
      ((enqueueInitializedGL gl queue command).1, gl,
        (enqueueInitializedGL gl queue command).2) := by
  have valid := (Gl.isInitialized_iff.mp initialized).1
  rw [Command.enqueueGL, if_pos valid, if_pos initialized]

/-- A command in a state with sound data. -/
theorem queues_enqueueGL_iff (sound : Sound kind gl) :
    Queues kind.driver command (Command.enqueueGL kind.driver gl queue command) ↔
      (gl.isValid command.addr = true → glQueue.isFull queue.ring = false →
        gl.isInitialized command.addr = true ∨ kind.TakesDefault) := by
  by_cases valid : gl.isValid command.addr = true
  · by_cases initialized : gl.isInitialized command.addr = true
    · rw [enqueueGL_of_isInitialized initialized]
      apply iff_of_true
      · exact queues_enqueueInitializedGL sound initialized
      · exact fun _ _ => Or.inl initialized
    · by_cases takes : kind.TakesDefault
      · refine iff_of_true ?_ fun _ _ => Or.inr takes
        rw [Command.enqueueGL, if_pos valid, if_neg initialized]
        apply queues_enqueueInitializedGL
        · exact sound.cacheInitGL fun _ => by decide
        · exact isInitialized_default takes valid
      · rw [Command.enqueueGL, if_pos valid, if_neg initialized,
          cacheInitGL_default takes]
        dsimp only
        rw [enqueueInitializedGL]
        constructor
        · intro queues _ room
          rw [if_neg (by rw [room]; decide)] at queues
          exact Or.inl (queues rfl).1
        · intro either answered
          split at answered
          · cases answered
          · rename_i room
            rcases either valid (Bool.eq_false_iff.mpr room) with initialized' | takes'
            · exact absurd initialized' initialized
            · exact absurd takes' takes
  · rw [Command.enqueueGL, if_neg valid]
    refine iff_of_true ?_ fun valid' => absurd valid' valid
    rintro ⟨⟩

end Runs

/-- The commands after a run whose inits and stores fit: those for a locomotive that is
initialised or that the driver takes a default init for, and those that are refused. -/
theorem queues_iff (kind : Kind) (numberOfGl : Int) {ops : List Op} {bus : Bus}
    (fits : MeetsAlong (step kind.driver) (Fits kind) (Bus.start numberOfGl) ops)
    (executed : run (step kind.driver) (Bus.start numberOfGl) ops = some bus)
    (command : GlCommand) :
    Queues kind.driver command (enqueueGL kind.driver bus.gl bus.queue command) ↔
      (bus.gl.isValid command.addr = true → glQueue.isFull bus.queue.ring = false →
        bus.gl.isInitialized command.addr = true ∨ kind.TakesDefault) := by
  have sound : bus.Sound kind :=
    run_invariant_of_meets (fun _ _ _ holds => holds.step) (sound_start kind numberOfGl) fits
      executed
  exact queues_enqueueGL_iff sound

/-- After a default init on an Intellibox the command is queued with protocol `P`. -/
theorem queues_iff_intellibox :
    Queues Kind.ib.driver ⟨3, 1, 5, 14, 0⟩
      (enqueueGL Kind.ib.driver (Bus.start 80).gl (Bus.start 80).queue ⟨3, 1, 5, 14, 0⟩) :=
  (queues_iff .ib 80 (show MeetsAlong _ _ _ [] from trivial) rfl ⟨3, 1, 5, 14, 0⟩).mpr
    fun _ _ => Or.inr trivial

theorem Queues.last {driver : GlDriver} {command : GlCommand}
    {result : SrcpCode × Gl × Log GlState} {α : Type} {value : α} {field : GlState → α}
    (queues : Queues driver command result) (answered : result.1 = .ok)
    (last : result.2.2.added.getLast?.map field = some value) :
    ∃ entry, field entry = value ∧ Accepts driver entry := by
  obtain ⟨-, before, entry, added, -, accepts⟩ := queues answered
  rw [added, List.getLast?_concat] at last
  exact ⟨entry, Option.some.inj last, accepts⟩

/-- The answer to a command after some calls. -/
def answer (kind : Kind) (ops : List Op) (command : GlCommand) :
    SrcpCode × Gl × Log GlState :=
  let bus := (run (step kind.driver) (Bus.start 80) ops).getD (Bus.start 80)
  enqueueGL kind.driver bus.gl bus.queue command

/-- `SET 1 GL 3 1 5 14` on the bus of a 6051 without an `INIT` before, on that of a LI100
after `INIT 1 GL 3 N 1 0 5`, and on that of a 6051 where the driver stores 28 speed steps
from before an `INIT 1 GL 3 M 1 14 5`. -/
theorem not_queues :
    ¬ Queues Kind.m6051.driver ⟨3, 1, 5, 14, 0⟩ (answer .m6051 [] ⟨3, 1, 5, 14, 0⟩) ∧
      ¬ Queues Kind.li100.driver ⟨3, 1, 5, 14, 0⟩
        (answer .li100 [.init 3 'N' 1 0 5] ⟨3, 1, 5, 14, 0⟩) ∧
      ¬ Queues Kind.m6051.driver ⟨3, 1, 5, 14, 0⟩
        (answer .m6051 [.init 3 'M' 2 28 5, .init 3 'M' 1 14 5,
          .store 3 { GlState.zero with nFs := 28, nFunc := 5 }] ⟨3, 1, 5, 14, 0⟩) := by
  refine ⟨?_, ?_, ?_⟩
  · intro queues
    have last : (answer .m6051 [] ⟨3, 1, 5, 14, 0⟩).2.2.added.getLast?.map GlState.nFs =
      some 0 := by decide
    obtain ⟨entry, steps, accepts⟩ := queues.last (by decide) last
    exact absurd accepts.steps (by rw [steps]; decide)
  · intro queues
    have last : (answer .li100 [.init 3 'N' 1 0 5] ⟨3, 1, 5, 14, 0⟩).2.2.added.getLast?.map
      GlState.nFs = some 0 := by decide
    obtain ⟨entry, steps, accepts⟩ := queues.last (by decide) last
    exact absurd accepts.steps (by rw [steps]; decide)
  · intro queues
    have last : (answer .m6051 [.init 3 'M' 2 28 5, .init 3 'M' 1 14 5,
        .store 3 { GlState.zero with nFs := 28, nFunc := 5 }]
        ⟨3, 1, 5, 14, 0⟩).2.2.added.getLast?.map Driver.M605x.initGlM6051 =
      some .wrongValue := by decide
    obtain ⟨entry, rejected, accepts⟩ := queues.last (by decide) last
    exact absurd (rejected.symm.trans accepts.accepted) (by decide)

end Srcpd.Inits
