import Srcpd.Driver.GlCommand

/-!
# The Märklin 6050 and 6051 driver

The GL part of `thr_sendrec_M6051`, and a locomotive behind a 6021 that follows
the pairs of bytes.  Value 15 reverses it, bit 4 is its light and from 64 on the
functions are set, so a byte for the speed has room for 14 steps.
`meetsAlong_follows_iff` says which commands stay inside this.
-/

namespace Srcpd.Driver.M605x

open Srcpd.Command Srcpd.Transition

/-- `init_gl_M6051`. -/
def initGlM6051 (gl : GlState) : SrcpCode :=
  if gl.protocol ≠ 'M' then .unsupportedDeviceProtocol
  else if gl.protocolversion = 1 then if gl.nFs = 14 then .ok else .wrongValue
  else if gl.protocolversion = 2 then
    if gl.nFs = 14 ∨ gl.nFs = 27 ∨ gl.nFs = 28 then .ok else .wrongValue
  else .wrongValue

/-- An emergency stop is sent as a reversal without speed. -/
def resolveStop (gltmp glakt : GlState) : GlState :=
  if gltmp.direction = 2 then
    { gltmp with speed := 0, direction := if glakt.direction = 0 then 1 else 0 }
  else gltmp

/-- The byte that turns the locomotive around, with the light. -/
def directionByte (gltmp : GlState) : BitVec 8 :=
  byte (15 + 16 * if gltmp.funcs.getLsbD 4 then 1 else 0)

/-- Speed and light, the more so after a reversal. -/
def speedByte (gltmp : GlState) : BitVec 8 :=
  byte (gltmp.speed + 16 * if gltmp.funcs.getLsbD 0 then 1 else 0)

/-- The byte for F1 to F4. -/
def functionByte (gltmp : GlState) : BitVec 8 :=
  ((gltmp.funcs >>> 1).setWidth 8 &&& 0x0f) + 64

/-- The command bytes, each of which is followed by the address; `m6020` is whether
the bus is in the mode for a 6020. -/
def directionBytes (gltmp glakt : GlState) : List (BitVec 8) :=
  if gltmp.direction ≠ glakt.direction then [directionByte gltmp] else []

/-- The functions are sent when they changed, but not to a 6020. -/
def functionBytes (m6020 : Bool) (gltmp glakt : GlState) : List (BitVec 8) :=
  if ¬ m6020 ∧ gltmp.funcs ≠ glakt.funcs then [functionByte gltmp] else []

/-- The bytes for a command and what is handed to `cacheSetGL`. -/
def sendrecGl (m6020 : Bool) (gltmp glakt : GlState) : List (BitVec 8) × GlState :=
  let gltmp := resolveStop gltmp glakt
  (directionBytes gltmp glakt ++ [speedByte gltmp] ++ functionBytes m6020 gltmp glakt, gltmp)

/-! ## The locomotive behind the central unit -/

/-- A locomotive as the control unit drives it. -/
structure Locomotive where
  direction : Int
  light : Bool
  /-- F1 to F4. -/
  functions : BitVec 4
  speed : Nat

/-- A speed byte that asks for the other direction. -/
def Reverses (c : BitVec 8) : Prop :=
  c < 64 ∧ c &&& 15 = 15

instance (c : BitVec 8) : Decidable (Reverses c) :=
  inferInstanceAs (Decidable (_ ∧ _))

/-- What the control unit does with a byte for a locomotive. -/
def interpret (locomotive : Locomotive) (c : BitVec 8) : Locomotive :=
  if 64 ≤ c then { locomotive with functions := c.setWidth 4 }
  else if Reverses c then
    { locomotive with
      direction := if locomotive.direction = 0 then 1 else 0
      light := c.getLsbD 4 }
  else { locomotive with speed := (c &&& 15).toNat, light := c.getLsbD 4 }

/-! ## Runs -/

/-- The record of a locomotive and the locomotive. -/
structure System where
  cache : GlState
  locomotive : Locomotive

/-- A command for the locomotive. -/
structure Command where
  speed : Int
  direction : Int
  funcs : BitVec 32

/-- What is taken from the queue: the other values are those of the initialisation. -/
def Command.gltmp (command : Command) (glakt : GlState) : GlState :=
  { glakt with speed := command.speed, direction := command.direction, funcs := command.funcs }

/-- A command with a speed up to the number of speed steps and a direction up to 2. -/
def step (m6020 : Bool) : Step System Command := fun system command =>
  if 0 ≤ command.speed ∧ command.speed ≤ system.cache.nFs ∧
      0 ≤ command.direction ∧ command.direction ≤ 2 then
    let sent := sendrecGl m6020 (command.gltmp system.cache) system.cache
    some {
      cache := { system.cache with
        direction := sent.2.direction, speed := sent.2.speed, funcs := sent.2.funcs }
      locomotive := sent.1.foldl interpret system.locomotive }
  else none

/-- The locomotive is as the cache has it. -/
structure Agrees (system : System) : Prop where
  direction : system.locomotive.direction = system.cache.direction
  light : system.locomotive.light = system.cache.funcs.getLsbD 0
  functions : system.locomotive.functions = (system.cache.funcs >>> 1).setWidth 4

/-- A decoder as `cacheInitGL` leaves it, and the locomotive at rest. -/
def System.start (gl : GlState) : System where
  cache := { gl with state := 1, speed := 0, direction := 0, funcs := 0 }
  locomotive := { direction := 0, light := false, functions := 0, speed := 0 }

/-- The bytes for one command do what it asks for. -/
structure Follows (m6020 : Bool) (system : System) (command : Command) : Prop where
  /-- The byte for the speed does not reverse the locomotive. -/
  runs : ¬ Reverses (speedByte (resolveStop (command.gltmp system.cache) system.cache))
  /-- It leaves the light as it finds it when the command does not switch it. -/
  light : command.funcs.getLsbD 0 = system.cache.funcs.getLsbD 0 →
    let gltmp := resolveStop (command.gltmp system.cache) system.cache
    let locomotive := (directionBytes gltmp system.cache).foldl interpret system.locomotive
    (interpret locomotive (speedByte gltmp)).light = locomotive.light
  /-- A change of the direction reverses it once. -/
  once : let sent := sendrecGl m6020 (command.gltmp system.cache) system.cache
    sent.1.countP (fun c => Reverses c) =
      if sent.2.direction ≠ system.cache.direction then 1 else 0
  agrees : ∀ next, step m6020 system command = some next → Agrees next

/-- The speed fits, a reversal finds F4 like the light and a 6020 is not asked for other
functions than the light. -/
def Fits (m6020 : Bool) (system : System) (command : Command) : Prop :=
  (command.direction = 2 ∨ command.speed ≤ 14) ∧
    (command.direction ≠ system.cache.direction →
      command.funcs.getLsbD 0 = system.cache.funcs.getLsbD 0 →
      command.funcs.getLsbD 4 = command.funcs.getLsbD 0) ∧
    (m6020 = true → (command.funcs >>> 1).setWidth 4 =
      (system.cache.funcs >>> 1).setWidth 4)

/-! ## The bytes -/

theorem directionByte_reverses (gltmp : GlState) : Reverses (directionByte gltmp) := by
  rw [directionByte]
  cases gltmp.funcs.getLsbD 4 <;> decide

theorem directionByte_light (gltmp : GlState) :
    (directionByte gltmp).getLsbD 4 = gltmp.funcs.getLsbD 4 := by
  rw [directionByte]
  cases gltmp.funcs.getLsbD 4 <;> decide

theorem le_functionByte (gltmp : GlState) : 64 ≤ functionByte gltmp := by
  rw [functionByte]
  generalize (gltmp.funcs >>> 1).setWidth 8 = value
  revert value
  decide

theorem functionByte_functions (gltmp : GlState) :
    (functionByte gltmp).setWidth 4 = (gltmp.funcs >>> 1).setWidth 4 := by
  have low : (gltmp.funcs >>> 1).setWidth 4 =
      ((gltmp.funcs >>> 1).setWidth 8).setWidth 4 := by
    rw [BitVec.setWidth_setWidth_of_le _ (by decide)]
  rw [functionByte, low]
  generalize (gltmp.funcs >>> 1).setWidth 8 = value
  revert value
  decide

theorem not_reverses_functionByte (gltmp : GlState) : ¬ Reverses (functionByte gltmp) := by
  rintro ⟨below, _⟩
  exact absurd below (BitVec.not_lt.mpr (le_functionByte gltmp))

/-- Up to step 14 the byte carries the speed and the light. -/
theorem speedByte_of_le (speed : Int) (light : Bool) (nonneg : 0 ≤ speed) (fits : speed ≤ 14) :
    let c := byte (speed + 16 * if light then 1 else 0)
    c < 64 ∧ ¬ Reverses c ∧ c.getLsbD 4 = light := by
  interval_cases speed <;> cases light <;> decide

/-- Above step 14 it reverses the locomotive or has the light wrong. -/
theorem speedByte_of_gt (speed : Int) (light : Bool) (above : 14 < speed) (le : speed ≤ 28) :
    let c := byte (speed + 16 * if light then 1 else 0)
    c < 64 ∧ (Reverses c ∨ c.getLsbD 4 ≠ light) := by
  interval_cases speed <;> cases light <;> decide

theorem speedByte_lt (speed : Int) (light : Bool) (nonneg : 0 ≤ speed) (le : speed ≤ 28) :
    byte (speed + 16 * if light then 1 else 0) < 64 := by
  rcases le_or_gt speed 14 with fits | above
  · exact (speedByte_of_le speed light nonneg fits).1
  · exact (speedByte_of_gt speed light above le).1

/-! ## The locomotive after the bytes -/

section Interpret

variable {locomotive : Locomotive} {c : BitVec 8} {gltmp glakt : GlState}

theorem interpret_light (below : c < 64) : (interpret locomotive c).light = c.getLsbD 4 := by
  rw [interpret, if_neg (BitVec.not_le.mpr below)]
  split <;> rfl

theorem interpret_functions (below : c < 64) :
    (interpret locomotive c).functions = locomotive.functions := by
  rw [interpret, if_neg (BitVec.not_le.mpr below)]
  split <;> rfl

theorem interpret_direction (below : c < 64) (runs : ¬ Reverses c) :
    (interpret locomotive c).direction = locomotive.direction := by
  rw [interpret, if_neg (BitVec.not_le.mpr below), if_neg runs]

theorem directionBytes_direction (agree : locomotive.direction = glakt.direction)
    (old : glakt.direction = 0 ∨ glakt.direction = 1)
    (new : gltmp.direction = 0 ∨ gltmp.direction = 1) :
    ((directionBytes gltmp glakt).foldl interpret locomotive).direction = gltmp.direction := by
  rw [directionBytes]
  split
  · rename_i differs
    have reverses := directionByte_reverses gltmp
    rw [List.foldl_cons, List.foldl_nil, interpret, if_neg (BitVec.not_le.mpr reverses.1),
      if_pos reverses]
    rcases old with old | old <;> rcases new with new | new <;>
      simp_all
  · rename_i same
    rw [List.foldl_nil, agree, not_not.mp same]

theorem directionBytes_light :
    ((directionBytes gltmp glakt).foldl interpret locomotive).light =
      if gltmp.direction ≠ glakt.direction then gltmp.funcs.getLsbD 4 else locomotive.light := by
  rw [directionBytes]
  split
  · rw [List.foldl_cons, List.foldl_nil, interpret_light (directionByte_reverses gltmp).1,
      directionByte_light]
  · rfl

theorem directionBytes_functions :
    ((directionBytes gltmp glakt).foldl interpret locomotive).functions =
      locomotive.functions := by
  rw [directionBytes]
  split
  · exact interpret_functions (directionByte_reverses gltmp).1
  · rfl

/-- Bytes for the functions change nothing else. -/
theorem functionBytes_others (m6020 : Bool) :
    ((functionBytes m6020 gltmp glakt).foldl interpret locomotive).direction =
        locomotive.direction ∧
      ((functionBytes m6020 gltmp glakt).foldl interpret locomotive).light =
        locomotive.light := by
  rw [functionBytes]
  split
  · rw [List.foldl_cons, List.foldl_nil, interpret, if_pos (le_functionByte gltmp)]
    exact ⟨rfl, rfl⟩
  · exact ⟨rfl, rfl⟩

theorem functionBytes_functions (m6020 : Bool)
    (agree : locomotive.functions = (glakt.funcs >>> 1).setWidth 4) :
    ((functionBytes m6020 gltmp glakt).foldl interpret locomotive).functions =
        (gltmp.funcs >>> 1).setWidth 4 ↔
      (m6020 = true → (gltmp.funcs >>> 1).setWidth 4 = (glakt.funcs >>> 1).setWidth 4) := by
  rw [functionBytes]
  split
  · rename_i sends
    rw [List.foldl_cons, List.foldl_nil, interpret, if_pos (le_functionByte gltmp)]
    exact iff_of_true (functionByte_functions gltmp) fun mode => absurd mode sends.1
  · rename_i silent
    rw [List.foldl_nil, agree]
    cases m6020 with
    | true =>
        constructor
        · exact fun same _ => same.symm
        · exact fun same => (same rfl).symm
    | false =>
        have same : gltmp.funcs = glakt.funcs := by simpa using silent
        rw [same]
        exact iff_of_true rfl fun _ => rfl

theorem countP_functionBytes (m6020 : Bool) :
    (functionBytes m6020 gltmp glakt).countP (fun c => Reverses c) = 0 := by
  rw [functionBytes]
  split
  · rw [List.countP_singleton, if_neg]
    simpa using not_reverses_functionByte gltmp
  · rfl

theorem countP_directionBytes :
    (directionBytes gltmp glakt).countP (fun c => Reverses c) =
      if gltmp.direction ≠ glakt.direction then 1 else 0 := by
  rw [directionBytes]
  split
  · rw [List.countP_singleton, if_pos]
    simpa using directionByte_reverses gltmp
  · rfl

end Interpret

/-! ## Commands that stay inside a byte -/

/-- What the driver keeps about a decoder it has accepted. -/
structure Inv (system : System) : Prop where
  agrees : Agrees system
  direction : system.cache.direction = 0 ∨ system.cache.direction = 1
  nFs : system.cache.nFs ≤ 28

section Step

variable {m6020 : Bool} {system next : System} {command : Command}

theorem step_eq_some (taken : step m6020 system command = some next) :
    (0 ≤ command.speed ∧ command.speed ≤ system.cache.nFs ∧
      0 ≤ command.direction ∧ command.direction ≤ 2) ∧
    next.cache = { system.cache with
      direction := (resolveStop (command.gltmp system.cache) system.cache).direction
      speed := (resolveStop (command.gltmp system.cache) system.cache).speed
      funcs := command.funcs } ∧
    next.locomotive =
      (sendrecGl m6020 (command.gltmp system.cache) system.cache).1.foldl interpret
        system.locomotive := by
  rw [step] at taken
  split at taken
  · rename_i range
    cases taken
    refine ⟨range, ?_, rfl⟩
    have funcs : (resolveStop (command.gltmp system.cache) system.cache).funcs =
        command.funcs := by
      rw [resolveStop]
      split <;> rfl
    rw [← funcs]
    rfl
  · contradiction

theorem resolveStop_funcs (command : Command) (glakt : GlState) :
    (resolveStop (command.gltmp glakt) glakt).funcs = command.funcs := by
  rw [resolveStop]
  split <;> rfl

theorem resolveStop_direction {glakt : GlState} (nonneg : 0 ≤ command.direction)
    (le : command.direction ≤ 2) :
    (resolveStop (command.gltmp glakt) glakt).direction = 0 ∨
      (resolveStop (command.gltmp glakt) glakt).direction = 1 := by
  rw [resolveStop]
  split
  · dsimp only
    split
    · exact Or.inr rfl
    · exact Or.inl rfl
  · rename_i other
    have bound : command.direction ≠ 2 := other
    change command.direction = 0 ∨ command.direction = 1
    omega

theorem resolveStop_speed (command : Command) (glakt : GlState) :
    (resolveStop (command.gltmp glakt) glakt).speed =
      if command.direction = 2 then 0 else command.speed := by
  rw [resolveStop]
  split
  · rename_i stop
    exact (if_pos stop).symm
  · rename_i other
    exact (if_neg other).symm

/-- A stop reverses, whatever the direction was. -/
theorem resolveStop_direction_ne_iff {glakt : GlState}
    (old : glakt.direction = 0 ∨ glakt.direction = 1) :
    (resolveStop (command.gltmp glakt) glakt).direction ≠ glakt.direction ↔
      command.direction ≠ glakt.direction := by
  rw [resolveStop]
  split
  · rename_i stop
    have direction : command.direction = 2 := stop
    rcases old with old | old <;> simp [old, direction]
  · exact Iff.rfl

theorem speedByte_resolveStop_lt (inv : Inv system)
    (taken : step m6020 system command = some next) :
    speedByte (resolveStop (command.gltmp system.cache) system.cache) < 64 := by
  rcases step_eq_some taken with ⟨⟨nonneg, le, _, _⟩, _, _⟩
  have bound := inv.nFs
  apply speedByte_lt
  · rw [resolveStop_speed]
    split <;> omega
  · rw [resolveStop_speed]
    split <;> omega

/-- The locomotive after a command, one kind of byte after the other. -/
theorem step_locomotive (inv : Inv system) (taken : step m6020 system command = some next) :
    let gltmp := resolveStop (command.gltmp system.cache) system.cache
    (next.locomotive.light = (speedByte gltmp).getLsbD 4) ∧
      (¬ Reverses (speedByte gltmp) → next.locomotive.direction = gltmp.direction) ∧
      (next.locomotive.functions = (command.funcs >>> 1).setWidth 4 ↔
        (m6020 = true → (command.funcs >>> 1).setWidth 4 =
          (system.cache.funcs >>> 1).setWidth 4)) := by
  rcases step_eq_some taken with ⟨⟨_, _, dirNonneg, dirLe⟩, _, reached⟩
  intro gltmp
  have below : speedByte gltmp < 64 := speedByte_resolveStop_lt inv taken
  have funcs : gltmp.funcs = command.funcs := resolveStop_funcs command system.cache
  have new : gltmp.direction = 0 ∨ gltmp.direction = 1 := resolveStop_direction dirNonneg dirLe
  have parts : next.locomotive =
      (functionBytes m6020 gltmp system.cache).foldl interpret
        (interpret ((directionBytes gltmp system.cache).foldl interpret system.locomotive)
          (speedByte gltmp)) := by
    rw [reached, sendrecGl]
    dsimp only
    rw [List.foldl_append, List.foldl_append]
    rfl
  rcases @functionBytes_others (interpret
    ((directionBytes gltmp system.cache).foldl interpret system.locomotive) (speedByte gltmp))
    gltmp system.cache m6020 with ⟨keepsDirection, keepsLight⟩
  refine ⟨?_, fun runs => ?_, ?_⟩
  · rw [parts, keepsLight, interpret_light below]
  · rw [parts, keepsDirection, interpret_direction below runs]
    exact directionBytes_direction inv.agrees.direction inv.direction new
  · rw [parts, ← funcs]
    apply functionBytes_functions
    rw [interpret_functions below, directionBytes_functions]
    exact inv.agrees.functions

/-- The byte for the speed is right exactly up to step 14. -/
theorem speedByte_right_iff (inv : Inv system)
    (taken : step m6020 system command = some next) :
    let gltmp := resolveStop (command.gltmp system.cache) system.cache
    (¬ Reverses (speedByte gltmp) ∧ (speedByte gltmp).getLsbD 4 = command.funcs.getLsbD 0) ↔
      (command.direction = 2 ∨ command.speed ≤ 14) := by
  rcases step_eq_some taken with ⟨⟨nonneg, le, _, _⟩, _, _⟩
  intro gltmp
  have speed : gltmp.speed = if command.direction = 2 then 0 else command.speed :=
    resolveStop_speed command system.cache
  have funcs : gltmp.funcs = command.funcs := resolveStop_funcs command system.cache
  have bound := inv.nFs
  have fits : gltmp.speed ≤ 14 ↔ command.direction = 2 ∨ command.speed ≤ 14 := by
    rw [speed]
    split <;> omega
  rw [← fits]
  constructor
  · rintro ⟨runs, light⟩
    by_contra above
    have high : gltmp.speed ≤ 28 := by
      rw [speed]
      split <;> omega
    rcases (speedByte_of_gt gltmp.speed (gltmp.funcs.getLsbD 0) (not_le.mp above) high).2 with
      reverses | wrong
    · exact runs reverses
    · rw [funcs] at wrong
      exact wrong (by simpa only [speedByte, funcs] using light)
  · intro fits
    have nonneg' : 0 ≤ gltmp.speed := by
      rw [speed]
      split <;> omega
    have right := speedByte_of_le gltmp.speed (gltmp.funcs.getLsbD 0) nonneg' fits
    rw [← funcs]
    exact right.2

theorem step_cache (taken : step m6020 system command = some next) :
    next.cache.funcs = command.funcs ∧
      next.cache.direction = (resolveStop (command.gltmp system.cache) system.cache).direction ∧
      next.cache.nFs = system.cache.nFs := by
  rw [(step_eq_some taken).2.1]
  exact ⟨rfl, rfl, rfl⟩

/-- What a command that fits leaves behind. -/
theorem agrees_of_fits (inv : Inv system) (taken : step m6020 system command = some next)
    (fits : Fits m6020 system command) : Agrees next := by
  rcases fits with ⟨speed, _, mode⟩
  rcases step_locomotive inv taken with ⟨light, direction, functions⟩
  rcases (speedByte_right_iff inv taken).mpr speed with ⟨runs, lit⟩
  rcases step_cache taken with ⟨funcs, cached, _⟩
  constructor
  · rw [direction runs, cached]
  · rw [light, lit, funcs]
  · rw [funcs]
    exact functions.mpr mode

theorem follows_iff_fits (inv : Inv system) (taken : step m6020 system command = some next) :
    Follows m6020 system command ↔ Fits m6020 system command := by
  rcases step_locomotive inv taken with ⟨light, _, functions⟩
  rcases step_cache taken with ⟨funcs, _, _⟩
  have below := speedByte_resolveStop_lt inv taken
  constructor
  · intro follows
    have agrees := follows.agrees next taken
    have lit := agrees.light
    rw [light, funcs] at lit
    refine ⟨(speedByte_right_iff inv taken).mp ⟨follows.runs, lit⟩, fun differs same => ?_, ?_⟩
    · have changes := (resolveStop_direction_ne_iff inv.direction).mpr differs
      have kept := follows.light same
      dsimp only at kept
      rw [interpret_light below, directionBytes_light, if_pos changes, resolveStop_funcs,
        lit] at kept
      exact kept.symm
    · have functionsAgree := agrees.functions
      rw [funcs] at functionsAgree
      exact functions.mp functionsAgree
  · intro fits
    rcases (speedByte_right_iff inv taken).mpr fits.1 with ⟨runs, lit⟩
    constructor
    · exact runs
    · intro same
      dsimp only
      rw [interpret_light below, directionBytes_light, resolveStop_funcs, lit]
      split
      · rename_i changes
        exact (fits.2.1 ((resolveStop_direction_ne_iff inv.direction).mp changes) same).symm
      · rw [same]
        exact inv.agrees.light.symm
    · dsimp only
      rw [sendrecGl]
      dsimp only
      have speed : [speedByte (resolveStop (command.gltmp system.cache) system.cache)].countP
          (fun c => Reverses c) = 0 := by
        rw [List.countP_singleton, if_neg]
        simpa using runs
      rw [List.countP_append, List.countP_append, countP_directionBytes, countP_functionBytes,
        speed]
      rfl
    · intro other taken'
      rw [taken] at taken'
      cases taken'
      exact agrees_of_fits inv taken fits

theorem Inv.step (inv : Inv system) (taken : step m6020 system command = some next)
    (fits : Fits m6020 system command) : Inv next := by
  rcases step_eq_some taken with ⟨⟨_, _, nonneg, le⟩, _, _⟩
  rcases step_cache taken with ⟨_, direction, nFs⟩
  constructor
  · exact agrees_of_fits inv taken fits
  · rw [direction]
    exact resolveStop_direction nonneg le
  · rw [nFs]
    exact inv.nFs

end Step

theorem initGlM6051_nFs {gl : GlState} (accepted : initGlM6051 gl = .ok) :
    gl.nFs = 14 ∨ gl.nFs = 27 ∨ gl.nFs = 28 := by
  rw [initGlM6051] at accepted
  split at accepted
  · contradiction
  · split at accepted
    · split at accepted
      · exact Or.inl ‹_›
      · contradiction
    · split at accepted
      · split at accepted
        · assumption
        · contradiction
      · contradiction

theorem Inv.start {gl : GlState} (accepted : initGlM6051 gl = .ok) : Inv (System.start gl) := by
  constructor
  · constructor <;> simp [System.start]
  · exact Or.inl rfl
  · change gl.nFs ≤ 28
    rcases initGlM6051_nFs accepted with steps | steps | steps <;> omega

/-- The locomotive follows a run of commands exactly when every one of them fits. -/
theorem meetsAlong_follows_iff (m6020 : Bool) {gl : GlState}
    (accepted : initGlM6051 gl = .ok) (commands : List Command) :
    MeetsAlong (step m6020) (Follows m6020) (System.start gl) commands ↔
      MeetsAlong (step m6020) (Fits m6020) (System.start gl) commands :=
  @meetsAlong_iff_of_invariant _ _ (step m6020) (Follows m6020) (Fits m6020) Inv
    (fun _ _ _ inv taken => follows_iff_fits inv taken)
    (fun _ _ _ inv fits taken => inv.step taken fits) _ _ (Inv.start accepted)

/-- A decoder with 28 steps. -/
def decoder28 : GlState :=
  { GlState.zero with protocol := 'M', protocolversion := 2, nFs := 28 }

theorem meetsAlong_follows_iff_decoder28 :
    initGlM6051 decoder28 = .ok ∧
      (MeetsAlong (step false) (Follows false) (System.start decoder28) [⟨14, 1, 17⟩] ↔
        MeetsAlong (step false) (Fits false) (System.start decoder28) [⟨14, 1, 17⟩]) :=
  ⟨by decide, meetsAlong_follows_iff false (by decide) _⟩

/-- Step 15 of a decoder with 28 steps reverses it. -/
theorem not_follows_step15 :
    ¬ ∀ (m6020 : Bool) (gl : GlState), initGlM6051 gl = .ok → ∀ commands,
      MeetsAlong (step m6020) (Follows m6020) (System.start gl) commands := by
  intro always
  have along := always false decoder28 (by decide) [⟨15, 0, 0⟩]
  have follows := (along _ rfl).1
  exact follows.runs (by decide)

end Srcpd.Driver.M605x
