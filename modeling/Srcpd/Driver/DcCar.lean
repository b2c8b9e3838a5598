import Srcpd.Driver.Inits

/-!
# DC-Cars and Infracars

The configured bus, the commands to its locomotives one after the other, and the cars,
which read the messages by their address bytes.  `run_right_iff` tells for which
commands the cars are told what is cached: the limit for Infracars admits one address
that the second byte has no room for.
-/

namespace Srcpd.Driver.DcCar

open Srcpd.Command Srcpd.Queue Srcpd.Transition

/-! ## The bus -/

/-- The limits of the configuration. -/
def clampNumberGl (mode : Bool) (numberGl : Int) : Int :=
  if mode = true ∧ 1023 < numberGl then 1023
  else if mode = false ∧ 4096 < numberGl then 4096
  else numberGl

/-- Each message is kept with the command it is sent for. -/
structure State where
  gl : Gl
  written : List (GlState × Message)

/-- A command to an initialised locomotive, taken from the queue. -/
def step (mode : Bool) : Step State GlState := fun state gltmp =>
  (cacheGetGL state.gl gltmp.id).2.map fun glakt =>
    let result := handleGlCommand mode gltmp glakt
    { gl := (cacheSetGL state.gl gltmp.id result.2).2
      written := state.written ++ result.1.map fun message => (gltmp, message) }

/-- What an init accepts. -/
def driver : GlDriver where
  protocols := ['M', 'N']
  initGlFunc := some fun gl => (Inits.initGlDCCAR gl, gl)

/-! ## The cars -/

/-- Functions F1 to F6, and F0 with F7 to F11. -/
inductive Group
  | first
  | second
  deriving DecidableEq

/-- The bit of a function. -/
def Group.position : Group → Nat → Option (Fin 6)
  | .first, i => if inside : 1 ≤ i ∧ i ≤ 6 then some ⟨i - 1, by omega⟩ else none
  -- The difference is 0 for F0 as well.
  | .second, i => if inside : i = 0 ∨ 7 ≤ i ∧ i ≤ 11 then some ⟨i - 6, by omega⟩ else none

/-- The second byte of a DC-Car starts at 0x40, at 0x60 for the functions F0 and F7 to
F11, and at 0x70 for those from F12 on.  Infracars have the first group only. -/
def decodeAddress (mode : Bool) (low high : BitVec 8) : Option (Group × Int) :=
  if low.toNat < 64 then
    if 64 ≤ high.toNat ∧ high.toNat < (if mode then 96 else 128) then
      some (.first, ((high.toNat : Int) - 64) * 64 + low.toNat)
    else if mode = true ∧ 96 ≤ high.toNat ∧ high.toNat < 112 then
      some (.second, ((high.toNat : Int) - 96) * 64 + low.toNat)
    else none
  else none

/-- The speed that a speed byte stands for. -/
def decodeSpeed (code : BitVec 8) : Option Int :=
  if 200 ≤ code.toNat ∧ code.toNat < 208 then some (code.toNat - 200)
  else if 216 ≤ code.toNat ∧ code.toNat < 224 then some (code.toNat - 208)
  else if 232 ≤ code.toNat ∧ code.toNat < 240 then some (code.toNat - 216)
  else if 248 ≤ code.toNat ∧ code.toNat < 253 then some (code.toNat - 224)
  else none

/-- A DCCar as its messages have set it. -/
structure Car where
  speed : Int
  f : Nat → Bool

/-- A car before its first message. -/
def Car.standing : Car where
  speed := 0
  f := fun _ => false

/-- What a car does with the data byte of a message; others than function bytes are speeds. -/
def Car.apply (car : Car) (group : Group) (data : BitVec 8) : Car :=
  if data &&& 0xc0 = 0x80 then
    { car with
      f := fun i =>
        match group.position i with
        | some bit => data.getLsbD bit
        | none => car.f i }
  else
    match group, decodeSpeed data with
    | .first, some speed => { car with speed := speed }
    | _, _ => car

/-- The car with the address `id`. -/
def Car.receive (mode : Bool) (id : Int) (car : Car) (message : Message) : Car :=
  match message with
  | [low, high, data] =>
      match decodeAddress mode low high with
      | some (group, addr) => if addr = id then car.apply group data else car
      | none => car
  | _ => car

/-- A car that stands with all functions off, after the messages. -/
def replay (mode : Bool) (id : Int) (written : List (GlState × Message)) : Car :=
  written.foldl (fun car sent => car.receive mode id sent.2) .standing

/-! ## What has to hold -/

/-- An emergency stop is a stop. -/
def commandedSpeed (gltmp : GlState) : Int :=
  if gltmp.direction = 2 then 0 else gltmp.speed

/-- The functions F1 to F6 in a data byte. -/
def firstFunctions (gltmp : GlState) : BitVec 8 :=
  functionByte fun i => gltmp.funcs.getLsbD (i + 1)

/-- F0 and the functions F7 to F11 in a data byte. -/
def secondFunctions (gltmp : GlState) : BitVec 8 :=
  functionByte fun i => gltmp.funcs.getLsbD (if i.val = 0 then 0 else i.val + 6)

/-- Three bytes for the car of the command, its address in the range of the group. -/
def Tells (mode : Bool) (gltmp : GlState) (message : Message) : Prop :=
  ∃ low high data, message = [low, high, data] ∧
    (decodeAddress mode low high = some (.first, gltmp.id) ∧
        (data = speedByte (commandedSpeed gltmp) ∨ data = firstFunctions gltmp) ∨
      decodeAddress mode low high = some (.second, gltmp.id) ∧ data = secondFunctions gltmp)

/-- The record is what the car does. -/
structure Agrees (mode : Bool) (car : Car) (record : GlState) : Prop where
  speed : car.speed = record.speed
  first : ∀ i, 1 ≤ i → i ≤ 6 → car.f i = record.funcs.getLsbD i
  second : mode = true → ∀ i, i = 0 ∨ 7 ≤ i ∧ i ≤ 11 → car.f i = record.funcs.getLsbD i

/-- What was written so far tells each car its values, no two cars listen to one
address, and the cache has the last values. -/
structure Right (mode : Bool) (state : State) : Prop where
  tells : ∀ sent ∈ state.written, Tells mode sent.1 sent.2
  apart : ∀ sent ∈ state.written, ∀ other ∈ state.written,
    sent.2.take 2 = other.2.take 2 → sent.1.id = other.1.id
  speeds : Set.InjOn speedByte (Set.Icc 0 28)
  cached : ∀ id, state.gl.isInitialized id = true →
    Agrees mode (replay mode id state.written) (state.gl.glstate id)

/-- The table behind the inits. -/
structure Configured (mode : Bool) (numberGl : Int) (gl : Gl) : Prop where
  /-- Without memory for the table there are no addresses. -/
  number : gl.numberOfGl = clampNumberGl mode numberGl ∨ gl.numberOfGl = 0
  fresh : ∀ id, gl.isInitialized id = true →
    (gl.glstate id).speed = 0 ∧ (gl.glstate id).funcs = 0

/-- The values that the driver lets through for a car. -/
structure Admitted (gltmp : GlState) : Prop where
  nFs : gltmp.nFs = 28
  speed : 0 ≤ gltmp.speed ∧ gltmp.speed ≤ 28
  direction : 0 ≤ gltmp.direction ∧ gltmp.direction ≤ 2

/-- Nothing has to be sent to the last Infracar. -/
def Fits (mode : Bool) (state : State) (gltmp : GlState) : Prop :=
  mode = true ∨ gltmp.id ≠ 4096 ∨
    (commandedSpeed gltmp = (state.gl.glstate gltmp.id).speed ∧
      gltmp.funcs &&& 126 = (state.gl.glstate gltmp.id).funcs &&& 126)

/-! ## The bytes -/

variable {mode : Bool} {id : Int}

theorem setAddressBytes_toNat (positive : 0 < id) (small : id ≤ 4096) :
    ((setAddressBytes id).1.toNat : Int) = id % 64 ∧
      ((setAddressBytes id).2.toNat : Int) = id / 64 + 64 := by
  have whole : 0 ≤ id := positive.le
  rw [setAddressBytes, byte_toNat, byte_toNat, Int.tmod_eq_emod_of_nonneg whole,
    Int.tdiv_eq_ediv_of_nonneg whole]
  omega

/-- The address of the first group. -/
theorem decodeAddress_first (positive : 0 < id) (small : id ≤ if mode then 1023 else 4095) :
    decodeAddress mode (setAddressBytes id).1 (setAddressBytes id).2 = some (.first, id) := by
  have top : id ≤ 4096 := by
    split at small <;> omega
  rcases setAddressBytes_toNat positive top with ⟨low, high⟩
  have room : (setAddressBytes id).2.toNat < if mode then 96 else 128 := by
    split at small <;> simp_all <;> omega
  rw [decodeAddress, if_pos (by omega), if_pos ⟨by omega, room⟩, low, high]
  congr 2
  omega

theorem decodeAddress_second (positive : 0 < id) (small : id ≤ 1023) :
    decodeAddress true (setAddressBytes id).1 ((setAddressBytes id).2 + 32) =
      some (.second, id) := by
  rcases setAddressBytes_toNat positive (by omega) with ⟨low, high⟩
  have shifted : ((setAddressBytes id).2 + 32).toNat = (setAddressBytes id).2.toNat + 32 := by
    have offset : (32 : BitVec 8).toNat = 32 := rfl
    rw [BitVec.toNat_add, offset]
    exact Nat.mod_eq_of_lt (by omega)
  have outside : ¬ (64 ≤ ((setAddressBytes id).2 + 32).toNat ∧
      ((setAddressBytes id).2 + 32).toNat < if true = true then 96 else 128) := by
    rw [if_pos rfl]
    omega
  rw [decodeAddress, if_pos (by omega), if_neg outside, if_pos ⟨rfl, by omega, by omega⟩, low,
    shifted]
  push_cast
  rw [high]
  congr 2
  omega

theorem decodeAddress_last :
    decodeAddress false (setAddressBytes 4096).1 (setAddressBytes 4096).2 = none := by
  decide

theorem decodeSpeed_speedByte {speed : Int} (slow : 0 ≤ speed) (fast : speed ≤ 28) :
    decodeSpeed (speedByte speed) = some speed ∧ speedByte speed &&& 0xc0 ≠ 0x80 := by
  interval_cases speed <;> decide

theorem speedByte_injOn : Set.InjOn speedByte (Set.Icc 0 28) := by
  rintro speed ⟨slow, fast⟩ other ⟨slow', fast'⟩ same
  have decoded := (decodeSpeed_speedByte slow fast).1
  rw [same, (decodeSpeed_speedByte slow' fast').1] at decoded
  exact (Option.some.inj decoded).symm

theorem functionByte_bits (f : Fin 6 → Bool) :
    functionByte f &&& 0xc0 = 0x80 ∧ ∀ bit : Fin 6, (functionByte f).getLsbD bit = f bit := by
  revert f
  decide

/-! ## What a car makes of the messages -/

variable {car : Car} {group : Group} {low high data : BitVec 8} {gltmp glakt : GlState}
  {message : Message}

/-- What a car makes of all messages on the line. -/
def Car.hear (mode : Bool) (id : Int) (car : Car) (messages : List Message) : Car :=
  messages.foldl (fun car message => car.receive mode id message) car

theorem Car.hear_append (first second : List Message) :
    car.hear mode id (first ++ second) = (car.hear mode id first).hear mode id second :=
  List.foldl_append

theorem replay_append (written : List (GlState × Message)) (messages : List Message) :
    replay mode id (written ++ messages.map fun message => (gltmp, message)) =
      (replay mode id written).hear mode id messages := by
  rw [replay, List.foldl_append, List.foldl_map]
  rfl

theorem receive_own (decoded : decodeAddress mode low high = some (group, id)) :
    car.receive mode id [low, high, data] = car.apply group data := by
  rw [Car.receive, decoded]
  exact if_pos rfl

/-- A car keeps to its own messages. -/
theorem Tells.receive_other (tells : Tells mode gltmp message) (different : id ≠ gltmp.id) :
    car.receive mode id message = car := by
  rcases tells with ⟨low, high, data, rfl, ⟨decoded, -⟩ | ⟨decoded, -⟩⟩ <;>
  · rw [Car.receive, decoded]
    exact if_neg different.symm

theorem hear_other {messages : List Message}
    (tells : ∀ message ∈ messages, Tells mode gltmp message) (different : id ≠ gltmp.id) :
    car.hear mode id messages = car := by
  induction messages with
  | nil => rfl
  | cons message messages ih =>
      rw [Car.hear, List.foldl_cons,
        (tells message List.mem_cons_self).receive_other different]
      exact ih fun other mem => tells other (List.mem_cons_of_mem _ mem)

theorem apply_speed {speed : Int} (slow : 0 ≤ speed) (fast : speed ≤ 28) :
    car.apply .first (speedByte speed) = { car with speed := speed } := by
  rcases decodeSpeed_speedByte slow fast with ⟨decoded, notFunctions⟩
  unfold Car.apply
  rw [if_neg notFunctions, decoded]

theorem apply_functions (f : Fin 6 → Bool) :
    car.apply group (functionByte f) =
      { car with
        f := fun i =>
          match group.position i with
          | some bit => f bit
          | none => car.f i } := by
  rcases functionByte_bits f with ⟨functions, bits⟩
  unfold Car.apply
  rw [if_pos functions]
  congr 1
  funext i
  cases group.position i with
  | none => rfl
  | some bit => exact bits bit

variable {differs : Prop} [Decidable differs]

/-- A message for the speed is sent if it differs. -/
theorem hear_speed {speed : Int} (slow : 0 ≤ speed) (fast : speed ≤ 28)
    (decoded : differs → decodeAddress mode low high = some (.first, id))
    (known : ¬ differs → car.speed = speed) :
    car.hear mode id (if differs then [[low, high, speedByte speed]] else []) =
      { car with speed := speed } := by
  split
  · rename_i sent
    exact (receive_own (decoded sent)).trans (apply_speed slow fast)
  · rename_i kept
    rw [← known kept]
    rfl

/-- A group of functions, of which only differences are sent. -/
structure Heard (group : Group) (differs : Prop) (f : Fin 6 → Bool) (car heard : Car) : Prop where
  speed : heard.speed = car.speed
  others : ∀ i, group.position i = none → heard.f i = car.f i
  own : (¬ differs → ∀ i bit, group.position i = some bit → car.f i = f bit) →
    ∀ i bit, group.position i = some bit → heard.f i = f bit

theorem hear_functions {f : Fin 6 → Bool}
    (decoded : differs → decodeAddress mode low high = some (group, id)) :
    Heard group differs f car
      (car.hear mode id (if differs then [[low, high, functionByte f]] else [])) := by
  split
  · rename_i sent
    have told : car.hear mode id [[low, high, functionByte f]] =
        { car with
          f := fun i =>
            match group.position i with
            | some bit => f bit
            | none => car.f i } := (receive_own (decoded sent)).trans (apply_functions f)
    rw [told]
    refine ⟨rfl, fun i outside => ?_, fun _ i bit inside => ?_⟩
    · dsimp only
      rw [outside]
    · dsimp only
      rw [inside]
  · rename_i kept
    exact ⟨rfl, fun i _ => rfl, fun known => known kept⟩

/-! ## Functions and bits -/

theorem position_first_eq_some {i : Nat} {bit : Fin 6}
    (inside : Group.first.position i = some bit) : (bit : Nat) + 1 = i ∧ 1 ≤ i ∧ i ≤ 6 := by
  unfold Group.position at inside
  dsimp only at inside
  split at inside
  · rename_i bounds
    rw [← Option.some.inj inside]
    dsimp only
    omega
  · cases inside

theorem position_second_eq_some {i : Nat} {bit : Fin 6}
    (inside : Group.second.position i = some bit) :
    (if bit.val = 0 then 0 else bit.val + 6) = i ∧ (i = 0 ∨ 7 ≤ i ∧ i ≤ 11) := by
  unfold Group.position at inside
  dsimp only at inside
  split at inside
  · rename_i bounds
    rw [← Option.some.inj inside]
    dsimp only
    split <;> omega
  · cases inside

theorem position_first {i : Nat} (low : 1 ≤ i) (high : i ≤ 6) :
    ∃ bit, Group.first.position i = some bit :=
  ⟨_, dif_pos ⟨low, high⟩⟩

theorem position_second {i : Nat} (inside : i = 0 ∨ 7 ≤ i ∧ i ≤ 11) :
    ∃ bit, Group.second.position i = some bit :=
  ⟨_, dif_pos inside⟩

theorem position_first_none {i : Nat} (outside : i = 0 ∨ 7 ≤ i ∧ i ≤ 11) :
    Group.first.position i = none :=
  dif_neg (by omega)

theorem position_second_none {i : Nat} (low : 1 ≤ i) (high : i ≤ 6) :
    Group.second.position i = none :=
  dif_neg (by omega)

theorem bits_of_mask {first second mask : BitVec 32} (same : first &&& mask = second &&& mask)
    {i : Nat} (inside : mask.getLsbD i = true) : first.getLsbD i = second.getLsbD i := by
  have bits := congrArg (fun value => value.getLsbD i) same
  simpa only [BitVec.getLsbD_and, inside, Bool.and_true] using bits

theorem mask_first {i : Nat} (low : 1 ≤ i) (high : i ≤ 6) :
    (126 : BitVec 32).getLsbD i = true := by
  interval_cases i <;> decide

theorem mask_second {i : Nat} (inside : i = 0 ∨ 7 ≤ i ∧ i ≤ 11) :
    (3969 : BitVec 32).getLsbD i = true := by
  rcases inside with rfl | ⟨low, high⟩
  · decide
  · interval_cases i <;> decide

/-! ## The messages of a command -/

theorem handleGlCommand_result :
    (handleGlCommand mode gltmp glakt).2.speed = commandedSpeed gltmp ∧
      (handleGlCommand mode gltmp glakt).2.funcs = gltmp.funcs := by
  unfold handleGlCommand commandedSpeed
  split
  · exact ⟨rfl, rfl⟩
  · exact ⟨rfl, rfl⟩

theorem secondFunctions_eq : secondFunctions gltmp =
    functionByte fun i => gltmp.funcs.getLsbD (if i = 0 then 0 else i + 6) := by
  unfold secondFunctions
  congr 1
  funext i
  by_cases light : i = 0
  · rw [light]
    rfl
  · have number : i.val ≠ 0 := fun number => light (Fin.ext number)
    rw [if_neg light, if_neg number]

/-- One for the speed and one for each group of functions, if they differ. -/
theorem handleGlCommand_messages :
    (handleGlCommand mode gltmp glakt).1 =
      (if commandedSpeed gltmp ≠ glakt.speed then
        [[(setAddressBytes gltmp.id).1, (setAddressBytes gltmp.id).2,
          speedByte (commandedSpeed gltmp)]] else []) ++
      ((if gltmp.funcs &&& 126 ≠ glakt.funcs &&& 126 then
        [[(setAddressBytes gltmp.id).1, (setAddressBytes gltmp.id).2, firstFunctions gltmp]]
        else []) ++
      (if gltmp.funcs &&& 3969 ≠ glakt.funcs &&& 3969 ∧ mode = true then
        [[(setAddressBytes gltmp.id).1, (setAddressBytes gltmp.id).2 + 32,
          secondFunctions gltmp]] else [])) := by
  by_cases same : gltmp.funcs = glakt.funcs
  · have body : (handleGlCommand mode gltmp glakt).1 =
        if commandedSpeed gltmp ≠ glakt.speed then
          [[(setAddressBytes gltmp.id).1, (setAddressBytes gltmp.id).2,
            speedByte (commandedSpeed gltmp)]] else [] := by
      unfold handleGlCommand commandedSpeed
      split
      · dsimp only
        rw [if_neg (not_not.mpr same), List.append_nil]
      · dsimp only
        rw [if_neg (not_not.mpr same), List.append_nil]
    have first : ¬ (glakt.funcs &&& 126 ≠ glakt.funcs &&& 126) := not_not.mpr rfl
    have second : ¬ (glakt.funcs &&& 3969 ≠ glakt.funcs &&& 3969 ∧ mode = true) :=
      fun differs => differs.1 rfl
    rw [body, same, if_neg first, if_neg second, List.append_nil, List.append_nil]
  · rw [secondFunctions_eq]
    unfold handleGlCommand commandedSpeed firstFunctions
    split
    · dsimp only
      rw [if_pos same]
    · dsimp only
      rw [if_pos same]

/-! ## One command -/

variable {state next : State}

theorem step_eq_some_iff :
    step mode state gltmp = some next ↔ state.gl.isInitialized gltmp.id = true ∧
      next =
        let result := handleGlCommand mode gltmp (state.gl.glstate gltmp.id)
        { gl := (cacheSetGL state.gl gltmp.id result.2).2
          written := state.written ++ result.1.map fun message => (gltmp, message) } := by
  unfold step cacheGetGL
  split
  · rename_i initialised
    constructor
    · intro taken
      exact ⟨initialised, (Option.some.inj taken).symm⟩
    · rintro ⟨-, rfl⟩
      rfl
  · rename_i missing
    constructor
    · intro taken
      cases taken
    · rintro ⟨initialised, -⟩
      exact absurd initialised missing

/-- The address of the last Infracar is not used. -/
theorem Fits.decodeAddress_first (fits : Fits mode state gltmp) (positive : 0 < gltmp.id)
    (small : gltmp.id ≤ if mode then 1023 else 4096)
    (differs : commandedSpeed gltmp ≠ (state.gl.glstate gltmp.id).speed ∨
      gltmp.funcs &&& 126 ≠ (state.gl.glstate gltmp.id).funcs &&& 126) :
    decodeAddress mode (setAddressBytes gltmp.id).1 (setAddressBytes gltmp.id).2 =
      some (.first, gltmp.id) := by
  apply DcCar.decodeAddress_first positive
  rcases fits with rfl | other | ⟨speed, funcs⟩
  · exact small
  · cases mode with
    | true => exact small
    | false =>
        rw [if_neg Bool.false_ne_true] at small ⊢
        omega
  · rcases differs with differs | differs
    · exact absurd speed differs
    · exact absurd funcs differs

theorem Fits.tells (fits : Fits mode state gltmp) (positive : 0 < gltmp.id)
    (small : gltmp.id ≤ if mode then 1023 else 4096) :
    ∀ message ∈ (handleGlCommand mode gltmp (state.gl.glstate gltmp.id)).1,
      Tells mode gltmp message := by
  intro message mem
  rw [handleGlCommand_messages, List.mem_append, List.mem_append] at mem
  rcases mem with mem | mem | mem
  · split at mem
    · rename_i differs
      exact ⟨_, _, _, List.mem_singleton.mp mem,
        .inl ⟨fits.decodeAddress_first positive small (.inl differs), .inl rfl⟩⟩
    · cases mem
  · split at mem
    · rename_i differs
      exact ⟨_, _, _, List.mem_singleton.mp mem,
        .inl ⟨fits.decodeAddress_first positive small (.inr differs), .inr rfl⟩⟩
    · cases mem
  · split at mem
    · rename_i differs
      rcases differs with ⟨-, rfl⟩
      exact ⟨_, _, _, List.mem_singleton.mp mem,
        .inr ⟨decodeAddress_second positive small, rfl⟩⟩
    · cases mem

/-- The car of the command is told what is stored. -/
theorem Agrees.hear {car : Car} (agrees : Agrees mode car (state.gl.glstate gltmp.id))
    (fits : Fits mode state gltmp) (admitted : Admitted gltmp) (positive : 0 < gltmp.id)
    (small : gltmp.id ≤ if mode then 1023 else 4096) {record : GlState}
    (speed : record.speed = commandedSpeed gltmp) (funcs : record.funcs = gltmp.funcs) :
    Agrees mode
      (car.hear mode gltmp.id (handleGlCommand mode gltmp (state.gl.glstate gltmp.id)).1)
      record := by
  have slow : 0 ≤ commandedSpeed gltmp ∧ commandedSpeed gltmp ≤ 28 := by
    unfold commandedSpeed
    split
    · decide
    · exact admitted.speed
  rw [handleGlCommand_messages, Car.hear_append, Car.hear_append,
    hear_speed slow.1 slow.2
      (fun differs => fits.decodeAddress_first positive small (.inl differs))
      fun same => agrees.speed.trans (not_not.mp same).symm]
  have first : Heard .first (gltmp.funcs &&& 126 ≠ (state.gl.glstate gltmp.id).funcs &&& 126)
      (fun i => gltmp.funcs.getLsbD (i + 1)) { car with speed := commandedSpeed gltmp } _ :=
    hear_functions fun differs => fits.decodeAddress_first positive small (.inr differs)
  have secondAddress (isMode : mode = true) : decodeAddress mode (setAddressBytes gltmp.id).1
      ((setAddressBytes gltmp.id).2 + 32) = some (.second, gltmp.id) := by
    subst isMode
    exact decodeAddress_second positive small
  have second (car : Car) : Heard .second
      (gltmp.funcs &&& 3969 ≠ (state.gl.glstate gltmp.id).funcs &&& 3969 ∧ mode = true)
      (fun i => gltmp.funcs.getLsbD (if i.val = 0 then 0 else i.val + 6)) car _ :=
    hear_functions fun differs => secondAddress differs.2
  refine ⟨(second _).speed.trans (first.speed.trans speed.symm), ?_, ?_⟩
  · intro i low high
    rcases position_first low high with ⟨bit, inside⟩
    refine ((second _).others i (position_second_none low high)).trans ?_
    refine (first.own (fun same i bit inside => ?_) i bit inside).trans ?_
    · rcases position_first_eq_some inside with ⟨rfl, low, high⟩
      exact (agrees.first _ low high).trans
        (bits_of_mask (not_not.mp same).symm (mask_first low high))
    · rw [funcs, (position_first_eq_some inside).1]
  · intro isMode i inside
    rcases position_second inside with ⟨bit, at_⟩
    refine ((second _).own (fun same i bit inside => ?_) i bit at_).trans ?_
    · rcases position_second_eq_some inside with ⟨number, bounds⟩
      have masked : gltmp.funcs &&& 3969 = (state.gl.glstate gltmp.id).funcs &&& 3969 :=
        not_not.mp fun differs => same ⟨differs, isMode⟩
      refine (first.others i (position_first_none bounds)).trans ?_
      rw [number]
      exact (agrees.second isMode i bounds).trans (bits_of_mask masked.symm (mask_second bounds))
    · rw [funcs, (position_second_eq_some at_).1]

theorem cacheSetGL_isInitialized {gl : Gl} {addr : Int} {l : GlState}
    (initialised : gl.isInitialized addr = true) (other : Int) :
    (cacheSetGL gl addr l).2.isInitialized other = gl.isInitialized other := by
  rw [Gl.isInitialized, Gl.isInitialized, cacheSetGL_isValid]
  by_cases same : other = addr
  · rw [same, cacheSetGL_of_isInitialized initialised]
  · rw [cacheSetGL_of_ne gl same]

/-- In every state: the addresses are in range, and every car was told what is cached. -/
structure Inv (mode : Bool) (state : State) : Prop where
  range : ∀ id, state.gl.isInitialized id = true → 0 < id ∧ id ≤ if mode then 1023 else 4096
  tells : ∀ sent ∈ state.written, Tells mode sent.1 sent.2
  cached : ∀ id, state.gl.isInitialized id = true →
    Agrees mode (replay mode id state.written) (state.gl.glstate id)

theorem Inv.step (inv : Inv mode state) (admitted : Admitted gltmp)
    (fits : Fits mode state gltmp) (taken : step mode state gltmp = some next) :
    Inv mode next := by
  rcases step_eq_some_iff.mp taken with ⟨initialised, rfl⟩
  rcases inv.range gltmp.id initialised with ⟨positive, small⟩
  have tells := fits.tells positive small
  refine ⟨fun id living => ?_, fun sent mem => ?_, fun id living => ?_⟩
  · exact inv.range id ((cacheSetGL_isInitialized initialised id).symm.trans living)
  · rcases List.mem_append.mp mem with before | now
    · exact inv.tells sent before
    · rcases List.mem_map.mp now with ⟨message, sent, rfl⟩
      exact tells message sent
  · have before := inv.cached id ((cacheSetGL_isInitialized initialised id).symm.trans living)
    dsimp only
    rw [replay_append]
    by_cases own : id = gltmp.id
    · subst own
      rw [cacheSetGL_of_isInitialized initialised]
      exact before.hear fits admitted positive small handleGlCommand_result.1
        handleGlCommand_result.2
    · rw [hear_other tells own, cacheSetGL_of_ne _ own]
      exact before

/-! ## Runs -/

variable {numberGl : Int} {gl : Gl} {commands : List GlState}

theorem clampNumberGl_le : clampNumberGl mode numberGl ≤ if mode then 1023 else 4096 := by
  unfold clampNumberGl
  cases mode <;> split_ifs <;> simp_all

/-- Behind an init as before it. -/
theorem Configured.cacheInitGL (configured : Configured mode numberGl gl) (queue : Log GlState)
    (addr : Int) (protocol : Char) (protoversion nFs nFunc : Int) :
    Configured mode numberGl
      (cacheInitGL driver gl queue addr protocol protoversion nFs nFunc).2.1 := by
  rcases cacheInitGL_cases driver gl queue addr protocol protoversion nFs nFunc with
    ⟨-, -, -, result⟩ | ⟨-, -, unchanged⟩
  · rw [result]
    refine ⟨configured.number, fun id living => ?_⟩
    have made (record : GlState) : (gl.setState addr record).glstate addr = record :=
      Function.update_self _ _ _
    by_cases own : id = addr
    · dsimp only
      rw [own, made]
      exact ⟨rfl, rfl⟩
    · rw [Gl.isInitialized, Gl.setState_of_ne _ own, Gl.isValid_setState] at living
      rw [Gl.setState_of_ne _ own]
      exact configured.fresh id living
  · rw [unchanged]
    exact configured

theorem Configured.inv (configured : Configured mode numberGl gl) : Inv mode ⟨gl, []⟩ := by
  refine ⟨fun id living => ?_, fun _ mem => absurd mem List.not_mem_nil, fun id living => ?_⟩
  · have valid := (Gl.isInitialized_iff.mp living).1
    have limit : clampNumberGl mode numberGl ≤ if mode then 1023 else 4096 := clampNumberGl_le
    simp only [Gl.isValid, Bool.and_eq_true, decide_eq_true_eq] at valid
    rcases configured.number with number | number
    · omega
    · omega
  · rcases configured.fresh id living with ⟨speed, funcs⟩
    refine ⟨speed.symm, fun i _ _ => ?_, fun _ i _ => ?_⟩
    · dsimp only
      rw [funcs]
      exact (BitVec.getLsbD_zero).symm
    · dsimp only
      rw [funcs]
      exact (BitVec.getLsbD_zero).symm

theorem Inv.run {last : State} (inv : Inv mode state)
    (admitted : ∀ gltmp ∈ commands, Admitted gltmp)
    (meets : MeetsAlong (DcCar.step mode) (Fits mode) state commands)
    (executed : run (DcCar.step mode) state commands = some last) : Inv mode last := by
  induction commands generalizing state with
  | nil =>
      cases executed
      exact inv
  | cons gltmp commands ih =>
      rcases run_cons_eq_some_iff.mp executed with ⟨next, taken, rest⟩
      rcases meets next taken with ⟨fits, after⟩
      exact ih (inv.step (admitted gltmp List.mem_cons_self) fits taken)
        (fun other mem => admitted other (List.mem_cons_of_mem _ mem)) after rest

theorem Inv.right (inv : Inv mode state) : Right mode state := by
  refine ⟨inv.tells, fun sent mem other mem' same => ?_, speedByte_injOn, inv.cached⟩
  have decoded (sent : GlState × Message) (mem : sent ∈ state.written) :
      ∃ low high group, sent.2.take 2 = [low, high] ∧
        decodeAddress mode low high = some (group, sent.1.id) := by
    rcases inv.tells sent mem with ⟨low, high, data, bytes, ⟨address, -⟩ | ⟨address, -⟩⟩ <;>
    · rw [bytes]
      exact ⟨low, high, _, rfl, address⟩
  rcases decoded sent mem with ⟨low, high, group, bytes, address⟩
  rcases decoded other mem' with ⟨low', high', group', bytes', address'⟩
  rw [bytes, bytes'] at same
  cases same
  rw [address] at address'
  exact (Prod.mk.inj (Option.some.inj address')).2

theorem not_tells (last : gltmp.id = 4096) (data : BitVec 8) :
    ¬ Tells false gltmp [(setAddressBytes gltmp.id).1, (setAddressBytes gltmp.id).2, data] := by
  rw [last]
  rintro ⟨low, high, _, bytes, ⟨address, -⟩ | ⟨address, -⟩⟩ <;>
  · cases bytes
    rw [decodeAddress_last] at address
    cases address

/-- A command that does not fit is sent to an address that no car has. -/
theorem exists_not_tells (misfit : ¬ Fits mode state gltmp) :
    ∃ message ∈ (handleGlCommand mode gltmp (state.gl.glstate gltmp.id)).1,
      ¬ Tells mode gltmp message := by
  rw [Fits, not_or, not_or, not_not] at misfit
  rcases misfit with ⟨infracar, last, differs⟩
  have isInfracar : mode = false := Bool.eq_false_iff.mpr infracar
  subst isInfracar
  rw [handleGlCommand_messages]
  by_cases speed : commandedSpeed gltmp = (state.gl.glstate gltmp.id).speed
  · have funcs : gltmp.funcs &&& 126 ≠ (state.gl.glstate gltmp.id).funcs &&& 126 :=
      fun same => differs ⟨speed, same⟩
    rw [if_pos funcs]
    exact ⟨_, List.mem_append_right _ (List.mem_append_left _ (List.mem_singleton_self _)),
      not_tells last _⟩
  · rw [if_pos speed]
    exact ⟨_, List.mem_append_left _ (List.mem_singleton_self _), not_tells last _⟩

theorem written_of_run {last : State} {sent : GlState × Message}
    (executed : run (step mode) state commands = some last) (mem : sent ∈ state.written) :
    sent ∈ last.written := by
  have kept (state : State) (gltmp : GlState) (next : State) (mem : sent ∈ state.written)
      (taken : step mode state gltmp = some next) : sent ∈ next.written := by
    rcases step_eq_some_iff.mp taken with ⟨-, rfl⟩
    exact List.mem_append_left _ mem
  exact run_invariant kept mem executed

theorem meetsAlong_of_tells {last : State}
    (executed : run (step mode) state commands = some last)
    (tells : ∀ sent ∈ last.written, Tells mode sent.1 sent.2) :
    MeetsAlong (step mode) (Fits mode) state commands := by
  induction commands generalizing state with
  | nil => trivial
  | cons gltmp commands ih =>
      rcases run_cons_eq_some_iff.mp executed with ⟨next, taken, rest⟩
      rw [meetsAlong_cons_iff taken]
      refine ⟨?_, ih rest⟩
      by_contra misfit
      rcases exists_not_tells misfit with ⟨message, mem, silent⟩
      rcases step_eq_some_iff.mp taken with ⟨-, rfl⟩
      exact silent (tells (gltmp, message) (written_of_run rest
        (List.mem_append_right _ (List.mem_map_of_mem mem))))

/-- The messages of a run are right and leave every car as it is cached if and only if nothing
has to be sent to an Infracar 4096. -/
theorem run_right_iff {state : State} (configured : Configured mode numberGl gl)
    (admitted : ∀ gltmp ∈ commands, Admitted gltmp)
    (executed : run (step mode) ⟨gl, []⟩ commands = some state) :
    Right mode state ↔ MeetsAlong (step mode) (Fits mode) ⟨gl, []⟩ commands := by
  constructor
  · intro right
    exact meetsAlong_of_tells executed right.tells
  · intro meets
    exact (configured.inv.run admitted meets executed).right

/-- The table with all locomotives initialised, for 28 speed steps. -/
def initialised (number : Int) : Gl where
  configured := true
  numberOfGl := number
  glstate := fun id => { GlState.zero with state := 1, protocol := 'M', nFs := 28, id := id }
  clock := 0

/-- A command for a car. -/
def drive (id speed : Int) : GlState :=
  { GlState.zero with protocol := 'M', nFs := 28, id := id, speed := speed, direction := 1 }

theorem run_right_iff_dcCar :
    Configured true 2000 (initialised 1023) ∧ Admitted (drive 1023 28) ∧
      ∃ state, run (step true) ⟨initialised 1023, []⟩ [drive 1023 28] = some state ∧
        (Right true state ↔
          MeetsAlong (step true) (Fits true) ⟨initialised 1023, []⟩ [drive 1023 28]) := by
  have configured : Configured true 2000 (initialised 1023) :=
    ⟨.inl (by decide), fun _ _ => ⟨rfl, rfl⟩⟩
  have admitted : Admitted (drive 1023 28) := ⟨rfl, by decide, by decide⟩
  refine ⟨configured, admitted, _, rfl, run_right_iff configured ?_ rfl⟩
  intro gltmp mem
  rw [List.mem_singleton.mp mem]
  exact admitted

/-- A command to the last Infracar. -/
theorem lastInfracar_not_right :
    ¬ ∀ (mode : Bool) (numberGl : Int) (gl : Gl) (commands : List GlState) (state : State),
      Configured mode numberGl gl → (∀ gltmp ∈ commands, Admitted gltmp) →
        run (step mode) ⟨gl, []⟩ commands = some state → Right mode state := by
  intro always
  have right := always false 5000 (initialised 4096) [drive 4096 1] _
    ⟨.inl (by decide), fun _ _ => ⟨rfl, rfl⟩⟩
    (fun gltmp mem => List.mem_singleton.mp mem ▸ ⟨rfl, by decide, by decide⟩) rfl
  have sent := right.tells (drive 4096 1, [0, 128, 201]) (List.mem_singleton_self _)
  exact not_tells rfl 201 sent

end Srcpd.Driver.DcCar
