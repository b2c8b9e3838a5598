import Srcpd.Command.Queues
import Srcpd.Driver.GlCommand

/-!
# What the LocoNet driver writes

The way to the LocoNet of `thr_sendrec_LOCONET`: a command is turned into packets
in one buffer, and at the end of the cycle the buffer is sent unless it is idle.
For a locomotive the packets have been sent before.  `Request.transmits_iff` says
for which commands the packets are right.
-/

namespace Srcpd.Driver.Loconet

open Srcpd.Command

/-- The bytes of a message with its checksum. -/
abbrev Packet := List (BitVec 8)

/-- `OPC_IDLE`. -/
def opcIdle : BitVec 8 := 0x85

/-- `OPC_SW_REQ`. -/
def opcSwReq : BitVec 8 := 0xb0

/-- The checksum makes the exclusive or of all bytes 0xff. -/
def lnChecksum (packet : Packet) : BitVec 8 :=
  packet.foldl (· ^^^ ·) 0xff

/-- The packets that are written. -/
def lnSendmessage (packet : Packet) : List Packet :=
  if packet.head? = some opcIdle then [] else [packet ++ [lnChecksum packet]]

/-- The three groups of a command for a locomotive, and whether they have changed. -/
inductive Group
  | speed
  | direction
  | sound

/-- The message that carries a group of values. -/
def Group.opcode : Group → BitVec 8
  | .speed => opcLocoSpd
  | .direction => opcLocoDirf
  | .sound => opcLocoSnd

/-- Direction and F0 to F4 make up one group. -/
def Group.Changed (gltmp glcur : GlState) : Group → Prop
  | .speed => gltmp.speed ≠ glcur.speed
  | .direction => gltmp.direction ≠ glcur.direction ∨ gltmp.funcs &&& 0x1f ≠ glcur.funcs &&& 0x1f
  | .sound => gltmp.funcs &&& 0x1e0 ≠ glcur.funcs &&& 0x1e0

instance (gltmp glcur : GlState) (group : Group) : Decidable (group.Changed gltmp glcur) := by
  cases group
  · exact inferInstanceAs (Decidable (_ ≠ _))
  · exact inferInstanceAs (Decidable (_ ∨ _))
  · exact inferInstanceAs (Decidable (_ ≠ _))

/-- The buffer at the end of the cycle is the packet that was sent last. -/
def sendGl (slotmap : Nat → Nat) (gltmp glcur : GlState) : List Packet :=
  let messages := (sendGlLoconet slotmap gltmp glcur).1
  messages.flatMap lnSendmessage ++ lnSendmessage (messages.getLast?.getD [opcIdle])

/-- The message for an accessory. -/
def sendGa (gatmp : GaState) : List Packet :=
  let addr : BitVec 32 := BitVec.ofInt 32 (gatmp.id - 1)
  let port : BitVec 32 := BitVec.ofInt 32 gatmp.port
  let action : BitVec 32 := BitVec.ofInt 32 gatmp.action
  lnSendmessage
    [opcSwReq, (addr &&& 0x7f).setWidth 8,
      ((addr >>> 7) &&& 0x0f).setWidth 8 ||| ((port &&& 1) <<< 5).setWidth 8 |||
        ((action &&& 1) <<< 4).setWidth 8]

/-- The message for the power of the track. -/
def sendPower (powerState : Bool) : List Packet :=
  lnSendmessage [0x82 + if powerState then 1 else 0]

/-- A command, for a locomotive with the record it is compared with. -/
inductive Request
  | gl (gltmp glcur : GlState)
  | ga (gatmp : GaState)
  | power (powerState : Bool)

/-- The messages that a request leads to. -/
def Request.written (slotmap : Nat → Nat) : Request → List Packet
  | .gl gltmp glcur => sendGl slotmap gltmp glcur
  | .ga gatmp => sendGa gatmp
  | .power powerState => sendPower powerState

/-- An opcode, data bytes and a checksum. -/
structure WellFormed (packet : Packet) : Prop where
  opcode : ∃ first ∈ packet.head?, 0x80 ≤ first
  data : ∀ value ∈ packet.tail, value < 0x80
  checksum : packet.foldl (· ^^^ ·) 0 = 0xff

/-- A message starts with its opcode. -/
def Starts (opcode : BitVec 8) (packet : Packet) : Bool :=
  packet.head? == some opcode

/-- The packets of a command for a locomotive do what it asks for. -/
structure TransmitsGl (slotmap : Nat → Nat) (gltmp glcur : GlState) (written : List Packet) :
    Prop where
  /-- Each group that has changed, and no other, is sent once. -/
  once : ∀ group : Group, written.countP (Starts group.opcode) =
    if group.Changed gltmp glcur then 1 else 0
  stop : gltmp.direction = 2 → ∃ slot ∈ List.range' 1 127, (slotmap slot : Int) = gltmp.id ∧
    [opcLocoSpd, BitVec.ofNat 8 slot, 1] ++ [lnChecksum [opcLocoSpd, BitVec.ofNat 8 slot, 1]] ∈
      written
  unknown : (∀ slot ∈ List.range' 1 127, (slotmap slot : Int) ≠ gltmp.id) → written = []

/-- What is written is well formed, and says what the request says. -/
structure Request.Transmits (slotmap : Nat → Nat) (request : Request) : Prop where
  wellFormed : ∀ packet ∈ request.written slotmap, WellFormed packet
  gl : ∀ gltmp glcur, request = .gl gltmp glcur →
    TransmitsGl slotmap gltmp glcur (request.written slotmap)

/-- A command for a locomotive changes nothing and is no emergency stop. -/
def Request.Silent : Request → Prop
  | .gl gltmp glcur => (∀ group : Group, ¬ group.Changed gltmp glcur) ∧ gltmp.direction ≠ 2
  | _ => True

theorem foldl_xor (packet : Packet) (value : BitVec 8) :
    packet.foldl (· ^^^ ·) value = value ^^^ packet.foldl (· ^^^ ·) 0 := by
  induction packet generalizing value with
  | nil => simp
  | cons first rest ih =>
      rw [List.foldl_cons, List.foldl_cons, ih (value ^^^ first), ih (0 ^^^ first)]
      simp [BitVec.xor_assoc]

theorem checksum_append (packet : Packet) :
    (packet ++ [lnChecksum packet]).foldl (· ^^^ ·) 0 = 0xff := by
  rw [List.foldl_append, lnChecksum, foldl_xor packet 0xff, List.foldl_cons, List.foldl_nil]
  rw [BitVec.xor_comm 0xff, ← BitVec.xor_assoc, BitVec.xor_self, BitVec.zero_xor]

/-- The checksum of an opcode and data bytes is a data byte. -/
theorem msb_foldl_xor (packet : Packet) (value : BitVec 8) (data : ∀ byte ∈ packet, byte < 0x80) :
    (packet.foldl (· ^^^ ·) value).msb = value.msb := by
  induction packet generalizing value with
  | nil => rfl
  | cons first rest ih =>
      rcases List.forall_mem_cons.mp data with ⟨firstData, restData⟩
      have clear : first.msb = false := by
        rw [BitVec.msb_eq_false_iff_two_mul_lt]
        have bound : first.toNat < 128 := firstData
        omega
      rw [List.foldl_cons, ih _ restData, BitVec.msb_xor, clear, Bool.xor_false]

theorem wellFormed_of_mem_lnSendmessage {opcode : BitVec 8} {data packet : Packet}
    (isOpcode : 0x80 ≤ opcode) (isData : ∀ byte ∈ data, byte < 0x80)
    (mem : packet ∈ lnSendmessage (opcode :: data)) : WellFormed packet := by
  rw [lnSendmessage] at mem
  split at mem
  · cases mem
  · rw [List.mem_singleton.mp mem]
    constructor
    · exact ⟨opcode, rfl, isOpcode⟩
    · rw [List.cons_append, List.tail_cons, List.forall_mem_append]
      refine ⟨isData, ?_⟩
      have high : opcode.msb = true := by
        rw [BitVec.msb_eq_true_iff_two_mul_ge]
        have bound : 128 ≤ opcode.toNat := isOpcode
        omega
      have clear : (lnChecksum (opcode :: data)).msb = false := by
        rw [lnChecksum, List.foldl_cons, msb_foldl_xor _ _ isData, BitVec.msb_xor, high]
        rfl
      rw [List.forall_mem_singleton]
      rw [BitVec.msb_eq_false_iff_two_mul_lt] at clear
      change (lnChecksum (opcode :: data)).toNat < 128
      omega
    · exact checksum_append _

theorem sendGa_wellFormed (gatmp : GaState) : ∀ packet ∈ sendGa gatmp, WellFormed packet := by
  intro packet mem
  apply wellFormed_of_mem_lnSendmessage _ _ mem
  · decide
  · generalize BitVec.ofInt 32 (gatmp.id - 1) = addr
    generalize BitVec.ofInt 32 gatmp.port = port
    generalize BitVec.ofInt 32 gatmp.action = action
    have clear : ∀ value : BitVec 8, value.msb = false → value < 0x80 := by decide
    intro value mem
    apply clear
    rcases List.mem_cons.mp mem with rfl | mem
    · simp [BitVec.msb_eq_getLsbD_last]
    · rw [List.mem_singleton.mp mem]
      simp [BitVec.msb_eq_getLsbD_last]

theorem sendPower_wellFormed (powerState : Bool) :
    ∀ packet ∈ sendPower powerState, WellFormed packet := by
  intro packet mem
  apply wellFormed_of_mem_lnSendmessage _ _ mem
  · cases powerState <;> decide
  · intro value data
    cases data

section Gl

variable {slotmap : Nat → Nat} {gltmp glcur : GlState}

/-- The message of a group, when it has changed. -/
def message (opcode slot data : BitVec 8) (changed : Prop) [Decidable changed] : List Message :=
  if changed then [[opcode, slot, data]] else []

theorem sendGlLoconet_messages (slotmap : Nat → Nat) (gltmp glcur : GlState) :
    ∃ slot speed direction sound, (sendGlLoconet slotmap gltmp glcur).1 =
      message opcLocoSpd slot speed (Group.speed.Changed gltmp glcur) ++
        message opcLocoDirf slot direction (Group.direction.Changed gltmp glcur) ++
        message opcLocoSnd slot sound (Group.sound.Changed gltmp glcur) :=
  ⟨_, _, _, _, rfl⟩

/-- The group that was sent last is sent again. -/
theorem sendGl_last_twice (changed : ∃ group : Group, group.Changed gltmp glcur) :
    ∃ group : Group, group.Changed gltmp glcur ∧
      (sendGl slotmap gltmp glcur).countP (Starts group.opcode) = 2 := by
  rcases sendGlLoconet_messages slotmap gltmp glcur with ⟨slot, speed, direction, sound, messages⟩
  by_cases soundChanged : Group.sound.Changed gltmp glcur
  · refine ⟨.sound, soundChanged, ?_⟩
    rw [sendGl, messages]
    by_cases speedChanged : Group.speed.Changed gltmp glcur <;>
      by_cases directionChanged : Group.direction.Changed gltmp glcur <;>
        simp [message, soundChanged, speedChanged, directionChanged, lnSendmessage, Starts,
          Group.opcode, opcLocoSpd, opcLocoDirf, opcLocoSnd, opcIdle]
  · by_cases directionChanged : Group.direction.Changed gltmp glcur
    · refine ⟨.direction, directionChanged, ?_⟩
      rw [sendGl, messages]
      by_cases speedChanged : Group.speed.Changed gltmp glcur <;>
        simp [message, soundChanged, speedChanged, directionChanged, lnSendmessage, Starts,
          Group.opcode, opcLocoSpd, opcLocoDirf, opcIdle]
    · have speedChanged : Group.speed.Changed gltmp glcur := by
        rcases changed with ⟨group, changed⟩
        cases group with
        | speed => exact changed
        | direction => exact absurd changed directionChanged
        | sound => exact absurd changed soundChanged
      refine ⟨.speed, speedChanged, ?_⟩
      rw [sendGl, messages]
      simp [message, soundChanged, speedChanged, directionChanged, lnSendmessage, Starts,
        Group.opcode, opcLocoSpd, opcIdle]

theorem sendGl_of_unchanged (unchanged : ∀ group : Group, ¬ group.Changed gltmp glcur) :
    sendGl slotmap gltmp glcur = [] := by
  rcases sendGlLoconet_messages slotmap gltmp glcur with ⟨slot, speed, direction, sound, messages⟩
  rw [sendGl, messages]
  simp [message, unchanged, lnSendmessage]

theorem transmitsGl_iff :
    TransmitsGl slotmap gltmp glcur (sendGl slotmap gltmp glcur) ↔
      (∀ group : Group, ¬ group.Changed gltmp glcur) ∧ gltmp.direction ≠ 2 := by
  constructor
  · intro transmits
    have unchanged : ∀ group : Group, ¬ group.Changed gltmp glcur := by
      intro group changed
      rcases sendGl_last_twice ⟨group, changed⟩ with ⟨last, lastChanged, twice⟩
      have once := transmits.once last
      rw [twice, if_pos lastChanged] at once
      contradiction
    refine ⟨unchanged, fun emergency => ?_⟩
    rcases transmits.stop emergency with ⟨slot, _, _, sent⟩
    rw [sendGl_of_unchanged unchanged] at sent
    cases sent
  · rintro ⟨unchanged, noStop⟩
    rw [sendGl_of_unchanged unchanged]
    constructor
    · intro group
      rw [if_neg (unchanged group)]
      rfl
    · intro emergency
      exact absurd emergency noStop
    · intro _
      rfl

end Gl

/-- The packets of a command are right exactly for accessories, for the power and for a
locomotive of which nothing changes. -/
theorem Request.transmits_iff (slotmap : Nat → Nat) (request : Request) :
    request.Transmits slotmap ↔ request.Silent := by
  cases request with
  | gl gltmp glcur =>
      constructor
      · intro transmits
        exact transmitsGl_iff.mp (transmits.gl gltmp glcur rfl)
      · intro silent
        constructor
        · intro packet mem
          change packet ∈ sendGl slotmap gltmp glcur at mem
          rw [sendGl_of_unchanged silent.1] at mem
          cases mem
        · rintro _ _ ⟨⟩
          exact transmitsGl_iff.mpr silent
  | ga gatmp =>
      refine iff_of_true ?_ trivial
      constructor
      · intro packet mem
        exact sendGa_wellFormed gatmp packet mem
      · intro _ _ other
        contradiction
  | power powerState =>
      refine iff_of_true ?_ trivial
      constructor
      · intro packet mem
        exact sendPower_wellFormed powerState packet mem
      · intro _ _ other
        contradiction

/-- A new speed for a locomotive is sent twice. -/
theorem not_transmits_new_speed :
    ¬ ∀ (slotmap : Nat → Nat) (request : Request), request.Transmits slotmap := by
  intro always
  let slotmap : Nat → Nat := fun slot => if slot = 1 then 3 else 0
  let gltmp : GlState := { GlState.zero with id := 3, speed := 5 }
  have changed : Group.speed.Changed gltmp .zero := by
    change (5 : Int) ≠ 0
    decide
  rcases @sendGl_last_twice slotmap gltmp .zero ⟨.speed, changed⟩ with ⟨group, changed, twice⟩
  have once := ((always slotmap (.gl gltmp .zero)).gl gltmp .zero rfl).once group
  rw [if_pos changed] at once
  rw [Request.written, twice] at once
  contradiction

end Srcpd.Driver.Loconet
