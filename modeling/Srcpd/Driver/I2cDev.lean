import Srcpd.Types
import Mathlib.Tactic
import Mathlib.Data.BitVec

/-!
# Accessories on the i2c bus

The address of an accessory is a chip and the bus of a multiplexer.  The driver remembers
the output of each chip in a table, and knows the addresses of the chips in two places
that do not agree; neither the last address nor the last bus has a row or a column of
its own.  The multiplexer is a chip of its own, and whether it could be written is not
looked at.  `handleI2cSetGa_iff` says for which commands this does not matter.
-/

namespace Srcpd.Driver.I2cDev

/-! ## The driver -/

/-- Rows of the table. -/
def maxI2cDevices : Int := 255

/-- Columns of the table. -/
def maxMultipelexBuses : Int := 8

/-- The configuration, whether the power is on, and which addresses `ioctl` accepts. -/
structure Config where
  multiplexBuses : Nat
  power : Bool
  gaHardwareInverters : Int
  gaMinActiveTime : Int
  ioctl : Nat → Bool

/-- What the driver uses of a command for an accessory. -/
structure Command where
  id : Nat
  port : Nat
  action : Int
  activetime : Int

/-- `i2c_values`, at any indices. -/
abbrev Values := Int × Int → BitVec 16

/-- A byte that is reported as sent to an address; the source has the call that would send
it as a comment. -/
abbrev Sent := Nat × Byte

/-- Only an address that cannot be accessed is an error. -/
def writePCF8574 (config : Config) (addr : Nat) (byte : Byte) : Option Sent :=
  if config.ioctl addr then some (addr, byte) else none

/-- Currently only PCF8574 is handled. -/
def writeI2cDev (config : Config) (addr : Nat) (value : BitVec 16) : Option Sent :=
  if (32 ≤ addr ∧ addr < 39) ∨ (56 ≤ addr ∧ addr < 63) then
    writePCF8574 config addr ((0xff &&& value).setWidth 8)
  else none

/-- The bus that the multiplexer is asked for. -/
def muxBus (multBusnum : Nat) : Nat :=
  if 8 < multBusnum then 0 else multBusnum

/-- The address of the multiplexer. -/
def muxAddr : Nat := 224 >>> 1

/-- What is written to the multiplexer, with the power in a bit of its own. -/
def selectBus (config : Config) (multBusnum : Nat) : Option Sent :=
  writePCF8574 config muxAddr
    ((if config.power then 64 else 0) ||| BitVec.ofNat 8 (muxBus multBusnum % 9))

/-- The bus that is selected behind that: without access the one from before. -/
def selected (config : Config) (before multBusnum : Nat) : Nat :=
  (selectBus config multBusnum).elim before fun sent => (sent.2 &&& 0x3f).toNat

/-- `I2C_MUX_BUS` has eight bits. -/
def multBusnum (id : Nat) : Nat :=
  (id / 256 + 1) % 256

/-- The address of the chip. -/
def i2cAddr (id : Nat) : Nat :=
  id % 256

/-- The element of the table. -/
def index (id : Nat) : Int × Int :=
  (i2cAddr id, (multBusnum id : Int) - 1)

/-- The new output: all pins for port 0, else the remembered one with one pin changed. -/
def i2cVal (config : Config) (values : Values) (gatmp : Command) : BitVec 16 :=
  let value := BitVec.ofInt 16 gatmp.action
  if gatmp.port = 0 then if config.gaHardwareInverters = 1 then ~~~ value else value
  else
    let pinBit := (1 : BitVec 16) <<< (gatmp.port - 1)
    let value := value &&& 1
    let value := if config.gaHardwareInverters = 1 then ~~~ value &&& 1 else value
    if value ≠ 0 then values (index gatmp.id) ||| pinBit
    else values (index gatmp.id) &&& ~~~ pinBit

/-- The selected bus, what was sent there, the table and the elements of it that were read
or written, the result, and the time that is waited. -/
structure Outcome where
  selected : Nat
  sent : List Sent
  values : Values
  indices : List (Int × Int)
  result : Int
  activetime : Int

/-- Always wait minimum time. -/
def waitTime (config : Config) (gatmp : Command) : Int :=
  if 0 ≤ gatmp.activetime then
    if config.gaMinActiveTime < gatmp.activetime then gatmp.activetime
    else config.gaMinActiveTime
  else config.gaMinActiveTime

/-- A command behind which `before` was selected.  The result of the selection is not looked
at. -/
def handleI2cSetGa (config : Config) (before : Nat) (values : Values) (gatmp : Command) :
    Outcome :=
  let outcome : Outcome :=
    { selected := selected config before (multBusnum gatmp.id)
      sent := []
      values := values
      indices := if gatmp.port = 0 then [] else [index gatmp.id]
      result := -1
      activetime := waitTime config gatmp }
  match writeI2cDev config (i2cAddr gatmp.id) (i2cVal config values gatmp) with
  | none => outcome
  | some first =>
      let outcome :=
        { outcome with sent := [first], indices := outcome.indices ++ [index gatmp.id] }
      if 0 ≤ gatmp.activetime then
        match writeI2cDev config (i2cAddr gatmp.id) (values (index gatmp.id)) with
        | none => outcome
        | some second => { outcome with sent := [first, second], result := 0 }
      else
        { outcome with
          values := Function.update values (index gatmp.id) (i2cVal config values gatmp)
          result := 0 }

/-- The chips of a bus that `reset_ga` goes through. -/
def resetChips : List Nat :=
  List.range' 32 8 ++ List.range' 56 8

/-- What is sent to the bus that is selected, for the numbers of the buses. -/
def resetBuses (config : Config) (values : Values) : Nat → List Nat → List (Nat × Sent)
  | _, [] => []
  | before, multiplexerAdr :: rest =>
      let bus := selected config before multiplexerAdr
      (resetChips.filterMap fun (i : Nat) =>
        (writePCF8574 config i ((values (i, (multiplexerAdr : Int) - 1)).setWidth 8)).map
          fun sent => (bus, sent)) ++
        resetBuses config values bus rest

/-- What is sent to each bus. -/
def resetGa (config : Config) (before : Nat) (values : Values) : List (Nat × Sent) :=
  resetBuses config values before (List.range' 1 config.multiplexBuses)

/-! ## What has to hold -/

/-- A PCF8574 or a PCF8574A. -/
def IsPcf (chip : Nat) : Prop :=
  (32 ≤ chip ∧ chip ≤ 39) ∨ (56 ≤ chip ∧ chip ≤ 63)

/-- An address of the bus. -/
def Config.InRange (config : Config) (id : Nat) : Prop :=
  1 ≤ id ∧ id ≤ 256 * config.multiplexBuses

/-- The output with the addressed pin changed, or all of them. -/
def NewByte (config : Config) (gatmp : Command) (old new : Byte) : Prop :=
  if gatmp.port = 0 then
    new = if config.gaHardwareInverters = 1 then ~~~ BitVec.ofInt 8 gatmp.action
      else BitVec.ofInt 8 gatmp.action
  else
    ∀ k < 8, new.getLsbD k =
      if k + 1 = gatmp.port then
        (BitVec.ofInt 8 gatmp.action).getLsbD 0 ^^ decide (config.gaHardwareInverters = 1)
      else old.getLsbD k

/-- The remembered output of the chip. -/
def remembered (values : Values) (id : Nat) : Byte :=
  (values (index id)).setWidth 8

/-- All that a command sends goes to its chip, one that can be there, at the bus that it asks
for; it is carried out, with the new output and, for a pulse, the remembered one; and the new
one is remembered otherwise. -/
structure Right (config : Config) (values : Values) (gatmp : Command) (outcome : Outcome) :
    Prop where
  chip : ∀ sent ∈ outcome.sent, sent.1 = gatmp.id % 256 ∧ IsPcf sent.1
  bus : IsPcf (gatmp.id % 256) → muxBus (multBusnum gatmp.id) = gatmp.id / 256 + 1
  there : outcome.sent ≠ [] → outcome.selected = gatmp.id / 256 + 1
  carried : IsPcf (gatmp.id % 256) → config.ioctl (gatmp.id % 256) → outcome.sent ≠ []
  output : ∀ sent ∈ outcome.sent.head?, NewByte config gatmp (remembered values gatmp.id) sent.2
  pulsed : 0 ≤ gatmp.activetime → outcome.values = values ∧
    (outcome.sent ≠ [] →
      outcome.sent.tail = [(gatmp.id % 256, remembered values gatmp.id)])
  persistent : gatmp.activetime < 0 → outcome.sent.tail = [] ∧
    (∀ sent ∈ outcome.sent, remembered outcome.values gatmp.id = sent.2) ∧
    ∀ other, (outcome.sent = [] ∨ other ≠ index gatmp.id) → outcome.values other = values other
  inside : ∀ i ∈ outcome.indices, (0 ≤ i.1 ∧ i.1 < maxI2cDevices) ∧
    0 ≤ i.2 ∧ i.2 < maxMultipelexBuses
  apart : IsPcf (gatmp.id % 256) → ∀ other, config.InRange other → other ≠ gatmp.id →
    ¬ (other % 256 = gatmp.id % 256 ∧ muxBus (multBusnum other) = muxBus (multBusnum gatmp.id))

/-- The condition on the command, and on the bus that was selected before. -/
structure Fits (config : Config) (before : Nat) (gatmp : Command) : Prop where
  element : gatmp.port ≠ 0 → gatmp.id % 256 ≠ 255 ∧ 1 ≤ multBusnum gatmp.id ∧
    multBusnum gatmp.id ≤ 8
  bus : IsPcf (gatmp.id % 256) → gatmp.id / 256 < 8 ∧
    256 * config.multiplexBuses < gatmp.id + 65536
  last : config.ioctl (gatmp.id % 256) → gatmp.id % 256 ≠ 39 ∧ gatmp.id % 256 ≠ 63
  mux : IsPcf (gatmp.id % 256) → config.ioctl (gatmp.id % 256) →
    config.ioctl muxAddr ∨ before = gatmp.id / 256 + 1

/-! ## Bytes and pins -/

variable {config : Config} {before : Nat} {values : Values} {gatmp : Command}

theorem mem_resetChips_iff (chip : Nat) : chip ∈ resetChips ↔ IsPcf chip := by
  rw [resetChips, List.mem_append, List.mem_range'_1, List.mem_range'_1, IsPcf]
  omega

theorem ofInt_setWidth (action : Int) :
    (BitVec.ofInt 16 action).setWidth 8 = BitVec.ofInt 8 action := by
  apply BitVec.eq_of_toNat_eq
  rw [BitVec.toNat_setWidth, BitVec.toNat_ofInt, BitVec.toNat_ofInt]
  omega

theorem lowByte (value : BitVec 16) : (0xff &&& value).setWidth 8 = value.setWidth 8 := by
  ext i inside
  have small : (0xff : BitVec 16).getLsbD i = true := by
    have table : ∀ i < 8, (0xff : BitVec 16).getLsbD i = true := by decide
    exact table i inside
  rw [← BitVec.getLsbD_eq_getElem, ← BitVec.getLsbD_eq_getElem, BitVec.getLsbD_setWidth,
    BitVec.getLsbD_setWidth, BitVec.getLsbD_and, small, Bool.true_and]

theorem pin_getLsbD {port k : Nat} (pin : port ≠ 0) (inside : k < 8) :
    ((1 : BitVec 16) <<< (port - 1)).getLsbD k = decide (k + 1 = port) := by
  rw [BitVec.getLsbD_shiftLeft]
  by_cases below : k < port - 1
  · simp only [below, decide_true, Bool.not_true, Bool.and_false, Bool.false_and]
    exact (decide_eq_false (by omega)).symm
  · by_cases same : k = port - 1
    · rw [same, Nat.sub_self]
      simp
      omega
    · have later : (1#16).getLsbD (k - (port - 1)) = false := by
        have table : ∀ i < 8, i ≠ 0 → (1#16).getLsbD i = false := by decide
        exact table _ (by omega) (by omega)
      change (_ && (1#16).getLsbD (k - (port - 1))) = _
      rw [later, Bool.and_false]
      exact (decide_eq_false (by omega)).symm

theorem value_bit (value : BitVec 16) (inverted : Prop) [Decidable inverted] :
    (if inverted then ~~~ (value &&& 1) &&& 1 else value &&& 1) ≠ 0 ↔
      (value.getLsbD 0 ^^ decide inverted) = true := by
  have bit : value &&& 1 = (BitVec.ofBool (value.getLsbD 0)).setWidth 16 :=
    BitVec.and_one_eq_setWidth_ofBool_getLsbD
  rw [bit]
  by_cases inverts : inverted
  · rw [if_pos inverts, decide_eq_true inverts]
    cases value.getLsbD 0 <;> decide
  · rw [if_neg inverts, decide_eq_false inverts]
    cases value.getLsbD 0 <;> decide

/-- What is sent is the remembered output with the addressed pin changed. -/
theorem newByte_i2cVal :
    NewByte config gatmp (remembered values gatmp.id)
      ((0xff &&& i2cVal config values gatmp).setWidth 8) := by
  rw [lowByte]
  unfold NewByte i2cVal
  by_cases whole : gatmp.port = 0
  · rw [if_pos whole, if_pos whole]
    split
    · rw [BitVec.setWidth_not (by decide), ofInt_setWidth]
    · rw [ofInt_setWidth]
  · rw [if_neg whole, if_neg whole]
    intro k inside
    dsimp only
    have action : (BitVec.ofInt 8 gatmp.action).getLsbD 0 =
        (BitVec.ofInt 16 gatmp.action).getLsbD 0 := by
      rw [← ofInt_setWidth, BitVec.getLsbD_setWidth]
      rfl
    have pin : ((1 : BitVec 16) <<< (gatmp.port - 1)).getLsbD k = decide (k + 1 = gatmp.port) :=
      pin_getLsbD whole inside
    have bit := value_bit (BitVec.ofInt 16 gatmp.action) (config.gaHardwareInverters = 1)
    have wide : k < 16 := by omega
    rw [BitVec.getLsbD_setWidth, decide_eq_true inside, Bool.true_and, remembered,
      BitVec.getLsbD_setWidth, decide_eq_true inside, Bool.true_and, action]
    by_cases on : (BitVec.ofInt 16 gatmp.action).getLsbD 0 ^^
        decide (config.gaHardwareInverters = 1)
    · rw [if_pos (bit.mpr on), on, BitVec.getLsbD_or, pin]
      by_cases addressed : k + 1 = gatmp.port
      · simp [addressed]
      · simp [addressed]
    · rw [if_neg (fun changed => on (bit.mp changed)), Bool.not_eq_true _ |>.mp on,
        BitVec.getLsbD_and, BitVec.getLsbD_not, pin, decide_eq_true wide, Bool.true_and]
      by_cases addressed : k + 1 = gatmp.port
      · simp [addressed]
      · simp [addressed]

/-! ## The multiplexer -/

theorem muxBus_le (multBusnum : Nat) : muxBus multBusnum ≤ 8 := by
  unfold muxBus
  split <;> omega

/-- The low bits of the byte are the number of the bus. -/
theorem selected_eq (multBusnum : Nat) : selected config before multBusnum =
    if config.ioctl muxAddr then muxBus multBusnum else before := by
  have number : ∀ power : Bool, ∀ bus ≤ 8,
      (((if power then 64 else 0) ||| BitVec.ofNat 8 (bus % 9)) &&& 0x3f : Byte).toNat = bus := by
    decide
  rw [selected, selectBus, writePCF8574]
  split
  · exact number config.power _ (muxBus_le multBusnum)
  · rfl

/-! ## A command -/

/-- The addresses that `writeI2cDev` knows. -/
abbrev Known (chip : Nat) : Prop :=
  (32 ≤ chip ∧ chip < 39) ∨ (56 ≤ chip ∧ chip < 63)

theorem Known.isPcf {chip : Nat} (known : Known chip) : IsPcf chip := by
  unfold Known at known
  unfold IsPcf
  omega

theorem writeI2cDev_known {addr : Nat} (known : Known addr) (accepted : config.ioctl addr)
    (value : BitVec 16) :
    writeI2cDev config addr value = some (addr, (0xff &&& value).setWidth 8) := by
  rw [writeI2cDev, if_pos known, writePCF8574, if_pos accepted]

theorem writeI2cDev_refused {addr : Nat} (refused : ¬ (Known addr ∧ config.ioctl addr))
    (value : BitVec 16) : writeI2cDev config addr value = none := by
  by_cases known : Known addr
  · rw [writeI2cDev, if_pos known, writePCF8574, if_neg fun accepted => refused ⟨known, accepted⟩]
  · exact if_neg known

theorem handleI2cSetGa_refused
    (refused : ¬ (Known (gatmp.id % 256) ∧ config.ioctl (gatmp.id % 256))) :
    handleI2cSetGa config before values gatmp =
      { selected := selected config before (multBusnum gatmp.id)
        sent := []
        values := values
        indices := if gatmp.port = 0 then [] else [index gatmp.id]
        result := -1
        activetime := waitTime config gatmp } := by
  unfold handleI2cSetGa
  rw [i2cAddr, writeI2cDev_refused refused]

theorem handleI2cSetGa_pulsed (known : Known (gatmp.id % 256))
    (accepted : config.ioctl (gatmp.id % 256)) (pulsed : 0 ≤ gatmp.activetime) :
    handleI2cSetGa config before values gatmp =
      { selected := selected config before (multBusnum gatmp.id)
        sent := [(gatmp.id % 256, (0xff &&& i2cVal config values gatmp).setWidth 8),
          (gatmp.id % 256, (0xff &&& values (index gatmp.id)).setWidth 8)]
        values := values
        indices := (if gatmp.port = 0 then [] else [index gatmp.id]) ++ [index gatmp.id]
        result := 0
        activetime := waitTime config gatmp } := by
  unfold handleI2cSetGa
  rw [i2cAddr, writeI2cDev_known known accepted, writeI2cDev_known known accepted]
  dsimp only
  rw [if_pos pulsed]

theorem handleI2cSetGa_persistent (known : Known (gatmp.id % 256))
    (accepted : config.ioctl (gatmp.id % 256)) (persistent : gatmp.activetime < 0) :
    handleI2cSetGa config before values gatmp =
      { selected := selected config before (multBusnum gatmp.id)
        sent := [(gatmp.id % 256, (0xff &&& i2cVal config values gatmp).setWidth 8)]
        values := Function.update values (index gatmp.id) (i2cVal config values gatmp)
        indices := (if gatmp.port = 0 then [] else [index gatmp.id]) ++ [index gatmp.id]
        result := 0
        activetime := waitTime config gatmp } := by
  unfold handleI2cSetGa
  rw [i2cAddr, writeI2cDev_known known accepted]
  dsimp only
  rw [if_neg (not_le.mpr persistent)]

/-- Behind a command the index was used if a pin is addressed or the chip is known. -/
theorem handleI2cSetGa_fields :
    (handleI2cSetGa config before values gatmp).selected =
        selected config before (multBusnum gatmp.id) ∧
      (∀ i ∈ (handleI2cSetGa config before values gatmp).indices, i = index gatmp.id ∧
        (gatmp.port ≠ 0 ∨ Known (gatmp.id % 256))) ∧
      (gatmp.port ≠ 0 → index gatmp.id ∈ (handleI2cSetGa config before values gatmp).indices) := by
  have read : ∀ i ∈ (if gatmp.port = 0 then [] else [index gatmp.id] : List (Int × Int)),
      i = index gatmp.id ∧ gatmp.port ≠ 0 := by
    intro i mem
    split at mem
    · cases mem
    · rename_i pin
      exact ⟨List.mem_singleton.mp mem, pin⟩
  by_cases reached : Known (gatmp.id % 256) ∧ config.ioctl (gatmp.id % 256)
  · rcases reached with ⟨known, accepted⟩
    have both : ∀ i ∈ (if gatmp.port = 0 then [] else [index gatmp.id] : List (Int × Int)) ++
        [index gatmp.id], i = index gatmp.id ∧ (gatmp.port ≠ 0 ∨ Known (gatmp.id % 256)) := by
      intro i mem
      rcases List.mem_append.mp mem with earlier | last
      · exact ⟨(read i earlier).1, .inl (read i earlier).2⟩
      · exact ⟨List.mem_singleton.mp last, .inr known⟩
    have last : index gatmp.id ∈ (if gatmp.port = 0 then [] else [index gatmp.id] :
        List (Int × Int)) ++ [index gatmp.id] :=
      List.mem_append_right _ (List.mem_singleton.mpr rfl)
    rcases le_or_gt 0 gatmp.activetime with pulsed | persistent
    · rw [handleI2cSetGa_pulsed known accepted pulsed]
      exact ⟨rfl, both, fun _ => last⟩
    · rw [handleI2cSetGa_persistent known accepted persistent]
      exact ⟨rfl, both, fun _ => last⟩
  · rw [handleI2cSetGa_refused reached]
    refine ⟨rfl, fun i mem => ⟨(read i mem).1, .inl (read i mem).2⟩, fun pin => ?_⟩
    dsimp only
    rw [if_neg pin]
    exact List.mem_singleton.mpr rfl

/-! ## The condition -/

theorem index_inside_iff : ((0 ≤ (index gatmp.id).1 ∧ (index gatmp.id).1 < maxI2cDevices) ∧
    0 ≤ (index gatmp.id).2 ∧ (index gatmp.id).2 < maxMultipelexBuses) ↔
      gatmp.id % 256 ≠ 255 ∧ 1 ≤ multBusnum gatmp.id ∧ multBusnum gatmp.id ≤ 8 := by
  unfold index i2cAddr maxI2cDevices maxMultipelexBuses
  dsimp only
  omega

theorem Right.fits
    (right : Right config values gatmp (handleI2cSetGa config before values gatmp)) :
    Fits config before gatmp := by
  have fields : (handleI2cSetGa config before values gatmp).selected = _ ∧ _ :=
    handleI2cSetGa_fields
  rcases fields with ⟨selects, _, read⟩
  have small (pcf : IsPcf (gatmp.id % 256)) : gatmp.id / 256 < 8 := by
    have bus := right.bus pcf
    unfold muxBus at bus
    split at bus <;> omega
  refine ⟨fun pin => index_inside_iff.mp (right.inside _ (read pin)), fun pcf => ?_, ?_, ?_⟩
  · have apart := right.apart pcf (gatmp.id + 65536)
    refine ⟨small pcf, ?_⟩
    by_contra shared
    refine apart ⟨by omega, by omega⟩ (by omega) ⟨by omega, ?_⟩
    have same : multBusnum (gatmp.id + 65536) = multBusnum gatmp.id := by
      unfold multBusnum
      omega
    rw [same]
  · intro accepted
    have pcf (last : gatmp.id % 256 = 39 ∨ gatmp.id % 256 = 63) : False := by
      have chip : IsPcf (gatmp.id % 256) := by
        unfold IsPcf
        omega
      have unknown : ¬ (Known (gatmp.id % 256) ∧ config.ioctl (gatmp.id % 256)) := by
        rintro ⟨known, _⟩
        omega
      have carried := right.carried chip accepted
      rw [handleI2cSetGa_refused unknown] at carried
      exact carried rfl
    exact ⟨fun last => pcf (.inl last), fun last => pcf (.inr last)⟩
  · intro pcf accepted
    have there := right.there (right.carried pcf accepted)
    rw [selects, selected_eq] at there
    split at there
    · exact .inl ‹_›
    · exact .inr there

theorem Fits.bus_asked (fits : Fits config before gatmp) (pcf : IsPcf (gatmp.id % 256)) :
    muxBus (multBusnum gatmp.id) = gatmp.id / 256 + 1 := by
  have small := (fits.bus pcf).1
  have bus : multBusnum gatmp.id = gatmp.id / 256 + 1 := Nat.mod_eq_of_lt (by omega)
  rw [bus, muxBus, if_neg (by omega)]

/-- The bus is selected, or was selected before. -/
theorem Fits.bus_selected (fits : Fits config before gatmp) (pcf : IsPcf (gatmp.id % 256))
    (accepted : config.ioctl (gatmp.id % 256)) :
    selected config before (multBusnum gatmp.id) = gatmp.id / 256 + 1 := by
  rw [selected_eq]
  split
  · exact fits.bus_asked pcf
  · rename_i refused
    exact (fits.mux pcf accepted).resolve_left refused

theorem Fits.inside (fits : Fits config before gatmp) :
    ∀ i ∈ (handleI2cSetGa config before values gatmp).indices, (0 ≤ i.1 ∧ i.1 < maxI2cDevices) ∧
      0 ≤ i.2 ∧ i.2 < maxMultipelexBuses := by
  have fields : _ ∧ (∀ i ∈ (handleI2cSetGa config before values gatmp).indices, _) ∧ _ :=
    handleI2cSetGa_fields
  intro i mem
  rcases fields.2.1 i mem with ⟨rfl, pin | known⟩
  · exact index_inside_iff.mpr (fits.element pin)
  · have small := (fits.bus (Known.isPcf known)).1
    rw [index_inside_iff]
    unfold multBusnum
    omega

theorem Fits.apart (fits : Fits config before gatmp) (pcf : IsPcf (gatmp.id % 256)) :
    ∀ other, config.InRange other → other ≠ gatmp.id →
      ¬ (other % 256 = gatmp.id % 256 ∧
        muxBus (multBusnum other) = muxBus (multBusnum gatmp.id)) := by
  rintro other ⟨_, top⟩ different ⟨chip, bus⟩
  rcases fits.bus pcf with ⟨small, alone⟩
  rw [fits.bus_asked pcf] at bus
  unfold muxBus multBusnum at bus
  split at bus <;> omega

theorem remembered_update (value : BitVec 16) :
    remembered (Function.update values (index gatmp.id) value) gatmp.id = value.setWidth 8 := by
  rw [remembered, Function.update_self]

theorem Fits.right_pulsed (fits : Fits config before gatmp) (known : Known (gatmp.id % 256))
    (accepted : config.ioctl (gatmp.id % 256)) (pulsed : 0 ≤ gatmp.activetime) :
    Right config values gatmp (handleI2cSetGa config before values gatmp) := by
  have inside : ∀ i ∈ (handleI2cSetGa config before values gatmp).indices, _ := fits.inside
  rw [handleI2cSetGa_pulsed known accepted pulsed] at inside ⊢
  refine ⟨?_, fits.bus_asked, fun _ => fits.bus_selected known.isPcf accepted,
    fun _ _ => List.cons_ne_nil _ _, ?_, ?_, ?_, inside, fits.apart⟩
  · intro sent mem
    rcases List.mem_pair.mp mem with rfl | rfl
    · exact ⟨rfl, known.isPcf⟩
    · exact ⟨rfl, known.isPcf⟩
  · intro sent mem
    rw [← Option.some.inj mem]
    exact newByte_i2cVal
  · refine fun _ => ⟨rfl, fun _ => ?_⟩
    rw [lowByte (values (index gatmp.id))]
    rfl
  · exact fun persistent => absurd pulsed (not_le.mpr persistent)

theorem Fits.right_persistent (fits : Fits config before gatmp) (known : Known (gatmp.id % 256))
    (accepted : config.ioctl (gatmp.id % 256)) (persistent : gatmp.activetime < 0) :
    Right config values gatmp (handleI2cSetGa config before values gatmp) := by
  have inside : ∀ i ∈ (handleI2cSetGa config before values gatmp).indices, _ := fits.inside
  rw [handleI2cSetGa_persistent known accepted persistent] at inside ⊢
  refine ⟨?_, fits.bus_asked, fun _ => fits.bus_selected known.isPcf accepted,
    fun _ _ => List.cons_ne_nil _ _, ?_, ?_, ?_, inside, fits.apart⟩
  · intro sent mem
    rw [List.mem_singleton.mp mem]
    exact ⟨rfl, known.isPcf⟩
  · intro sent mem
    rw [← Option.some.inj mem]
    exact newByte_i2cVal
  · exact fun pulsed => absurd persistent (not_lt.mpr pulsed)
  · refine fun _ => ⟨rfl, ?_, ?_⟩
    · intro sent mem
      rw [List.mem_singleton.mp mem]
      dsimp only
      rw [remembered_update, lowByte]
    · rintro other (nothing | apart)
      · exact absurd nothing (List.cons_ne_nil _ _)
      · exact Function.update_of_ne apart _ _

/-- Of the 16 chips only the last of each family is refused where it can be accessed. -/
theorem Fits.right_refused (fits : Fits config before gatmp)
    (refused : ¬ (Known (gatmp.id % 256) ∧ config.ioctl (gatmp.id % 256))) :
    Right config values gatmp (handleI2cSetGa config before values gatmp) := by
  have inside : ∀ i ∈ (handleI2cSetGa config before values gatmp).indices, _ := fits.inside
  rw [handleI2cSetGa_refused refused] at inside ⊢
  refine ⟨fun _ mem => absurd mem List.not_mem_nil, fits.bus_asked,
    fun sent => absurd rfl sent, ?_, fun _ mem => absurd mem (Option.not_mem_none _), ?_, ?_,
    inside, fits.apart⟩
  · intro pcf accepted
    rcases fits.last accepted with ⟨not39, not63⟩
    have known : Known (gatmp.id % 256) := by
      unfold IsPcf at pcf
      unfold Known
      omega
    exact absurd ⟨known, accepted⟩ refused
  · exact fun _ => ⟨rfl, fun sent => absurd rfl sent⟩
  · exact fun _ => ⟨rfl, fun _ mem => absurd mem List.not_mem_nil, fun _ _ => rfl⟩

theorem Fits.right (fits : Fits config before gatmp) :
    Right config values gatmp (handleI2cSetGa config before values gatmp) := by
  by_cases reached : Known (gatmp.id % 256) ∧ config.ioctl (gatmp.id % 256)
  · rcases reached with ⟨known, accepted⟩
    rcases le_or_gt 0 gatmp.activetime with pulsed | persistent
    · exact fits.right_pulsed known accepted pulsed
    · exact fits.right_persistent known accepted persistent
  · exact fits.right_refused reached

theorem mem_resetBuses {chip multiplexerAdr : Nat} {buses : List Nat}
    (bus : multiplexerAdr ∈ buses) (pcf : IsPcf chip) (accepted : config.ioctl chip) :
    (selected config before multiplexerAdr, chip,
      (values (chip, (multiplexerAdr : Int) - 1)).setWidth 8) ∈
        resetBuses config values before buses := by
  induction buses generalizing before with
  | nil => cases bus
  | cons adr rest ih =>
      rw [resetBuses, List.mem_append]
      rcases List.mem_cons.mp bus with rfl | later
      · left
        refine List.mem_filterMap.mpr ⟨chip, (mem_resetChips_iff chip).mpr pcf, ?_⟩
        rw [writePCF8574, if_pos accepted]
        rfl
      · right
        -- without access the bus from before stays selected
        have same : selected config (selected config before adr) multiplexerAdr =
            selected config before multiplexerAdr := by
          simp only [selected_eq]
          split
          · rfl
          · rfl
        rw [← same]
        exact ih later

/-- The chips that there can be are reset, at each bus that is selected. -/
theorem mem_resetGa {multiplexerAdr chip : Nat}
    (bus : 1 ≤ multiplexerAdr ∧ multiplexerAdr ≤ config.multiplexBuses) (pcf : IsPcf chip)
    (accepted : config.ioctl chip) :
    (selected config before multiplexerAdr, chip,
      (values (chip, (multiplexerAdr : Int) - 1)).setWidth 8) ∈ resetGa config before values := by
  refine mem_resetBuses ?_ pcf accepted
  rw [List.mem_range'_1]
  omega

theorem isPcf_of_resetBuses {reset : Nat × Sent} {buses : List Nat}
    (mem : reset ∈ resetBuses config values before buses) : IsPcf reset.2.1 := by
  induction buses generalizing before with
  | nil => cases mem
  | cons adr rest ih =>
      rw [resetBuses] at mem
      rcases List.mem_append.mp mem with here | later
      · rcases List.mem_filterMap.mp here with ⟨i, chip, found⟩
        rcases Option.map_eq_some_iff.mp found with ⟨sent, written, rfl⟩
        unfold writePCF8574 at written
        split at written
        · cases written
          exact (mem_resetChips_iff i).mp chip
        · cases written
      · exact ih later

/-- The chips of `reset_ga` are the possible ones, and a command is right if and only if it
stays in the table, on the known chips and buses, and on a bus that can be selected. -/
theorem handleI2cSetGa_iff (config : Config) (before : Nat) (values : Values)
    (gatmp : Command) :
    (∀ reset ∈ resetGa config before values, IsPcf reset.2.1) ∧
      (∀ multiplexerAdr, 1 ≤ multiplexerAdr ∧ multiplexerAdr ≤ config.multiplexBuses →
        ∀ chip, IsPcf chip → config.ioctl chip →
          (selected config before multiplexerAdr, chip,
            (values (chip, (multiplexerAdr : Int) - 1)).setWidth 8) ∈
              resetGa config before values) ∧
      (Right config values gatmp (handleI2cSetGa config before values gatmp) ↔
        Fits config before gatmp) :=
  ⟨fun _ => isPcf_of_resetBuses, fun _ bus _ pcf accepted => mem_resetGa bus pcf accepted,
    Right.fits, Fits.right⟩

/-- Eight buses, with power and all addresses. -/
def eightBuses : Config where
  multiplexBuses := 8
  power := true
  gaHardwareInverters := 0
  gaMinActiveTime := 75
  ioctl _ := true

/-- A pulse at the second pin of the second chip. -/
theorem handleI2cSetGa_iff_pulse :
    ((1 : Nat), (33 : Nat), (0 : Byte)) ∈ resetGa eightBuses 0 (fun _ => 0) ∧
      Right eightBuses (fun _ => 0) ⟨33, 2, 1, 100⟩
        (handleI2cSetGa eightBuses 0 (fun _ => 0) ⟨33, 2, 1, 100⟩) := by
  have pcf : IsPcf 33 := by
    unfold IsPcf
    decide
  rcases handleI2cSetGa_iff eightBuses 0 (fun _ => 0) ⟨33, 2, 1, 100⟩ with ⟨_, resets, right⟩
  refine ⟨resets 1 (by decide) 33 pcf rfl, right.mpr ⟨fun _ => by decide, fun _ => by decide, ?_,
    fun _ _ => .inl rfl⟩⟩
  exact fun _ => by decide

/-- The last row of the table is missing, and the last chip of a family is not known. -/
theorem lastChip_not_right :
    ¬ Right eightBuses (fun _ => 0) ⟨255, 1, 1, -1⟩
        (handleI2cSetGa eightBuses 0 (fun _ => 0) ⟨255, 1, 1, -1⟩) ∧
      ¬ Right eightBuses (fun _ => 0) ⟨39, 1, 1, -1⟩
        (handleI2cSetGa eightBuses 0 (fun _ => 0) ⟨39, 1, 1, -1⟩) := by
  constructor
  · intro right
    have inside := right.inside (255, 0) (by decide)
    exact absurd inside.1.2 (by decide)
  · intro right
    have carried := right.carried (by unfold IsPcf; decide) rfl
    exact carried rfl

end Srcpd.Driver.I2cDev
