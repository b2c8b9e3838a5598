import Srcpd.Command.Queues
import Srcpd.Driver.Li100Gl

/-!
# Programming on the main with the LI100

`send_pom_cv_LI100` and `send_pom_cvbit_LI100` are two copies of one message, and
both put the same code for the operation in front of the upper bits of the CV.
Neither marks an address above 99 as `send_command_gl_LI100` does.
`pomTransmitted_iff` says, for every central unit, which commands it can read
back.
-/

namespace Srcpd.Driver.Li100

open Srcpd.Command

/-! ## The driver -/

/-- Programming on the main: a value, or one bit of it. -/
inductive PomOperation
  | cv (value : Int)
  | cvBit (cvbit value : Int)
  deriving DecidableEq, Repr

/-- A command for a decoder on the main. -/
structure PomCommand where
  addr : Int
  cv : Int
  operation : PomOperation
  deriving DecidableEq, Repr

/-- The `SET` branch of `send_command_sm_LI100`; there are no other operations on the main. -/
def pomCommand (command : SmCommand) : Option PomCommand :=
  if command.command = .set ∧ command.addr ≠ -1 then
    match command.type with
    | .cv => some ⟨command.addr, command.typeaddr, .cv command.value⟩
    | .cvBit => some ⟨command.addr, command.typeaddr, .cvBit command.bit command.value⟩
    | .register | .page => none
  else none

/-- What both functions fill in; `data` is the last byte. -/
def pomBytes (addr cv : Int) (data : BitVec 8) : Message :=
  let cv := cv - 1
  [0xe6, 0x30, byte (addr >>> (8 : Nat)), byte addr, 0x7c ||| (byte (cv >>> (8 : Nat)) &&& 0x03),
    byte cv, data]

/-- The telegram that writes a value. -/
def sendPomCv (addr cv value : Int) : Message :=
  pomBytes addr cv (byte value)

/-- The telegram that writes a bit. -/
def sendPomCvbit (addr cv cvbit value : Int) : Message :=
  pomBytes addr cv (if value ≠ 0 then byte cvbit ||| 0x08 else byte cvbit)

/-- The exclusive or at the end of a telegram. -/
def xorByte (bytes : Message) : BitVec 8 :=
  bytes.foldl (· ^^^ ·) 0

/-- `send_command_LI100`: as many bytes as the first one says, and their checksum. -/
def sendCommand (str : Message) : Message :=
  let command := str.take (((str.headD 0) &&& 0x0f).toNat + 1)
  command ++ [xorByte command]

/-- The telegram of a command, with its last byte. -/
def PomCommand.message (command : PomCommand) : Message :=
  sendCommand
    (match command.operation with
    | .cv value => sendPomCv command.addr command.cv value
    | .cvBit cvbit value => sendPomCvbit command.addr command.cv cvbit value)

/-! ## The central unit -/

/-- The two kinds of telegrams. -/
inductive PomKind
  | byteWrite
  | bitWrite
  deriving DecidableEq, Repr

/-- The kind of telegram for an operation. -/
def PomOperation.kind : PomOperation → PomKind
  | .cv _ => .byteWrite
  | .cvBit _ _ => .bitWrite

/-- Unmarked addresses end with 99. -/
def decodePomAddress (high low : BitVec 8) : Option Nat :=
  if high = 0 ∧ 99 < low.toNat then none else decodeAddress high low

/-- The operation in the data byte of a telegram. -/
def decodeOperation (data : BitVec 8) : PomKind → PomOperation
  | .byteWrite => .cv data.toNat
  | .bitWrite => .cvBit (data &&& 0x07).toNat (if data.getLsbD 3 then 1 else 0)

/-- A central unit that finds the kind of the operation in the six bits above those of
the CV. -/
def decodePom (kindOf : BitVec 8 → Option PomKind) : Message → Option PomCommand
  | [header, identification, high, low, kindCv, cv, data, check] =>
      if header = 0xe6 ∧ identification = 0x30 ∧
          xorByte [header, identification, high, low, kindCv, cv, data, check] = 0 then
        (decodePomAddress high low).bind fun addr =>
          (kindOf (kindCv &&& 0xfc)).map fun kind =>
            ⟨addr, ((kindCv &&& 0x03).toNat * 256 + cv.toNat + 1 : Nat),
              decodeOperation data kind⟩
      else none
  | _ => none

/-- The ranges of CVs, values and bits. -/
def PomOperation.Accepted : PomOperation → Prop
  | .cv value => 0 ≤ value ∧ value ≤ 255
  | .cvBit cvbit value => (0 ≤ cvbit ∧ cvbit ≤ 7) ∧ (value = 0 ∨ value = 1)

/-- The ranges that the handler lets through. -/
structure PomCommand.Accepted (command : PomCommand) : Prop where
  addr : command.addr ≠ -1
  cv : 1 ≤ command.cv ∧ command.cv ≤ 1024
  operation : command.operation.Accepted

/-- The message is read back, no operation of the other kind has the same one, and the
checksum is right. -/
structure PomTransmitted (kindOf : BitVec 8 → Option PomKind) (command : PomCommand) : Prop where
  decodes : decodePom kindOf command.message = some command
  distinct : ∀ other : PomCommand, other.Accepted →
    other.operation.kind ≠ command.operation.kind → other.message ≠ command.message
  checksum : xorByte command.message = 0

/-! ## The address -/

/-- The messages for a locomotive mark their addresses. -/
theorem decodePomAddress_addressHigh {id : Int} (positive : 0 < id) (short : id ≤ 0x3fff) :
    ∃ addr ∈ decodePomAddress (addressHigh id) (byte id), (addr : Int) = id := by
  have low := byte_toNat id
  have marked : ∀ value : BitVec 8, value ||| 0xc0 ≠ 0 := by
    decide
  have unmarked : ¬ (addressHigh id = 0 ∧ 99 < (byte id).toNat) := by
    rintro ⟨zero, large⟩
    rw [addressHigh] at zero
    split at zero
    · exact marked _ zero
    · omega
  rw [decodePomAddress, if_neg unmarked]
  exact (decodeAddress_eq_iff positive).mpr short

theorem decodePomAddress_eq_iff (addr : Int) :
    (∃ decoded ∈ decodePomAddress (byte (addr >>> (8 : Nat))) (byte addr), (decoded : Int) = addr) ↔
      0 ≤ addr ∧ addr ≤ 99 := by
  have low := byte_toNat addr
  have high := byte_shiftRight_toNat addr
  generalize byte (addr >>> (8 : Nat)) = highByte at high ⊢
  generalize byte addr = lowByte at low ⊢
  constructor
  · rintro ⟨decoded, found, same⟩
    rw [decodePomAddress] at found
    split at found
    · cases found
    · next unmarked =>
        rw [decodeAddress] at found
        split at found
        · next zero =>
            rw [zero] at high unmarked
            cases found
            simp at unmarked
            omega
        · split at found
          · next marked =>
              -- A marked byte is at least 192, more than an address of 14 bits has.
              have table : ∀ value : BitVec 8, value &&& 0xc0 = 0xc0 →
                  192 ≤ value.toNat ∧ (value &&& 0x3f).toNat = value.toNat - 192 := by
                decide
              obtain ⟨large, rest⟩ := table highByte marked
              cases found
              rw [rest] at same
              omega
          · cases found
  · rintro ⟨least, most⟩
    have zero : highByte = 0 := BitVec.eq_of_toNat_eq (by
      change highByte.toNat = 0
      omega)
    refine ⟨lowByte.toNat, ?_, by omega⟩
    rw [decodePomAddress, if_neg (by omega), decodeAddress, if_pos zero]
    rfl

/-! ## The message -/

/-- The data byte of an operation. -/
def PomOperation.data : PomOperation → BitVec 8
  | .cv value => byte value
  | .cvBit cvbit value => if value ≠ 0 then byte cvbit ||| 0x08 else byte cvbit

/-- The first byte announces what is filled in. -/
theorem sendCommand_pomBytes (addr cv : Int) (data : BitVec 8) :
    sendCommand (pomBytes addr cv data) =
      pomBytes addr cv data ++ [xorByte (pomBytes addr cv data)] := by
  have length : ((0xe6 : BitVec 8) &&& 0x0f).toNat + 1 = 7 := by decide
  simp only [sendCommand, pomBytes, List.headD_cons, length]
  rfl

theorem PomCommand.message_eq (command : PomCommand) :
    command.message =
      pomBytes command.addr command.cv command.operation.data ++
        [xorByte (pomBytes command.addr command.cv command.operation.data)] := by
  rw [← sendCommand_pomBytes, PomCommand.message]
  cases command.operation <;> rfl

theorem xorByte_checksum (bytes : Message) : xorByte (bytes ++ [xorByte bytes]) = 0 := by
  rw [xorByte, List.foldl_append]
  exact BitVec.xor_self

/-- Both copies have the same code in front of the upper bits of the CV. -/
theorem kindCv_decoded (value : BitVec 8) :
    (0x7c ||| (value &&& 0x03)) &&& 0xfc = 0x7c ∧
      ((0x7c ||| (value &&& 0x03)) &&& 0x03).toNat = value.toNat % 4 := by
  revert value
  decide

theorem cv_decoded {cv : Int} (range : 1 ≤ cv ∧ cv ≤ 1024) :
    (((byte ((cv - 1) >>> (8 : Nat))).toNat % 4 * 256 + (byte (cv - 1)).toNat + 1 : Nat) :
      Int) = cv := by
  have low := byte_toNat (cv - 1)
  have high := byte_shiftRight_toNat (cv - 1)
  omega

theorem data_decoded {operation : PomOperation} (accepted : operation.Accepted) :
    decodeOperation operation.data operation.kind = operation := by
  cases operation with
  | cv value =>
      obtain ⟨least, most⟩ := accepted
      have low : ((byte value).toNat : Int) = value := by
        rw [byte_toNat]
        omega
      exact congrArg PomOperation.cv low
  | cvBit cvbit value =>
      obtain ⟨⟨least, most⟩, bit⟩ := accepted
      rcases bit with rfl | rfl <;> interval_cases cvbit <;> rfl

theorem decodePom_message_iff (kindOf : BitVec 8 → Option PomKind) {command : PomCommand}
    (accepted : command.Accepted) :
    decodePom kindOf command.message = some command ↔
      (0 ≤ command.addr ∧ command.addr ≤ 99) ∧
        kindOf 0x7c = some command.operation.kind := by
  have checked := xorByte_checksum (pomBytes command.addr command.cv command.operation.data)
  obtain ⟨kind, upper⟩ := kindCv_decoded (byte ((command.cv - 1) >>> (8 : Nat)))
  rw [← decodePomAddress_eq_iff, command.message_eq]
  rw [pomBytes, List.cons_append, List.cons_append, List.cons_append, List.cons_append,
    List.cons_append, List.cons_append, List.cons_append, List.nil_append] at checked ⊢
  rw [decodePom, if_pos ⟨rfl, rfl, checked⟩, kind, upper, Option.bind_eq_some_iff]
  constructor
  · rintro ⟨addr, found, decoded⟩
    obtain ⟨kind, known, same⟩ := Option.map_eq_some_iff.mp decoded
    refine ⟨⟨addr, found, congrArg PomCommand.addr same⟩, ?_⟩
    have operation := congrArg (fun command => command.operation.kind) same
    rw [known, ← operation]
    cases kind <;> rfl
  · rintro ⟨⟨addr, found, same⟩, known⟩
    refine ⟨addr, found, ?_⟩
    rw [known, Option.map_some, same, cv_decoded accepted.cv, data_decoded accepted.operation]

/-! ## Byte and bit writes -/

theorem message_inj_data {first second : PomCommand} (same : first.message = second.message) :
    first.operation.data = second.operation.data := by
  rw [first.message_eq, second.message_eq, pomBytes, pomBytes] at same
  simp only [List.cons_append, List.cons.injEq] at same
  exact same.2.2.2.2.2.2.1

theorem data_cvBit_lt {cvbit value : Int} (accepted : (PomOperation.cvBit cvbit value).Accepted) :
    (PomOperation.cvBit cvbit value).data.toNat < 16 := by
  obtain ⟨⟨least, most⟩, bit⟩ := accepted
  rcases bit with rfl | rfl <;> interval_cases cvbit <;> decide

/-- Every bit write is also a byte write of a value below 16. -/
theorem distinct_iff {command : PomCommand} (accepted : command.Accepted) :
    (∀ other : PomCommand, other.Accepted →
        other.operation.kind ≠ command.operation.kind → other.message ≠ command.message) ↔
      ∃ value, command.operation = .cv value ∧ 16 ≤ value := by
  rcases command with ⟨addr, cv, operation⟩
  cases operation with
  | cv value =>
      have range : 0 ≤ value ∧ value ≤ 255 := accepted.operation
      constructor
      · intro distinct
        refine ⟨value, rfl, ?_⟩
        by_contra small
        let twin : PomCommand := ⟨addr, cv, .cvBit (value % 8) (value / 8)⟩
        have twinAccepted : twin.Accepted :=
          ⟨accepted.addr, accepted.cv, by
            change (0 ≤ value % 8 ∧ value % 8 ≤ 7) ∧ (value / 8 = 0 ∨ value / 8 = 1)
            omega⟩
        refine distinct twin twinAccepted nofun ?_
        rw [twin.message_eq, PomCommand.message_eq]
        have data : twin.operation.data = (PomOperation.cv value).data := by
          obtain ⟨least, _⟩ := range
          have most : value ≤ 15 := by omega
          change (PomOperation.cvBit (value % 8) (value / 8)).data = _
          interval_cases value <;> rfl
        rw [data]
      · rintro ⟨other, same, large⟩ twin twinAccepted kind message
        cases same
        have data := message_inj_data message
        cases operation : twin.operation with
        | cv other =>
            rw [operation] at kind
            exact kind rfl
        | cvBit cvbit bit =>
            have small := data_cvBit_lt (operation ▸ twinAccepted.operation)
            rw [operation] at data
            rw [data] at small
            have low : ((byte value).toNat : Int) = value := by
              rw [byte_toNat]
              omega
            change (byte value).toNat < 16 at small
            omega
  | cvBit cvbit value =>
      constructor
      · intro distinct
        let data := (PomOperation.cvBit cvbit value).data
        let twin : PomCommand := ⟨addr, cv, .cv data.toNat⟩
        have twinAccepted : twin.Accepted :=
          ⟨accepted.addr, accepted.cv, by
            have below := data.isLt
            change (0 : Int) ≤ data.toNat ∧ (data.toNat : Int) ≤ 255
            omega⟩
        refine absurd ?_ (distinct twin twinAccepted nofun)
        rw [twin.message_eq, PomCommand.message_eq]
        have same : twin.operation.data = data := BitVec.ofInt_natCast 8 data.toNat |>.trans
          (BitVec.ofNat_toNat 8 data |>.trans (BitVec.setWidth_eq data))
        rw [same]
      · rintro ⟨_, same, _⟩
        cases same

theorem pomCommand_addr {sm : SmCommand} {command : PomCommand}
    (queued : pomCommand sm = some command) : command.addr ≠ -1 := by
  rw [pomCommand] at queued
  split at queued
  · next set =>
      split at queued
      · cases queued
        exact set.2
      · cases queued
        exact set.2
      · cases queued
      · cases queued
  · cases queued

/-- Whatever the central unit takes the code for: a command for programming on the main can
be read back, and told from all of the other kind, exactly when it writes a byte of at least
16 to a decoder with an address up to 99, and the code means a byte. -/
theorem pomTransmitted_iff (kindOf : BitVec 8 → Option PomKind) (sm : SmCommand)
    (command : PomCommand) (queued : pomCommand sm = some command)
    (cv : 1 ≤ command.cv ∧ command.cv ≤ 1024) (operation : command.operation.Accepted) :
    PomTransmitted kindOf command ↔
      (0 ≤ command.addr ∧ command.addr ≤ 99) ∧ kindOf 0x7c = some .byteWrite ∧
        ∃ value, command.operation = .cv value ∧ 16 ≤ value := by
  have accepted : command.Accepted := ⟨pomCommand_addr queued, cv, operation⟩
  have checksum : xorByte command.message = 0 := by
    rw [command.message_eq]
    exact xorByte_checksum _
  constructor
  · intro transmitted
    obtain ⟨value, operation, large⟩ := (distinct_iff accepted).mp transmitted.distinct
    obtain ⟨addr, kind⟩ := (decodePom_message_iff kindOf accepted).mp transmitted.decodes
    rw [operation] at kind
    exact ⟨addr, kind, value, operation, large⟩
  · rintro ⟨addr, kind, value, operation, large⟩
    refine ⟨(decodePom_message_iff kindOf accepted).mpr ⟨addr, ?_⟩,
      (distinct_iff accepted).mpr ⟨value, operation, large⟩, checksum⟩
    rw [operation]
    exact kind

/-- CV 29 of decoder 3 is set to 38, for a central unit that reads byte writes. -/
theorem pomTransmitted_iff_cv29 :
    PomTransmitted (fun code => if code = 0x7c then some .byteWrite else none)
        ⟨3, 29, .cv 38⟩ ↔
      ((0 : Int) ≤ 3 ∧ (3 : Int) ≤ 99) ∧
        (if (0x7c : BitVec 8) = 0x7c then some PomKind.byteWrite else none) = some .byteWrite ∧
        ∃ value, PomOperation.cv 38 = .cv value ∧ 16 ≤ value :=
  pomTransmitted_iff (fun code => if code = 0x7c then some .byteWrite else none)
    ⟨.set, .cv, 3, 29, 0, 38⟩ ⟨3, 29, .cv 38⟩ rfl (by decide)
    (show (0 : Int) ≤ 38 ∧ (38 : Int) ≤ 255 by decide)

/-- Bit 5 of CV 29 of decoder 3 is set, as CV 29 to 13; and the address 300 is not read back. -/
theorem pom_not_transmitted :
    (PomCommand.mk 3 29 (.cvBit 5 1)).message = (PomCommand.mk 3 29 (.cv 13)).message ∧
      (∀ kindOf, ¬ PomTransmitted kindOf ⟨3, 29, .cvBit 5 1⟩) ∧
      ∀ kindOf, ¬ PomTransmitted kindOf ⟨300, 29, .cv 38⟩ := by
  refine ⟨by decide, fun kindOf transmitted => ?_, fun kindOf transmitted => ?_⟩
  · have byteWrite : (PomCommand.mk 3 29 (.cv 13)).Accepted :=
      ⟨by decide, by decide, show (0 : Int) ≤ 13 ∧ (13 : Int) ≤ 255 by decide⟩
    exact transmitted.distinct _ byteWrite nofun (by decide)
  · have decoded := transmitted.decodes
    revert decoded
    exact nofun

end Srcpd.Driver.Li100
