import Srcpd.Command.Queues
import Srcpd.Transition.Core

/-!
# The decoder that the loopback driver simulates

Registers, pages, CVs and single bits are four ways to the same contents.
`handleSmCommand` keeps the CVs in a static array, but register 6, the page
register, in a variable of the call.  `handleSM_serve` says that the switch of
the function is right about a decoder with one content for each cell, and
`answersRight_iff` when that is so of the commands that the driver carries out.
-/

namespace Srcpd.Driver.Loopback

open Srcpd.Command Srcpd.Transition

/-! ## The driver -/

/-- `MAX_CV_NUMBER`. -/
def maxCvNumber : Int := 255

/-- What `handle_sm_command` works on. -/
structure Registers where
  reg6 : BitVec 32
  cv : Int → BitVec 32

/-- A value is stored. -/
def Registers.setCv (registers : Registers) (number : Int) (value : BitVec 32) : Registers :=
  { registers with cv := Function.update registers.cv number value }

/-- `smtmp.value &= 255`. -/
def maskedValue (command : SmCommand) : BitVec 32 :=
  BitVec.ofInt 32 command.value &&& 255

/-- The test for a register. -/
def isRegister (command : SmCommand) : Bool :=
  0 < command.typeaddr && command.typeaddr < 9

/-- The test for a value. -/
def isCv (command : SmCommand) : Bool :=
  0 ≤ command.typeaddr && command.typeaddr ≤ maxCvNumber

/-- The test for a bit of a value. -/
def isCvBit (command : SmCommand) : Bool :=
  0 ≤ command.typeaddr && 0 ≤ command.bit && command.bit < 8 && command.typeaddr ≤ maxCvNumber

/-- The registers 1 to 4 are on page 1. -/
def Registers.selectPage (registers : Registers) (command : SmCommand) : Registers :=
  if command.typeaddr < 5 then { registers with reg6 := 1 } else registers

/-- `1 & (cv[typeaddr] >> bit)`. -/
def Registers.bitOf (registers : Registers) (command : SmCommand) : BitVec 32 :=
  1 &&& (registers.cv command.typeaddr).sshiftRight command.bit.toNat

/-- `GET`: the value and the registers. -/
def Registers.get (registers : Registers) (command : SmCommand) : BitVec 32 × Registers :=
  match command.type with
  | .register =>
      if isRegister command then
        if command.typeaddr < 5 ∨ command.typeaddr > 6 then
          (registers.cv command.typeaddr, registers.selectPage command)
        else if command.typeaddr = 5 then
          (registers.cv 29, registers.setCv 29 (registers.cv 29))
        else (registers.reg6, registers)
      else (-1, registers)
  | .page | .cv => (if isCv command then registers.cv command.typeaddr else -1, registers)
  | .cvBit => (if isCvBit command then registers.bitOf command else -1, registers)

/-- `set` in service mode, which knows a page register and a configuration register. -/
def Registers.set (registers : Registers) (command : SmCommand) : BitVec 32 × Registers :=
  let value := maskedValue command
  match command.type with
  | .register =>
      if isRegister command then
        if command.typeaddr < 5 ∨ command.typeaddr > 6 then
          (value, (registers.selectPage command).setCv command.typeaddr value)
        else if command.typeaddr = 5 then (value, registers.setCv 29 value)
        else (value, { registers with reg6 := value })
      else (-1, registers)
  | .page | .cv =>
      if isCv command then (value, registers.setCv command.typeaddr value) else (-1, registers)
  | .cvBit =>
      if isCvBit command ∧ 0 ≤ value.toInt ∧ value.toInt ≤ 1 then
        let old := registers.cv command.typeaddr
        (value, registers.setCv command.typeaddr
          (if value ≠ 0 then old ||| 1#32 <<< command.bit.toNat
          else old &&& ~~~(1#32 <<< command.bit.toNat)))
      else (-1, registers)

/-- `verify` in service mode, which compares and stores nothing. -/
def Registers.verify (registers : Registers) (command : SmCommand) : BitVec 32 × Registers :=
  let value := maskedValue command
  match command.type with
  | .register =>
      if isRegister command then
        if command.typeaddr < 5 ∨ command.typeaddr > 6 then
          (if value ≠ registers.cv command.typeaddr then -1 else value,
            registers.selectPage command)
        else if command.typeaddr = 5 then
          (if registers.cv 29 ≠ value then -1 else value, registers)
        else (if registers.reg6 ≠ value then -1 else value, registers)
      else (-1, registers)
  | .page | .cv =>
      (if isCv command then if value ≠ registers.cv command.typeaddr then -1 else value else -1,
        registers)
  | .cvBit =>
      (if isCvBit command then if value ≠ registers.bitOf command then -1 else value else -1,
        registers)

/-- The switch of `handle_sm_command`. -/
def handleSM (registers : Registers) (command : SmCommand) : BitVec 32 × Registers :=
  match command.command with
  | .get => registers.get command
  | .set => registers.set command
  | .verify => registers.verify command
  | .init | .term => (maskedValue command, registers)

/-- The array is static, `reg6` is a local variable with the value 1. -/
def handleSmCommand (cv : Int → BitVec 32) (command : SmCommand) :
    BitVec 32 × (Int → BitVec 32) :=
  let handled := handleSM ⟨1, cv⟩ command
  (handled.1, handled.2.cv)

/-! ## A decoder -/

/-- What a decoder stores a value in. -/
inductive Cell
  | cv (number : Nat)
  | pageRegister
  deriving DecidableEq, Repr

/-- What was last written to a cell. -/
abbrev Decoder := Cell → BitVec 8

/-- A cell or one bit of it. -/
structure Access where
  cell : Cell
  bit : Option Nat
  deriving DecidableEq, Repr

/-- The cell that a command stands for; `none` when it is rejected. -/
def access (command : SmCommand) : Option Access :=
  match command.type with
  | .register =>
      if isRegister command then
        if command.typeaddr = 5 then some ⟨.cv 29, none⟩
        else if command.typeaddr = 6 then some ⟨.pageRegister, none⟩
        else some ⟨.cv command.typeaddr.toNat, none⟩
      else none
  | .page | .cv => if isCv command then some ⟨.cv command.typeaddr.toNat, none⟩ else none
  | .cvBit =>
      if isCvBit command then some ⟨.cv command.typeaddr.toNat, some command.bit.toNat⟩ else none

/-- A byte with one bit changed. -/
def setBit (content : BitVec 8) (bit : Nat) (value : Bool) : BitVec 8 :=
  if value then content ||| BitVec.twoPow 8 bit else content &&& ~~~BitVec.twoPow 8 bit

/-- What a decoder answers to a read. -/
def Access.read (access : Access) (decoder : Decoder) : BitVec 8 :=
  match access.bit with
  | none => decoder access.cell
  | some bit => if (decoder access.cell).getLsbD bit then 1 else 0

/-- `none` for a bit that is neither 0 nor 1. -/
def Access.write (access : Access) (decoder : Decoder) (value : BitVec 8) : Option Decoder :=
  match access.bit with
  | none => some (Function.update decoder access.cell value)
  | some bit =>
      if value = 0 ∨ value = 1 then
        some (Function.update decoder access.cell
          (setBit (decoder access.cell) bit (value = 1)))
      else none

/-- An access to one of the registers 1 to 4 selects page 1. -/
def Decoder.selectPage (decoder : Decoder) (command : SmCommand) : Decoder :=
  if command.type = .register ∧ isRegister command ∧ command.typeaddr < 5 then
    Function.update decoder .pageRegister 1
  else decoder

/-- The answer of a decoder, `none` for an error, and its cells. -/
def Decoder.serve (decoder : Decoder) (command : SmCommand) : Option (BitVec 8) × Decoder :=
  let value := BitVec.ofInt 8 command.value
  match command.command with
  | .get => ((access command).map fun access => access.read decoder, decoder.selectPage command)
  | .set =>
      match (access command).bind fun access =>
          access.write (decoder.selectPage command) value with
      | some written => (some value, written)
      | none => (none, decoder)
  | .verify =>
      ((access command).bind fun access =>
          if access.read decoder = value then some value else none,
        decoder.selectPage command)
  | .init | .term => (some value, decoder)

/-- The result for an answer. -/
def result : Option (BitVec 8) → BitVec 32
  | some value => value.setWidth 32
  | none => -1

/-- The registers contain what the decoder does. -/
structure Registers.Shows (registers : Registers) (decoder : Decoder) : Prop where
  reg6 : registers.reg6 = (decoder .pageRegister).setWidth 32
  cv : ∀ number : Nat, registers.cv number = (decoder (.cv number)).setWidth 32

/-! ## The switch is a decoder -/

variable {registers : Registers} {decoder : Decoder} {command : SmCommand}

theorem maskedValue_eq (command : SmCommand) :
    maskedValue command = (BitVec.ofInt 8 command.value).setWidth 32 := by
  apply BitVec.eq_of_toNat_eq
  have mask : (255 : BitVec 32).toNat = 2 ^ 8 - 1 := rfl
  rw [maskedValue, BitVec.toNat_and, mask, Nat.and_two_pow_sub_one_eq_mod,
    BitVec.toNat_setWidth, BitVec.toNat_ofInt, BitVec.toNat_ofInt]
  omega

/-- A bit write changes exactly that bit. -/
theorem getLsbD_setBit {content : BitVec 8} {bit : Nat} (inside : bit < 8) (value : Bool)
    (other : Nat) :
    (setBit content bit value).getLsbD other =
      if other = bit then value else content.getLsbD other := by
  by_cases same : other = bit
  · subst same
    cases value <;> simp [setBit, inside]
  · cases value with
    | false =>
        simp only [setBit, Bool.false_eq_true, if_false, same]
        simp [inside, Ne.symm same]
        exact BitVec.lt_of_getLsbD
    | true => simp [setBit, inside, same, Ne.symm same]

theorem setWidth_setBit {content : BitVec 8} {bit : Nat} (inside : bit < 8) (value : Bool) :
    (setBit content bit value).setWidth 32 =
      if value then content.setWidth 32 ||| 1#32 <<< bit
      else content.setWidth 32 &&& ~~~(1#32 <<< bit) := by
  have shifted : 1#32 <<< bit = BitVec.twoPow 32 bit := rfl
  apply BitVec.eq_of_getLsbD_eq
  intro other inRange
  rw [BitVec.getLsbD_setWidth, getLsbD_setBit inside, shifted]
  by_cases same : other = bit
  · obtain rfl := same
    cases value <;> simp [inside, inRange]
  · cases value <;> simp [same, inRange]

theorem Registers.Shows.setCv (shows : registers.Shows decoder) {number : Int} {cell : Nat}
    (same : number = cell) {value : BitVec 32} {content : BitVec 8}
    (written : value = content.setWidth 32) :
    (registers.setCv number value).Shows (Function.update decoder (.cv cell) content) where
  reg6 := shows.reg6
  cv := by
    intro other
    by_cases here : other = cell
    · rw [here, Function.update_self, ← written, same]
      exact Function.update_self ..
    · rw [Function.update_of_ne (fun equal => here (Cell.cv.inj equal))]
      have elsewhere : (other : Int) ≠ number := by omega
      exact (Function.update_of_ne elsewhere ..).trans (shows.cv other)

theorem Registers.Shows.setReg6 (shows : registers.Shows decoder) {value : BitVec 32}
    {content : BitVec 8} (written : value = content.setWidth 32) :
    Registers.Shows { registers with reg6 := value }
      (Function.update decoder .pageRegister content) where
  reg6 := written
  cv := shows.cv

theorem Registers.Shows.selectPage (shows : registers.Shows decoder)
    (kind : command.type = .register) (inside : isRegister command = true) :
    (registers.selectPage command).Shows (decoder.selectPage command) := by
  rw [Registers.selectPage, Decoder.selectPage]
  by_cases paged : command.typeaddr < 5
  · rw [if_pos paged, if_pos ⟨kind, inside, paged⟩]
    exact shows.setReg6 rfl
  · rw [if_neg paged, if_neg (fun all => paged all.2.2)]
    exact shows

theorem bitOf_eq (shows : registers.Shows decoder) (inside : isCvBit command = true) :
    registers.bitOf command =
      (if (decoder (.cv command.typeaddr.toNat)).getLsbD command.bit.toNat then 1
        else 0 : BitVec 8).setWidth 32 := by
  simp only [isCvBit, Bool.and_eq_true, decide_eq_true_eq] at inside
  have number : command.typeaddr = (command.typeaddr.toNat : Int) := by omega
  have position : command.bit.toNat < 8 := by omega
  rw [Registers.bitOf, number, shows.cv, Int.toNat_natCast]
  generalize command.bit.toNat = bit at *
  generalize decoder (.cv command.typeaddr.toNat) = content
  apply BitVec.eq_of_getLsbD_eq
  intro other inRange
  cases other with
  | zero =>
      have low : bit < 32 := by omega
      have shifted : ((content.setWidth 32).sshiftRight bit).getLsbD 0 = content.getLsbD bit := by
        rw [BitVec.getLsbD_sshiftRight]
        simp [low]
      rw [BitVec.getLsbD_and, shifted]
      cases content.getLsbD bit <;> rfl
  | succ other =>
      split <;> simp

theorem eq_result_iff {registersValue : BitVec 32} {content value : BitVec 8}
    (same : registersValue = content.setWidth 32) :
    value.setWidth 32 ≠ registersValue ↔ ¬ content = value := by
  rw [same]
  constructor
  · rintro differ rfl
    exact differ rfl
  · intro differ equal
    apply differ
    have narrow := congrArg (BitVec.setWidth 8) equal
    simpa using narrow.symm

/-- The four kinds of register. -/
theorem access_register (kind : command.type = .register) :
    (isRegister command = false ∧ access command = none) ∨
    (isRegister command = true ∧ command.typeaddr = 5 ∧ access command = some ⟨.cv 29, none⟩) ∨
    (isRegister command = true ∧ command.typeaddr = 6 ∧
      access command = some ⟨.pageRegister, none⟩) ∨
    (isRegister command = true ∧ (command.typeaddr < 5 ∨ command.typeaddr > 6) ∧
      ∃ number : Nat, command.typeaddr = number ∧ access command = some ⟨.cv number, none⟩) := by
  simp only [access, kind]
  cases inside : isRegister command with
  | false => exact .inl ⟨rfl, rfl⟩
  | true =>
      have range : 0 < command.typeaddr ∧ command.typeaddr < 9 := by
        simpa [isRegister] using inside
      by_cases five : command.typeaddr = 5
      · exact .inr (.inl ⟨rfl, five, by simp [five]⟩)
      · by_cases six : command.typeaddr = 6
        · exact .inr (.inr (.inl ⟨rfl, six, by simp [six]⟩))
        · refine .inr (.inr (.inr ⟨rfl, by omega, command.typeaddr.toNat, by omega, ?_⟩))
          simp [five, six]

theorem access_cv (kind : command.type = .page ∨ command.type = .cv) :
    (isCv command = false ∧ access command = none) ∨
    (isCv command = true ∧
      ∃ number : Nat, command.typeaddr = number ∧ access command = some ⟨.cv number, none⟩) := by
  have table : access command =
      if isCv command then some ⟨.cv command.typeaddr.toNat, none⟩ else none := by
    rcases kind with kind | kind <;> simp only [access, kind]
  cases inside : isCv command with
  | false => exact .inl ⟨rfl, by rw [table, inside]; rfl⟩
  | true =>
      have range : 0 ≤ command.typeaddr ∧ command.typeaddr ≤ maxCvNumber := by
        simpa [isCv] using inside
      refine .inr ⟨rfl, command.typeaddr.toNat, by omega, ?_⟩
      rw [table, inside]
      rfl

theorem access_cvBit (kind : command.type = .cvBit) :
    (isCvBit command = false ∧ access command = none) ∨
    (isCvBit command = true ∧ command.bit.toNat < 8 ∧
      ∃ number : Nat, command.typeaddr = number ∧
        access command = some ⟨.cv number, some command.bit.toNat⟩) := by
  simp only [access, kind]
  cases inside : isCvBit command with
  | false => exact .inl ⟨rfl, rfl⟩
  | true =>
      simp only [isCvBit, Bool.and_eq_true, decide_eq_true_eq] at inside
      exact .inr ⟨rfl, by omega, command.typeaddr.toNat, by omega, rfl⟩

/-- Only an access to a register selects a page. -/
theorem Decoder.selectPage_of_ne (kind : command.type ≠ .register) :
    decoder.selectPage command = decoder :=
  if_neg fun all => kind all.1

theorem Decoder.selectPage_of_ge (high : ¬ command.typeaddr < 5) :
    decoder.selectPage command = decoder :=
  if_neg fun all => high all.2.2

theorem get_serve (shows : registers.Shows decoder) (get : command.command = .get) :
    (registers.get command).1 = result (decoder.serve command).1 ∧
      (registers.get command).2.Shows (decoder.serve command).2 := by
  rw [Decoder.serve, get]
  dsimp only
  cases kind : command.type with
  | register =>
      rcases access_register kind with ⟨outside, cell⟩ | ⟨inside, five, cell⟩ |
        ⟨inside, six, cell⟩ | ⟨inside, other, number, same, cell⟩
      · have unpaged : decoder.selectPage command = decoder :=
          if_neg fun all => by rw [outside] at all; exact absurd all.2.1 (by decide)
        rw [cell, unpaged]
        simp only [Registers.get, kind, outside]
        exact ⟨rfl, shows⟩
      · rw [cell, Decoder.selectPage_of_ge (by omega)]
        simp only [Registers.get, kind, inside, five]
        refine ⟨shows.cv 29, ?_⟩
        have kept := shows.setCv (show (29 : Int) = (29 : Nat) from rfl) (shows.cv 29)
        rwa [Function.update_eq_self] at kept
      · rw [cell, Decoder.selectPage_of_ge (by omega)]
        simp only [Registers.get, kind, inside, six]
        exact ⟨shows.reg6, shows⟩
      · rw [cell]
        simp only [Registers.get, kind, inside, if_true, if_pos other]
        rw [same]
        exact ⟨shows.cv number, shows.selectPage kind inside⟩
  | page | cv =>
      rw [Decoder.selectPage_of_ne (by rw [kind]; decide)]
      rcases access_cv (by rw [kind]; decide) with ⟨outside, cell⟩ | ⟨inside, number, same, cell⟩
      · simp only [Registers.get, kind, outside, cell]
        exact ⟨rfl, shows⟩
      · simp only [Registers.get, kind, inside, cell, same]
        exact ⟨shows.cv number, shows⟩
  | cvBit =>
      rw [Decoder.selectPage_of_ne (by rw [kind]; decide)]
      rcases access_cvBit kind with ⟨outside, cell⟩ | ⟨inside, position, number, same, cell⟩
      · simp only [Registers.get, kind, outside, cell]
        exact ⟨rfl, shows⟩
      · simp only [Registers.get, kind, inside, cell, bitOf_eq shows inside, same]
        exact ⟨rfl, shows⟩

theorem verify_serve (shows : registers.Shows decoder) (verify : command.command = .verify) :
    (registers.verify command).1 = result (decoder.serve command).1 ∧
      (registers.verify command).2.Shows (decoder.serve command).2 := by
  -- The comparison of the driver, whichever way round, with one of the decoder.
  have compared (stored : BitVec 32) (content : BitVec 8)
      (same : stored = content.setWidth 32) :
      (if maskedValue command ≠ stored then -1 else maskedValue command) =
        result (if content = BitVec.ofInt 8 command.value then
          some (BitVec.ofInt 8 command.value) else none) := by
    rw [maskedValue_eq]
    by_cases equal : content = BitVec.ofInt 8 command.value
    · rw [if_neg fun differ => (eq_result_iff same).mp differ equal, if_pos equal]
      rfl
    · rw [if_pos ((eq_result_iff same).mpr equal), if_neg equal]
      rfl
  rw [Decoder.serve, verify]
  dsimp only
  cases kind : command.type with
  | register =>
      rcases access_register kind with ⟨outside, cell⟩ | ⟨inside, five, cell⟩ |
        ⟨inside, six, cell⟩ | ⟨inside, other, number, same, cell⟩
      · have unpaged : decoder.selectPage command = decoder :=
          if_neg fun all => by rw [outside] at all; exact absurd all.2.1 (by decide)
        rw [cell, unpaged]
        simp only [Registers.verify, kind, outside]
        exact ⟨rfl, shows⟩
      · rw [cell, Decoder.selectPage_of_ge (by omega)]
        simp only [Registers.verify, kind, inside, five]
        exact ⟨(if_congr ne_comm rfl rfl).trans (compared _ _ (shows.cv 29)), shows⟩
      · rw [cell, Decoder.selectPage_of_ge (by omega)]
        simp only [Registers.verify, kind, inside, six]
        exact ⟨(if_congr ne_comm rfl rfl).trans (compared _ _ shows.reg6), shows⟩
      · rw [cell]
        simp only [Registers.verify, kind, inside, if_true, if_pos other]
        rw [same]
        exact ⟨compared _ _ (shows.cv number), shows.selectPage kind inside⟩
  | page | cv =>
      rw [Decoder.selectPage_of_ne (by rw [kind]; decide)]
      rcases access_cv (by rw [kind]; decide) with ⟨outside, cell⟩ | ⟨inside, number, same, cell⟩
      · simp only [Registers.verify, kind, outside, cell]
        exact ⟨rfl, shows⟩
      · simp only [Registers.verify, kind, inside, cell, same]
        exact ⟨compared _ _ (shows.cv number), shows⟩
  | cvBit =>
      rw [Decoder.selectPage_of_ne (by rw [kind]; decide)]
      rcases access_cvBit kind with ⟨outside, cell⟩ | ⟨inside, position, number, same, cell⟩
      · simp only [Registers.verify, kind, outside, cell]
        exact ⟨rfl, shows⟩
      · have read := bitOf_eq shows inside
        rw [same] at read
        simp only [Registers.verify, kind, inside, cell]
        exact ⟨compared _ _ read, shows⟩

theorem bitValue_iff (value : BitVec 8) :
    (0 ≤ (value.setWidth 32).toInt ∧ (value.setWidth 32).toInt ≤ 1) ↔ value = 0 ∨ value = 1 := by
  revert value
  decide

theorem set_serve (shows : registers.Shows decoder) (set : command.command = .set) :
    (registers.set command).1 = result (decoder.serve command).1 ∧
      (registers.set command).2.Shows (decoder.serve command).2 := by
  rw [Decoder.serve, set]
  dsimp only
  cases kind : command.type with
  | register =>
      rcases access_register kind with ⟨outside, cell⟩ | ⟨inside, five, cell⟩ |
        ⟨inside, six, cell⟩ | ⟨inside, other, number, same, cell⟩
      · rw [cell]
        simp only [Registers.set, kind, outside]
        exact ⟨rfl, shows⟩
      · rw [cell, Decoder.selectPage_of_ge (by omega)]
        simp only [Registers.set, kind, inside, five]
        exact ⟨maskedValue_eq command,
          shows.setCv (show (29 : Int) = (29 : Nat) from rfl) (maskedValue_eq command)⟩
      · rw [cell, Decoder.selectPage_of_ge (by omega)]
        simp only [Registers.set, kind, inside, six]
        exact ⟨maskedValue_eq command, shows.setReg6 (maskedValue_eq command)⟩
      · rw [cell]
        simp only [Registers.set, kind, inside, if_true, if_pos other]
        exact ⟨maskedValue_eq command,
          (shows.selectPage kind inside).setCv same (maskedValue_eq command)⟩
  | page | cv =>
      rw [Decoder.selectPage_of_ne (by rw [kind]; decide)]
      rcases access_cv (by rw [kind]; decide) with ⟨outside, cell⟩ | ⟨inside, number, same, cell⟩
      · simp only [Registers.set, kind, outside, cell]
        exact ⟨rfl, shows⟩
      · simp only [Registers.set, kind, inside, cell]
        exact ⟨maskedValue_eq command, shows.setCv same (maskedValue_eq command)⟩
  | cvBit =>
      rw [Decoder.selectPage_of_ne (by rw [kind]; decide)]
      rcases access_cvBit kind with ⟨outside, cell⟩ | ⟨inside, position, number, same, cell⟩
      · simp only [Registers.set, kind, outside, cell]
        exact ⟨rfl, shows⟩
      · simp only [Registers.set, kind, inside, cell, true_and, Option.bind_some, Access.write]
        rw [maskedValue_eq]
        generalize BitVec.ofInt 8 command.value = value
        by_cases bit : value = 0 ∨ value = 1
        · rw [if_pos ((bitValue_iff value).mpr bit), if_pos bit]
          refine ⟨rfl, shows.setCv same ?_⟩
          rw [setWidth_setBit position, ← shows.cv number, same]
          rcases bit with rfl | rfl <;> rfl
        · rw [if_neg fun inside => bit ((bitValue_iff value).mp inside), if_neg bit]
          exact ⟨rfl, shows⟩

/-- The switch answers as the decoder does whose contents the registers are. -/
theorem handleSM_serve (shows : registers.Shows decoder) (command : SmCommand) :
    (handleSM registers command).1 = result (decoder.serve command).1 ∧
      (handleSM registers command).2.Shows (decoder.serve command).2 := by
  rw [handleSM]
  split
  · next get => exact get_serve shows get
  · next set => exact set_serve shows set
  · next verify => exact verify_serve shows verify
  all_goals
    next other =>
      rw [Decoder.serve, other]
      exact ⟨maskedValue_eq command, shows⟩

/-! ## The forgotten register -/

/-- The value of `reg6` before a command matters only to a read of register 6. -/
theorem handleSM_reg6 (cv : Int → BitVec 32) (first second : BitVec 32) (command : SmCommand) :
    (handleSM ⟨first, cv⟩ command).2.cv = (handleSM ⟨second, cv⟩ command).2.cv ∧
      ((command.type = .register ∧ command.typeaddr = 6 ∧
          (command.command = .get ∨ command.command = .verify)) ∨
        (handleSM ⟨first, cv⟩ command).1 = (handleSM ⟨second, cv⟩ command).1) := by
  have paged (reg6 : BitVec 32) : (Registers.selectPage ⟨reg6, cv⟩ command).cv = cv := by
    rw [Registers.selectPage]
    split <;> rfl
  have six (inside : isRegister command = true)
      (low : ¬ (command.typeaddr < 5 ∨ command.typeaddr > 6)) (five : ¬ command.typeaddr = 5) :
      command.typeaddr = 6 := by
    omega
  rw [handleSM, handleSM]
  cases name : command.command with
  | get =>
      dsimp only
      cases kind : command.type with
      | register =>
          simp only [Registers.get, kind]
          split_ifs with inside other five
          · exact ⟨(paged first).trans (paged second).symm, .inr rfl⟩
          · exact ⟨rfl, .inr rfl⟩
          · exact ⟨rfl, .inl ⟨trivial, six inside other five, .inl trivial⟩⟩
          · exact ⟨rfl, .inr rfl⟩
      | page | cv | cvBit =>
          refine ⟨?_, .inr ?_⟩ <;> simp only [Registers.get, kind, Registers.bitOf]
  | set =>
      dsimp only
      refine ⟨?_, .inr ?_⟩
      · cases kind : command.type <;> simp only [Registers.set, kind] <;> split_ifs <;>
          simp only [Registers.setCv, paged]
      · cases kind : command.type <;> simp only [Registers.set, kind] <;> split_ifs <;> rfl
  | verify =>
      dsimp only
      cases kind : command.type with
      | register =>
          simp only [Registers.verify, kind]
          by_cases inside : isRegister command = true
          · by_cases other : command.typeaddr < 5 ∨ command.typeaddr > 6
            · simp only [inside, if_true, if_pos other]
              exact ⟨(paged first).trans (paged second).symm, .inr trivial⟩
            · by_cases five : command.typeaddr = 5
              · simp only [inside, if_true, if_neg other, if_pos five]
                exact ⟨trivial, .inr trivial⟩
              · simp only [inside, if_true, if_neg other, if_neg five]
                exact ⟨trivial, .inl ⟨trivial, six inside other five, .inr trivial⟩⟩
          · simp only [if_neg inside]
            exact ⟨trivial, .inr trivial⟩
      | page | cv => refine ⟨?_, .inr ?_⟩ <;> simp only [Registers.verify, kind]
      | cvBit =>
          simp only [Registers.verify, kind]
          exact ⟨trivial, .inr rfl⟩
  | init | term => exact ⟨rfl, .inr rfl⟩

/-! ## Runs of the driver -/

/-- The array of the driver, the decoder that it stands for, and each result so far with
the answer of that decoder. -/
structure Exchange where
  cv : Int → BitVec 32
  decoder : Decoder
  results : List (BitVec 32 × Option (BitVec 8))

/-- One command at the driver, and the same command at a decoder. -/
def step : Step Exchange SmCommand := fun exchange command =>
  let handled := handleSmCommand exchange.cv command
  let served := exchange.decoder.serve command
  some ⟨handled.2, served.2, exchange.results ++ [(handled.1, served.1)]⟩

/-- Every result was the content of the decoder, and the array has its contents. -/
structure Exchange.Right (exchange : Exchange) : Prop where
  results : ∀ pair ∈ exchange.results, pair.1 = result pair.2
  cv : ∀ number : Nat,
    exchange.cv number = (exchange.decoder (.cv number)).setWidth 32

/-- Register 6 is read only while it contains 1; a verification of it may also be about
a value that is neither 1 nor the content. -/
def ReadsPageOne (exchange : Exchange) (command : SmCommand) : Prop :=
  command.type = .register → command.typeaddr = 6 →
    (command.command = .get → exchange.decoder .pageRegister = 1) ∧
      (command.command = .verify →
        (exchange.decoder .pageRegister = BitVec.ofInt 8 command.value ↔
          BitVec.ofInt 8 command.value = 1))

/-- The server starts with an empty array, and with page 1. -/
def started : Exchange :=
  ⟨fun _ => 0, fun cell => if cell = .pageRegister then 1 else 0, []⟩

theorem right_started : started.Right where
  results := by
    intro pair mem
    cases mem
  cv := by
    intro number
    rfl

theorem result_inj {first second : Option (BitVec 8)} :
    result first = result second ↔ first = second := by
  have wide (value : BitVec 8) : value.setWidth 32 ≠ -1 := by
    revert value
    decide
  constructor
  · intro same
    cases first with
    | none =>
        cases second with
        | none => rfl
        | some value => exact absurd same.symm (wide value)
    | some value =>
        cases second with
        | none => exact absurd same (wide value)
        | some other =>
            have narrow := congrArg (BitVec.setWidth 8) same
            simpa [result] using narrow
  · rintro rfl
    rfl

/-- What a decoder answers to a read of register 6. -/
theorem serve_reg6 (decoder : Decoder) (kind : command.type = .register)
    (six : command.typeaddr = 6) :
    (command.command = .get → (decoder.serve command).1 = some (decoder .pageRegister)) ∧
      (command.command = .verify → (decoder.serve command).1 =
        if decoder .pageRegister = BitVec.ofInt 8 command.value then
          some (BitVec.ofInt 8 command.value) else none) := by
  have inside : isRegister command = true := by
    simp [isRegister, six]
  have cell : access command = some ⟨.pageRegister, none⟩ := by
    simp [access, kind, inside, six]
  constructor
  · intro get
    rw [Decoder.serve, get, cell]
    rfl
  · intro verify
    rw [Decoder.serve, verify, cell]
    rfl

/-- The result of a command is right exactly when a read of register 6 finds a 1. -/
theorem handleSmCommand_right_iff {exchange : Exchange} (right : exchange.Right)
    (command : SmCommand) :
    (handleSmCommand exchange.cv command).1 = result (exchange.decoder.serve command).1 ↔
      ReadsPageOne exchange command := by
  have kept : Registers.Shows ⟨(exchange.decoder .pageRegister).setWidth 32, exchange.cv⟩
      exchange.decoder := ⟨rfl, right.cv⟩
  by_cases reads : command.type = .register ∧ command.typeaddr = 6 ∧
      (command.command = .get ∨ command.command = .verify)
  · rcases reads with ⟨kind, six, read⟩
    -- The driver answers as a decoder on page 1.
    have first : Registers.Shows ⟨1, exchange.cv⟩
        (Function.update exchange.decoder .pageRegister 1) := kept.setReg6 rfl
    rw [handleSmCommand, (handleSM_serve first command).1, result_inj]
    rcases read with get | verify
    · rw [(serve_reg6 _ kind six).1 get, (serve_reg6 _ kind six).1 get, Function.update_self,
        Option.some.injEq]
      constructor
      · intro one _ _
        refine ⟨fun _ => one.symm, fun verify => ?_⟩
        rw [get] at verify
        cases verify
      · intro one
        exact ((one kind six).1 get).symm
    · rw [(serve_reg6 _ kind six).2 verify, (serve_reg6 _ kind six).2 verify,
        Function.update_self]
      have same : ReadsPageOne exchange command ↔
          (exchange.decoder .pageRegister = BitVec.ofInt 8 command.value ↔
            BitVec.ofInt 8 command.value = 1) := by
        constructor
        · exact fun one => (one kind six).2 verify
        · intro agree _ _
          refine ⟨fun get => ?_, fun _ => agree⟩
          rw [verify] at get
          cases get
      rw [same]
      generalize BitVec.ofInt 8 command.value = value
      by_cases one : 1 = value
      · rw [if_pos one]
        by_cases found : exchange.decoder .pageRegister = value
        · rw [if_pos found]
          exact iff_of_true rfl (iff_of_true found one.symm)
        · rw [if_neg found]
          exact iff_of_false nofun fun agree => found (agree.mpr one.symm)
      · rw [if_neg one]
        by_cases found : exchange.decoder .pageRegister = value
        · rw [if_pos found]
          exact iff_of_false nofun fun agree => one (agree.mp found).symm
        · rw [if_neg found]
          exact iff_of_true rfl (iff_of_false found (Ne.symm one))
  · constructor
    · intro _ kind six
      exact ⟨fun get => absurd ⟨kind, six, .inl get⟩ reads,
        fun verify => absurd ⟨kind, six, .inr verify⟩ reads⟩
    · intro _
      rw [← (handleSM_serve kept command).1]
      exact (handleSM_reg6 exchange.cv 1 _ command).2.resolve_left reads

theorem Exchange.Right.step {exchange next : Exchange} {command : SmCommand}
    (right : exchange.Right) (one : ReadsPageOne exchange command)
    (taken : step exchange command = some next) : next.Right := by
  have kept : Registers.Shows ⟨(exchange.decoder .pageRegister).setWidth 32, exchange.cv⟩
      exchange.decoder := ⟨rfl, right.cv⟩
  cases taken
  constructor
  · intro pair mem
    rcases List.mem_append.mp mem with old | new
    · exact right.results pair old
    · rw [List.mem_singleton.mp new]
      exact (handleSmCommand_right_iff right command).mpr one
  · intro number
    rw [← (handleSM_serve kept command).2.cv number]
    exact congrFun (handleSM_reg6 exchange.cv 1 _ command).1 number

theorem Exchange.Right.broken {exchange next : Exchange} {command : SmCommand}
    (right : exchange.Right) (other : ¬ ReadsPageOne exchange command)
    (taken : Loopback.step exchange command = some next) : ¬ next.Right := by
  intro after
  cases taken
  apply other
  refine (handleSmCommand_right_iff right command).mp ?_
  exact after.results _ (List.mem_append_right _ List.mem_cons_self)

/-- In every sequence of commands the results are what was last written, through whichever
access, and rejected commands change nothing, precisely when register 6 is never read
while it contains anything but 1. -/
theorem answersRight_iff (commands : List SmCommand) :
    HoldsAlong step Exchange.Right started commands ↔
      MeetsAlong step ReadsPageOne started commands := by
  apply holdsAlong_iff_meetsAlong
  · exact fun _ right => right
  · exact fun _ _ _ right one taken => right.step one taken
  · exact fun _ _ _ right other taken => right.broken other taken
  · exact right_started

/-- Register 6 is written and read back. -/
def pageTwo : List SmCommand :=
  [⟨.set, .register, -1, 6, 0, 2⟩, ⟨.get, .register, -1, 6, 0, 0⟩]

theorem pageTwo_not_right : ¬ HoldsAlong step Exchange.Right started pageTwo := by
  intro holds
  have executed : run step started pageTwo = some _ := rfl
  have read := (holds.last executed).results (1, some 2) (by decide)
  revert read
  decide

end Srcpd.Driver.Loopback
