import Srcpd.Command.InfoSm
import Srcpd.Ddl.Program

/-!
# Reading a decoder on the programming track

The functions of `ddl_nmra.c` that read a register, a page or a configuration variable try
the values or the bits one after another, each with a verify command that is refused (-1),
acknowledged (1) or not (0).  They do not tell these three apart: `reads_iff` says that a
client is answered right exactly when there is something to read.
-/

namespace Srcpd.Ddl.Program

open Srcpd.Command Srcpd.Dcc

/-! ## The decoder on the programming track -/

/-- The contents of a decoder. -/
structure Contents where
  register : Nat → Byte
  cv : Nat → Byte

/-- Behind a write of the page register, the first four registers are those of the page. -/
def Contents.behind (contents : Contents) (page : Option Nat) (number : Nat) : Byte :=
  match page with
  | some page => if number ≤ 4 then contents.cv (pagedCv page number) else contents.register number
  | none => contents.register number

/-- A verification of what the decoder contains is acknowledged, and nothing else is. -/
def Contents.acknowledges (contents : Contents) :
    Option Nat → List (Option Programming) → Bool
  | _, [] => false
  | page, some (.register false number value) :: rest =>
      contents.acknowledges (if number = 6 then some value else page) rest
  | page, some (.register true number value) :: rest =>
      (contents.behind page number).toNat == value || contents.acknowledges page rest
  | page, some (.direct (.byte true cv value)) :: rest =>
      (contents.cv cv).toNat == value || contents.acknowledges page rest
  | page, some (.direct (.bit true cv bit value)) :: rest =>
      (contents.cv cv).getLsbD bit == value || contents.acknowledges page rest
  | page, _ :: rest => contents.acknowledges page rest

/-- The acknowledge of the decoder on the track, or none if there is no decoder. -/
def scanAck (decoder : Option Contents) (packets : List Bitstream) : Bool :=
  match decoder, parsePackets packets.flatten with
  | some contents, some read =>
      contents.acknowledges none ((told decodeService read).destutter (· ≠ ·))
  | _, _ => false

/-- What a verify function returns. -/
def verified (decoder : Option Contents) (sent : Option (List Bitstream)) : Int :=
  match sent with
  | none => -1
  | some packets => if scanAck decoder packets then 1 else 0

/-! ## The readers -/

/-- `for (i = 0; i < 256; i++) ... if (rc) break;`, with the iterations that are left. -/
def tryValues (verify : Int → Int) : Nat → Int → Int
  | 0, i => i
  | left + 1, i => if verify i ≠ 0 then i else tryValues verify left (i + 1)

/-- `for (bit = 7; bit >= 0; bit--)`, with the bits that are left. -/
def readBits (verify : Nat → Int) : Nat → Int → Int
  | 0, rc => rc
  | bit + 1, rc => readBits verify bit (rc * 2 + verify bit)

/-- The values 0 to 255 are verified until one is acknowledged. -/
def protocolNmraSmGetPhregister (decoder : Option Contents) (reg : Int) : Int :=
  tryValues (fun i => verified decoder (protocolNmraSmPhregister reg i true)) 256 0

/-- The eight bits are verified one by one. -/
def protocolNmraSmGetCvbyte (decoder : Option Contents) (cv : Int) : Int :=
  readBits (fun bit => verified decoder (protocolNmraSmDirectCvbit cv bit 1 true)) 8 0

/-- The values 0 to 255 are verified in the register of the page. -/
def protocolNmraSmGetPage (decoder : Option Contents) (cv : Int) : Int :=
  tryValues
    (fun i => verified decoder (protocolNmraSmPage (calcPage cv) (pageRegister cv) i true)) 256 0

/-- The three ways to read a value in service mode. -/
inductive Reader
  | phregister
  | cvbyte
  | page
  deriving DecidableEq, Repr

/-- The function of the source for a way to read. -/
def Reader.read : Reader → Option Contents → Int → Int
  | .phregister => protocolNmraSmGetPhregister
  | .cvbyte => protocolNmraSmGetCvbyte
  | .page => protocolNmraSmGetPage

/-- The type in the request of a client. -/
def Reader.smType : Reader → SmType
  | .phregister => .register
  | .cvbyte => .cv
  | .page => .page

/-- The command that a client waits for. -/
def Reader.command (reader : Reader) (addr number : Int) : SmCommand where
  command := .get
  type := reader.smType
  addr := addr
  typeaddr := number
  bit := 0
  value := 0

/-- There is a register, a variable or a page with this number. -/
def Reader.Supports : Reader → Int → Prop
  | .phregister, number => 1 ≤ number ∧ number ≤ 8
  | .cvbyte, number => 1 ≤ number ∧ number ≤ 1024
  | .page, number => 1 ≤ number ∧ number ≤ 1020

/-- What is stored there. -/
def Reader.stored : Reader → Contents → Int → Nat
  | .phregister, contents, number => (contents.register number.toNat).toNat
  | .cvbyte, contents, number => (contents.cv number.toNat).toNat
  | .page, contents, number => (contents.cv number.toNat).toNat

/-- The client is told what is stored, or an error if nothing can be read. -/
def Reads (reader : Reader) (decoder : Option Contents) (addr number : Int) : Prop :=
  let result := reader.read decoder number
  let reply := infoReply (reader.command addr number) result
  (∀ contents ∈ decoder, reader.Supports number →
    result = reader.stored contents number ∧
      reply = .info reader.smType addr number 0 (reader.stored contents number)) ∧
  (¬ (decoder.isSome = true ∧ reader.Supports number) → result < 0 ∧ reply = .wrongValue)

/-! ## The loops -/

theorem le_tryValues (verify : Int → Int) (left : Nat) (i : Int) :
    i ≤ tryValues verify left i := by
  induction left generalizing i with
  | zero => exact le_refl i
  | succ left ih =>
      rw [tryValues]
      split
      · exact le_refl i
      · have more := ih (i + 1)
        omega

/-- The only value that is acknowledged is found. -/
theorem tryValues_eq {verify : Int → Int} {value : Int} (only : ∀ i, 0 ≤ i → i ≤ value →
    (verify i ≠ 0 ↔ i = value)) {left : Nat} {i : Int} (nonneg : 0 ≤ i) (below : i ≤ value)
    (inside : value < i + left) : tryValues verify left i = value := by
  induction left generalizing i with
  | zero => omega
  | succ left ih =>
      rw [tryValues]
      split
      · next found => exact (only i nonneg below).mp found
      · next missed =>
          have other : i ≠ value := fun same => missed ((only i nonneg below).mpr same)
          exact ih (by omega) (by omega) (by omega)

/-- The bits that are left follow those that are read. -/
theorem readBits_eq {verify : Nat → Int} {value : Nat}
    (each : ∀ bit, bit < 8 → verify bit = (value.testBit bit).toInt) {bits : Nat}
    (few : bits ≤ 8) (rc : Int) :
    readBits verify bits rc = rc * 2 ^ bits + (value % 2 ^ bits : Nat) := by
  induction bits generalizing rc with
  | zero => simp [readBits, Nat.mod_one]
  | succ bit ih =>
      rw [readBits, ih (by omega), each bit (by omega), Nat.mod_pow_succ, ← Nat.toNat_testBit]
      cases value.testBit bit with
      | false => simp; ring
      | true => simp; ring

/-- The same answer for each bit. -/
theorem readBits_const {verify : Nat → Int} {answer : Int}
    (each : ∀ bit, bit < 8 → verify bit = answer) {bits : Nat} (few : bits ≤ 8) (rc : Int) :
    readBits verify bits rc = rc * 2 ^ bits + answer * (2 ^ bits - 1) := by
  induction bits generalizing rc with
  | zero => simp [readBits]
  | succ bit ih =>
      rw [readBits, ih (by omega), each bit (by omega)]
      ring

/-! ## One verification -/

theorem scanAck_of_hears {packets : List Bitstream} {heard : List Programming}
    (hears : Heard decodeService packets heard) (contents : Contents) :
    scanAck (some contents) packets =
      contents.acknowledges none ((heard.map some).destutter (· ≠ ·)) := by
  obtain ⟨read, parse, -, once⟩ := hears.read
  simp only [scanAck, parse, once]

section Verified

variable {contents : Contents}

theorem verified_phregister {reg : Int} (supported : 1 ≤ reg ∧ reg ≤ 8) {i : Int} (lower : 0 ≤ i)
    (upper : i ≤ 255) :
    verified (some contents) (protocolNmraSmPhregister reg i true) ≠ 0 ↔
      i = (contents.register reg.toNat).toNat := by
  obtain ⟨packets, sent⟩ : ∃ packets, protocolNmraSmPhregister reg i true = some packets :=
    ⟨_, if_neg (by omega)⟩
  have heard : scanAck (some contents) packets =
      ((contents.register reg.toNat).toNat == i.toNat || false) :=
    scanAck_of_hears (phregister_hears sent) contents
  rw [sent, verified, heard, Bool.or_false]
  by_cases same : (contents.register reg.toNat).toNat = i.toNat
  · simp only [same, beq_self_eq_true, if_true]
    omega
  · simp only [beq_eq_false_iff_ne.mpr same]
    simp
    omega

theorem verified_page {cv : Int} (supported : 1 ≤ cv ∧ cv ≤ 1020) {i : Int} (lower : 0 ≤ i)
    (upper : i ≤ 255) :
    verified (some contents) (protocolNmraSmPage (calcPage cv) (pageRegister cv) i true) ≠ 0 ↔
      i = (contents.cv cv.toNat).toNat := by
  have page := calcPage_of_pos supported.1
  have register := pageRegister_eq cv
  obtain ⟨packets, sent⟩ : ∃ packets,
      protocolNmraSmPage (calcPage cv) (pageRegister cv) i true = some packets :=
    ⟨_, if_neg (by omega)⟩
  have number : pagedCv (calcPage cv).toNat ((pageRegister cv).toNat + 1) = cv.toNat := by
    rw [page, register, pagedCv]
    omega
  have heard : scanAck (some contents) packets =
      ((contents.behind (some (calcPage cv).toNat) ((pageRegister cv).toNat + 1)).toNat == i.toNat
        || false) :=
    scanAck_of_hears (page_hears sent) contents
  rw [Contents.behind] at heard
  rw [if_pos (by omega), number, Bool.or_false] at heard
  rw [sent, verified, heard]
  by_cases same : (contents.cv cv.toNat).toNat = i.toNat
  · simp only [same, beq_self_eq_true, if_true]
    omega
  · simp only [beq_eq_false_iff_ne.mpr same]
    simp
    omega

theorem verified_cvbit {cv : Int} (supported : 1 ≤ cv ∧ cv ≤ 1024) {bit : Nat} (few : bit < 8) :
    verified (some contents) (protocolNmraSmDirectCvbit cv bit 1 true) =
      ((contents.cv cv.toNat).toNat.testBit bit).toInt := by
  obtain ⟨packets, sent⟩ : ∃ packets, protocolNmraSmDirectCvbit cv bit 1 true = some packets :=
    ⟨_, if_neg (by omega)⟩
  have heard : scanAck (some contents) packets =
      ((contents.cv cv.toNat).getLsbD bit == true || false) :=
    scanAck_of_hears (directCvbit_hears sent) contents
  rw [sent, verified, heard, Bool.or_false, beq_true, BitVec.testBit_toNat]
  cases (contents.cv cv.toNat).getLsbD bit with
  | false => rfl
  | true => rfl

end Verified

/-! ## The readers -/

variable {reader : Reader} {contents : Contents} {decoder : Option Contents} {number : Int}

theorem Reader.read_eq (supported : reader.Supports number) :
    reader.read (some contents) number = reader.stored contents number := by
  cases reader with
  | phregister =>
      have byte : Reader.phregister.stored contents number < 2 ^ 8 :=
        (contents.register number.toNat).isLt
      apply tryValues_eq
      · intro i nonneg below
        exact verified_phregister supported nonneg (by omega)
      · exact le_refl 0
      · exact Int.natCast_nonneg _
      · omega
  | cvbyte =>
      have byte := (contents.cv number.toNat).isLt
      have each (bit : Nat) (few : bit < 8) :=
        @verified_cvbit contents number supported bit few
      have value := readBits_eq each (le_refl 8) 0
      rw [Nat.mod_eq_of_lt byte, Int.zero_mul, Int.zero_add] at value
      exact value
  | page =>
      have byte : Reader.page.stored contents number < 2 ^ 8 := (contents.cv number.toNat).isLt
      apply tryValues_eq
      · intro i nonneg below
        exact verified_page supported nonneg (by omega)
      · exact le_refl 0
      · exact Int.natCast_nonneg _
      · omega

/-- Without an acknowledge all bits are 0. -/
theorem getCvbyte_none (supported : 1 ≤ number ∧ number ≤ 1024) :
    protocolNmraSmGetCvbyte none number = 0 := by
  have silent (bit : Nat) (few : bit < 8) :
      verified none (protocolNmraSmDirectCvbit number bit 1 true) = 0 := by
    obtain ⟨packets, sent⟩ : ∃ packets,
        protocolNmraSmDirectCvbit number bit 1 true = some packets := ⟨_, if_neg (by omega)⟩
    rw [sent]
    rfl
  rw [protocolNmraSmGetCvbyte, readBits_const silent (le_refl 8)]
  rfl

/-- The refusals of all bits are added up. -/
theorem getCvbyte_refused (refused : ¬ (1 ≤ number ∧ number ≤ 1024)) :
    protocolNmraSmGetCvbyte decoder number = -255 := by
  have each (bit : Nat) (_ : bit < 8) :
      verified decoder (protocolNmraSmDirectCvbit number bit 1 true) = -1 := by
    have none_sent : protocolNmraSmDirectCvbit number bit 1 true = none := if_pos (by omega)
    rw [none_sent]
    rfl
  rw [protocolNmraSmGetCvbyte, readBits_const each (le_refl 8)]
  rfl

theorem infoReply_get (addr : Int) {result : Int} (valid : result ≠ -1) :
    infoReply (reader.command addr number) result =
      .info reader.smType addr number 0 result := by
  rw [infoReply, if_neg]
  · rfl
  · rintro (failed | ⟨verifying, -⟩)
    · exact valid failed
    · cases verifying

/-- Nothing that cannot be read is answered by an error. -/
theorem Reader.not_error (addr : Int)
    (unread : ¬ (decoder.isSome = true ∧ reader.Supports number)) :
    ¬ (reader.read decoder number < 0 ∧
      infoReply (reader.command addr number) (reader.read decoder number) = .wrongValue) := by
  rintro ⟨negative, error⟩
  cases reader with
  | phregister => exact absurd negative (Int.not_lt.mpr (le_tryValues _ _ _))
  | page => exact absurd negative (Int.not_lt.mpr (le_tryValues _ _ _))
  | cvbyte =>
      change protocolNmraSmGetCvbyte decoder number < 0 at negative
      change infoReply _ (protocolNmraSmGetCvbyte decoder number) = .wrongValue at error
      by_cases supported : 1 ≤ number ∧ number ≤ 1024
      · cases decoder with
        | some contents => exact unread ⟨rfl, supported⟩
        | none =>
            rw [getCvbyte_none supported] at negative
            contradiction
      · rw [getCvbyte_refused supported, infoReply_get addr (by decide)] at error
        contradiction

/-- A client is answered right if and only if there is a decoder and it has something with
this number. -/
theorem reads_iff (reader : Reader) (decoder : Option Contents) (addr number : Int) :
    Reads reader decoder addr number ↔ decoder.isSome = true ∧ reader.Supports number := by
  constructor
  · rintro ⟨-, errors⟩
    by_contra unread
    exact Reader.not_error addr unread (errors unread)
  · rintro ⟨present, supported⟩
    refine ⟨?_, fun unread => absurd ⟨present, supported⟩ unread⟩
    rintro contents rfl -
    have stored : reader.read (some contents) number = reader.stored contents number :=
      Reader.read_eq supported
    have valid : reader.read (some contents) number ≠ -1 := by
      rw [stored]
      omega
    refine ⟨stored, ?_⟩
    rw [infoReply_get addr valid, stored]

/-- A register that no decoder has is read as 0. -/
theorem not_reads :
    ¬ Reads .phregister (some ⟨fun _ => 5, fun _ => 5⟩) (-1) 9 := by
  rintro ⟨-, errors⟩
  exact absurd (errors fun both => absurd both.2.2 (by decide)).1 (by decide)

end Srcpd.Ddl.Program
