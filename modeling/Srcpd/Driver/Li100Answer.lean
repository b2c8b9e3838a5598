import Srcpd.Types
import Mathlib.Logic.Function.Iterate

/-!
# Answers of the LI100

The loop around the reading part of `readAnswer_LI100`.  Its counter bounds the
retries, but every message sets it to the length of the message.  `withinLimits_iff`
says for which answers the loop comes to an end as the counter provides for.
-/

namespace Srcpd.Driver.Li100.Answer

/-! ## Reading -/

/-- The results of all calls of `read`; `none` is a call that fails. -/
abbrev Reads := Nat → Option Byte

/-- The variables of `readAnswer_LI100`. -/
structure Reader where
  /-- The calls of `read` so far. -/
  calls : Nat
  buffer : Nat → Byte
  /-- The elements of the buffer that were written to. -/
  written : List Nat

/-- The status, and the byte in the buffer; a read that fails leaves the buffer alone. -/
def readByte (reads : Reads) (i : Nat) (reader : Reader) : Int × Reader :=
  match reads reader.calls with
  | some byte =>
      (0,
        { calls := reader.calls + 1
          buffer := Function.update reader.buffer i byte
          written := i :: reader.written })
  | none => (-1, { reader with calls := reader.calls + 1 })

/-- The driver is compiled for the serial and for the USB interface; the latter sends a
header of two bytes. -/
inductive Interface
  | serial
  | usb
  deriving DecidableEq

/-- The two bytes that the USB interface sends in front of an answer. -/
def Interface.header : Interface → Nat
  | .serial => 0
  | .usb => 2

/-- The first byte; its status is that of the first read. -/
def readFirst (interface : Interface) (reads : Reads) (reader : Reader) : Int × Reader :=
  let first := readByte reads 0 reader
  (first.1, (fun reader => (readByte reads 0 reader).2)^[interface.header] first.2)

/-- The loop over the bytes behind the first one, `count` of them from `i` on. -/
def readBytes (reads : Reads) : Nat → Nat → Reader → Reader
  | 0, _, reader => reader
  | count + 1, i, reader => readBytes reads count (i + 1) (readByte reads i reader).2

/-- The low nibble of the first byte. -/
def lengthNibble (buffer : Nat → Byte) : Nat :=
  (buffer 0 &&& 0x0f).toNat

/-- The exclusive or of an answer with its last byte. -/
def cXor (buffer : Nat → Byte) : Byte :=
  (List.range (lengthNibble buffer + 2)).foldl (fun sum i => sum ^^^ buffer i) 0

/-- The reading part, with the status behind the test of the checksum. -/
def readMessage (interface : Interface) (reads : Reads) (reader : Reader) : Int × Reader :=
  let first := readFirst interface reads reader
  let read := readBytes reads (lengthNibble first.2.buffer + 1) 1 first.2
  (if cXor read.buffer ≠ 0 then -1 else first.1, read)

/-- The handlers leave the counter alone, all but that for accessories. -/
def counter (buffer : Nat → Byte) : Int :=
  if buffer 0 &&& 0xf0 = 0x40 then lengthNibble buffer else lengthNibble buffer + 2

/-- The loop of `readAnswer_LI100`; `none` while it has not been left. -/
def readAnswer (interface : Interface) (reads : Reads) :
    Nat → Int → Int → Reader → Option (Int × Reader)
  | 0, _, _, _ => none
  | fuel + 1, status, ctr, reader =>
      if status = -1 then
        if ctr - 1 < 0 then some (status, reader)
        else
          let message := readMessage interface reads reader
          readAnswer interface reads fuel message.1 (counter message.2.buffer) message.2
      else some (status, reader)

/-- The number of reads without a byte before the function gives up. -/
def retries : Nat := 50

/-- The variables before the first read. -/
def startReader (buffer : Nat → Byte) : Reader :=
  ⟨0, buffer, []⟩

/-! ## Limits -/

/-- The reader behind some messages. -/
def behind (interface : Interface) (reads : Reads) (buffer : Nat → Byte) (n : Nat) : Reader :=
  (fun reader => (readMessage interface reads reader).2)^[n] (startReader buffer)

/-- The loop is left with the last retry at the latest, and a message has the calls of `read`
that it announces, within the buffer of 20 bytes. -/
structure WithinLimits (interface : Interface) (reads : Reads) (buffer : Nat → Byte) : Prop where
  returns : (readAnswer interface reads (retries + 1) (-1) retries (startReader buffer)).isSome
  announced : ∀ n,
    let read := behind interface reads buffer (n + 1)
    read.calls = (behind interface reads buffer n).calls +
      (1 + interface.header) + (lengthNibble read.buffer + 1)
  fits : ∀ n, ∀ i ∈ (behind interface reads buffer n).written, i < 20

/-- The message is read with the right checksum, or its first byte is that of an accessory
message without data. -/
def Ends (interface : Interface) (reads : Reads) (reader : Reader) : Prop :=
  (readMessage interface reads reader).1 ≠ -1 ∨
    (readMessage interface reads reader).2.buffer 0 = 0x40

/-- One of the messages that there is time for ends the loop. -/
def EndsInTime (interface : Interface) (reads : Reads) (buffer : Nat → Byte) : Prop :=
  ∃ n < retries, Ends interface reads (behind interface reads buffer n)

variable {interface : Interface} {reads : Reads} {reader : Reader} {buffer : Nat → Byte}

theorem readByte_calls (i : Nat) : (readByte reads i reader).2.calls = reader.calls + 1 := by
  rw [readByte]
  split <;> rfl

theorem readByte_written {i k : Nat} (mem : k ∈ (readByte reads i reader).2.written) :
    k = i ∨ k ∈ reader.written := by
  rw [readByte] at mem
  split at mem
  · exact List.mem_cons.mp mem
  · exact .inr mem

theorem readByte_buffer_of_ne {i k : Nat} (other : k ≠ i) :
    (readByte reads i reader).2.buffer k = reader.buffer k := by
  rw [readByte]
  split
  · exact Function.update_of_ne other _ _
  · rfl

/-! ### Of one message -/

theorem readFirst_calls : (readFirst interface reads reader).2.calls =
    reader.calls + (1 + interface.header) := by
  cases interface with
  | serial => exact readByte_calls 0
  | usb =>
      show (readByte reads 0 (readByte reads 0 (readByte reads 0 reader).2).2).2.calls = _
      rw [readByte_calls, readByte_calls, readByte_calls]
      rfl

theorem readFirst_written {k : Nat} (mem : k ∈ (readFirst interface reads reader).2.written) :
    k = 0 ∨ k ∈ reader.written := by
  cases interface with
  | serial => exact readByte_written mem
  | usb =>
      change k ∈ (readByte reads 0 (readByte reads 0 (readByte reads 0 reader).2).2).2.written
        at mem
      rcases readByte_written mem with zero | mem
      · exact .inl zero
      · rcases readByte_written mem with zero | mem
        · exact .inl zero
        · exact readByte_written mem

theorem readBytes_calls (count i : Nat) :
    (readBytes reads count i reader).calls = reader.calls + count := by
  induction count generalizing i reader with
  | zero => rfl
  | succ count ih =>
      rw [readBytes, ih, readByte_calls]
      omega

theorem readBytes_written {count i k : Nat}
    (mem : k ∈ (readBytes reads count i reader).written) :
    i ≤ k ∧ k < i + count ∨ k ∈ reader.written := by
  induction count generalizing i reader with
  | zero => exact .inr mem
  | succ count ih =>
      rw [readBytes] at mem
      rcases ih mem with within | mem
      · exact .inl (by omega)
      · rcases readByte_written mem with here | before
        · exact .inl (by omega)
        · exact .inr before

theorem readBytes_buffer_of_lt {count i k : Nat} (before : k < i) :
    (readBytes reads count i reader).buffer k = reader.buffer k := by
  induction count generalizing i reader with
  | zero => rfl
  | succ count ih =>
      rw [readBytes, ih (by omega), readByte_buffer_of_ne (by omega)]

theorem lengthNibble_lt (buffer : Nat → Byte) : lengthNibble buffer < 16 := by
  rw [lengthNibble, BitVec.toNat_and]
  have low : (0x0f : Byte).toNat < 2 ^ 4 := by decide
  exact Nat.and_lt_two_pow _ low

/-- The bytes behind the first one do not change the length. -/
theorem readMessage_lengthNibble :
    lengthNibble (readMessage interface reads reader).2.buffer =
      lengthNibble (readFirst interface reads reader).2.buffer := by
  rw [lengthNibble, lengthNibble, readMessage]
  dsimp only
  rw [readBytes_buffer_of_lt (Nat.zero_lt_one)]

theorem readMessage_calls :
    (readMessage interface reads reader).2.calls = reader.calls + (1 + interface.header) +
      (lengthNibble (readMessage interface reads reader).2.buffer + 1) := by
  rw [readMessage_lengthNibble]
  show (readBytes reads _ 1 _).calls = _
  rw [readBytes_calls, readFirst_calls]

theorem readMessage_written {k : Nat}
    (mem : k ∈ (readMessage interface reads reader).2.written) :
    k < 20 ∨ k ∈ reader.written := by
  have short := lengthNibble_lt (readFirst interface reads reader).2.buffer
  rcases readBytes_written mem with within | mem
  · exact .inl (by omega)
  · rcases readFirst_written mem with zero | before
    · exact .inl (by omega)
    · exact .inr before

theorem behind_succ (n : Nat) : behind interface reads buffer (n + 1) =
    (readMessage interface reads (behind interface reads buffer n)).2 :=
  Function.iterate_succ_apply' _ _ _

theorem behind_written (n : Nat) : ∀ i ∈ (behind interface reads buffer n).written, i < 20 := by
  induction n with
  | zero => nofun
  | succ n ih =>
      intro i mem
      rw [behind_succ] at mem
      rcases readMessage_written mem with fits | before
      · exact fits
      · exact ih i before

/-! ### Of the loop -/

/-- The counter runs out in front of the next message only behind an accessory message without
data. -/
theorem counter_lt_one_iff (buffer : Nat → Byte) : counter buffer - 1 < 0 ↔ buffer 0 = 0x40 := by
  have table : ∀ first : Byte,
      ((if first &&& 0xf0 = 0x40 then ((first &&& 0x0f).toNat : Int)
        else (first &&& 0x0f).toNat + 2) - 1 < 0 ↔ first = 0x40) := by
    decide
  exact table (buffer 0)

/-- The loop is left behind some messages exactly when one of them ends it. -/
theorem readAnswer_isSome_iff (messages : Nat) {ctr : Int} (room : 0 < ctr) (reader : Reader) :
    (readAnswer interface reads (messages + 1) (-1) ctr reader).isSome ↔
      ∃ n < messages, Ends interface reads
        ((fun reader => (readMessage interface reads reader).2)^[n] reader) := by
  induction messages generalizing ctr reader with
  | zero =>
      have more : ¬ ctr - 1 < 0 := by omega
      rw [readAnswer, if_pos rfl, if_neg more]
      exact iff_of_false nofun (by rintro ⟨n, below, _⟩; exact Nat.not_lt_zero n below)
  | succ messages ih =>
      have more : ¬ ctr - 1 < 0 := by omega
      rw [readAnswer, if_pos rfl, if_neg more]
      dsimp only
      by_cases ends : Ends interface reads reader
      · refine iff_of_true ?_ ⟨0, Nat.succ_pos messages, ends⟩
        rw [readAnswer]
        by_cases failed : (readMessage interface reads reader).1 = -1
        · have first := ends.resolve_left (not_not.mpr failed)
          rw [if_pos failed, if_pos ((counter_lt_one_iff _).mpr first)]
          rfl
        · rw [if_neg failed]
          rfl
      · rw [Ends, not_or, not_not] at ends
        have further := (counter_lt_one_iff (readMessage interface reads reader).2.buffer).not.mpr
          ends.2
        rw [ends.1, ih (by omega)]
        constructor
        · rintro ⟨n, below, later⟩
          exact ⟨n + 1, by omega, later⟩
        · rintro ⟨n, below, found⟩
          cases n with
          | zero => exact absurd found (by rw [Ends, not_or, not_not]; exact ends)
          | succ n => exact ⟨n, by omega, found⟩

/-- For all reads, the loop keeps to its limits exactly when one of the first 50 messages ends
it. -/
theorem withinLimits_iff (interface : Interface) (reads : Reads) (buffer : Nat → Byte) :
    WithinLimits interface reads buffer ↔ EndsInTime interface reads buffer := by
  have returns := @readAnswer_isSome_iff interface reads retries retries (by decide)
    (startReader buffer)
  constructor
  · exact fun within => returns.mp within.returns
  · intro ends
    refine ⟨returns.mpr ends, fun n => ?_, behind_written⟩
    rw [behind_succ]
    exact readMessage_calls

/-! ### Without a device -/

/-- A message of which nothing can be read leaves the buffer alone. -/
theorem readMessage_none (reader : Reader) :
    (readMessage .serial (fun _ => none) reader).1 = -1 ∧
      (readMessage .serial (fun _ => none) reader).2.buffer = reader.buffer := by
  have unread (count i : Nat) (reader : Reader) :
      (readBytes (fun _ => none) count i reader).buffer = reader.buffer := by
    induction count generalizing i reader with
    | zero => rfl
    | succ count ih => exact ih (i + 1) _
  exact ⟨ite_self _, unread _ 1 _⟩

theorem not_ends_none (n : Nat) : ¬ Ends .serial (fun _ => none)
    ((fun reader => (readMessage .serial (fun _ => none) reader).2)^[n]
      (startReader fun _ => 0)) := by
  have zeros (reader : Reader) (zero : reader.buffer 0 = 0) :
      ((fun reader => (readMessage .serial (fun _ => none) reader).2)^[n] reader).buffer 0 =
        0 := by
    induction n generalizing reader with
    | zero => exact zero
    | succ n ih => exact ih _ ((congrFun (readMessage_none reader).2 0).trans zero)
  rintro (read | first)
  · exact read (readMessage_none _).1
  · rw [(readMessage_none _).2, zeros _ rfl] at first
    exact absurd first (by decide)

/-- Every read fails and the buffer has zeros: no number of messages ends the loop. -/
theorem not_withinLimits :
    ¬ WithinLimits .serial (fun _ => none) (fun _ => 0) ∧
      ∀ messages, readAnswer .serial (fun _ => none) (messages + 1) (-1) retries
        (startReader fun _ => 0) = none := by
  have endless (messages : Nat) : ¬ (readAnswer .serial (fun _ => none) (messages + 1) (-1)
      retries (startReader fun _ => 0)).isSome = true := by
    rw [readAnswer_isSome_iff messages (by decide)]
    rintro ⟨n, _, ends⟩
    exact not_ends_none n ends
  refine ⟨fun within => endless retries within.returns, fun messages => ?_⟩
  exact Option.not_isSome_iff_eq_none.mp (endless messages)

end Srcpd.Driver.Li100.Answer
