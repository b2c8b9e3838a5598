import Mathlib.Tactic

/-!
# Half-bit signals on a serial line

A serial port sends a byte as one frame: a low start bit, the eight data bits
with the least significant one first, and a high stop bit.  Frames that follow
each other without a gap form a line signal whose maximal runs of one level are
pulses.  The pulses carry half bits: a `1` is a short high and a short low
pulse, a `0` is a longer high and a longer low pulse.

Every frame begins with a low and ends with a high level, so a line signal
starts with the second half of a bit and stops after the first half of one.
`readLine` reads such a signal; `readLine_of_halfPulses` says that the signal
made of the halves of a bit sequence is read as exactly this sequence.
-/

namespace Srcpd.Dcc

/-! ## Frames and pulses -/

/-- One frame without parity: start bit, data bits, stop bit. -/
def uartFrame (byte : BitVec 8) : List Bool :=
  false :: (List.range 8).map byte.getLsbD ++ [true]

/-- Frames sent back to back. -/
def uartLine (bytes : List (BitVec 8)) : List Bool :=
  bytes.flatMap uartFrame

/-- A maximal run of one line level.  A short pulse lasts one serial bit. -/
structure Pulse where
  level : Bool
  short : Bool
  deriving DecidableEq, Repr

/-- The maximal runs of a signal, each with its level and its length. -/
def levelRuns : List Bool → List (Bool × Nat)
  | [] => []
  | level :: rest =>
      match levelRuns rest with
      | [] => [(level, 1)]
      | (next, length) :: runs =>
          if level = next then (next, length + 1) :: runs
          else (level, 1) :: (next, length) :: runs

/-- The pulses of a signal. -/
def pulses (signal : List Bool) : List Pulse :=
  (levelRuns signal).map fun levelRun => ⟨levelRun.1, levelRun.2 = 1⟩

theorem levelRuns_cons_head (level : Bool) (rest : List Bool) :
    ∃ length runs, levelRuns (level :: rest) = (level, length) :: runs := by
  simp only [levelRuns]
  cases levelRuns rest with
  | nil => exact ⟨1, [], rfl⟩
  | cons first runs =>
      obtain ⟨next, length⟩ := first
      by_cases same : level = next
      · exact ⟨length + 1, runs, by simp [same]⟩
      · exact ⟨1, (next, length) :: runs, by simp [same]⟩

/-- A level change ends a run. -/
theorem levelRuns_append {first second : List Bool} (changes : second.head? = some false)
    (high : first.getLast? = some true) :
    levelRuns (first ++ second) = levelRuns first ++ levelRuns second := by
  induction first with
  | nil => simp at high
  | cons level rest ih =>
      cases rest with
      | nil =>
          obtain rfl : level = true := by simpa using high
          cases second with
          | nil => simp at changes
          | cons next second =>
              obtain rfl : next = false := by simpa using changes
              obtain ⟨length, runs, runsEq⟩ := levelRuns_cons_head false second
              simp only [List.cons_append, List.nil_append]
              rw [levelRuns, runsEq]
              simp [levelRuns]
      | cons next rest =>
          have restRuns := ih (by simpa using high)
          obtain ⟨length, runs, runsEq⟩ := levelRuns_cons_head next rest
          rw [List.cons_append, levelRuns, restRuns, runsEq, List.cons_append, levelRuns, runsEq]
          by_cases same : level = next <;> simp [same]

@[simp]
theorem uartLine_nil : uartLine [] = [] :=
  rfl

@[simp]
theorem uartLine_cons (byte : BitVec 8) (bytes : List (BitVec 8)) :
    uartLine (byte :: bytes) = uartFrame byte ++ uartLine bytes :=
  rfl

theorem uartFrame_getLast? (byte : BitVec 8) : (uartFrame byte).getLast? = some true := by
  rw [uartFrame]
  exact List.getLast?_concat

/-- The stop bit of a frame and the start bit of the next one never merge into
one pulse. -/
theorem pulses_uartLine_cons (byte : BitVec 8) (bytes : List (BitVec 8)) :
    pulses (uartLine (byte :: bytes)) = pulses (uartFrame byte) ++ pulses (uartLine bytes) := by
  cases bytes with
  | nil => simp [pulses, levelRuns]
  | cons next rest =>
      have separated : levelRuns (uartFrame byte ++ uartLine (next :: rest)) =
          levelRuns (uartFrame byte) ++ levelRuns (uartLine (next :: rest)) :=
        levelRuns_append (by simp [uartFrame]) (uartFrame_getLast? byte)
      rw [uartLine_cons, pulses, separated, List.map_append]
      rfl

theorem pulses_uartLine_append (first second : List (BitVec 8)) :
    pulses (uartLine (first ++ second)) = pulses (uartLine first) ++ pulses (uartLine second) := by
  induction first with
  | nil => simp [pulses, levelRuns]
  | cons byte bytes ih =>
      rw [List.cons_append, pulses_uartLine_cons, pulses_uartLine_cons, ih, List.append_assoc]

/-! ## Half bits -/

/-- The first, high half of a bit. -/
def highHalf (bit : Bool) : Pulse := ⟨true, bit⟩

/-- The second, low half of a bit. -/
def lowHalf (bit : Bool) : Pulse := ⟨false, bit⟩

/-- The pulses from the second half of the first bit to the first half of the
last bit of a sequence. -/
def halfPulses : List Bool → List Pulse
  | [] => []
  | [_] => []
  | bit :: next :: rest => lowHalf bit :: highHalf next :: halfPulses (next :: rest)

/-- Two signals that share the bit between them join at its middle. -/
theorem halfPulses_append (before : List Bool) (bit : Bool) (after : List Bool) :
    halfPulses (before ++ bit :: after) =
      halfPulses (before ++ [bit]) ++ halfPulses (bit :: after) := by
  induction before with
  | nil => simp [halfPulses]
  | cons first rest ih =>
      cases rest with
      | nil => simp [halfPulses]
      | cons second rest => simpa [halfPulses] using ih

/-- What is read from a line signal: the lone half it begins with, the whole
bits, and the lone half it stops with. -/
structure Reading where
  leadingHalf : Bool
  bits : List Bool
  trailingHalf : Bool
  deriving DecidableEq, Repr

/-- Read pulses that begin with the first half of a bit. -/
def readHalves : List Pulse → Option (List Bool × Bool)
  | [] => none
  | [last] => if last.level then some ([], last.short) else none
  | high :: low :: rest =>
      if high.level ∧ ¬ low.level ∧ high.short = low.short then
        (readHalves rest).map fun read => (high.short :: read.1, read.2)
      else
        none

/-- Read a line signal. -/
def readLine (signal : List Bool) : Option Reading :=
  match pulses signal with
  | [] => none
  | first :: rest =>
      if first.level then none
      else (readHalves rest).map fun read => ⟨first.short, read.1, read.2⟩

theorem readHalves_halfPulses (first : Bool) (bits : List Bool) (last : Bool) :
    readHalves ((halfPulses (first :: bits ++ [last])).tail) = some (bits, last) := by
  induction bits generalizing first with
  | nil => simp [halfPulses, readHalves, highHalf]
  | cons bit bits ih =>
      have rest := ih bit
      cases bits with
      | nil => simp [halfPulses, readHalves, highHalf, lowHalf]
      | cons next bits =>
          simp only [List.cons_append, halfPulses, List.tail_cons] at rest ⊢
          simpa [readHalves, highHalf, lowHalf] using rest

/-- The halves of a bit sequence are read as this sequence: its first and last
bit show as lone halves, every bit between them as a whole bit. -/
theorem readLine_of_halfPulses {signal : List Bool} {first last : Bool} {bits : List Bool}
    (halves : pulses signal = halfPulses (first :: bits ++ [last])) :
    readLine signal = some ⟨first, bits, last⟩ := by
  have rest := readHalves_halfPulses first bits last
  rw [readLine, halves]
  cases bits with
  | nil => simp [halfPulses, lowHalf, highHalf, readHalves]
  | cons bit bits =>
      simp only [List.cons_append, halfPulses, List.tail_cons] at rest ⊢
      simp [lowHalf, rest]

end Srcpd.Dcc
