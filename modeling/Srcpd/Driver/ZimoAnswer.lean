import Srcpd.Driver.DelayedOff
import Srcpd.Transition.Loop
import Srcpd.Types

/-!
# Answers of the ZIMO central unit

The scanner for an answer goes through the bytes of the serial line.  One counter is the
mark that an answer has begun and its length as well, and is taken for the mark only while
it is one; so an answer is given up behind its first letter.  `readanswer_iff` says for
which streams that does not matter.
-/

namespace Srcpd.Driver.Zimo

open Srcpd.Driver.DelayedOff Srcpd.Transition

/-- A carriage return. -/
def cr : Byte := 0x0d

/-- A line feed. -/
def lf : Byte := 0x0a

/-! ## The scanner -/

/-- What a turn of the loop finds: `FIONREAD` fails, there is nothing, or a byte is read. -/
inductive Poll
  | failed
  | empty
  | byte (c : Byte)
  deriving DecidableEq

/-- Milliseconds. -/
def tdiff (t1 t2 : Timeval) : Int :=
  t2.sec * 1000 + t2.usec / 1000 - t1.sec * 1000 - t1.usec / 1000

/-- The turns of the loop, with the clock in each. -/
structure Line where
  poll : Nat → Poll
  clock : Nat → Nat
  start : Nat

/-- The milliseconds since the call, in a turn. -/
def Line.elapsed (line : Line) (turn : Nat) : Int :=
  tdiff (gettimeofday line.start) (gettimeofday (line.clock turn))

/-- The variables of `readanswer`. -/
structure Scanner where
  turn : Nat
  cnt : Nat
  lc : Byte
  buf : Nat → Byte

/-- What `readanswer` returns and the buffer behind it. -/
abbrev Answer := Int × (Nat → Byte)

/-- One turn of the loop of `readanswer`. -/
def scan (line : Line) (cmd : Byte) (maxbuflen timeoutMs : Int) (scanner : Scanner) :
    Scanner ⊕ Answer :=
  match line.poll scanner.turn with
  | .failed => .inr (-1, scanner.buf)
  | .empty => .inl { scanner with turn := scanner.turn + 1 }
  | .byte c =>
      let cnt := if (scanner.lc = cr ∨ scanner.lc = lf) ∧ c = cmd then 1 else scanner.cnt
      if cnt = 1 ∧ (c = cr ∨ c = lf) then .inr (cnt, scanner.buf)
      else if cnt = 1 ∧ maxbuflen < cnt then .inr (-2, scanner.buf)
      else
        let buf := if cnt = 1 then Function.update scanner.buf (cnt - 1) c else scanner.buf
        let cnt := if cnt = 1 then cnt + 1 else cnt
        -- the time is looked at behind a byte only
        if timeoutMs < line.elapsed scanner.turn then .inr (0, buf)
        else .inl ⟨scanner.turn + 1, cnt, c, buf⟩

/-- `none` while the loop has not been left. -/
def readanswer (fuel : Nat) (line : Line) (cmd : Byte) (buf : Nat → Byte)
    (maxbuflen timeoutMs : Int) : Option Answer :=
  iterate (scan line cmd maxbuflen timeoutMs) fuel ⟨0, 0, cr, buf⟩

/-! ## What has to hold -/

/-- A stream of bytes: `FIONREAD` does not fail.  The clock is any. -/
structure ByteStream extends Line where
  reads : ∀ turn, poll turn ≠ .failed

/-- The byte of a turn, if there is one. -/
def Poll.bytes : Poll → List Byte
  | .byte c => [c]
  | _ => []

/-- The bytes of the first turns. -/
def Line.text (line : Line) (turns : Nat) : List Byte :=
  (List.range turns).flatMap fun turn => (line.poll turn).bytes

/-- The lines that are complete. -/
def completeLines (text : List Byte) : List (List Byte) :=
  (text.splitOnP fun c => c = cr ∨ c = lf).dropLast

/-- The first line with this letter. -/
def answerIn (cmd : Byte) (text : List Byte) : Option (List Byte) :=
  (completeLines text).find? fun line => line.head? = some cmd

example : answerIn 0x45 [0x51, 0x31, cr, 0x45, 0x30, 0x35, lf, 0x45, 0x37, cr] =
    some [0x45, 0x30, 0x35] := by decide

/-- Commands are letters. -/
def IsLetter (cmd : Byte) : Prop :=
  (0x41 ≤ cmd ∧ cmd ≤ 0x5a) ∨ (0x61 ≤ cmd ∧ cmd ≤ 0x7a)

instance (cmd : Byte) : Decidable (IsLetter cmd) :=
  inferInstanceAs (Decidable (_ ∨ _))

/-- The answer is complete in a turn within the time. -/
def Line.Answered (line : Line) (cmd : Byte) (timeoutMs : Int) (answer : List Byte) : Prop :=
  ∃ turn, line.elapsed turn ≤ timeoutMs ∧ answerIn cmd (line.text (turn + 1)) = some answer

/-- The length of the answer and the answer in the buffer, or why not. -/
structure Line.Right (line : Line) (cmd : Byte) (maxbuflen timeoutMs : Int) (result : Answer) :
    Prop where
  answered : ∀ answer, line.Answered cmd timeoutMs answer → answer.length ≤ maxbuflen →
    result.1 = answer.length ∧ ∀ i < answer.length, result.2 i = answer.getD i 0
  long : ∀ answer, line.Answered cmd timeoutMs answer → maxbuflen < answer.length →
    result.1 = -2
  unanswered : (∀ answer, ¬ line.Answered cmd timeoutMs answer) → result.1 = 0

/-- The function returns, with the right result. -/
def Line.Reads (line : Line) (cmd : Byte) (buf : Nat → Byte) (maxbuflen timeoutMs : Int) : Prop :=
  ∃ fuel result, readanswer fuel line cmd buf maxbuflen timeoutMs = some result ∧
    line.Right cmd maxbuflen timeoutMs result

/-- A byte that is read behind the time. -/
def Line.Late (line : Line) (timeoutMs : Int) (turn : Nat) : Prop :=
  timeoutMs < line.elapsed turn ∧ ∃ c, line.poll turn = .byte c

/-! ## The loop -/

variable {line : Line} {cmd : Byte} {maxbuflen timeoutMs : Int} {scanner : Scanner}
  {buf : Nat → Byte} {fuel : Nat} {result : Answer}

theorem IsLetter.ne_end (letter : IsLetter cmd) : cmd ≠ cr ∧ cmd ≠ lf := by
  constructor
  · rintro rfl
    exact absurd letter (by decide)
  · rintro rfl
    exact absurd letter (by decide)

/-- The counter is not one between two turns, so that no line is ever complete. -/
theorem scan_byte {c : Byte} (letter : IsLetter cmd) (room : 1 ≤ maxbuflen)
    (outside : scanner.cnt ≠ 1) (read : line.poll scanner.turn = .byte c) :
    ∃ cnt buf, cnt ≠ 1 ∧ scan line cmd maxbuflen timeoutMs scanner =
      if timeoutMs < line.elapsed scanner.turn then .inr (0, buf)
      else .inl ⟨scanner.turn + 1, cnt, c, buf⟩ := by
  unfold scan
  rw [read]
  dsimp only
  by_cases starts : (scanner.lc = cr ∨ scanner.lc = lf) ∧ c = cmd
  · have inside : ¬ (c = cr ∨ c = lf) := by
      rw [starts.2]
      exact not_or.mpr letter.ne_end
    rw [if_pos starts, if_neg fun ends => inside ends.2, if_neg (by push_cast; omega), if_pos rfl,
      if_pos rfl]
    exact ⟨2, _, by decide, rfl⟩
  · rw [if_neg starts, if_neg fun ends => outside ends.1, if_neg fun full => outside full.1,
      if_neg outside, if_neg outside]
    exact ⟨_, _, outside, rfl⟩

/-- A turn of the loop on a stream leaves it with 0 for a late byte, or goes on. -/
theorem scan_cases (reads : line.poll scanner.turn ≠ .failed) (letter : IsLetter cmd)
    (room : 1 ≤ maxbuflen) (outside : scanner.cnt ≠ 1) :
    (line.Late timeoutMs scanner.turn ∧
        ∃ buf, scan line cmd maxbuflen timeoutMs scanner = .inr (0, buf)) ∨
      (¬ line.Late timeoutMs scanner.turn ∧
        ∃ next, scan line cmd maxbuflen timeoutMs scanner = .inl next ∧
          next.turn = scanner.turn + 1 ∧ next.cnt ≠ 1) := by
  cases found : line.poll scanner.turn with
  | failed => exact absurd found reads
  | empty =>
      right
      refine ⟨?_, { scanner with turn := scanner.turn + 1 }, ?_, rfl, outside⟩
      · rintro ⟨_, c, read⟩
        rw [found] at read
        cases read
      · unfold scan
        rw [found]
  | byte c =>
      rcases scan_byte letter room outside found with ⟨cnt, buf, outside', turned⟩
      by_cases late : timeoutMs < line.elapsed scanner.turn
      · rw [if_pos late] at turned
        exact .inl ⟨⟨late, c, found⟩, buf, turned⟩
      · rw [if_neg late] at turned
        exact .inr ⟨fun behind => late behind.1, _, turned, rfl, outside'⟩

/-- What the function returns is 0, behind a late byte. -/
theorem readanswer_eq_zero (reads : ∀ turn, line.poll turn ≠ .failed) (letter : IsLetter cmd)
    (room : 1 ≤ maxbuflen)
    (returned : readanswer fuel line cmd buf maxbuflen timeoutMs = some result) :
    result.1 = 0 ∧ ∃ turn, line.Late timeoutMs turn := by
  have continues : ∀ scanner next : Scanner, scanner.cnt ≠ 1 →
      scan line cmd maxbuflen timeoutMs scanner = .inl next → next.cnt ≠ 1 := by
    intro scanner next outside taken
    rcases scan_cases (reads _) letter room outside with ⟨_, buf, left⟩ | ⟨_, _, turned, _, other⟩
    · rw [left] at taken
      cases taken
    · rw [turned] at taken
      cases taken
      exact other
  have exits : ∀ (scanner : Scanner) (result : Answer), scanner.cnt ≠ 1 →
      scan line cmd maxbuflen timeoutMs scanner = .inr result →
      result.1 = 0 ∧ ∃ turn, line.Late timeoutMs turn := by
    intro scanner result outside taken
    rcases scan_cases (reads _) letter room outside with ⟨late, buf, left⟩ | ⟨_, _, turned, _⟩
    · rw [left] at taken
      cases taken
      exact ⟨rfl, _, late⟩
    · rw [turned] at taken
      cases taken
  exact iterate_partial continues exits Nat.zero_ne_one returned

/-- A late byte ends the loop. -/
theorem readanswer_of_late {turn : Nat} (reads : ∀ turn, line.poll turn ≠ .failed)
    (letter : IsLetter cmd) (room : 1 ≤ maxbuflen) (late : line.Late timeoutMs turn) :
    ∃ fuel result, readanswer fuel line cmd buf maxbuflen timeoutMs = some result := by
  have continues : ∀ scanner next : Scanner, scanner.cnt ≠ 1 ∧ scanner.turn ≤ turn →
      scan line cmd maxbuflen timeoutMs scanner = .inl next →
      (next.cnt ≠ 1 ∧ next.turn ≤ turn) ∧ turn - next.turn < turn - scanner.turn := by
    rintro scanner next ⟨outside, before⟩ taken
    rcases scan_cases (reads _) letter room outside with
      ⟨_, buf, left⟩ | ⟨early, _, turned, step, other⟩
    · rw [left] at taken
      cases taken
    · rw [turned] at taken
      cases taken
      have apart : scanner.turn ≠ turn := by
        intro same
        rw [same] at early
        exact early late
      exact ⟨⟨other, by omega⟩, by omega⟩
  have initially : (⟨0, 0, cr, buf⟩ : Scanner).cnt ≠ 1 ∧ (⟨0, 0, cr, buf⟩ : Scanner).turn ≤ turn :=
    ⟨Nat.zero_ne_one, Nat.zero_le _⟩
  have exits : ∀ (scanner : Scanner) (result : Answer), scanner.cnt ≠ 1 ∧ scanner.turn ≤ turn →
      scan line cmd maxbuflen timeoutMs scanner = .inr result → True := fun _ _ _ _ => trivial
  rcases iterate_total (measure fun scanner : Scanner => turn - scanner.turn).wf continues exits
    initially with ⟨fuel, result, _, finished⟩
  exact ⟨fuel, result, finished fuel le_rfl⟩

theorem Line.Answered.pos {answer : List Byte} (answered : line.Answered cmd timeoutMs answer) :
    0 < answer.length := by
  rcases answered with ⟨turn, _, found⟩
  have starts := List.find?_some found
  cases answer with
  | nil => simp at starts
  | cons c rest => exact Nat.succ_pos _

/-- An answer in time is not returned, and without one the function returns behind a late
byte only. -/
theorem readanswer_iff (stream : ByteStream) (cmd : Byte) (buf : Nat → Byte)
    (maxbuflen timeoutMs : Int) (letter : IsLetter cmd) (room : 1 ≤ maxbuflen) :
    stream.Reads cmd buf maxbuflen timeoutMs ↔
      (∀ answer, ¬ stream.Answered cmd timeoutMs answer) ∧
        ∃ turn, stream.Late timeoutMs turn := by
  constructor
  · rintro ⟨fuel, result, returned, right⟩
    rcases readanswer_eq_zero stream.reads letter room returned with ⟨zero, late⟩
    refine ⟨fun answer answered => ?_, late⟩
    have positive := answered.pos
    by_cases fits : answer.length ≤ maxbuflen
    · have length := (right.answered answer answered fits).1
      omega
    · have length := right.long answer answered (by omega)
      omega
  · rintro ⟨unanswered, turn, late⟩
    rcases readanswer_of_late stream.reads letter room late with ⟨fuel, result, returned⟩
    have zero := (readanswer_eq_zero stream.reads letter room returned).1
    exact ⟨fuel, result, returned, fun answer answered => absurd answered (unanswered answer),
      fun answer answered => absurd answered (unanswered answer), fun _ => zero⟩

/-- A turn each millisecond, and these bytes from a turn on. -/
def millisecondStream (first : Nat) (bytes : List Byte) : ByteStream where
  poll turn := if first ≤ turn then (bytes[turn - first]?).elim .empty .byte else .empty
  clock turn := 1000 * turn
  start := 0
  reads := by
    intro turn
    split
    · cases bytes[turn - first]? <;> exact nofun
    · exact nofun

theorem elapsed_millisecondStream (first : Nat) (bytes : List Byte) (turn : Nat) :
    (millisecondStream first bytes).elapsed turn = turn := by
  simp only [Line.elapsed, millisecondStream, tdiff, gettimeofday]
  push_cast
  omega

/-- Bytes that start behind the time are no answer. -/
theorem not_answered_millisecondStream {first : Nat} {bytes answer : List Byte}
    (behind : timeoutMs < first) :
    ¬ (millisecondStream first bytes).Answered cmd timeoutMs answer := by
  rintro ⟨turn, inTime, found⟩
  rw [elapsed_millisecondStream] at inTime
  have nothing : (millisecondStream first bytes).text (turn + 1) = [] := by
    rw [Line.text, List.flatMap_eq_nil_iff]
    intro earlier mem
    have before := List.mem_range.mp mem
    simp only [millisecondStream]
    rw [if_neg (by omega)]
    rfl
  rw [nothing] at found
  cases found

/-- The answer "Q1" comes when the time is over. -/
theorem readanswer_iff_late :
    (millisecondStream 41 [0x51, 0x31, cr]).Reads 0x51 (fun _ => 0) 20 40 := by
  refine (readanswer_iff (millisecondStream 41 [0x51, 0x31, cr]) 0x51 (fun _ => 0) 20 40
    (by decide) (by decide)).mpr ⟨fun answer => not_answered_millisecondStream (by decide), 41, ?_⟩
  refine ⟨?_, 0x51, rfl⟩
  rw [elapsed_millisecondStream]
  decide

/-- The answer "E05" that is there at once, and no byte at all. -/
theorem answer_not_read :
    ¬ (millisecondStream 0 [0x45, 0x30, 0x35, cr]).Reads 0x45 (fun _ => 0) 20 40 ∧
      ¬ (millisecondStream 0 []).Reads 0x45 (fun _ => 0) 20 40 := by
  have early (bytes : List Byte) (few : bytes.length ≤ 40) (turn : Nat) :
      ¬ (millisecondStream 0 bytes).Late 40 turn := by
    rintro ⟨late, c, read⟩
    rw [elapsed_millisecondStream] at late
    have nothing : bytes[turn]? = none := List.getElem?_eq_none (by omega)
    simp [millisecondStream, nothing] at read
  constructor
  all_goals
    rintro ⟨fuel, result, returned, _⟩
    rcases readanswer_eq_zero (ByteStream.reads _) (by decide) (by decide) returned with
      ⟨_, turn, late⟩
  · exact early _ (by decide) turn late
  · exact early _ (by decide) turn late

end Srcpd.Driver.Zimo
