import Srcpd.Dcc.Line
import Srcpd.Ddl.Translate

/-!
# The third translation routine is a line code

Every byte of the table starts in the middle of the bit under the reader and
stops in the middle of the bit that is read next, so the bytes sent so far
always cover the buffer from the middle of its first bit to the middle of the
bit under the reader (`Covers`).

What needs an argument is the window `111110`, for which no byte exists.  The
routine then goes back to the last window that fixed the translation and takes
the shorter byte.  A run of ones is consumed five bits at a time; the shorter
byte moves the reader by one bit relative to the run, and with the new phase
the end of the run is reached by a window that can be translated.  This is the
alternative `afterRestart` of the invariant `Phase`.
-/

namespace Srcpd.Ddl

open Srcpd.Dcc
open Srcpd.Transition

/-! ## Windows of six bits -/

theorem exists_window {buffer : Bitstream} {r : Nat} (room : r + 6 ≤ buffer.length) :
    ∃ a b c d e f rest, buffer.drop r = a :: b :: c :: d :: e :: f :: rest := by
  have long : 6 ≤ (buffer.drop r).length := by
    rw [List.length_drop]
    omega
  match buffer.drop r, long with
  | a :: b :: c :: d :: e :: f :: rest, _ => exact ⟨a, b, c, d, e, f, rest, rfl⟩

theorem readNextSixBits_window (a b c d e f : Bool) (rest : Bitstream) :
    readNextSixBits (a :: b :: c :: d :: e :: f :: rest) = readNextSixBits [a, b, c, d, e, f] :=
  rfl

theorem getD_of_drop_eq {buffer : Bitstream} {r : Nat} {window : Bitstream}
    (here : buffer.drop r = window) (i : Nat) :
    buffer.getD (r + i) true = window.getD i true := by
  rw [← here]
  simp [List.getD_eq_getElem?_getD]

theorem getD_window {buffer : Bitstream} {r k : Nat} {a b c d e f : Bool} {rest : Bitstream}
    (here : buffer.drop r = a :: b :: c :: d :: e :: f :: rest) (small : k < 6) :
    buffer.getD (r + k) true = [a, b, c, d, e, f].getD k true := by
  rw [getD_of_drop_eq here]
  interval_cases k <;> rfl

theorem window_eq_untranslatable_iff : ∀ a b c d e f : Bool,
    readNextSixBits [a, b, c, d, e, f] = untranslatable ↔
      a = true ∧ b = true ∧ c = true ∧ d = true ∧ e = true ∧ f = false := by
  decide

theorem window_cases : ∀ a b c d e f : Bool,
    readNextSixBits [a, b, c, d, e, f] < untranslatable ∨
      readNextSixBits [a, b, c, d, e, f] = untranslatable ∨
      readNextSixBits [a, b, c, d, e, f] = 0x3f ∧
        a = true ∧ b = true ∧ c = true ∧ d = true ∧ e = true ∧ f = true := by
  decide

/-- The byte of a window sends the bits of the window up to the middle of the
bit the reader moves to. -/
theorem frame_of_window : ∀ a b c d e f secondTry : Bool,
    let w := readNextSixBits [a, b, c, d, e, f]
    let entry := translateDataV3At (w >>> 1) secondTry
    w ≠ untranslatable → (secondTry = true → w < untranslatable) →
      pulses (uartFrame entry.value) =
          halfPulses ([a, b, c, d, e, f].take (entry.patternlength + 1)) ∧
        1 ≤ entry.patternlength ∧ entry.patternlength ≤ 5 := by
  decide

/-- Where the longer byte leads into a run of ones, the shorter one stops exactly
one bit earlier. -/
theorem shorter_try : ∀ a b c d e f : Bool,
    let w := readNextSixBits [a, b, c, d, e, f]
    let first := (translateDataV3At (w >>> 1) false).patternlength
    let second := (translateDataV3At (w >>> 1) true).patternlength
    w < untranslatable → (∀ k : Fin 6, first ≤ k → [a, b, c, d, e, f].getD k true = true) →
      first = second + 1 := by
  decide

/-- Number of bits the byte at an offset moves the reader on. -/
def stride (buffer : Bitstream) (r : Nat) (secondTry : Bool) : Nat :=
  (translateDataV3At (readNextSixBits (buffer.drop r) >>> 1) secondTry).patternlength

theorem stride_bounds {buffer : Bitstream} {r : Nat} (secondTry : Bool)
    (room : r + 6 ≤ buffer.length)
    (translatable : readNextSixBits (buffer.drop r) ≠ untranslatable)
    (fixed : secondTry = true → readNextSixBits (buffer.drop r) < untranslatable) :
    1 ≤ stride buffer r secondTry ∧ stride buffer r secondTry ≤ 5 := by
  obtain ⟨a, b, c, d, e, f, rest, here⟩ := exists_window room
  rw [here, readNextSixBits_window] at translatable fixed
  rw [stride, here, readNextSixBits_window]
  exact (frame_of_window a b c d e f secondTry translatable fixed).2

theorem stride_of_ones {buffer : Bitstream} {r : Nat}
    (ones : readNextSixBits (buffer.drop r) = 0x3f) (secondTry : Bool) :
    stride buffer r secondTry = 5 := by
  rw [stride, ones]
  cases secondTry <;> rfl

/-! ## What the bytes sent so far cover -/

/-- The first `n` bytes send the buffer from the middle of its first bit to the
middle of bit `r`. -/
def Covers (buffer : Bitstream) (packetstream : Packetstream) (n r : Nat) : Prop :=
  pulses (uartLine (packetstream.take n)) = halfPulses (buffer.take (r + 1))

theorem Covers.zero (buffer : Bitstream) (packetstream : Packetstream) :
    Covers buffer packetstream 0 0 := by
  cases buffer <;> simp [Covers, pulses, levelRuns, halfPulses]

/-- Writing behind the bytes in use does not change what they cover. -/
theorem Covers.set_of_le {buffer : Bitstream} {packetstream : Packetstream} {n r : Nat}
    (covers : Covers buffer packetstream n r) {g : Nat} (le : n ≤ g) (byte : BitVec 8) :
    Covers buffer (packetstream.set g byte) n r := by
  rw [Covers, List.take_set_of_le le]
  exact covers

/-- One more byte moves the end of the covered part on by its stride. -/
theorem Covers.emit {buffer : Bitstream} {packetstream : Packetstream} {n r : Nat}
    (covers : Covers buffer packetstream n r) (secondTry : Bool)
    (inBuffer : n < packetstream.length) (room : r + 6 ≤ buffer.length)
    (translatable : readNextSixBits (buffer.drop r) ≠ untranslatable)
    (fixed : secondTry = true → readNextSixBits (buffer.drop r) < untranslatable) :
    Covers buffer
      (packetstream.set n
        (translateDataV3At (readNextSixBits (buffer.drop r) >>> 1) secondTry).value)
      (n + 1) (r + stride buffer r secondTry) := by
  obtain ⟨a, b, c, d, e, f, rest, here⟩ := exists_window room
  have entryLe := (stride_bounds secondTry room translatable fixed).2
  rw [here, readNextSixBits_window] at translatable fixed
  have frame := (frame_of_window a b c d e f secondTry translatable fixed).1
  rw [stride, here, readNextSixBits_window] at entryLe
  rw [stride, here, readNextSixBits_window]
  generalize translateDataV3At (readNextSixBits [a, b, c, d, e, f] >>> 1) secondTry = entry
    at frame entryLe ⊢
  have tookOne : buffer.take (r + 1) = buffer.take r ++ [a] := by
    rw [List.take_add, here]
    rfl
  have tookAll : buffer.take (r + entry.patternlength + 1) =
      buffer.take r ++ a :: [b, c, d, e, f].take entry.patternlength := by
    have inWindow : (a :: b :: c :: d :: e :: f :: rest).take (entry.patternlength + 1) =
        a :: [b, c, d, e, f].take entry.patternlength := by
      rw [List.take_succ_cons]
      congr 1
      have inside : entry.patternlength ≤ [b, c, d, e, f].length := by simpa using entryLe
      exact List.take_append_of_le_length inside
    rw [Nat.add_assoc, List.take_add, here, inWindow]
  have bytes : (packetstream.set n entry.value).take (n + 1) =
      packetstream.take n ++ [entry.value] := by
    rw [List.take_add_one, List.take_set_of_le (Nat.le_refl n)]
    simp [inBuffer]
  have onlyFrame : pulses (uartLine [entry.value]) = pulses (uartFrame entry.value) := by
    simp
  rw [Covers, tookOne] at covers
  rw [Covers, bytes, pulses_uartLine_append, covers, onlyFrame, frame, tookAll]
  exact (halfPulses_append _ _ _).symm

/-! ## The loop invariant -/

/-- Every bit of the buffer from `first` up to, not including, `last` is a one. -/
def Ones (buffer : Bitstream) (first last : Nat) : Prop :=
  ∀ i, first ≤ i → i < last → buffer.getD i true = true

theorem Ones.append {buffer : Bitstream} {first middle last : Nat}
    (before : Ones buffer first middle) (after : Ones buffer middle last) :
    Ones buffer first last := by
  intro i lower upper
  by_cases early : i < middle
  · exact before i lower early
  · exact after i (by omega) upper

theorem Ones.mono {buffer : Bitstream} {first last first' last' : Nat}
    (ones : Ones buffer first last) (lower : first ≤ first') (upper : last' ≤ last) :
    Ones buffer first' last' :=
  fun i above below => ones i (by omega) (by omega)

theorem ones_of_window {buffer : Bitstream} {r : Nat} (room : r + 6 ≤ buffer.length)
    (window : readNextSixBits (buffer.drop r) = 0x3f) : Ones buffer r (r + 6) := by
  obtain ⟨a, b, c, d, e, f, rest, here⟩ := exists_window room
  rw [here, readNextSixBits_window] at window
  have all := window_cases a b c d e f
  rw [window] at all
  simp only [untranslatable, Nat.reduceLT, Nat.reduceEqDiff, true_and, false_or] at all
  obtain ⟨rfl, rfl, rfl, rfl, rfl, rfl⟩ := all
  intro i lower upper
  obtain ⟨k, rfl⟩ : ∃ k, i = r + k := ⟨i - r, by omega⟩
  rw [getD_window here (by omega)]
  have small : k < 6 := by omega
  interval_cases k <;> rfl

/-- In the untranslatable window five ones are followed by a zero. -/
theorem ones_of_untranslatable {buffer : Bitstream} {r : Nat} (room : r + 6 ≤ buffer.length)
    (window : readNextSixBits (buffer.drop r) = untranslatable) :
    Ones buffer r (r + 5) ∧ buffer.getD (r + 5) true = false := by
  obtain ⟨a, b, c, d, e, f, rest, here⟩ := exists_window room
  rw [here, readNextSixBits_window, window_eq_untranslatable_iff] at window
  obtain ⟨rfl, rfl, rfl, rfl, rfl, rfl⟩ := window
  refine ⟨fun i lower upper => ?_, getD_of_drop_eq here 5⟩
  obtain ⟨k, rfl⟩ : ∃ k, i = r + k := ⟨i - r, by omega⟩
  rw [getD_window here (by omega)]
  have small : k < 5 := by omega
  interval_cases k <;> rfl

/-- Read five bits at a time, the run of ones at the start of the buffer never
ends in the untranslatable window, as far as the packet stream has room. -/
def LeadingRun (buffer : Bitstream) : Prop :=
  ∀ m < pktsize, Ones buffer 0 (5 * m + 5) → buffer.getD (5 * m + 5) true = true

/-- The restart position is a fixed translation before the reader. -/
structure Restartable (buffer : Bitstream) (bufEnd : Nat) (s : V3State) : Prop where
  read_lt : s.restartRead < s.readPtr
  read_end : s.restartRead < bufEnd
  packet_lt : s.restartPacket < s.generatePacket
  fixed : readNextSixBits (buffer.drop s.restartRead) < untranslatable
  covers : Covers buffer s.packetstream s.restartPacket s.restartRead
  read_le : s.restartRead ≤ 5 * s.restartPacket
  last_le : ∀ position, s.lastRestart = some position → position ≤ s.restartRead

/-- If the first try leads into a run of ones, the second try stops one bit
earlier. -/
theorem stride_secondTry {buffer : Bitstream} {q last : Nat} (room : q + 6 ≤ buffer.length)
    (fixed : readNextSixBits (buffer.drop q) < untranslatable)
    (ones : Ones buffer (q + stride buffer q false) last) (far : q + 6 ≤ last) :
    stride buffer q false = stride buffer q true + 1 := by
  obtain ⟨a, b, c, d, e, f, rest, here⟩ := exists_window room
  rw [stride, here, readNextSixBits_window] at ones
  rw [here, readNextSixBits_window] at fixed
  simp only [stride, here, readNextSixBits_window]
  apply shorter_try a b c d e f fixed
  intro k above
  rw [← getD_window here k.isLt]
  exact ones (q + k) (by omega) (by omega)

/-- If after the first try a run of ones of a multiple of five bits follows, the
second try stops before a `0` or one bit earlier in this run. -/
theorem secondTry_phase {buffer : Bitstream} {q m r : Nat} (room : q + 6 ≤ buffer.length)
    (fixed : readNextSixBits (buffer.drop q) < untranslatable)
    (ones : Ones buffer (q + stride buffer q false) (r + 5))
    (zero : buffer.getD (r + 5) true = false)
    (read : r = q + stride buffer q false + 5 * m) :
    buffer.getD (q + stride buffer q true) true = false ∨
      ∃ stop, q + stride buffer q true < stop ∧ (stop - (q + stride buffer q true)) % 5 = 1 ∧
        buffer.getD stop true = false ∧ Ones buffer (q + stride buffer q true) stop := by
  have lower := (stride_bounds false room (Nat.ne_of_lt fixed) (by simp)).1
  have oneShorter := stride_secondTry room fixed ones (by omega)
  cases next : buffer.getD (q + stride buffer q true) true with
  | false => exact .inl rfl
  | true =>
      right
      refine ⟨r + 5, by omega, by omega, zero, fun i above below => ?_⟩
      by_cases atNext : i = q + stride buffer q true
      · rw [atNext]
        exact next
      · exact ones i (by omega) below

/-- How the reader got where it is.

* `leading`: only whole windows of ones have been read.
* `afterFirst`: the window at the restart position was translated with its first
  try, and since then only ones were read, five at a time.
* `afterRestart`: it was translated with its second try, and the run of ones the
  reader is in ends one bit behind a multiple of five. -/
inductive Phase (buffer : Bitstream) (bufEnd : Nat) (s : V3State) : Prop
  | leading (atStart : s.restartRead = 0) (noRestart : s.lastRestart = none) (m : Nat)
      (read : s.readPtr = 5 * m) (ones : Ones buffer 0 s.readPtr)
  | afterFirst (restartable : Restartable buffer bufEnd s)
      (fresh : s.lastRestart ≠ some s.restartRead) (m : Nat)
      (read : s.readPtr = s.restartRead + stride buffer s.restartRead false + 5 * m)
      (ones : Ones buffer (s.restartRead + stride buffer s.restartRead false) s.readPtr)
  | afterRestart (restartable : Restartable buffer bufEnd s)
      (again : s.lastRestart = some s.restartRead)
      (phase : buffer.getD s.readPtr true = false ∨
        ∃ stop, s.readPtr < stop ∧ (stop - s.readPtr) % 5 = 1 ∧
          buffer.getD stop true = false ∧ Ones buffer s.readPtr stop)

/-- The invariant of the loop. -/
structure V3Inv (buffer : Bitstream) (bufEnd : Nat) (s : V3State) : Prop where
  size : s.packetstream.length = pktsize
  generate_le : s.generatePacket ≤ pktsize
  read_end : s.readPtr ≤ bufEnd + 4
  read_le : s.readPtr ≤ 5 * s.generatePacket
  firstTry : s.secondTry = false
  covers : Covers buffer s.packetstream s.generatePacket s.readPtr
  phase : Phase buffer bufEnd s

/-- The position to restart from moves on, or a restart happens there for the
first time, or the reader moves on. -/
def v3Measure (bufEnd : Nat) (s : V3State) : Nat × Nat :=
  (2 * (bufEnd - s.restartRead) + if s.lastRestart = some s.restartRead then 0 else 1,
    bufEnd + 5 - s.readPtr)

/-- The order in which the variables go down from turn to turn. -/
def V3Lt (bufEnd : Nat) (next s : V3State) : Prop :=
  Prod.Lex (· < ·) (· < ·) (v3Measure bufEnd next) (v3Measure bufEnd s)

theorem v3Lt_wellFounded (bufEnd : Nat) : WellFounded (V3Lt bufEnd) :=
  InvImage.wf (v3Measure bufEnd)
    (WellFounded.prod_lex Nat.lt_wfRel.wf Nat.lt_wfRel.wf)

section Loop

variable {buffer : Bitstream} {bufEnd : Nat} {s : V3State}

theorem v3Init_inv (buffer : Bitstream) (bufEnd : Nat) : V3Inv buffer bufEnd v3Init where
  size := by simp [v3Init, emptyPacketstream]
  generate_le := by simp [v3Init]
  read_end := by simp [v3Init]
  read_le := by simp [v3Init]
  firstTry := rfl
  covers := Covers.zero buffer _
  phase := .leading rfl rfl 0 rfl (fun i _ upper => by simp [v3Init] at upper)

/-- Whatever the window, the emitted byte keeps the bytes and the reader
together. -/
theorem V3Inv.emit_bounds (inv : V3Inv buffer bufEnd s) (generate_lt : s.generatePacket < pktsize)
    (read_lt : s.readPtr < bufEnd) (room : buffer.length = bufEnd + 6)
    (translatable : readNextSixBits (buffer.drop s.readPtr) ≠ untranslatable) :
    1 ≤ stride buffer s.readPtr false ∧
      (v3Emit buffer s).readPtr = s.readPtr + stride buffer s.readPtr false ∧
      (v3Emit buffer s).readPtr ≤ bufEnd + 4 ∧
      (v3Emit buffer s).readPtr ≤ 5 * (v3Emit buffer s).generatePacket ∧
      Covers buffer (v3Emit buffer s).packetstream (v3Emit buffer s).generatePacket
        (v3Emit buffer s).readPtr := by
  have inRange : s.readPtr + 6 ≤ buffer.length := by omega
  have noSecond : false = true →
      readNextSixBits (buffer.drop s.readPtr) < untranslatable := by simp
  obtain ⟨lower, upper⟩ := stride_bounds false inRange translatable noSecond
  have covers := inv.covers.emit false (by rw [inv.size]; exact generate_lt) inRange
    translatable noSecond
  have reads : (v3Emit buffer s).readPtr = s.readPtr + stride buffer s.readPtr false := by
    simp [v3Emit, stride, inv.firstTry]
  have counts : (v3Emit buffer s).generatePacket = s.generatePacket + 1 := rfl
  have read_le := inv.read_le
  refine ⟨lower, reads, by omega, by omega, ?_⟩
  rw [reads]
  simpa [v3Emit, inv.firstTry] using covers

/-- A window of ones moves the reader by five bits and leaves the restart
position alone. -/
theorem V3Inv.emit_ones (inv : V3Inv buffer bufEnd s) (generate_lt : s.generatePacket < pktsize)
    (read_lt : s.readPtr < bufEnd) (room : buffer.length = bufEnd + 6)
    (window : readNextSixBits (buffer.drop s.readPtr) = 0x3f) :
    V3Inv buffer bufEnd (v3Emit buffer s) ∧ V3Lt bufEnd (v3Emit buffer s) s := by
  have inRange : s.readPtr + 6 ≤ buffer.length := by omega
  have translatable : readNextSixBits (buffer.drop s.readPtr) ≠ untranslatable := by
    rw [window]
    decide
  obtain ⟨_, reads, read_end, read_le, covers⟩ :=
    inv.emit_bounds generate_lt read_lt room translatable
  rw [stride_of_ones window] at reads
  have restartRead : (v3Emit buffer s).restartRead = s.restartRead := by
    simp [v3Emit, window, untranslatable]
  have restartPacket : (v3Emit buffer s).restartPacket = s.restartPacket := by
    simp [v3Emit, window, untranslatable]
  have lastRestart : (v3Emit buffer s).lastRestart = s.lastRestart := rfl
  have restart (restartable : Restartable buffer bufEnd s) :
      Restartable buffer bufEnd (v3Emit buffer s) := by
    have packet_lt := restartable.packet_lt
    have read_before := restartable.read_lt
    refine ⟨?_, ?_, ?_, ?_, ?_, ?_, ?_⟩
    · rw [restartRead, reads]
      omega
    · rw [restartRead]
      exact restartable.read_end
    · rw [restartPacket]
      exact Nat.lt_succ_of_lt packet_lt
    · rw [restartRead]
      exact restartable.fixed
    · rw [restartRead, restartPacket]
      exact restartable.covers.set_of_le (Nat.le_of_lt packet_lt) _
    · rw [restartRead, restartPacket]
      exact restartable.read_le
    · rw [restartRead, lastRestart]
      exact restartable.last_le
  have sixOnes := ones_of_window inRange window
  have fiveOnes : Ones buffer s.readPtr (s.readPtr + 5) :=
    sixOnes.mono (Nat.le_refl _) (by omega)
  constructor
  · refine ⟨?_, generate_lt, read_end, read_le, rfl, covers, ?_⟩
    · simp [v3Emit, inv.size]
    · cases inv.phase with
      | leading atStart noRestart m read ones =>
          refine .leading (restartRead.trans atStart) noRestart (m + 1) (by omega) ?_
          rw [reads]
          exact ones.append fiveOnes
      | afterFirst restartable fresh m read ones =>
          refine .afterFirst (restart restartable) ?_ (m + 1) ?_ ?_
          · rwa [lastRestart, restartRead]
          · rw [restartRead]
            omega
          · rw [restartRead, reads]
            exact ones.append fiveOnes
      | afterRestart restartable again phase =>
          refine .afterRestart (restart restartable) ?_ (.inr ?_)
          · rwa [lastRestart, restartRead]
          · rcases phase with zero | ⟨stop, behind, offset, zero, ones⟩
            · rw [sixOnes _ (Nat.le_refl _) (by omega)] at zero
              contradiction
            · have far : s.readPtr + 6 ≤ stop := by
                by_contra near
                rw [sixOnes stop (by omega) (by omega)] at zero
                contradiction
              exact ⟨stop, by omega, by omega, zero, ones.mono (by omega) (Nat.le_refl _)⟩
  · refine Prod.lex_def.mpr (.inr ⟨?_, ?_⟩)
    · simp only [v3Measure, restartRead, lastRestart]
    · simp only [v3Measure]
      omega

/-- A window that fixes the translation becomes the new restart position. -/
theorem V3Inv.emit_fixed (inv : V3Inv buffer bufEnd s) (generate_lt : s.generatePacket < pktsize)
    (read_lt : s.readPtr < bufEnd) (room : buffer.length = bufEnd + 6)
    (window : readNextSixBits (buffer.drop s.readPtr) < untranslatable) :
    V3Inv buffer bufEnd (v3Emit buffer s) ∧ V3Lt bufEnd (v3Emit buffer s) s := by
  obtain ⟨lower, reads, read_end, read_le, covers⟩ :=
    inv.emit_bounds generate_lt read_lt room (Nat.ne_of_lt window)
  have restartRead : (v3Emit buffer s).restartRead = s.readPtr := by simp [v3Emit, window]
  have restartPacket : (v3Emit buffer s).restartPacket = s.generatePacket := by
    simp [v3Emit, window]
  have lastRestart : (v3Emit buffer s).lastRestart = s.lastRestart := rfl
  -- Either nothing was restarted yet, or every restart was before the reader.
  have behind : s.lastRestart = none ∧ s.restartRead = 0 ∨
      s.restartRead < s.readPtr ∧
        ∀ position, s.lastRestart = some position → position ≤ s.restartRead := by
    cases inv.phase with
    | leading atStart noRestart => exact .inl ⟨noRestart, atStart⟩
    | afterFirst restartable => exact .inr ⟨restartable.read_lt, restartable.last_le⟩
    | afterRestart restartable => exact .inr ⟨restartable.read_lt, restartable.last_le⟩
  have fresh : s.lastRestart ≠ some s.readPtr := by
    intro again
    rcases behind with ⟨noRestart, _⟩ | ⟨before, last_le⟩
    · rw [noRestart] at again
      contradiction
    · have := last_le _ again
      omega
  constructor
  · refine ⟨?_, generate_lt, read_end, read_le, rfl, covers, .afterFirst ?_ ?_ 0 ?_ ?_⟩
    · simp [v3Emit, inv.size]
    · refine ⟨?_, ?_, ?_, ?_, ?_, ?_, ?_⟩
      · rw [restartRead, reads]
        omega
      · rwa [restartRead]
      · rw [restartPacket]
        exact Nat.lt_succ_self _
      · rwa [restartRead]
      · rw [restartRead, restartPacket]
        exact inv.covers.set_of_le (Nat.le_refl _) _
      · rw [restartRead, restartPacket]
        exact inv.read_le
      · intro position restarted
        rw [lastRestart] at restarted
        rw [restartRead]
        rcases behind with ⟨noRestart, _⟩ | ⟨before, last_le⟩
        · rw [noRestart] at restarted
          contradiction
        · have := last_le _ restarted
          omega
    · rwa [lastRestart, restartRead]
    · rw [restartRead, reads]
      rfl
    · intro i above below
      rw [restartRead] at above
      omega
  · have notAgain : (if (v3Emit buffer s).lastRestart = some (v3Emit buffer s).restartRead
        then 0 else 1) = 1 := by
      rw [lastRestart, restartRead, if_neg fresh]
    rw [V3Lt, v3Measure, v3Measure, notAgain, restartRead, Prod.lex_def]
    rcases behind with ⟨noRestart, atStart⟩ | ⟨before, _⟩
    · -- Only here can the reader itself still be at the first position.
      rw [if_neg (by simp [noRestart])]
      by_cases moved : s.restartRead < s.readPtr
      · left
        simp only
        omega
      · right
        simp only
        omega
    · left
      simp only
      split <;> omega

/-- An untranslatable window is met only behind a first try. -/
theorem V3Inv.met (inv : V3Inv buffer bufEnd s) (leadingRun : LeadingRun buffer)
    (generate_lt : s.generatePacket < pktsize)
    (read_lt : s.readPtr < bufEnd) (room : buffer.length = bufEnd + 6)
    (window : readNextSixBits (buffer.drop s.readPtr) = untranslatable) :
    Restartable buffer bufEnd s ∧ s.lastRestart ≠ some s.restartRead ∧
      ∃ m, s.readPtr = s.restartRead + stride buffer s.restartRead false + 5 * m ∧
        Ones buffer (s.restartRead + stride buffer s.restartRead false) (s.readPtr + 5) := by
  obtain ⟨fiveOnes, zero⟩ := ones_of_untranslatable (by omega) window
  cases inv.phase with
  | leading atStart noRestart m read ones =>
      have read_le := inv.read_le
      have run := leadingRun m (by omega) (by rw [← read]; exact ones.append fiveOnes)
      rw [← read, zero] at run
      contradiction
  | afterRestart restartable again phase =>
      rcases phase with early | ⟨stop, behind, offset, stopZero, ones⟩
      · rw [fiveOnes _ (Nat.le_refl _) (by omega)] at early
        contradiction
      · -- The run would have to end exactly five bits on.
        have atLeast : s.readPtr + 5 ≤ stop := by
          by_contra near
          rw [fiveOnes stop (by omega) (by omega)] at stopZero
          contradiction
        have atMost : stop ≤ s.readPtr + 5 := by
          by_contra far
          rw [ones (s.readPtr + 5) (by omega) (by omega)] at zero
          contradiction
        omega
  | afterFirst restartable fresh m read ones =>
      exact ⟨restartable, fresh, m, read, ones.append fiveOnes⟩

/-- The second try from the restart position changes the phase of the run of
ones for good. -/
theorem V3Inv.restart (inv : V3Inv buffer bufEnd s) (leadingRun : LeadingRun buffer)
    (generate_lt : s.generatePacket < pktsize)
    (read_lt : s.readPtr < bufEnd) (room : buffer.length = bufEnd + 6)
    (window : readNextSixBits (buffer.drop s.readPtr) = untranslatable) :
    V3Inv buffer bufEnd (v3Emit buffer (v3Restart s)) ∧
      V3Lt bufEnd (v3Emit buffer (v3Restart s)) s := by
  obtain ⟨_, zero⟩ := ones_of_untranslatable (by omega) window
  obtain ⟨restartable, fresh, m, read, ones⟩ :=
    inv.met leadingRun generate_lt read_lt room window
  have inRange : s.restartRead + 6 ≤ buffer.length := by
    have := restartable.read_end
    omega
  have translatable := Nat.ne_of_lt restartable.fixed
  obtain ⟨lower, upper⟩ := stride_bounds true inRange translatable
    (fun _ => restartable.fixed)
  have packet_lt := restartable.packet_lt
  have read_end := restartable.read_end
  have read_le := restartable.read_le
  have covers := restartable.covers.emit true
    (by rw [inv.size]; omega) inRange translatable (fun _ => restartable.fixed)
  have reads : (v3Emit buffer (v3Restart s)).readPtr =
      s.restartRead + stride buffer s.restartRead true := rfl
  have counts : (v3Emit buffer (v3Restart s)).generatePacket = s.restartPacket + 1 := rfl
  have restartRead : (v3Emit buffer (v3Restart s)).restartRead = s.restartRead := by
    simp [v3Emit, v3Restart, restartable.fixed]
  have restartPacket : (v3Emit buffer (v3Restart s)).restartPacket = s.restartPacket := by
    simp [v3Emit, v3Restart, restartable.fixed]
  have lastRestart : (v3Emit buffer (v3Restart s)).lastRestart = some s.restartRead := rfl
  constructor
  · refine ⟨?_, ?_, ?_, ?_, rfl, ?_, .afterRestart ?_ ?_ ?_⟩
    · simp [v3Emit, v3Restart, inv.size]
    · rw [counts]
      omega
    · omega
    · omega
    · rw [reads]
      exact covers
    · refine ⟨?_, ?_, ?_, ?_, ?_, ?_, ?_⟩
      · omega
      · rwa [restartRead]
      · omega
      · rw [restartRead]
        exact restartable.fixed
      · rw [restartRead, restartPacket]
        exact restartable.covers.set_of_le (Nat.le_refl _) _
      · omega
      · intro position restarted
        rw [lastRestart] at restarted
        cases restarted
        omega
    · rw [lastRestart, restartRead]
    · rw [reads]
      exact secondTry_phase inRange restartable.fixed
        ones zero read
  · rw [V3Lt, v3Measure, v3Measure, restartRead, lastRestart, Prod.lex_def, if_pos rfl,
      if_neg fresh]
    left
    simp only
    omega

/-- What one iteration does to the window under the reader. -/
theorem v3Body_cases {next : V3State} (taken : v3Body buffer bufEnd s = .inl next) :
    (s.generatePacket < pktsize ∧ s.readPtr < bufEnd) ∧
      (readNextSixBits (buffer.drop s.readPtr) = untranslatable ∧
          next = v3Emit buffer (v3Restart s) ∨
        readNextSixBits (buffer.drop s.readPtr) ≠ untranslatable ∧ next = v3Emit buffer s) := by
  rw [v3Body] at taken
  by_cases running : s.generatePacket < pktsize ∧ s.readPtr < bufEnd
  · rw [if_pos running] at taken
    by_cases window : readNextSixBits (buffer.drop s.readPtr) = untranslatable
    · rw [if_pos window] at taken
      cases taken
      exact ⟨running, .inl ⟨window, rfl⟩⟩
    · rw [if_neg window] at taken
      cases taken
      exact ⟨running, .inr ⟨window, rfl⟩⟩
  · rw [if_neg running] at taken
    contradiction

/-- A translatable window fixes the translation or is a window of ones. -/
theorem window_translatable {r : Nat} (inRange : r + 6 ≤ buffer.length)
    (translatable : readNextSixBits (buffer.drop r) ≠ untranslatable) :
    readNextSixBits (buffer.drop r) < untranslatable ∨
      readNextSixBits (buffer.drop r) = 0x3f := by
  obtain ⟨a, b, c, d, e, f, rest, here⟩ := exists_window inRange
  have cases := window_cases a b c d e f
  rw [← readNextSixBits_window a b c d e f rest, ← here] at cases
  rcases cases with fixed | impossible | ⟨ones, _⟩
  · exact .inl fixed
  · exact absurd impossible translatable
  · exact .inr ones

/-- One iteration keeps the invariant and decreases the measure. -/
theorem V3Inv.step (inv : V3Inv buffer bufEnd s) (leadingRun : LeadingRun buffer)
    (room : buffer.length = bufEnd + 6) {next : V3State}
    (taken : v3Body buffer bufEnd s = .inl next) :
    V3Inv buffer bufEnd next ∧ V3Lt bufEnd next s := by
  rcases v3Body_cases taken with ⟨⟨generate_lt, read_lt⟩, ⟨window, rfl⟩ | ⟨translatable, rfl⟩⟩
  · exact inv.restart leadingRun generate_lt read_lt room window
  · rcases window_translatable (by omega) translatable with fixed | ones
    · exact inv.emit_fixed generate_lt read_lt room fixed
    · exact inv.emit_ones generate_lt read_lt room ones

end Loop

/-! ## The whole routine -/

/-- What a finished translation guarantees: unless the packet stream is full, its
bytes cover the buffer up to one of the trailing bits. -/
def V3Result (buffer : Bitstream) (bufEnd : Nat) (result : Nat × Packetstream) : Prop :=
  result.1 < pktsize →
    ∃ r, bufEnd ≤ r ∧ r ≤ bufEnd + 4 ∧ r ≤ 5 * result.1 ∧ Covers buffer result.2 result.1 r

theorem v3Buffer_length (bitstream : Bitstream) :
    (v3Buffer bitstream).length = v3BufEnd bitstream + 6 := by
  simp [v3Buffer, v3BufEnd]
  omega

/-- With no untranslatable window at the end of the leading run of ones, the
routine ends, and its bytes send the whole bit stream. -/
theorem translateBitstream2PacketstreamV3_total (bitstream : Bitstream)
    (leadingRun : LeadingRun (v3Buffer bitstream)) :
    ∃ enough result, V3Result (v3Buffer bitstream) (v3BufEnd bitstream) result ∧
      ∀ fuel, enough ≤ fuel →
        translateBitstream2PacketstreamV3 fuel bitstream = some result := by
  have room := v3Buffer_length bitstream
  refine iterate_total (v3Lt_wellFounded (v3BufEnd bitstream)) ?_ ?_
    (v3Init_inv (v3Buffer bitstream) (v3BufEnd bitstream))
  · intro s next inv taken
    exact inv.step leadingRun room taken
  · intro s result inv left
    rw [v3Body] at left
    by_cases running : s.generatePacket < pktsize ∧ s.readPtr < v3BufEnd bitstream
    · rw [if_pos running] at left
      split at left <;> contradiction
    · rw [if_neg running] at left
      cases left
      intro notFull
      have atEnd : v3BufEnd bitstream ≤ s.readPtr := by
        by_contra before
        exact running ⟨notFull, by omega⟩
      exact ⟨s.readPtr, atEnd, inv.read_end, inv.read_le, inv.covers⟩

/-- Behind the two bits in front the buffer holds the bit stream. -/
theorem getD_v3Buffer (bitstream : Bitstream) {i : Nat} (short : i < buffersize - 1) :
    (v3Buffer bitstream).getD (i + 2) true = bitstream.getD i true := by
  have behind : (v3Buffer bitstream)[i + 2]? =
      (bitstream.take (buffersize - 1) ++ List.replicate 6 true)[i]? := rfl
  rw [List.getD_eq_getElem?_getD, List.getD_eq_getElem?_getD, behind]
  by_cases inside : i < bitstream.length
  · rw [List.getElem?_append_left (by rw [List.length_take]; omega), List.getElem?_take,
      if_pos short]
  · rw [List.getElem?_append_right (by rw [List.length_take]; omega), List.getElem?_replicate,
      List.getElem?_eq_none (Nat.le_of_not_lt inside)]
    split <;> rfl

/-- A bit stream that begins with a run of ones: what the buffer begins with. -/
theorem ones_v3Buffer (ones : Nat) (rest : Bitstream) (short : ones < buffersize - 1) :
    Ones (v3Buffer (List.replicate ones true ++ false :: rest)) 0 (ones + 2) ∧
      (v3Buffer (List.replicate ones true ++ false :: rest)).getD (ones + 2) true = false := by
  constructor
  · intro i _ below
    match i with
    | 0 => rfl
    | 1 => rfl
    | i + 2 =>
        rw [getD_v3Buffer _ (by omega), List.getD_eq_getElem?_getD,
          List.getElem?_append_left (by simpa using below)]
        have inside : i < ones := by omega
        simp [inside]
  · rw [getD_v3Buffer _ short, List.getD_eq_getElem?_getD, List.getElem?_append_right (by simp)]
    simp

/-- A bit stream that begins with a run of ones of a suitable length. -/
theorem leadingRun_of_replicate {ones : Nat} (rest : Bitstream)
    (suitable : (ones + 2) % 5 ≠ 0) (short : ones < buffersize - 1) :
    LeadingRun (v3Buffer (List.replicate ones true ++ false :: rest)) := by
  rcases ones_v3Buffer ones rest short with ⟨leading, zero⟩
  intro m _ run
  have notBeyond : 5 * m + 5 ≤ ones + 2 := by
    by_contra beyond
    rw [run (ones + 2) (by omega) (by omega)] at zero
    contradiction
  exact leading _ (by omega) (by omega)

/-- The line signal of a translated bit stream is read as one leading `1`, the
bit stream bit for bit, and then only further ones. -/
theorem V3Result.readLine {bitstream : Bitstream} {n : Nat} {packetstream : Packetstream}
    (result : V3Result (v3Buffer bitstream) (v3BufEnd bitstream) (n, packetstream))
    (notFull : n < pktsize) :
    ∃ more, readLine (uartLine (packetstream.take n)) =
      some ⟨true, true :: bitstream ++ List.replicate more true, true⟩ := by
  obtain ⟨r, atEnd, trailing, consumed, covers⟩ := result notFull
  -- A stream too long for the buffer needs more bytes than the packet stream has.
  have whole : bitstream.take (buffersize - 1) = bitstream := by
    apply List.take_of_length_le
    simp only [v3BufEnd, List.length_take, pktsize, buffersize] at *
    omega
  rw [v3BufEnd, whole] at atEnd trailing
  obtain ⟨more, rfl⟩ : ∃ more, r = 2 + bitstream.length + more :=
    ⟨r - (2 + bitstream.length), by omega⟩
  have covered : (v3Buffer bitstream).take (2 + bitstream.length + more + 1) =
      true :: (true :: bitstream ++ List.replicate more true) ++ [true] := by
    have split : 2 + bitstream.length + more + 1 = bitstream.length + (more + 1) + 2 := by omega
    have ones : (List.replicate 6 true).take (more + 1) =
        List.replicate more true ++ [true] := by
      rw [List.take_replicate, Nat.min_eq_left (by omega), List.replicate_succ']
    rw [v3Buffer, whole, split]
    simp only [List.cons_append, List.take_succ_cons]
    rw [List.take_length_add_append, ones]
    simp
  refine ⟨more, readLine_of_halfPulses ?_⟩
  rw [← covered]
  exact covers

/-- Every bit stream of the shape the composers build is translated into bytes
that, sent as UART frames, form a line signal that is read as exactly one
leading `1`, the bit stream, and then only additional ones. -/
theorem translateBitstream2PacketstreamV3_line (ones : Nat) (composed : ones = 15 ∨ ones = 30)
    (body : Bitstream) :
    ∃ enough n packetstream,
      (∀ fuel, enough ≤ fuel →
        translateBitstream2PacketstreamV3 fuel
          (List.replicate ones true ++ false :: (body ++ [true])) = some (n, packetstream)) ∧
      (n < pktsize →
        ∃ more, readLine (uartLine (packetstream.take n)) =
          some ⟨true, true :: (List.replicate ones true ++ false :: (body ++ [true])) ++
            List.replicate more true, true⟩) := by
  have leadingRun : LeadingRun
      (v3Buffer (List.replicate ones true ++ false :: (body ++ [true]))) := by
    apply leadingRun_of_replicate
    · rcases composed with rfl | rfl <;> decide
    · rcases composed with rfl | rfl <;> decide
  obtain ⟨enough, ⟨n, packetstream⟩, result, finished⟩ :=
    translateBitstream2PacketstreamV3_total _ leadingRun
  exact ⟨enough, n, packetstream, finished, fun notFull => result.readLine notFull⟩

/-- The idle packet `11111111 00000000 11111111` takes 13 bytes, and its line
signal carries it. -/
theorem translateBitstream2PacketstreamV3_line_idle :
    ∃ packetstream more,
      translateBitstream2PacketstreamV3 100
          (List.replicate 15 true ++ false ::
            (List.replicate 8 true ++ List.replicate 10 false ++ List.replicate 8 true ++
              [true])) = some (13, packetstream) ∧
        readLine (uartLine (packetstream.take 13)) =
          some ⟨true, true :: (List.replicate 15 true ++ false ::
            (List.replicate 8 true ++ List.replicate 10 false ++ List.replicate 8 true ++
              [true])) ++ List.replicate more true, true⟩ := by
  obtain ⟨enough, n, packetstream, finished, line⟩ :=
    translateBitstream2PacketstreamV3_line 15 (Or.inl rfl)
      (List.replicate 8 true ++ List.replicate 10 false ++ List.replicate 8 true)
  have length13 : (translateBitstream2PacketstreamV3 100
      (List.replicate 15 true ++ false ::
        (List.replicate 8 true ++ List.replicate 10 false ++ List.replicate 8 true ++
          [true]))).map Prod.fst = some 13 := by
    decide
  obtain ⟨⟨count, bytes⟩, executed, countEq⟩ := Option.map_eq_some_iff.mp length13
  obtain rfl : count = 13 := countEq
  have agree := (finished (max enough 100) (Nat.le_max_left _ _)).symm.trans
    (iterate_mono (Nat.le_max_right _ _) executed)
  cases agree
  obtain ⟨more, reads⟩ := line (by decide)
  exact ⟨packetstream, more, executed, reads⟩

end Srcpd.Ddl
