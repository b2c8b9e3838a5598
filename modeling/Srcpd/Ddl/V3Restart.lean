import Srcpd.Ddl.TranslateV3

/-!
# Where the restart of the third translation routine leads

The routine assumes only that the bit stream starts with a `1`.  That is not
enough.  The restart takes the window `111110` for granted to lie behind a
window with a shorter byte; when the reader meets it in the leading run of ones,
the start of the buffer is still the restart position, both tries of a window of
ones are the same byte, and the reader comes back to the same window.

The reader stands at the multiples of five there, so this happens exactly when
the leading run, with the two bits in front of it, is as long as a multiple of
five.  Everywhere else each window is left behind after one restart (`Past`).
-/

namespace Srcpd.Ddl

open Srcpd.Transition

/-- The loop goes on with the window `111110` under the reader. -/
def MeetsUntranslatable (buffer : Bitstream) (bufEnd : Nat) (s : V3State) : Prop :=
  (s.generatePacket < pktsize ∧ s.readPtr < bufEnd) ∧
    readNextSixBits (buffer.drop s.readPtr) = untranslatable

/-- The routine ends, with a result that does not depend on the fuel. -/
def V3Terminates (bitstream : Bitstream) : Prop :=
  ∃ enough result, ∀ fuel, enough ≤ fuel →
    translateBitstream2PacketstreamV3 fuel bitstream = some result

/-- No restart on a window `111110` returns to a position from which the same
window is reached again: it is neither the window at the restart position nor
met after it. -/
def V3LeavesBehind (bitstream : Bitstream) : Prop :=
  ∀ s, LoopReaches (v3Body (v3Buffer bitstream) (v3BufEnd bitstream)) v3Init s →
    MeetsUntranslatable (v3Buffer bitstream) (v3BufEnd bitstream) s →
      s.restartRead ≠ s.readPtr ∧
        ∀ later, LoopReaches (v3Body (v3Buffer bitstream) (v3BufEnd bitstream))
            (v3Emit (v3Buffer bitstream) (v3Restart s)) later →
          MeetsUntranslatable (v3Buffer bitstream) (v3BufEnd bitstream) later →
            later.readPtr ≠ s.readPtr

/-! ## A window is left behind -/

/-- Behind the restart for the window at `r`: the reader is before the `0` in
front of the run of ones, in the run with a phase that does not lead to `r`
again, or behind `r` together with the restart position. -/
inductive Past (buffer : Bitstream) (r : Nat) (s : V3State) : Prop
  | beforeRun (zero : buffer.getD s.readPtr true = false)
      (ones : Ones buffer (s.readPtr + 1) (r + 5)) (far : s.readPtr + 6 ≤ r + 5)
      (offset : (r + 5 - s.readPtr) % 5 = 1)
  | inRun (ones : Ones buffer s.readPtr (r + 5)) (inside : s.readPtr < r + 5)
      (offset : (r + 5 - s.readPtr) % 5 = 1 ∨ (r + 5 - s.readPtr) % 5 = 2)
  | behind (restart_gt : r < s.restartRead) (read_gt : s.restartRead < s.readPtr)

section Behind

variable {buffer : Bitstream} {bufEnd r : Nat} {s next : V3State}

theorem readNextSixBits_drop (buffer : Bitstream) (r : Nat) :
    readNextSixBits (buffer.drop r) =
      readNextSixBits [buffer.getD r true, buffer.getD (r + 1) true, buffer.getD (r + 2) true,
        buffer.getD (r + 3) true, buffer.getD (r + 4) true, buffer.getD (r + 5) true] := by
  simp [readNextSixBits, List.range_succ, List.getD_eq_getElem?_getD]

theorem window_of_ones (ones : Ones buffer r (r + 6)) :
    readNextSixBits (buffer.drop r) = 0x3f := by
  rw [readNextSixBits_drop, ones r (by omega) (by omega), ones (r + 1) (by omega) (by omega),
    ones (r + 2) (by omega) (by omega), ones (r + 3) (by omega) (by omega),
    ones (r + 4) (by omega) (by omega), ones (r + 5) (by omega) (by omega)]
  rfl

theorem window_of_zero_ones (zero : buffer.getD r true = false)
    (ones : Ones buffer (r + 1) (r + 6)) : readNextSixBits (buffer.drop r) = 0x1f := by
  rw [readNextSixBits_drop, zero, ones (r + 1) (by omega) (by omega),
    ones (r + 2) (by omega) (by omega), ones (r + 3) (by omega) (by omega),
    ones (r + 4) (by omega) (by omega), ones (r + 5) (by omega) (by omega)]
  rfl

theorem window_of_ones_zero (ones : Ones buffer r (r + 5))
    (zero : buffer.getD (r + 5) true = false) :
    readNextSixBits (buffer.drop r) = untranslatable := by
  rw [readNextSixBits_drop, zero, ones r (by omega) (by omega), ones (r + 1) (by omega) (by omega),
    ones (r + 2) (by omega) (by omega), ones (r + 3) (by omega) (by omega),
    ones (r + 4) (by omega) (by omega)]
  rfl

/-- Ones that end in a zero, as a list. -/
theorem drop_of_ones_zero {n : Nat} (ones : Ones buffer r (r + n))
    (zero : buffer.getD (r + n) true = false) :
    buffer.drop r = List.replicate n true ++ false :: buffer.drop (r + n + 1) := by
  have inside : r + n < buffer.length := by
    by_contra outside
    rw [List.getD_eq_getElem?_getD, List.getElem?_eq_none (by omega)] at zero
    contradiction
  induction n generalizing r with
  | zero =>
      rw [Nat.add_zero] at zero inside ⊢
      rw [List.drop_eq_getElem_cons inside, List.getElem_eq_getD true, zero]
      rfl
  | succ n ih =>
      have first := ones r (Nat.le_refl _) (by omega)
      have rest := @ih (r + 1) (ones.mono (by omega) (by omega))
      rw [Nat.add_right_comm r 1 n] at rest
      rw [List.drop_eq_getElem_cons (by omega), List.getElem_eq_getD true, first, rest zero inside]
      rfl

/-- The restart for the window at `r` goes to the bit before the run of ones or to
a phase that does not lead to `r` again. -/
theorem V3Inv.past_restart (inv : V3Inv buffer bufEnd s) (leadingRun : LeadingRun buffer)
    (room : buffer.length = bufEnd + 6) (meets : MeetsUntranslatable buffer bufEnd s) :
    Past buffer s.readPtr (v3Emit buffer (v3Restart s)) := by
  rcases meets with ⟨⟨generate_lt, read_lt⟩, window⟩
  rcases inv.met leadingRun generate_lt read_lt room window with
    ⟨restartable, _, m, read, ones⟩
  have inRange : s.restartRead + 6 ≤ buffer.length := by
    have := restartable.read_end
    omega
  have lower := (stride_bounds false inRange (Nat.ne_of_lt restartable.fixed) (by simp)).1
  have oneShorter := stride_secondTry inRange restartable.fixed ones (by omega)
  have reads : (v3Emit buffer (v3Restart s)).readPtr =
      s.restartRead + stride buffer s.restartRead true := rfl
  have behindBit : Ones buffer ((v3Emit buffer (v3Restart s)).readPtr + 1) (s.readPtr + 5) := by
    apply ones.mono
    · omega
    · exact Nat.le_refl _
  cases bit : buffer.getD (v3Emit buffer (v3Restart s)).readPtr true with
  | false =>
      apply Past.beforeRun bit behindBit
      · omega
      · omega
  | true =>
      apply Past.inRun
      · intro i above below
        by_cases atBit : i = (v3Emit buffer (v3Restart s)).readPtr
        · rw [atBit]
          exact bit
        · exact behindBit i (by omega) below
      · omega
      · left
        omega

/-- The window at `r` is not met again. -/
theorem Past.readPtr_ne (past : Past buffer r s) (meets : MeetsUntranslatable buffer bufEnd s)
    (room : buffer.length = bufEnd + 6) : s.readPtr ≠ r := by
  rcases meets with ⟨⟨_, read_lt⟩, window⟩
  rcases ones_of_untranslatable (by omega) window with ⟨fiveOnes, _⟩
  cases past with
  | beforeRun zero ones far offset =>
      rw [fiveOnes _ (Nat.le_refl _) (by omega)] at zero
      contradiction
  | inRun ones inside offset => omega
  | behind restart_gt read_gt => omega

/-- One iteration does not lead back. -/
theorem Past.step (past : Past buffer r s) (zero : buffer.getD (r + 5) true = false)
    (inv : V3Inv buffer bufEnd s) (leadingRun : LeadingRun buffer)
    (room : buffer.length = bufEnd + 6) (taken : v3Body buffer bufEnd s = .inl next) :
    Past buffer r next := by
  rcases v3Body_cases taken with ⟨⟨generate_lt, read_lt⟩, ⟨window, rfl⟩ | ⟨translatable, rfl⟩⟩
  · rcases ones_of_untranslatable (by omega) window with ⟨fiveOnes, windowZero⟩
    cases past with
    | beforeRun first ones far offset =>
        rw [fiveOnes _ (Nat.le_refl _) (by omega)] at first
        contradiction
    | inRun ones inside offset =>
        -- The run would have to end exactly five bits on.
        have atLeast : s.readPtr + 5 ≤ r + 5 := by
          by_contra near
          rw [fiveOnes (r + 5) (by omega) (by omega)] at zero
          contradiction
        have atMost : r + 5 ≤ s.readPtr + 5 := by
          by_contra far
          rw [ones (s.readPtr + 5) (by omega) (by omega)] at windowZero
          contradiction
        omega
    | behind restart_gt read_gt =>
        rcases inv.met leadingRun generate_lt read_lt room window with ⟨restartable, _⟩
        have restartRead : (v3Emit buffer (v3Restart s)).restartRead = s.restartRead := by
          simp [v3Emit, v3Restart, restartable.fixed]
        have inRange : s.restartRead + 6 ≤ buffer.length := by
          have := restartable.read_end
          omega
        have lower := (stride_bounds true inRange (Nat.ne_of_lt restartable.fixed)
          (fun _ => restartable.fixed)).1
        have reads : (v3Emit buffer (v3Restart s)).readPtr =
            s.restartRead + stride buffer s.restartRead true := rfl
        apply Past.behind
        · rw [restartRead]
          exact restart_gt
        · rw [restartRead, reads]
          omega
  · rcases inv.emit_bounds generate_lt read_lt room translatable with ⟨lower, reads, _⟩
    cases past with
    | beforeRun first ones far offset =>
        have window := window_of_zero_ones first (ones.mono (Nat.le_refl _) far)
        have four : stride buffer s.readPtr false = 4 := by
          rw [stride, window]
          rfl
        apply Past.inRun
        · apply ones.mono
          · omega
          · exact Nat.le_refl _
        · omega
        · right
          omega
    | inRun ones inside offset =>
        by_cases far : s.readPtr + 6 ≤ r + 5
        · have five := stride_of_ones (window_of_ones (ones.mono (Nat.le_refl _) far)) false
          apply Past.inRun
          · apply ones.mono
            · omega
            · exact Nat.le_refl _
          · omega
          · omega
        · rcases window_translatable (by omega) translatable with fixed | sixOnes
          · have restartRead : (v3Emit buffer s).restartRead = s.readPtr := by
              simp [v3Emit, fixed]
            apply Past.behind
            · omega
            · omega
          · rw [ones_of_window (by omega) sixOnes (r + 5) (by omega) (by omega)] at zero
            contradiction
    | behind restart_gt read_gt =>
        rcases window_translatable (by omega) translatable with fixed | sixOnes
        · have restartRead : (v3Emit buffer s).restartRead = s.readPtr := by
            simp [v3Emit, fixed]
          apply Past.behind
          · omega
          · omega
        · have restartRead : (v3Emit buffer s).restartRead = s.restartRead := by
            simp [v3Emit, sixOnes, untranslatable]
          apply Past.behind
          · omega
          · omega

end Behind

/-- With no untranslatable window at the end of the leading run of ones, every
window is left behind. -/
theorem v3LeavesBehind_of_leadingRun {bitstream : Bitstream}
    (leadingRun : LeadingRun (v3Buffer bitstream)) : V3LeavesBehind bitstream := by
  have room := v3Buffer_length bitstream
  have always {state last : V3State}
      (reaches : LoopReaches (v3Body (v3Buffer bitstream) (v3BufEnd bitstream)) state last)
      (initially : V3Inv (v3Buffer bitstream) (v3BufEnd bitstream) state) :
      V3Inv (v3Buffer bitstream) (v3BufEnd bitstream) last :=
    reaches.invariant (fun _ _ inv taken => (inv.step leadingRun room taken).1) initially
  intro s reaches meets
  have inv := always reaches (v3Init_inv _ _)
  rcases meets with ⟨⟨generate_lt, read_lt⟩, window⟩
  rcases ones_of_untranslatable (by omega) window with ⟨_, zero⟩
  constructor
  · exact Nat.ne_of_lt (inv.met leadingRun generate_lt read_lt room window).1.read_lt
  · intro later reachesLater meetsLater
    have continues : ∀ state next,
        Past (v3Buffer bitstream) s.readPtr state ∧
            V3Inv (v3Buffer bitstream) (v3BufEnd bitstream) state →
          v3Body (v3Buffer bitstream) (v3BufEnd bitstream) state = .inl next →
            Past (v3Buffer bitstream) s.readPtr next ∧
              V3Inv (v3Buffer bitstream) (v3BufEnd bitstream) next := by
      rintro state next ⟨past, holds⟩ taken
      exact ⟨past.step zero holds leadingRun room taken,
        (holds.step leadingRun room taken).1⟩
    have past := reachesLater.invariant continues
      ⟨inv.past_restart leadingRun room ⟨⟨generate_lt, read_lt⟩, window⟩,
        (inv.restart leadingRun generate_lt read_lt room window).1⟩
    exact past.1.readPtr_ne meetsLater room

/-! ## The leading run -/

/-- Bit streams whose leading run of ones ends in the untranslatable window: the
run has `n` bits with `n % 5 = 3`, and the packet stream has room for it. -/
def EndsUntranslatable (bitstream : Bitstream) : Prop :=
  ∃ n rest, n % 5 = 3 ∧ n ≤ 398 ∧ bitstream = List.replicate n true ++ false :: rest

theorem leadingRun_of_not_endsUntranslatable {bitstream : Bitstream}
    (suitable : ¬EndsUntranslatable bitstream) : LeadingRun (v3Buffer bitstream) := by
  intro m room ones
  have short : 5 * m + 3 < buffersize - 1 := by
    simp only [pktsize, buffersize] at *
    omega
  rw [show 5 * m + 5 = 5 * m + 3 + 2 from rfl, getD_v3Buffer _ short]
  by_contra zero
  have leading : Ones bitstream 0 (0 + (5 * m + 3)) := by
    intro i _ below
    rw [← getD_v3Buffer _ (by omega)]
    exact ones (i + 2) (by omega) (by omega)
  have split := drop_of_ones_zero leading (by simpa using zero)
  apply suitable
  refine ⟨5 * m + 3, bitstream.drop (5 * m + 4), by omega, ?_, ?_⟩
  · simp only [pktsize] at room
    omega
  · simpa [Nat.add_assoc] using split

/-- The states of the loop in a leading run that ends in the untranslatable
window: `k` windows of ones are translated, and the restart position is still
the start of the buffer. -/
structure InLeadingRun (windows : Nat) (s : V3State) : Prop where
  read : s.readPtr = 5 * s.generatePacket
  generate_le : s.generatePacket ≤ windows
  restartRead : s.restartRead = 0
  restartPacket : s.restartPacket = 0
  firstTry : s.secondTry = false

/-- Where the leading run spans more than one window, the restart takes the same
byte for the first window again. -/
theorem InLeadingRun.step {buffer : Bitstream} {bufEnd windows : Nat} {s : V3State}
    (inRun : InLeadingRun windows s) (positive : 0 < windows) (room : windows < pktsize)
    (inBuffer : 5 * windows < bufEnd) (ones : Ones buffer 0 (5 * windows + 5))
    (zero : buffer.getD (5 * windows + 5) true = false) :
    ∃ next, v3Body buffer bufEnd s = .inl next ∧ InLeadingRun windows next := by
  have read := inRun.read
  have generate_le := inRun.generate_le
  have running : s.generatePacket < pktsize ∧ s.readPtr < bufEnd := ⟨by omega, by omega⟩
  rcases Nat.lt_or_eq_of_le generate_le with before | atEnd
  · have window : readNextSixBits (buffer.drop s.readPtr) = 0x3f := by
      apply window_of_ones
      exact ones.mono (Nat.zero_le _) (by omega)
    refine ⟨v3Emit buffer s, ?_, ?_⟩
    · rw [v3Body, if_pos running, if_neg (by rw [window]; decide)]
    · have five := stride_of_ones window false
      have reads : (v3Emit buffer s).readPtr = s.readPtr + stride buffer s.readPtr false := by
        simp [v3Emit, stride, inRun.firstTry]
      have counts : (v3Emit buffer s).generatePacket = s.generatePacket + 1 := rfl
      constructor
      · omega
      · omega
      · simp [v3Emit, window, untranslatable, inRun.restartRead]
      · simp [v3Emit, window, untranslatable, inRun.restartPacket]
      · rfl
  · have window : readNextSixBits (buffer.drop s.readPtr) = untranslatable := by
      apply window_of_ones_zero
      · exact ones.mono (Nat.zero_le _) (by omega)
      · rw [read, atEnd]
        exact zero
    have first : readNextSixBits (buffer.drop s.restartRead) = 0x3f := by
      apply window_of_ones
      exact ones.mono (Nat.zero_le _) (by rw [inRun.restartRead]; omega)
    refine ⟨v3Emit buffer (v3Restart s), ?_, ?_⟩
    · rw [v3Body, if_pos running, if_pos window]
    · have five := stride_of_ones first true
      have reads : (v3Emit buffer (v3Restart s)).readPtr =
          s.restartRead + stride buffer s.restartRead true := rfl
      have counts : (v3Emit buffer (v3Restart s)).generatePacket = s.restartPacket + 1 := rfl
      have restartPacket := inRun.restartPacket
      have restartRead := inRun.restartRead
      constructor
      · omega
      · omega
      · simp [v3Emit, v3Restart, restartRead]
      · simp [v3Emit, v3Restart, first, untranslatable, restartPacket]
      · rfl

/-- The routine ends and leaves every untranslatable window behind, unless the
leading run of ones ends in such a window. -/
theorem v3Terminates_leavesBehind_iff (bitstream : Bitstream) :
    V3Terminates bitstream ∧ V3LeavesBehind bitstream ↔ ¬EndsUntranslatable bitstream := by
  constructor
  · rintro ⟨⟨enough, result, terminates⟩, leavesBehind⟩ ⟨n, rest, residue, short, rfl⟩
    obtain ⟨windows, rfl⟩ : ∃ windows, n = 5 * windows + 3 := ⟨n / 5, by omega⟩
    rcases ones_v3Buffer (5 * windows + 3) rest (by rw [buffersize]; omega) with
      ⟨ones, zero⟩
    have inBuffer : 5 * windows <
        v3BufEnd (List.replicate (5 * windows + 3) true ++ false :: rest) := by
      simp [v3BufEnd, buffersize]
      omega
    have room : windows < pktsize := by
      simp only [pktsize]
      omega
    rcases Nat.eq_zero_or_pos windows with rfl | positive
    · -- The window is the first one, which is also the restart position.
      have meets : MeetsUntranslatable
          (v3Buffer (List.replicate (5 * 0 + 3) true ++ false :: rest))
          (v3BufEnd (List.replicate (5 * 0 + 3) true ++ false :: rest)) v3Init :=
        ⟨⟨room, inBuffer⟩, window_of_ones_zero ones zero⟩
      exact (leavesBehind v3Init (LoopReaches.refl _ _) meets).1 rfl
    · have running := iterate_diverges
        (fun state inRun => InLeadingRun.step inRun positive room inBuffer ones zero)
        (⟨rfl, Nat.zero_le _, rfl, rfl, rfl⟩ : InLeadingRun windows v3Init) enough
      have finished := terminates enough (Nat.le_refl _)
      rw [translateBitstream2PacketstreamV3, running] at finished
      contradiction
  · intro suitable
    have leadingRun := leadingRun_of_not_endsUntranslatable suitable
    constructor
    · rcases translateBitstream2PacketstreamV3_total bitstream leadingRun with
        ⟨enough, result, _, finished⟩
      exact ⟨enough, result, finished⟩
    · exact v3LeavesBehind_of_leadingRun leadingRun

/-- Eight ones, a zero and a final one: the stream starts with a `1`, and the
routine never ends. -/
theorem v3_not_terminates_eightOnes :
    ¬∀ bitstream : Bitstream, bitstream.head? = some true →
      V3Terminates bitstream ∧ V3LeavesBehind bitstream := by
  intro always
  have running : ∀ fuel, translateBitstream2PacketstreamV3 fuel
      [true, true, true, true, true, true, true, true, false, true] = none := by
    intro fuel
    rcases ones_v3Buffer 8 [true] (by decide) with ⟨ones, zero⟩
    exact iterate_diverges
      (fun state inRun => InLeadingRun.step inRun (by decide) (by decide) (by decide) ones zero)
      (⟨rfl, Nat.zero_le _, rfl, rfl, rfl⟩ : InLeadingRun 1 v3Init) fuel
  rcases always [true, true, true, true, true, true, true, true, false, true] rfl with
    ⟨⟨enough, result, terminates⟩, _⟩
  have finished := terminates enough (Nat.le_refl _)
  rw [running enough] at finished
  contradiction

end Srcpd.Ddl
