import Srcpd.Ddl.V3Restart

/-!
# The path of the reader

How many bytes the third routine needs is decided by the positions at which its
bytes finally end.  A window is translated with its first try, unless this leads
to a run of ones that ends in the untranslatable window (`runsOut`); then the
restart chooses the second try.  So the final positions are those of a function
of the bits alone (`position`), and at every moment the reader has passed the
final position of the byte it is about to write.
-/

namespace Srcpd.Ddl

open Srcpd.Transition

/-- A run of ones that is a positive multiple of five bits long and ends in a
`0`: read five bits at a time, it leads to the untranslatable window. -/
def runsOut : Bitstream → Bool
  | true :: true :: true :: true :: true :: false :: _ => true
  | true :: true :: true :: true :: true :: rest => runsOut rest
  | _ => false

/-- The number of bits the first and the second try move the reader on, by the
bits of the window. -/
def tries : Bitstream → Nat × Nat
  | false :: false :: false :: _ => (2, 1)
  | false :: false :: true :: _ => (3, 2)
  | false :: true :: true :: true :: true :: _ => (4, 3)
  | false :: true :: _ => (3, 2)
  | true :: false :: false :: _ => (2, 1)
  | true :: false :: true :: true :: true :: _ => (4, 3)
  | true :: false :: true :: _ => (3, 2)
  | true :: true :: false :: true :: true :: _ => (4, 3)
  | true :: true :: false :: _ => (3, 2)
  | true :: true :: true :: false :: false :: _ => (3, 3)
  | true :: true :: true :: false :: true :: _ => (4, 3)
  | true :: true :: true :: true :: false :: _ => (4, 4)
  | _ => (5, 5)

/-- The number of bits the final byte for the window moves the reader on. -/
def move (bits : Bitstream) : Nat :=
  let lengths := tries bits
  if runsOut (bits.drop lengths.1) then lengths.2 else lengths.1

/-- The bits behind the final byte for the window. -/
def advance (bits : Bitstream) : Bitstream := bits.drop (move bits)

/-- Where the first `n` bytes end. -/
def position (buffer : Bitstream) : Nat → Nat
  | 0 => 0
  | n + 1 => position buffer n + move (buffer.drop (position buffer n))

theorem drop_position (buffer : Bitstream) (n : Nat) :
    buffer.drop (position buffer n) = advance^[n] buffer := by
  induction n with
  | zero => rfl
  | succ n ih =>
      rw [position, ← List.drop_drop, Function.iterate_succ_apply', ← ih, advance]

/-! ## Moves -/

theorem tries_table : ∀ a b c d e f : Bool,
    let window := readNextSixBits [a, b, c, d, e, f] >>> 1
    tries [a, b, c, d, e, f] = ((translateDataV3At window false).patternlength,
      (translateDataV3At window true).patternlength) := by
  decide

theorem tries_window (a b c d e f : Bool) (rest : Bitstream) :
    tries (a :: b :: c :: d :: e :: f :: rest) = tries [a, b, c, d, e, f] := by
  cases a <;> cases b <;> cases c <;> cases d <;> cases e <;> rfl

theorem tries_le (bits : Bitstream) : (tries bits).1 ≤ 5 ∧ (tries bits).2 ≤ 5 := by
  unfold tries
  split <;> simp

theorem move_le (bits : Bitstream) : move bits ≤ 5 := by
  rcases tries_le bits with ⟨first, second⟩
  rw [move]
  split
  · exact second
  · exact first

section Buffer

variable {buffer : Bitstream} {r : Nat}

theorem tries_drop (room : r + 6 ≤ buffer.length) :
    tries (buffer.drop r) = (stride buffer r false, stride buffer r true) := by
  rcases exists_window room with ⟨a, b, c, d, e, f, rest, here⟩
  rw [stride, stride, here, tries_window, readNextSixBits_window, tries_table]

theorem move_drop (room : r + 6 ≤ buffer.length) :
    move (buffer.drop r) =
      if runsOut (buffer.drop (r + stride buffer r false)) then stride buffer r true
      else stride buffer r false := by
  rw [move, tries_drop room, List.drop_drop]

theorem position_add_le (n m : Nat) : position buffer (n + m) ≤ position buffer n + 5 * m := by
  induction m with
  | zero => exact Nat.le_refl _
  | succ m ih =>
      have small := move_le (buffer.drop (position buffer (n + m)))
      rw [← Nat.add_assoc, position]
      omega

theorem position_mono : Monotone (position buffer) :=
  monotone_nat_of_le_succ fun _ => Nat.le_add_right _ _

/-! ## Runs of ones -/

theorem runsOut_of_untranslatable (room : r + 6 ≤ buffer.length)
    (window : readNextSixBits (buffer.drop r) = untranslatable) :
    runsOut (buffer.drop r) = true := by
  rcases exists_window room with ⟨a, b, c, d, e, f, rest, here⟩
  rw [here, readNextSixBits_window, window_eq_untranslatable_iff] at window
  rcases window with ⟨rfl, rfl, rfl, rfl, rfl, rfl⟩
  rw [here, runsOut]

theorem runsOut_add_five (room : r + 6 ≤ buffer.length)
    (window : readNextSixBits (buffer.drop r) = 0x3f) :
    runsOut (buffer.drop (r + 5)) = runsOut (buffer.drop r) := by
  have ones := ones_of_window room window
  rcases exists_window room with ⟨a, b, c, d, e, f, rest, here⟩
  rw [← List.drop_drop, here]
  have bit (k : Nat) (small : k < 6) : [a, b, c, d, e, f].getD k true = true := by
    rw [← getD_window here small]
    exact ones (r + k) (by omega) (by omega)
  obtain rfl := bit 0 (by omega)
  obtain rfl := bit 1 (by omega)
  obtain rfl := bit 2 (by omega)
  obtain rfl := bit 3 (by omega)
  obtain rfl := bit 4 (by omega)
  obtain rfl := bit 5 (by omega)
  rfl

theorem runsOut_replicate (n : Nat) (rest : Bitstream) :
    runsOut (List.replicate n true ++ false :: rest) = (decide (0 < n) && decide (n % 5 = 0)) := by
  induction n using Nat.strong_induction_on with
  | _ n ih =>
      match n with
      | 0 => rfl
      | 1 => rfl
      | 2 => rfl
      | 3 => rfl
      | 4 => rfl
      | 5 => rfl
      | n + 6 =>
          have step : runsOut (List.replicate (n + 6) true ++ false :: rest) =
              runsOut (List.replicate (n + 1) true ++ false :: rest) := rfl
          rw [step, ih (n + 1) (by omega), Nat.add_mod_right (n + 1) 5]
          simp

theorem exists_of_runsOut {bits : Bitstream} (out : runsOut bits = true) :
    ∃ m rest, bits = List.replicate (5 * m + 5) true ++ false :: rest := by
  fun_induction runsOut bits with
  | case1 rest => exact ⟨0, rest, rfl⟩
  | case2 rest _ ih =>
      rcases ih out with ⟨m, more, rfl⟩
      exact ⟨m + 1, more, rfl⟩
  | case3 => contradiction

theorem ones_of_runsOut (out : runsOut (buffer.drop r) = true) : Ones buffer r (r + 5) := by
  rcases exists_of_runsOut out with ⟨m, rest, here⟩
  intro i above below
  obtain ⟨k, rfl⟩ : ∃ k, i = r + k := ⟨i - r, by omega⟩
  rw [getD_of_drop_eq here, List.getD_eq_getElem?_getD,
    List.getElem?_append_left (by rw [List.length_replicate]; omega), List.getElem?_replicate,
    if_pos (by omega)]
  rfl

theorem not_fixed_of_runsOut (out : runsOut (buffer.drop r) = true) :
    ¬readNextSixBits (buffer.drop r) < untranslatable := by
  rcases exists_of_runsOut out with ⟨m, rest, here⟩
  rw [here]
  cases m with
  | zero =>
      rw [show List.replicate (5 * 0 + 5) true ++ false :: rest =
        true :: true :: true :: true :: true :: false :: rest from rfl, readNextSixBits_window]
      decide
  | succ m =>
      rw [show List.replicate (5 * (m + 1) + 5) true ++ false :: rest =
        true :: true :: true :: true :: true :: true ::
          (List.replicate (5 * m + 4) true ++ false :: rest) from rfl, readNextSixBits_window]
      decide

/-- One bit before a run that runs out there is none. -/
theorem runsOut_cons {bits : Bitstream} (out : runsOut bits = true) (bit : Bool) :
    runsOut (bit :: bits) = false := by
  rcases exists_of_runsOut out with ⟨m, rest, rfl⟩
  cases bit with
  | false => rfl
  | true =>
      rw [← List.cons_append, ← List.replicate_succ, runsOut_replicate]
      simp
      omega

/-- In a run that does not run out no end is a multiple of five bits away. -/
theorem getD_of_not_runsOut {m : Nat} (quiet : runsOut (buffer.drop r) = false)
    (ones : Ones buffer r (r + (5 * m + 5))) : buffer.getD (r + (5 * m + 5)) true = true := by
  by_contra zero
  rw [drop_of_ones_zero ones (by simpa using zero), runsOut_replicate] at quiet
  simp at quiet

theorem leadingRun_of_not_runsOut (quiet : runsOut buffer = false) : LeadingRun buffer := by
  intro m _ ones
  have start := @getD_of_not_runsOut buffer 0 m quiet
  rw [Nat.zero_add] at start
  exact start ones

/-! ## The reader follows the path -/

/-- The reader is on the path; or it went on with the first try of the restart
position into a run that runs out, and `m` windows of ones behind it. -/
inductive Follows (buffer : Bitstream) (s : V3State) : Prop
  | onPath (read : s.readPtr = position buffer s.generatePacket)
      (quiet : runsOut (buffer.drop s.readPtr) = false)
  | ahead (m : Nat) (restart : s.restartRead = position buffer s.restartPacket)
      (fixed : readNextSixBits (buffer.drop s.restartRead) < untranslatable)
      (enters : runsOut (buffer.drop (s.restartRead + stride buffer s.restartRead false)) = true)
      (read : s.readPtr = s.restartRead + stride buffer s.restartRead false + 5 * m)
      (packets : s.generatePacket = s.restartPacket + 1 + m)
      (out : runsOut (buffer.drop s.readPtr) = true)

end Buffer

section Loop

variable {buffer : Bitstream} {bufEnd : Nat} {s next : V3State}

/-- The window at the restart position is translated with the second try in the
end. -/
theorem position_restart {q n : Nat} (inRange : q + 6 ≤ buffer.length)
    (restart : q = position buffer n)
    (enters : runsOut (buffer.drop (q + stride buffer q false)) = true) :
    position buffer (n + 1) = q + stride buffer q true := by
  rw [position, ← restart, move_drop inRange, if_pos enters]

theorem stride_of_enters {q : Nat} (inRange : q + 6 ≤ buffer.length)
    (fixed : readNextSixBits (buffer.drop q) < untranslatable)
    (enters : runsOut (buffer.drop (q + stride buffer q false)) = true) :
    stride buffer q false = stride buffer q true + 1 := by
  have lower := (stride_bounds false inRange (Nat.ne_of_lt fixed) (by simp)).1
  exact stride_secondTry inRange fixed (ones_of_runsOut enters) (by omega)

/-- The reader has passed the end of the bytes before the next one. -/
theorem Follows.position_le (follows : Follows buffer s) (room : buffer.length = bufEnd + 6)
    (read_lt : s.readPtr < bufEnd) : position buffer s.generatePacket ≤ s.readPtr := by
  cases follows with
  | onPath read quiet => exact Nat.le_of_eq read.symm
  | ahead m restart fixed enters read packets out =>
      have inRange : s.restartRead + 6 ≤ buffer.length := by omega
      have path := position_restart inRange restart enters
      have shorter := stride_of_enters inRange fixed enters
      have further := @position_add_le buffer (s.restartPacket + 1) m
      rw [packets]
      omega

/-- One iteration keeps the reader on the path or ahead of it. -/
theorem Follows.step (follows : Follows buffer s) (firstTry : s.secondTry = false)
    (room : buffer.length = bufEnd + 6) (taken : v3Body buffer bufEnd s = .inl next) :
    Follows buffer next := by
  rcases v3Body_cases taken with ⟨⟨_, read_lt⟩, ⟨window, rfl⟩ | ⟨translatable, rfl⟩⟩
  · have out := runsOut_of_untranslatable (by omega) window
    cases follows with
    | onPath read quiet =>
        rw [out] at quiet
        contradiction
    | ahead m restart fixed enters read packets _ =>
        have inRange : s.restartRead + 6 ≤ buffer.length := by omega
        have path := position_restart inRange restart enters
        have shorter := stride_of_enters inRange fixed enters
        have reads : (v3Emit buffer (v3Restart s)).readPtr =
            s.restartRead + stride buffer s.restartRead true := rfl
        have before : s.restartRead + stride buffer s.restartRead true < buffer.length := by omega
        apply Follows.onPath
        · rw [reads, ← path]
          rfl
        · rw [reads, List.drop_eq_getElem_cons before, Nat.add_assoc, ← shorter]
          exact runsOut_cons enters _
  · have inRange : s.readPtr + 6 ≤ buffer.length := by omega
    have reads : (v3Emit buffer s).readPtr = s.readPtr + stride buffer s.readPtr false := by
      simp [v3Emit, stride, firstTry]
    have counts : (v3Emit buffer s).generatePacket = s.generatePacket + 1 := rfl
    rcases window_translatable inRange translatable with fixed | ones
    · have restartRead : (v3Emit buffer s).restartRead = s.readPtr := by simp [v3Emit, fixed]
      have restartPacket : (v3Emit buffer s).restartPacket = s.generatePacket := by
        simp [v3Emit, fixed]
      cases follows with
      | onPath read quiet =>
          cases enters : runsOut (buffer.drop (s.readPtr + stride buffer s.readPtr false)) with
          | false =>
              apply Follows.onPath
              · rw [counts, position, ← read, move_drop inRange, if_neg (by simp [enters]), reads]
              · rw [reads]
                exact enters
          | true =>
              apply Follows.ahead 0
              · rw [restartRead, restartPacket, read]
              · rw [restartRead]
                exact fixed
              · rw [restartRead]
                exact enters
              · rw [restartRead, reads]
                rfl
              · rw [restartPacket, counts]
              · rw [reads]
                exact enters
      | ahead m restart _ enters read packets out =>
          exact absurd fixed (not_fixed_of_runsOut out)
    · have five := stride_of_ones ones false
      have onward := runsOut_add_five inRange ones
      have restartRead : (v3Emit buffer s).restartRead = s.restartRead := by
        simp [v3Emit, ones, untranslatable]
      have restartPacket : (v3Emit buffer s).restartPacket = s.restartPacket := by
        simp [v3Emit, ones, untranslatable]
      cases follows with
      | onPath read quiet =>
          apply Follows.onPath
          · rw [counts, position, ← read, move_drop inRange, five, onward,
              if_neg (by simp [quiet]), reads, five]
          · rw [reads, five, onward]
            exact quiet
      | ahead m restart fixed enters read packets out =>
          apply Follows.ahead (m + 1)
          · rw [restartRead, restartPacket]
            exact restart
          · rw [restartRead]
            exact fixed
          · rw [restartRead]
            exact enters
          · rw [restartRead, reads, five]
            omega
          · rw [restartPacket, counts]
            omega
          · rw [reads, five, onward]
            exact out

/-- Where the path has passed the buffer after `n` bytes, no more than `n` bytes
are written at any time. -/
theorem generatePacket_le {n : Nat} (quiet : runsOut buffer = false)
    (room : buffer.length = bufEnd + 6) (passed : bufEnd ≤ position buffer n)
    (reaches : LoopReaches (v3Body buffer bufEnd) v3Init s) : s.generatePacket ≤ n := by
  have continues : ∀ state next,
      Follows buffer state ∧ state.secondTry = false ∧ state.generatePacket ≤ n →
        v3Body buffer bufEnd state = .inl next →
          Follows buffer next ∧ next.secondTry = false ∧ next.generatePacket ≤ n := by
    rintro state next ⟨follows, firstTry, le⟩ taken
    have onward := follows.step firstTry room taken
    rcases v3Body_cases taken with ⟨⟨_, read_lt⟩, ⟨window, rfl⟩ | ⟨translatable, rfl⟩⟩
    · refine ⟨onward, rfl, ?_⟩
      have counts : (v3Emit buffer (v3Restart state)).generatePacket =
          state.restartPacket + 1 := rfl
      cases follows with
      | onPath read calm =>
          rw [runsOut_of_untranslatable (by omega) window] at calm
          contradiction
      | ahead m restart fixed enters read packets out => omega
    · refine ⟨onward, rfl, ?_⟩
      have counts : (v3Emit buffer state).generatePacket = state.generatePacket + 1 := rfl
      have behind := follows.position_le room read_lt
      have before : state.generatePacket < n := by
        by_contra notBefore
        have far := @position_mono buffer n state.generatePacket (by omega)
        omega
      omega
  exact (reaches.invariant continues ⟨.onPath rfl quiet, rfl, Nat.zero_le n⟩).2.2

end Loop

/-- The routine ends because the whole bit stream was read: after at most `n`
bytes the reader has passed the end of the buffer. -/
theorem translateBitstream2PacketstreamV3_readsAll {bitstream : Bitstream} {n : Nat}
    (quiet : runsOut (v3Buffer bitstream) = false)
    (passed : v3BufEnd bitstream ≤ position (v3Buffer bitstream) n) (inPacket : n < pktsize) :
    ∃ enough last,
      LoopReaches (v3Body (v3Buffer bitstream) (v3BufEnd bitstream)) v3Init last ∧
        v3BufEnd bitstream ≤ last.readPtr ∧
        V3Result (v3Buffer bitstream) (v3BufEnd bitstream)
          (last.generatePacket, last.packetstream) ∧
        ∀ fuel, enough ≤ fuel → translateBitstream2PacketstreamV3 fuel bitstream =
          some (last.generatePacket, last.packetstream) := by
  rcases translateBitstream2PacketstreamV3_total bitstream (leadingRun_of_not_runsOut quiet) with
    ⟨enough, result, whole, finished⟩
  rcases iterate_last (finished enough (Nat.le_refl _)) with ⟨last, reaches, left⟩
  have count := generatePacket_le quiet (v3Buffer_length bitstream) passed reaches
  rw [v3Body] at left
  by_cases running : last.generatePacket < pktsize ∧ last.readPtr < v3BufEnd bitstream
  · rw [if_pos running] at left
    split at left <;> contradiction
  · rw [if_neg running] at left
    cases left
    exact ⟨enough, last, reaches, by omega, whole, finished⟩

end Srcpd.Ddl
