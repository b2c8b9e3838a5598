import Srcpd.Info.Frames
import Srcpd.Transition.Core

/-!
# The INFO client

Messages come through a pipe, each behind it with a NUL byte, and go to the socket
without it.  A read that fills the buffer may cut a message; its beginning is then
moved to the start of the buffer and completed by the next read.  After such a read
the loop over the messages counts what it wrote from the start of the buffer, but
compares the count with the number of bytes just read.

`delivers_iff` is the exact condition under which this loses nothing.
-/

namespace Srcpd.Info

open Srcpd.Transition

/-! ## The client -/

/-- The character that ends a message in the pipe. -/
def nul : Char := Char.ofNat 0

/-- `sizeof(pipebuffer)`. -/
def pipebufferSize : Nat := 2048

/-- A message as the pipe can take it. -/
structure InfoMessage where
  text : List Char
  nonempty : text ≠ []
  clean : nul ∉ text
  short : text.length < pipebufferSize

/-- The pipe, the buffer with the length of the piece at its start, and what went to
the socket; `sent` is the record of all messages. -/
structure InfoClient where
  pipe : List Char
  pipebuffer : List Char
  linelen : Nat
  socket : List Char
  ended : Bool
  sent : List InfoMessage

/-- The last NUL byte at or before a position. -/
def scanNul (buffer : List Char) : Nat → Option Nat
  | 0 => if buffer.getD 0 nul = nul then some 0 else none
  | i + 1 => if buffer.getD (i + 1) nul = nul then some (i + 1) else scanNul buffer i

/-- What the inner loop wrote, the length of its last write, and whether it arrived
at the cut message. -/
structure Writing where
  written : List Char
  swritten : Nat
  reached : Bool

/-- The inner loop; `total` is the offset in the buffer as well. -/
def writeTexts (buffer : List Char) (rwresult : Nat) (linestart : Option Int) :
    Nat → Nat → Writing
  | 0, _ => ⟨[], 0, false⟩
  | fuel + 1, total =>
      let text := (buffer.drop total).takeWhile fun symbol => symbol != nul
      let next := total + (text.length + 1)
      if linestart = some (next : Int) then ⟨text, text.length, true⟩
      else if next < rwresult ∧ 0 < text.length then
        let later := writeTexts buffer rwresult linestart fuel next
        { later with written := text ++ later.written }
      else ⟨text, text.length, false⟩

/-- What still fits into the buffer behind a rest of a line. -/
def InfoClient.bufferlen (client : InfoClient) : Nat :=
  pipebufferSize - client.linelen

/-- The bytes that a read gets now. -/
def InfoClient.fresh (client : InfoClient) : List Char :=
  client.pipe.take client.bufferlen

/-- One read and the writes for it; `none` while the pipe is empty. -/
def InfoClient.receive (client : InfoClient) : Option InfoClient :=
  let fresh := client.fresh
  if fresh = [] then none
  else
    let buffer := client.pipebuffer.take client.linelen ++ fresh ++
      client.pipebuffer.drop (client.linelen + fresh.length)
    let truncated : Bool :=
      fresh.length == client.bufferlen && buffer.getD (pipebufferSize - 1) nul != nul
    let last := if truncated then scanNul buffer (pipebufferSize - 2) else none
    -- without a NUL byte the pointer stops before the start of the buffer
    let linestart : Option Int :=
      if truncated then some (last.elim (-1) fun i => (i : Int) + 1) else none
    let linelen := last.elim 0 fun i => pipebufferSize - 1 - i
    if linestart = some 0 then some { client with ended := true }
    else
      let writing := writeTexts buffer fresh.length linestart pipebufferSize 0
      some
        { client with
          pipe := client.pipe.drop client.bufferlen
          pipebuffer :=
            if writing.reached then
              (buffer.drop (pipebufferSize - linelen)).take linelen ++ buffer.drop linelen
            else buffer
          linelen := linelen
          socket := client.socket ++ writing.written
          ended := writing.swritten == 0 }

/-- A message is queued, or the client thread reads from its pipe. -/
inductive InfoAction
  | enqueue (message : InfoMessage)
  | receive

/-- A step of a producer or of the client thread. -/
def infoStep : Step InfoClient InfoAction
  | client, .enqueue message =>
      some { client with
        pipe := client.pipe ++ (message.text ++ [nul])
        sent := client.sent ++ [message] }
  | client, .receive => if client.ended then none else client.receive

/-- A session at the start of its loop; the buffer is not initialised. -/
def infoSession (pipebuffer : List Char) : InfoClient :=
  { pipe := [], pipebuffer := pipebuffer, linelen := 0, socket := [], ended := false, sent := [] }

/-! ## What has to hold -/

/-- The socket got the first messages, complete and in order, and the others are
in the buffer and the pipe; no message ended the session. -/
structure InfoClient.Delivers (client : InfoClient) : Prop where
  alive : client.ended = false
  split : ∃ done rest, client.sent = done ++ rest ∧
    client.socket = (done.map InfoMessage.text).flatten ∧
    client.pipebuffer.take client.linelen ++ client.pipe =
      frames nul (rest.map InfoMessage.text)

/-- The last message that a read completes starts before as many bytes as the read
got. -/
def StartsInRead (client : InfoClient) : InfoAction → Prop
  | .receive => client.fresh ≠ [] →
      lastStart nul (client.pipebuffer.take client.linelen ++ client.fresh) < client.fresh.length
  | .enqueue _ => True

/-! ## The inner loop -/

variable {buffer junk : List Char} {rwresult fuel total : Nat} {linestart : Option Int}
  {text : List Char} {texts : List (List Char)}

theorem length_frames_pos : 0 < (frames nul (text :: texts)).length := by
  rw [length_frames, List.length_cons]
  omega

/-- The loop up to the last message: it stops there, at the cut message or because
everything was written. -/
theorem writeTexts_complete (content : buffer.drop total = frames nul (text :: texts) ++ junk)
    (clean : ∀ other ∈ text :: texts, nul ∉ other)
    (nonempty : ∀ other ∈ text :: texts, other ≠ [])
    (ends : linestart = some ((total + (frames nul (text :: texts)).length : Nat) : Int) ∨
      (linestart = none ∧ rwresult ≤ total + (frames nul (text :: texts)).length))
    (inside : texts = [] ∨ total + (frames nul (text :: texts).dropLast).length < rwresult)
    (enough : texts.length < fuel) :
    (writeTexts buffer rwresult linestart fuel total).written = (text :: texts).flatten ∧
      0 < (writeTexts buffer rwresult linestart fuel total).swritten ∧
      (writeTexts buffer rwresult linestart fuel total).reached = linestart.isSome := by
  induction texts generalizing text total fuel with
  | nil =>
      rcases fuel with _ | fuel
      · cases enough
      · have here : (buffer.drop total).takeWhile (fun symbol => symbol != nul) = text := by
          rw [content, frames_cons, List.append_assoc, List.cons_append]
          exact takeWhile_text (clean text List.mem_cons_self) _
        have positive : 0 < text.length :=
          List.length_pos_of_ne_nil (nonempty text List.mem_cons_self)
        have length : (frames nul [text]).length = text.length + 1 := by
          simp [frames]
        rw [length] at ends
        rw [writeTexts]
        simp only [here]
        rcases ends with cut | ⟨none, written⟩
        · rw [if_pos cut, cut]
          simpa using positive
        · subst none
          rw [if_neg (by simp), if_neg (by omega)]
          simpa using positive
  | cons second texts ih =>
      rcases fuel with _ | fuel
      · cases enough
      · have here : (buffer.drop total).takeWhile (fun symbol => symbol != nul) = text := by
          rw [content, frames_cons, List.append_assoc, List.cons_append]
          exact takeWhile_text (clean text List.mem_cons_self) _
        have positive : 0 < text.length :=
          List.length_pos_of_ne_nil (nonempty text List.mem_cons_self)
        have behind : buffer.drop (total + (text.length + 1)) =
            frames nul (second :: texts) ++ junk := by
          rw [← List.drop_drop, content, frames_cons]
          simp [List.drop_append]
        have length : (frames nul (text :: second :: texts)).length =
            text.length + 1 + (frames nul (second :: texts)).length := by
          rw [frames_cons, List.length_append, List.length_cons]
          omega
        have lengthLast : (frames nul (text :: second :: texts).dropLast).length =
            text.length + 1 + (frames nul (second :: texts).dropLast).length := by
          rw [List.dropLast_cons_cons, frames_cons, List.length_append, List.length_cons]
          omega
        have further : 0 < (frames nul (second :: texts)).length := length_frames_pos
        rcases inside with nothing | inside
        · cases nothing
        · rw [lengthLast] at inside
          rw [length] at ends
          have notYet : linestart ≠ some ((total + (text.length + 1) : Nat) : Int) := by
            rcases ends with cut | ⟨none, _⟩
            · rw [cut]
              simp only [ne_eq, Option.some.injEq, Nat.cast_inj]
              omega
            · rw [none]
              simp
          have rest := ih behind
            (fun other mem => clean other (List.mem_cons_of_mem _ mem))
            (fun other mem => nonempty other (List.mem_cons_of_mem _ mem))
            (by rcases ends with cut | ⟨none, written⟩
                · left
                  rw [cut]
                  simp only [Option.some.injEq, Nat.cast_inj]
                  omega
                · exact .inr ⟨none, by omega⟩)
            (.inr (by omega)) (Nat.lt_of_succ_lt_succ enough)
          rw [writeTexts]
          simp only [here]
          rw [if_neg notYet, if_pos ⟨by omega, positive⟩]
          rcases rest with ⟨written, swritten, reached⟩
          refine ⟨?_, swritten, reached⟩
          simp only [written, List.flatten_cons]

/-- When the last message starts behind the count of the read, it is left out. -/
theorem writeTexts_incomplete (content : buffer.drop total = frames nul (text :: texts) ++ junk)
    (clean : ∀ other ∈ text :: texts, nul ∉ other)
    (nonempty : ∀ other ∈ text :: texts, other ≠ [])
    (ends : linestart = some ((total + (frames nul (text :: texts)).length : Nat) : Int) ∨
      (linestart = none ∧ rwresult ≤ total + (frames nul (text :: texts)).length))
    (several : texts ≠ [])
    (outside : rwresult ≤ total + (frames nul (text :: texts).dropLast).length)
    (enough : texts.length < fuel) :
    (writeTexts buffer rwresult linestart fuel total).written.length <
      (text :: texts).flatten.length := by
  induction texts generalizing text total fuel with
  | nil => exact absurd rfl several
  | cons second texts ih =>
      rcases fuel with _ | fuel
      · cases enough
      · have here : (buffer.drop total).takeWhile (fun symbol => symbol != nul) = text := by
          rw [content, frames_cons, List.append_assoc, List.cons_append]
          exact takeWhile_text (clean text List.mem_cons_self) _
        have positive : 0 < text.length :=
          List.length_pos_of_ne_nil (nonempty text List.mem_cons_self)
        have secondPositive : 0 < second.length :=
          List.length_pos_of_ne_nil (nonempty second (by simp))
        have behind : buffer.drop (total + (text.length + 1)) =
            frames nul (second :: texts) ++ junk := by
          rw [← List.drop_drop, content, frames_cons]
          simp [List.drop_append]
        have length : (frames nul (text :: second :: texts)).length =
            text.length + 1 + (frames nul (second :: texts)).length := by
          rw [frames_cons, List.length_append, List.length_cons]
          omega
        have lengthLast : (frames nul (text :: second :: texts).dropLast).length =
            text.length + 1 + (frames nul (second :: texts).dropLast).length := by
          rw [List.dropLast_cons_cons, frames_cons, List.length_append, List.length_cons]
          omega
        have further : 0 < (frames nul (second :: texts)).length := length_frames_pos
        rw [lengthLast] at outside
        rw [length] at ends
        have notYet : linestart ≠ some ((total + (text.length + 1) : Nat) : Int) := by
          rcases ends with cut | ⟨none, _⟩
          · rw [cut]
            simp only [ne_eq, Option.some.injEq, Nat.cast_inj]
            omega
          · rw [none]
            simp
        rw [writeTexts]
        simp only [here]
        rw [if_neg notYet]
        by_cases goesOn : total + (text.length + 1) < rwresult
        · rw [if_pos ⟨goesOn, positive⟩]
          have more : texts ≠ [] := by
            rintro rfl
            simp only [List.dropLast_singleton, frames_nil, List.length_nil] at outside
            omega
          have rest := ih behind
            (fun other mem => clean other (List.mem_cons_of_mem _ mem))
            (fun other mem => nonempty other (List.mem_cons_of_mem _ mem))
            (by rcases ends with cut | ⟨none, written⟩
                · left
                  rw [cut]
                  simp only [Option.some.injEq, Nat.cast_inj]
                  omega
                · exact .inr ⟨none, by omega⟩)
            more (by omega) (Nat.lt_of_succ_lt_succ enough)
          simp only [List.flatten_cons, List.length_append] at rest ⊢
          omega
        · rw [if_neg fun both => goesOn both.1]
          simp only [List.flatten_cons, List.length_append]
          omega

/-- The scan from the end of the buffer finds the NUL byte before a cut message. -/
theorem scanNul_eq {front tail : List Char} (content : buffer = front ++ nul :: tail)
    (clean : nul ∉ tail) {start : Nat} (from' : front.length ≤ start)
    (inside : start < buffer.length) : scanNul buffer start = some front.length := by
  induction start with
  | zero =>
      have empty : front = [] := List.length_eq_zero_iff.mp (Nat.le_zero.mp from')
      simp [scanNul, content, empty]
  | succ start ih =>
      rw [scanNul]
      by_cases here : front.length = start + 1
      · have found : buffer.getD (start + 1) nul = nul := by
          rw [content, ← here]
          simp
        rw [if_pos found, here]
      · have other : buffer.getD (start + 1) nul ≠ nul := by
          intro found
          apply clean
          rw [content, List.length_append, List.length_cons] at inside
          have index : start + 1 - front.length = start - front.length + 1 := by omega
          have bound : start - front.length < tail.length := by omega
          have entry : buffer[start + 1]? = tail[start - front.length]? := by
            rw [content, List.getElem?_append_right (by omega), index, List.getElem?_cons_succ]
          rw [List.getD_eq_getElem?_getD, entry, List.getElem?_eq_getElem bound,
            Option.getD_some] at found
          rw [← found]
          exact List.getElem_mem bound
        rw [if_neg other]
        exact ih (by omega) (by omega)

/-! ## One read -/

/-- The client between two reads: the piece at the start of the buffer is the
beginning of the next message. -/
structure InfoClient.Inv (client : InfoClient) : Prop where
  size : client.pipebuffer.length = pipebufferSize
  room : client.linelen < pipebufferSize
  piece : nul ∉ client.pipebuffer.take client.linelen
  delivers : client.Delivers

variable {client next : InfoClient}

/-- What the buffer holds behind a read: messages, at least one of them complete,
and the piece of a cut one, which fills it. -/
theorem InfoClient.Inv.read (inv : client.Inv) (some_bytes : client.fresh ≠ []) :
    ∃ done first later rest tail, client.sent = done ++ (first :: later) ++ rest ∧
      client.socket = (done.map InfoMessage.text).flatten ∧
      client.pipebuffer.take client.linelen ++ client.fresh =
        frames nul ((first :: later).map InfoMessage.text) ++ tail ∧
      tail ++ client.pipe.drop client.bufferlen = frames nul (rest.map InfoMessage.text) ∧
      nul ∉ tail ∧
      (tail ≠ [] → (client.pipebuffer.take client.linelen ++ client.fresh).length =
        pipebufferSize) := by
  rcases inv.delivers.split with ⟨done, waiting, sent, socket, stream⟩
  have size := inv.size
  have room := inv.room
  have pieceLength : (client.pipebuffer.take client.linelen).length = client.linelen := by
    rw [List.length_take]
    omega
  have pieceShort : (client.pipebuffer.take client.linelen).length ≤ pipebufferSize := by omega
  have whole : client.pipebuffer.take client.linelen ++ client.fresh =
      (frames nul (waiting.map InfoMessage.text)).take pipebufferSize := by
    rw [← stream, List.take_append, List.take_of_length_le pieceShort, pieceLength]
    rfl
  have left : client.pipe.drop client.bufferlen =
      (frames nul (waiting.map InfoMessage.text)).drop pipebufferSize := by
    rw [← stream, List.drop_append, List.drop_of_length_le pieceShort, pieceLength,
      List.nil_append]
    rfl
  have cleanTexts : ∀ text ∈ waiting.map InfoMessage.text, nul ∉ text := by
    intro text mem
    rcases List.mem_map.mp mem with ⟨message, _, rfl⟩
    exact message.clean
  rcases take_frames cleanTexts pipebufferSize with
    ⟨complete, incomplete, tail, split, taken, remains, cleanTail, short⟩
  rcases List.map_eq_append_iff.mp split with ⟨completed, rest, waitingEq, rfl, rfl⟩
  have full : tail ≠ [] → (client.pipebuffer.take client.linelen ++ client.fresh).length =
      pipebufferSize := by
    intro cut
    rw [whole, List.length_take]
    by_contra notFull
    have nothing : (frames nul (waiting.map InfoMessage.text)).drop pipebufferSize = [] := by
      rw [List.drop_eq_nil_iff]
      omega
    rw [nothing, List.append_nil] at remains
    cases rest with
    | nil => exact cut remains
    | cons message rest =>
        apply cleanTail
        rw [remains, List.map_cons, frames_cons]
        simp
  cases completed with
  | nil =>
      exfalso
      rw [List.map_nil, frames_nil, List.nil_append, ← whole] at taken
      have cut : tail ≠ [] := by
        rw [← taken]
        intro empty
        exact some_bytes (List.append_eq_nil_iff.mp empty).2
      have filled := full cut
      rw [taken] at filled
      cases rest with
      | nil =>
          rw [List.map_nil, frames_nil] at remains
          exact cut (List.append_eq_nil_iff.mp remains).1
      | cons message rest =>
          have bounded := short message.text rfl
          have limit := message.short
          omega
  | cons first later =>
      refine ⟨done, first, later, rest, tail, ?_, socket, whole.trans taken, ?_, cleanTail, full⟩
      · rw [sent, waitingEq, List.append_assoc]
      · rw [left]
        exact remains

/-- The buffer behind a read. -/
def InfoClient.filled (client : InfoClient) : List Char :=
  client.pipebuffer.take client.linelen ++ client.fresh ++
    client.pipebuffer.drop (client.linelen + client.fresh.length)

theorem InfoClient.length_filled (size : client.pipebuffer.length = pipebufferSize)
    (room : client.linelen < pipebufferSize) : client.filled.length = pipebufferSize := by
  have bound : client.fresh.length ≤ pipebufferSize - client.linelen :=
    List.length_take_le _ _
  simp only [InfoClient.filled, List.length_append, List.length_take, List.length_drop]
  omega

/-- What a read does, told by the messages that it completes and the piece that it
leaves. -/
theorem InfoClient.receive_eq {texts : List (List Char)} {tail : List Char}
    (size : client.pipebuffer.length = pipebufferSize) (room : client.linelen < pipebufferSize)
    (some_bytes : client.fresh ≠ []) (complete : texts ≠ [])
    (content : client.pipebuffer.take client.linelen ++ client.fresh = frames nul texts ++ tail)
    (clean : nul ∉ tail)
    (full : tail ≠ [] → (client.pipebuffer.take client.linelen ++ client.fresh).length =
      pipebufferSize) :
    ∃ linestart : Option Int,
      ((linestart = some ((frames nul texts).length : Int) ∧
          client.filled = frames nul texts ++ tail) ∨ (linestart = none ∧ tail = [])) ∧
      client.receive =
        let writing := writeTexts client.filled client.fresh.length linestart pipebufferSize 0
        some
          { client with
            pipe := client.pipe.drop client.bufferlen
            pipebuffer :=
              if writing.reached then
                (client.filled.drop (pipebufferSize - tail.length)).take tail.length ++
                  client.filled.drop tail.length
              else client.filled
            linelen := tail.length
            socket := client.socket ++ writing.written
            ended := writing.swritten == 0 } := by
  rcases List.eq_nil_or_concat texts with rfl | ⟨before, last, rfl⟩
  · exact absurd rfl complete
  have ends : frames nul (before.concat last) = (frames nul before ++ last) ++ [nul] := by
    simp [frames_append, frames_cons]
  have pieceLength : (client.pipebuffer.take client.linelen).length = client.linelen := by
    rw [List.length_take]
    omega
  have filledEq : client.pipebuffer.take client.linelen ++ client.fresh ++
      client.pipebuffer.drop (client.linelen + client.fresh.length) = client.filled := rfl
  by_cases cut : tail = []
  · subst cut
    refine ⟨none, .inr ⟨rfl, rfl⟩, ?_⟩
    have notTruncated : (client.fresh.length == client.bufferlen &&
        client.filled.getD (pipebufferSize - 1) nul != nul) = false := by
      rw [Bool.and_eq_false_iff]
      by_cases whole : client.fresh.length = client.bufferlen
      · right
        have total := congrArg List.length content
        rw [List.length_append, pieceLength, whole, InfoClient.bufferlen, List.append_nil, ends,
          List.length_append, List.length_singleton] at total
        have index : pipebufferSize - 1 = (frames nul before ++ last).length := by omega
        have terminated : client.filled.getD (pipebufferSize - 1) nul = nul := by
          rw [InfoClient.filled, content, List.append_nil, ends, index]
          simp
        rw [terminated, bne_self_eq_false]
      · left
        rw [beq_eq_false_iff_ne]
        exact whole
    unfold InfoClient.receive
    dsimp only
    rw [if_neg some_bytes]
    simp only [filledEq, notTruncated]
    rfl
  · have filledLength := full cut
    have freshLength : client.fresh.length = client.bufferlen := by
      rw [List.length_append, pieceLength] at filledLength
      rw [InfoClient.bufferlen]
      omega
    have filled : client.filled = frames nul (before.concat last) ++ tail := by
      rw [InfoClient.filled, content, List.drop_of_length_le, List.append_nil]
      rw [size, freshLength, InfoClient.bufferlen]
      omega
    have positive : 0 < tail.length := List.length_pos_of_ne_nil cut
    rw [content, List.length_append] at filledLength
    have framesLength : (frames nul (before.concat last)).length =
        (frames nul before ++ last).length + 1 := by
      rw [ends, List.length_append, List.length_singleton]
    have truncated : (client.fresh.length == client.bufferlen &&
        client.filled.getD (pipebufferSize - 1) nul != nul) = true := by
      rw [Bool.and_eq_true, beq_iff_eq, bne_iff_ne]
      refine ⟨freshLength, fun terminated => clean ?_⟩
      have bound : pipebufferSize - 1 - (frames nul (before.concat last)).length < tail.length := by
        omega
      have entry : client.filled[pipebufferSize - 1]? =
          tail[pipebufferSize - 1 - (frames nul (before.concat last)).length]? := by
        rw [filled, List.getElem?_append_right (by omega)]
      rw [List.getD_eq_getElem?_getD, entry, List.getElem?_eq_getElem bound,
        Option.getD_some] at terminated
      rw [← terminated]
      exact List.getElem_mem bound
    have scanned : scanNul client.filled (pipebufferSize - 2) =
        some (frames nul before ++ last).length := by
      apply scanNul_eq _ clean
      · omega
      · rw [filled, List.length_append]
        omega
      · rw [filled, ends]
        simp
    refine ⟨some ((frames nul (before.concat last)).length : Int), .inl ⟨rfl, filled⟩, ?_⟩
    have start : ((frames nul before ++ last).length : Int) + 1 =
        ((frames nul (before.concat last)).length : Int) := by
      rw [framesLength]
      push_cast
      rfl
    have piece : pipebufferSize - 1 - (frames nul before ++ last).length = tail.length := by omega
    have somewhere : some ((frames nul (before.concat last)).length : Int) ≠ some 0 := by
      simp only [ne_eq, Option.some.injEq, Nat.cast_eq_zero]
      omega
    unfold InfoClient.receive
    dsimp only
    rw [if_neg some_bytes]
    simp only [filledEq, truncated, if_true, scanned, Option.elim_some, start, piece]
    rw [if_neg somewhere]

theorem lastStart_texts {texts : List (List Char)} {tail : List Char} (complete : texts ≠ [])
    (cleanTexts : ∀ text ∈ texts, nul ∉ text) (clean : nul ∉ tail) :
    lastStart nul (frames nul texts ++ tail) = (frames nul texts.dropLast).length := by
  rcases List.eq_nil_or_concat texts with rfl | ⟨before, last, rfl⟩
  · exact absurd rfl complete
  · have cleanLast : nul ∉ last := cleanTexts last (by simp)
    rw [List.concat_eq_append, List.dropLast_concat, lastStart_frames cleanLast clean]

/-- A read between two states, with the messages that it completes (`texts`), the
piece behind them (`tail`) and what the inner loop did. -/
structure InfoClient.Read (client next : InfoClient) (texts : List (List Char))
    (tail : List Char) (linestart : Option Int) : Prop where
  content : client.pipebuffer.take client.linelen ++ client.fresh = frames nul texts ++ tail
  starts : client.filled.drop 0 =
    frames nul texts ++ (tail ++ client.pipebuffer.drop (client.linelen + client.fresh.length))
  ends : linestart = some ((0 + (frames nul texts).length : Nat) : Int) ∨
    (linestart = none ∧ client.fresh.length ≤ 0 + (frames nul texts).length)
  pipe : next.pipe = client.pipe.drop client.bufferlen
  sent : next.sent = client.sent
  linelen : next.linelen = tail.length
  room : tail.length < pipebufferSize
  socket : next.socket = client.socket ++
    (writeTexts client.filled client.fresh.length linestart pipebufferSize 0).written
  ended : next.ended =
    ((writeTexts client.filled client.fresh.length linestart pipebufferSize 0).swritten == 0)
  size : next.pipebuffer.length = pipebufferSize
  piece : (writeTexts client.filled client.fresh.length linestart pipebufferSize 0).reached =
    linestart.isSome → next.pipebuffer.take tail.length = tail
  enough : texts.length ≤ pipebufferSize

theorem InfoClient.read_of_receive {texts : List (List Char)} {tail : List Char}
    (size : client.pipebuffer.length = pipebufferSize) (room : client.linelen < pipebufferSize)
    (received : client.receive = some next) (some_bytes : client.fresh ≠ [])
    (complete : texts ≠ [])
    (content : client.pipebuffer.take client.linelen ++ client.fresh = frames nul texts ++ tail)
    (clean : nul ∉ tail)
    (full : tail ≠ [] → (client.pipebuffer.take client.linelen ++ client.fresh).length =
      pipebufferSize) :
    ∃ linestart, client.Read next texts tail linestart := by
  rcases InfoClient.receive_eq size room some_bytes complete content clean full with
    ⟨linestart, ends, receiveEq⟩
  have filledLength := InfoClient.length_filled size room
  have bound : (frames nul texts).length + tail.length ≤ pipebufferSize := by
    have lengths := congrArg List.length content
    have fresh : client.fresh.length ≤ pipebufferSize - client.linelen :=
      List.length_take_le _ _
    rw [List.length_append, List.length_append, List.length_take] at lengths
    omega
  have positive : 0 < (frames nul texts).length := by
    cases texts with
    | nil => exact absurd rfl complete
    | cons text texts => exact length_frames_pos
  have count : texts.length ≤ (frames nul texts).length := by
    rw [length_frames]
    omega
  rw [receiveEq] at received
  dsimp only at received
  cases received
  refine ⟨linestart, content, ?_, ?_, rfl, rfl, rfl, by omega, rfl, rfl, ?_, ?_, by omega⟩
  · rw [List.drop_zero, InfoClient.filled, content, List.append_assoc]
  · rcases ends with ⟨cut, _⟩ | ⟨none, empty⟩
    · left
      rw [cut, Nat.zero_add]
    · right
      refine ⟨none, ?_⟩
      have lengths := congrArg List.length content
      rw [empty, List.append_nil, List.length_append] at lengths
      omega
  · dsimp only
    split
    · rw [List.length_append, List.length_take, List.length_drop, List.length_drop]
      omega
    · exact filledLength
  · intro reached
    dsimp only
    rw [reached]
    rcases ends with ⟨rfl, filledEq⟩ | ⟨rfl, rfl⟩
    · have start : client.filled.drop (pipebufferSize - tail.length) = tail := by
        rw [← filledLength, filledEq, List.length_append, Nat.add_sub_cancel, List.drop_left]
      rw [Option.isSome_some, if_pos rfl, start, List.take_length, List.take_left]
    · rw [List.length_nil, List.take_zero]

/-- A suffix of the messages is known by the length of its stream. -/
theorem frames_suffix_unique {done rest done' rest' : List InfoMessage}
    (same : done ++ rest = done' ++ rest')
    (length : (frames nul (rest.map InfoMessage.text)).length =
      (frames nul (rest'.map InfoMessage.text)).length) : done = done' := by
  rw [length_frames, length_frames, List.length_map, List.length_map] at length
  rcases List.append_eq_append_iff.mp same with ⟨between, rfl, rfl⟩ | ⟨between, rfl, rfl⟩
  · rw [List.map_append, List.flatten_append, List.length_append, List.length_append] at length
    have empty : between = [] := List.length_eq_zero_iff.mp (by omega)
    rw [empty, List.append_nil]
  · rw [List.map_append, List.flatten_append, List.length_append, List.length_append] at length
    have empty : between = [] := List.length_eq_zero_iff.mp (by omega)
    rw [empty, List.append_nil]

theorem clean_texts {messages : List InfoMessage} :
    ∀ text ∈ messages.map InfoMessage.text, nul ∉ text := by
  intro text mem
  rcases List.mem_map.mp mem with ⟨message, _, rfl⟩
  exact message.clean

theorem nonempty_texts {messages : List InfoMessage} :
    ∀ text ∈ messages.map InfoMessage.text, text ≠ [] := by
  intro text mem
  rcases List.mem_map.mp mem with ⟨message, _, rfl⟩
  exact message.nonempty

/-- The step lemma for a read: it keeps the invariant if and only if its last complete
message starts early enough. -/
theorem InfoClient.Inv.receive_iff (inv : client.Inv) (received : client.receive = some next) :
    (StartsInRead client .receive → next.Inv) ∧ (next.Delivers → StartsInRead client .receive) := by
  by_cases some_bytes : client.fresh = []
  · unfold InfoClient.receive at received
    dsimp only at received
    rw [if_pos some_bytes] at received
    cases received
  rcases inv.read some_bytes with
    ⟨done, first, later, rest, tail, sent, socket, content, remains, clean, full⟩
  rcases InfoClient.read_of_receive inv.size inv.room received some_bytes (by simp) content clean
    full with ⟨linestart, read⟩
  have cleanTexts : ∀ text ∈ (first :: later).map InfoMessage.text, nul ∉ text := clean_texts
  have nonemptyTexts : ∀ text ∈ (first :: later).map InfoMessage.text, text ≠ [] :=
    nonempty_texts
  have starts := lastStart_texts (by simp) cleanTexts clean
  rw [← content] at starts
  have enough : (later.map InfoMessage.text).length < pipebufferSize := by
    have enough := read.enough
    rw [List.map_cons, List.length_cons] at enough
    exact enough
  constructor
  · intro early
    have inside := early some_bytes
    rw [starts] at inside
    rcases writeTexts_complete read.starts cleanTexts nonemptyTexts read.ends
      (.inr (by rwa [Nat.zero_add])) enough with ⟨written, swritten, reached⟩
    have piece := read.piece reached
    refine ⟨read.size, ?_, ?_, ?_, done ++ (first :: later), rest, ?_, ?_, ?_⟩
    · rw [read.linelen]
      exact read.room
    · rw [read.linelen, piece]
      exact clean
    · rw [read.ended, beq_eq_false_iff_ne]
      omega
    · rw [read.sent, sent]
    · rw [read.socket, written, socket, List.map_append, List.flatten_append]
      rfl
    · rw [read.linelen, piece, read.pipe, remains]
  · rintro ⟨_, done', rest', sent', socket', stream'⟩ _
    by_contra late
    rw [starts, Nat.not_lt] at late
    have several : later.map InfoMessage.text ≠ [] := by
      intro alone
      rw [List.map_cons, alone, List.dropLast_singleton, frames_nil, List.length_nil] at late
      exact some_bytes (List.length_eq_zero_iff.mp (Nat.le_zero.mp late))
    have missing := writeTexts_incomplete read.starts cleanTexts nonemptyTexts read.ends several
      (by rwa [Nat.zero_add]) enough
    have same : done ++ (first :: later) ++ rest = done' ++ rest' := by
      rw [← sent, ← sent', read.sent]
    have length : (frames nul (rest.map InfoMessage.text)).length =
        (frames nul (rest'.map InfoMessage.text)).length := by
      have size := read.size
      have room := read.room
      rw [← stream', ← remains, read.pipe, read.linelen, List.length_append, List.length_append,
        List.length_take]
      omega
    rw [read.socket, ← frames_suffix_unique same length, socket, List.map_append,
      List.flatten_append, List.append_cancel_left_eq] at socket'
    rw [socket'] at missing
    exact Nat.lt_irrefl _ missing

theorem InfoClient.Inv.enqueue (inv : client.Inv) (message : InfoMessage) :
    ({ client with
        pipe := client.pipe ++ (message.text ++ [nul])
        sent := client.sent ++ [message] } : InfoClient).Inv := by
  rcases inv.delivers.split with ⟨done, rest, sent, socket, stream⟩
  refine ⟨inv.size, inv.room, inv.piece, inv.delivers.alive, done, rest ++ [message], ?_, socket,
    ?_⟩
  · rw [sent, List.append_assoc]
  · rw [List.map_append, frames_append, ← stream, List.append_assoc]
    simp [frames_cons]

theorem infoStep_receive (step : infoStep client .receive = some next) :
    client.receive = some next := by
  simp only [infoStep] at step
  split at step
  · cases step
  · exact step

theorem infoStep_of_receive (alive : client.ended = false) (received : client.receive = some next) :
    infoStep client .receive = some next := by
  rw [infoStep, alive, if_neg Bool.false_ne_true, received]

theorem infoSession_inv {pipebuffer : List Char} (size : pipebuffer.length = pipebufferSize) :
    (infoSession pipebuffer).Inv := by
  refine ⟨size, ?_, ?_, rfl, [], [], rfl, rfl, ?_⟩
  · exact Nat.zero_lt_succ 2047
  · simp [infoSession]
  · simp [infoSession]

/-- In every run the socket gets all messages, complete and in order, if and only if
in every read the last message that it completes starts before as many bytes as the
read got. -/
theorem delivers_iff (pipebuffer : List Char) (size : pipebuffer.length = pipebufferSize)
    (actions : List InfoAction) :
    HoldsAlong infoStep InfoClient.Delivers (infoSession pipebuffer) actions ↔
      MeetsAlong infoStep StartsInRead (infoSession pipebuffer) actions := by
  apply holdsAlong_iff_meetsAlong
  · exact fun client (inv : client.Inv) => inv.delivers
  · rintro client (message | _) next inv early step
    · cases step
      exact inv.enqueue message
    · exact (inv.receive_iff (infoStep_receive step)).1 early
  · rintro client (message | _) next inv late step
    · exact absurd trivial late
    · exact fun delivers => late ((inv.receive_iff (infoStep_receive step)).2 delivers)
  · exact infoSession_inv size

/-- A message alone starts at the start of the buffer. -/
theorem startsInRead_single (message : InfoMessage) (start : client.linelen = 0)
    (pipe : client.pipe = message.text ++ [nul]) : StartsInRead client .receive := by
  intro some_bytes
  have fresh : client.fresh = frames nul [message.text] ++ [] := by
    rw [InfoClient.fresh, InfoClient.bufferlen, start, pipe, Nat.sub_zero, List.append_nil,
      frames_cons, frames_nil]
    apply List.take_of_length_le
    rw [List.length_append]
    exact message.short
  have clean : ∀ text ∈ [message.text], nul ∉ text := by
    intro text mem
    rw [List.mem_singleton.mp mem]
    exact message.clean
  have starts := lastStart_texts (List.cons_ne_nil _ _) clean List.not_mem_nil
  rw [start, List.take_zero, List.nil_append, fresh, starts, ← fresh]
  exact List.length_pos_of_ne_nil some_bytes

/-- A message that leaves two bytes of the buffer. -/
def letters : InfoMessage where
  text := List.replicate 2045 'a'
  nonempty := List.cons_ne_nil _ _
  clean := fun mem => absurd (List.eq_of_mem_replicate mem) (by decide)
  short := by
    rw [List.length_replicate]
    decide

/-- A read that a message and a piece fill: the message is written, the piece is moved. -/
theorem InfoClient.Inv.receive_cut {long : InfoMessage} {piece rest : List Char}
    (inv : client.Inv) (start : client.linelen = 0)
    (pipe : client.pipe = long.text ++ [nul] ++ piece ++ rest)
    (filled : (long.text ++ [nul] ++ piece).length = pipebufferSize) (clean : nul ∉ piece) :
    ∃ next, client.receive = some next ∧ next.Inv ∧ next.linelen = piece.length ∧
      next.pipebuffer.take piece.length = piece ∧ next.pipe = rest := by
  have fresh : client.fresh = long.text ++ [nul] ++ piece := by
    rw [InfoClient.fresh, InfoClient.bufferlen, start, pipe, Nat.sub_zero, ← filled,
      List.take_left]
  have some_bytes : client.fresh ≠ [] := by
    rw [fresh]
    simp
  have stream : client.pipebuffer.take client.linelen ++ client.fresh =
      long.text ++ [nul] ++ piece := by
    rw [start, List.take_zero, List.nil_append, fresh]
  have single : frames nul [long.text] = long.text ++ [nul] := by
    rw [frames_cons, frames_nil]
  have content : client.pipebuffer.take client.linelen ++ client.fresh =
      frames nul [long.text] ++ piece := by
    rw [stream, single]
  have cleanTexts : ∀ text ∈ [long.text], nul ∉ text := by
    intro text mem
    rw [List.mem_singleton.mp mem]
    exact long.clean
  have nonemptyTexts : ∀ text ∈ [long.text], text ≠ [] := by
    intro text mem
    rw [List.mem_singleton.mp mem]
    exact long.nonempty
  have whole : piece ≠ [] →
      (client.pipebuffer.take client.linelen ++ client.fresh).length = pipebufferSize := by
    intro _
    rw [stream, filled]
  rcases InfoClient.receive_eq inv.size inv.room some_bytes (List.cons_ne_nil _ _) content clean
    whole with ⟨_, _, received⟩
  rcases InfoClient.read_of_receive inv.size inv.room received some_bytes (List.cons_ne_nil _ _)
    content clean whole with ⟨linestart, read⟩
  have starts := lastStart_texts (List.cons_ne_nil _ _) cleanTexts clean
  have early : StartsInRead client .receive := by
    intro _
    rw [content, starts]
    exact List.length_pos_of_ne_nil some_bytes
  rcases writeTexts_complete read.starts cleanTexts nonemptyTexts read.ends (.inl rfl)
    (Nat.zero_lt_succ 2047) with ⟨_, _, reached⟩
  refine ⟨_, received, (inv.receive_iff received).1 early, read.linelen, read.piece reached, ?_⟩
  rw [read.pipe, InfoClient.bufferlen, start, pipe, Nat.sub_zero, ← filled, List.drop_left]

/-- A read that completes two messages, the second behind as many bytes as it got: the
second is taken for written. -/
theorem InfoClient.Inv.receive_late {first second : List Char} (inv : client.Inv)
    (some_bytes : client.pipe ≠ []) (room : client.pipe.length ≤ client.bufferlen)
    (content : client.pipebuffer.take client.linelen ++ client.pipe = frames nul [first, second])
    (clean : ∀ text ∈ [first, second], nul ∉ text) (late : client.pipe.length ≤ first.length + 1) :
    ∃ next, client.receive = some next ∧ next.pipe = [] ∧ next.linelen = 0 ∧
      next.socket = client.socket ++ first ∧ ¬ next.Delivers := by
  have fresh : client.fresh = client.pipe := List.take_of_length_le room
  rw [← fresh] at some_bytes
  rw [← fresh, ← List.append_nil (frames nul [first, second])] at content
  rcases InfoClient.receive_eq inv.size inv.room some_bytes (List.cons_ne_nil _ _) content
    List.not_mem_nil (absurd rfl) with ⟨linestart, ends, received⟩
  have single : (frames nul [first]).length = first.length + 1 := by
    rw [frames_cons, frames_nil, List.length_append, List.length_singleton]
  have notYet : linestart ≠ some ((0 + (first.length + 1) : Nat) : Int) := by
    rcases ends with ⟨rfl, _⟩ | ⟨rfl, _⟩
    · rw [frames_cons, List.length_append, List.length_cons]
      have positive : 0 < (frames nul [second]).length := length_frames_pos
      simp only [ne_eq, Option.some.injEq, Nat.cast_inj]
      omega
    · exact nofun
  have here : (client.filled.drop 0).takeWhile (fun symbol => symbol != nul) = first := by
    rw [List.drop_zero, InfoClient.filled, content, frames_cons, List.append_assoc,
      List.append_assoc, List.cons_append]
    exact takeWhile_text (clean first List.mem_cons_self) _
  have written : writeTexts client.filled client.fresh.length linestart (2047 + 1) 0 =
      ⟨first, first.length, false⟩ := by
    rw [writeTexts]
    simp only [here]
    rw [if_neg notYet, if_neg (by rw [fresh]; omega)]
  refine ⟨_, received, List.drop_eq_nil_of_le room, rfl, ?_, ?_⟩
  · exact congrArg (client.socket ++ ·.written) written
  · intro delivers
    have starts := lastStart_texts (List.cons_ne_nil _ _) clean List.not_mem_nil
    have early := (inv.receive_iff received).2 delivers some_bytes
    rw [content, starts, fresh] at early
    change (frames nul [first]).length < client.pipe.length at early
    omega

/-- The piece "xy" of the second message is completed by a read of four bytes, behind
which it is written as three; the offset is then four, and "q" is taken for written. -/
theorem lastMessage_lost :
    ∃ last, run infoStep (infoSession (List.replicate pipebufferSize nul))
        [.enqueue letters, .enqueue ⟨['x', 'y', 'z'], by decide, by decide, by decide⟩,
          .enqueue ⟨['q'], by decide, by decide, by decide⟩, .receive, .receive] = some last ∧
      last.pipe = [] ∧ last.linelen = 0 ∧ last.socket.getLast? = some 'z' ∧ ¬ last.Delivers := by
  have size : (List.replicate pipebufferSize nul).length = pipebufferSize :=
    List.length_replicate
  have inv := (((infoSession_inv size).enqueue letters).enqueue
    ⟨['x', 'y', 'z'], by decide, by decide, by decide⟩).enqueue
      ⟨['q'], by decide, by decide, by decide⟩
  have filled : (letters.text ++ [nul] ++ ['x', 'y']).length = pipebufferSize := by
    rw [List.length_append, List.length_append]
    exact congrArg (· + 1 + 2) List.length_replicate
  have stream : [] ++ (letters.text ++ [nul]) ++ (['x', 'y', 'z'] ++ [nul]) ++ (['q'] ++ [nul]) =
      letters.text ++ [nul] ++ ['x', 'y'] ++ ['z', nul, 'q', nul] := by
    simp only [List.nil_append, List.append_assoc, List.cons_append]
  rcases inv.receive_cut rfl stream filled (by decide) with
    ⟨middle, first, middleInv, linelen, piece, pipe⟩
  have content : middle.pipebuffer.take middle.linelen ++ middle.pipe =
      frames nul [['x', 'y', 'z'], ['q']] := by
    rw [linelen, piece, pipe]
    rfl
  have four : middle.pipe.length = 4 := by
    rw [pipe]
    rfl
  have room : middle.bufferlen = 2046 := by
    rw [InfoClient.bufferlen, linelen]
    rfl
  rcases middleInv.receive_late (by rw [pipe]; exact List.cons_ne_nil _ _) (by omega) content
    (by decide) (by rw [four]; decide) with ⟨last, second, empty, nothing, socket, lost⟩
  refine ⟨last, ?_, empty, nothing, ?_, lost⟩
  · refine run_cons_eq_some_iff.mpr ⟨_, rfl, run_cons_eq_some_iff.mpr ⟨_, rfl,
      run_cons_eq_some_iff.mpr ⟨_, rfl, run_cons_eq_some_iff.mpr ⟨middle,
        infoStep_of_receive rfl first, run_cons_eq_some_iff.mpr ⟨last,
          infoStep_of_receive middleInv.delivers.alive second, rfl⟩⟩⟩⟩⟩
  · rw [socket]
    simp

theorem delivers_iff_once :
    (List.replicate pipebufferSize nul).length = pipebufferSize ∧
      HoldsAlong infoStep InfoClient.Delivers (infoSession (List.replicate pipebufferSize nul))
        [.enqueue letters, .receive] := by
  have size : (List.replicate pipebufferSize nul).length = pipebufferSize :=
    List.length_replicate
  refine ⟨size, (delivers_iff _ size _).mpr ?_⟩
  intro next step
  refine ⟨trivial, ?_⟩
  cases step
  intro next step
  exact ⟨startsInRead_single letters rfl rfl, trivial⟩

end Srcpd.Info
