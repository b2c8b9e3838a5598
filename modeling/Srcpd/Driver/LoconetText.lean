import Mathlib.Data.Nat.Digits.Defs
import Srcpd.Command.Scan
import Srcpd.Session.SocketReadline

/-!
# Packets as lines of a LocoNet server

Over the network a packet is a line of hexadecimal numbers.  `lnWriteLbserver` writes the
line, and `lnReadLbserver` reads a packet at fixed places of one.  `readAll_packets` says
that the packets of a stream of such lines are returned one after the other.
-/

namespace Srcpd.Driver.LnText

open Srcpd.Command Srcpd.Session.Readline

/-! ## Numbers -/

/-- `%X` of a digit. -/
def hexDigit (digit : Nat) : Byte :=
  BitVec.ofNat 8 (if digit < 10 then 0x30 + digit else 0x37 + digit)

/-- A byte as `%02X`. -/
def hexByte (byte : Byte) : List Byte :=
  [hexDigit (byte.toNat / 16), hexDigit (byte.toNat % 16)]

/-- `isspace` of the C locale. -/
def isBlank (c : Byte) : Bool :=
  c = 0x20 ∨ (9 ≤ c ∧ c ≤ 13)

/-- `0x` before a number. -/
def skipBase (text : List Byte) : List Byte :=
  if text.head? = some 0x30 ∧ ((text.drop 1).head? = some 0x58 ∨ (text.drop 1).head? = some 0x78) ∧
      ((text.drop 2).head?.bind hexValue).isSome then text.drop 2
  else text

/-- `strtol` with base 16. -/
def strtol16 (text : List Byte) : Int :=
  let text := text.dropWhile isBlank
  let negative := text.head? = some 0x2d
  let text := if text.head? = some 0x2d ∨ text.head? = some 0x2b then text.drop 1 else text
  let text := skipBase text
  let digits := (text.takeWhile fun c => (hexValue c).isSome).map fun c => (hexValue c).getD 0
  let number : Int := Nat.ofDigits 16 digits.reverse
  clampLong (if negative then -number else number)

theorem hexValue_hexDigit : ∀ digit < 16, hexValue (hexDigit digit) = some digit := by
  decide

/-- The digits are neither blanks nor signs nor the letter of `0x`. -/
theorem hexDigit_plain : ∀ digit < 16,
    isBlank (hexDigit digit) = false ∧ hexDigit digit ≠ 0x2d ∧ hexDigit digit ≠ 0x2b ∧
      hexDigit digit ≠ 0x58 ∧ hexDigit digit ≠ 0x78 ∧ hexDigit digit ≠ newline ∧
        isvalidchar (hexDigit digit) = true := by
  decide

theorem hexByte_plain (byte : Byte) {c : Byte} (mem : c ∈ hexByte byte) :
    isBlank c = false ∧ c ≠ 0x2d ∧ c ≠ 0x2b ∧ c ≠ 0x58 ∧ c ≠ 0x78 ∧ c ≠ newline ∧
      isvalidchar c = true := by
  have small := byte.isLt
  rcases List.mem_cons.mp mem with rfl | mem
  · exact hexDigit_plain _ (by omega)
  · rw [List.mem_singleton.mp mem]
    exact hexDigit_plain _ (by omega)

/-- A number ends before something that is no digit. -/
theorem strtol16_hexByte (byte : Byte) {rest : List Byte}
    (ended : ∀ c ∈ rest.head?, hexValue c = none) :
    strtol16 (0x20 :: hexByte byte ++ rest) = byte.toNat := by
  have small := byte.isLt
  have high := hexValue_hexDigit (byte.toNat / 16) (by omega)
  have low := hexValue_hexDigit (byte.toNat % 16) (by omega)
  have plainHigh := hexDigit_plain (byte.toNat / 16) (by omega)
  have plainLow := hexDigit_plain (byte.toNat % 16) (by omega)
  have trimmed : (0x20 :: hexByte byte ++ rest).dropWhile isBlank = hexByte byte ++ rest := by
    rw [List.cons_append, List.dropWhile_cons_of_pos (by decide), hexByte, List.cons_append,
      List.dropWhile_cons_of_neg (by rw [plainHigh.1]; decide)]
  have based : skipBase (hexByte byte ++ rest) = hexByte byte ++ rest := by
    rw [skipBase, if_neg]
    rintro ⟨_, second, _⟩
    rcases second with second | second
    · exact plainLow.2.2.2.1 (Option.some.inj second)
    · exact plainLow.2.2.2.2.1 (Option.some.inj second)
  have digits : (hexByte byte ++ rest).takeWhile (fun c => (hexValue c).isSome) =
      hexByte byte := by
    have none : rest.takeWhile (fun c => (hexValue c).isSome) = [] := by
      cases rest with
      | nil => rfl
      | cons c rest =>
          rw [List.takeWhile_cons_of_neg]
          rw [ended c rfl]
          decide
    rw [hexByte, List.cons_append, List.cons_append, List.nil_append,
      List.takeWhile_cons_of_pos (by rw [high]; rfl), List.takeWhile_cons_of_pos (by rw [low]; rfl),
      none]
  have unsigned : (hexByte byte ++ rest).head? ≠ some 0x2d ∧
      (hexByte byte ++ rest).head? ≠ some 0x2b :=
    ⟨fun same => plainHigh.2.1 (Option.some.inj same),
      fun same => plainHigh.2.2.1 (Option.some.inj same)⟩
  rw [strtol16, trimmed, if_neg (not_or.mpr unsigned), based, digits, if_neg unsigned.1, hexByte,
    List.map_cons, List.map_cons, List.map_nil, high, low]
  have value : Nat.ofDigits 16 [byte.toNat / 16, byte.toNat % 16].reverse = byte.toNat := by
    show Nat.ofDigits 16 [byte.toNat % 16, byte.toNat / 16] = byte.toNat
    rw [Nat.ofDigits_cons, Nat.ofDigits_singleton]
    exact Nat.mod_add_div _ _
  show clampLong ((Nat.ofDigits 16 [byte.toNat / 16, byte.toNat % 16].reverse : Nat) : Int) = _
  rw [value, clampLong]
  omega

/-! ## Lines -/

/-- The numbers of a packet, each behind a blank. -/
def hexText (packet : List Byte) : List Byte :=
  packet.flatMap fun byte => 0x20 :: hexByte byte

/-- `SEND`. -/
def send : List Byte :=
  [0x53, 0x45, 0x4e, 0x44]

/-- `RECEIVE`. -/
def receive : List Byte :=
  [0x52, 0x45, 0x43, 0x45, 0x49, 0x56, 0x45]

/-- What ends a line of the server. -/
def lineEnd : List Byte :=
  [0x0d, newline]

/-- The text that `ln_write_lbserver` writes for a message. -/
def lnWriteLbserver (cmd : List Byte) : List Byte :=
  send ++ hexText cmd ++ lineEnd

/-- `strstr`. -/
def contains (line word : List Byte) : Bool :=
  line.tails.any fun rest => word.isPrefixOf rest

/-- What is returned for a line, and `cmd` behind it.  Without `RECEIVE` the result of
`select` is returned. -/
def lnReadLbserver (line cmd : List Byte) : Nat × List Byte :=
  if contains line (receive ++ [0x20]) then
    let pktlen := (line.length - 7) / 3
    (pktlen,
      (List.range pktlen).map (fun i => BitVec.ofInt 8 (strtol16 (line.drop (7 + 3 * i)))) ++
        cmd.drop pktlen)
  else (1, cmd)

/-- The line of a server for a packet. -/
def receiveLine (packet : List Byte) : List Byte :=
  receive ++ hexText packet ++ lineEnd

/-- `sizeof(line) - 1`. -/
def lineSize : Nat := 255

/-- Successive calls, each with the packet cleared before it as the thread does. -/
def readAll : Nat → List Byte → List (List Byte)
  | 0, _ => []
  | count + 1, stream =>
      let call := socketReadline lineSize stream
      let read := lnReadLbserver call.line (List.replicate 128 0)
      read.2.take read.1 :: readAll count call.rest

theorem hexText_cons (byte : Byte) (packet : List Byte) :
    hexText (byte :: packet) = 0x20 :: hexByte byte ++ hexText packet :=
  List.flatMap_cons

theorem length_hexText (packet : List Byte) : (hexText packet).length = 3 * packet.length := by
  induction packet with
  | nil => rfl
  | cons byte packet ih =>
      rw [hexText_cons, List.length_append, ih, List.length_cons]
      show 3 + 3 * packet.length = 3 * (packet.length + 1)
      ring

theorem drop_hexText (packet : List Byte) (i : Nat) :
    (hexText packet).drop (3 * i) = hexText (packet.drop i) := by
  induction packet generalizing i with
  | nil => rw [List.drop_nil]; exact List.drop_nil
  | cons byte packet ih =>
      cases i with
      | zero => rfl
      | succ i =>
          rw [hexText_cons, List.drop_succ_cons, ← ih i, Nat.mul_succ, Nat.add_comm,
            ← List.drop_drop]
          rfl

/-- The numbers of a line, behind the word it begins with. -/
theorem strtol16_hexText {packet : List Byte} (i : Nat) (inside : i < packet.length) :
    BitVec.ofInt 8 (strtol16 ((hexText packet ++ [newline]).drop (3 * i))) = packet[i] := by
  have place : 3 * i ≤ (hexText packet).length := by
    rw [length_hexText]
    omega
  rw [List.drop_append_of_le_length place, drop_hexText, List.drop_eq_getElem_cons inside,
    hexText_cons, List.append_assoc, strtol16_hexByte]
  · rw [BitVec.ofInt_natCast, BitVec.ofNat_toNat, BitVec.setWidth_eq]
  · intro c mem
    cases rest : packet.drop (i + 1) with
    | nil =>
        rw [rest] at mem
        cases mem
        rfl
    | cons byte more =>
        rw [rest, hexText_cons] at mem
        cases mem
        rfl

/-- A line without its carriage return is read as its packet. -/
theorem lnReadLbserver_line {packet : List Byte} (nonempty : packet ≠ []) (cmd : List Byte) :
    lnReadLbserver (receive ++ hexText packet ++ [newline]) cmd =
      (packet.length, packet ++ cmd.drop packet.length) := by
  have found : contains (receive ++ hexText packet ++ [newline]) (receive ++ [0x20]) = true := by
    apply List.any_eq_true.mpr
    refine ⟨_, (List.mem_tails _ _).mpr (List.suffix_refl _), ?_⟩
    rw [List.isPrefixOf_iff_prefix]
    cases packet with
    | nil => exact absurd rfl nonempty
    | cons byte packet =>
        refine ⟨hexByte byte ++ hexText packet ++ [newline], ?_⟩
        rw [hexText_cons]
        simp only [List.append_assoc, List.cons_append, List.nil_append]
  have count : ((receive ++ hexText packet ++ [newline]).length - 7) / 3 = packet.length := by
    rw [List.length_append, List.length_append, length_hexText]
    show (7 + 3 * packet.length + 1 - 7) / 3 = packet.length
    omega
  rw [lnReadLbserver, if_pos found, count]
  refine Prod.ext rfl ?_
  show List.map _ _ ++ _ = _
  congr 1
  apply List.ext_getElem
  · rw [List.length_map, List.length_range]
  · intro i inside inside'
    have front : (receive ++ (hexText packet ++ [newline])).drop 7 =
        hexText packet ++ [newline] := rfl
    rw [List.getElem_map, List.getElem_range, List.append_assoc, ← List.drop_drop, front]
    exact strtol16_hexText i inside'

/-! ## Streams -/

theorem firstLine_append {text : List Byte} (unended : newline ∉ text) (rest : List Byte) :
    firstLine (text ++ newline :: rest) = text ++ [newline] ∧
      behindLine (text ++ newline :: rest) = rest := by
  induction text with
  | nil => exact ⟨if_pos rfl, if_pos rfl⟩
  | cons c text ih =>
      rw [List.mem_cons, not_or] at unended
      obtain ⟨first, behind⟩ := ih unended.2
      have other : c ≠ newline := fun same => unended.1 same.symm
      rw [List.cons_append, firstLine, behindLine, if_neg other, if_neg other, first, behind]
      exact ⟨rfl, rfl⟩

theorem mem_hexText {packet : List Byte} {c : Byte} (mem : c ∈ hexText packet) :
    c ≠ newline ∧ isvalidchar c = true := by
  obtain ⟨byte, _, mem⟩ := List.mem_flatMap.mp mem
  rcases List.mem_cons.mp mem with rfl | mem
  · decide
  · have plain := hexByte_plain byte mem
    exact ⟨plain.2.2.2.2.2.1, plain.2.2.2.2.2.2⟩

/-- A call reads a whole line of a server and drops its carriage return. -/
theorem socketReadline_receiveLine {packet : List Byte} (short : packet.length ≤ 82)
    (rest : List Byte) :
    (socketReadline lineSize (receiveLine packet ++ rest)).line =
        receive ++ hexText packet ++ [newline] ∧
      (socketReadline lineSize (receiveLine packet ++ rest)).rest = rest := by
  have shape : receiveLine packet ++ rest =
      (receive ++ hexText packet ++ [0x0d]) ++ newline :: rest := by
    rw [receiveLine, lineEnd]
    simp only [List.append_assoc, List.cons_append, List.nil_append]
  have word : ∀ c ∈ receive, c ≠ newline ∧ isvalidchar c = true := by decide
  have unended : newline ∉ receive ++ hexText packet ++ [0x0d] := by
    intro mem
    rcases List.mem_append.mp mem with mem | mem
    · rcases List.mem_append.mp mem with mem | mem
      · exact (word newline mem).1 rfl
      · exact (mem_hexText mem).1 rfl
    · exact absurd (List.mem_singleton.mp mem) (by decide)
  obtain ⟨first, behind⟩ := firstLine_append unended rest
  have kept : (receive ++ hexText packet ++ [0x0d] ++ [newline]).filter isvalidchar =
      receive ++ hexText packet ++ [newline] := by
    have words : (receive ++ hexText packet).filter isvalidchar = receive ++ hexText packet := by
      apply List.filter_eq_self.mpr
      intro c mem
      rcases List.mem_append.mp mem with mem | mem
      · exact (word c mem).2
      · exact (mem_hexText mem).2
    rw [List.append_assoc, List.filter_append, words]
    rfl
  have long : (receive ++ hexText packet ++ [newline]).length ≤ lineSize - 1 := by
    rw [List.length_append, List.length_append, length_hexText]
    show 7 + 3 * packet.length + 1 ≤ 254
    omega
  have call : (socketReadline lineSize (receiveLine packet ++ rest)).line =
        ((firstLine (receiveLine packet ++ rest)).filter isvalidchar).take (lineSize - 1) ∧
      (socketReadline lineSize (receiveLine packet ++ rest)).rest =
        behindLine (receiveLine packet ++ rest) :=
    socketReadline_line (by decide) (by decide : (0x52 : Byte) ≠ newline)
  rw [call.1, call.2, shape, first, behind, kept, List.take_of_length_le long]
  exact ⟨rfl, rfl⟩

/-- What is written for a packet, sent back by a server with `RECEIVE` for `SEND`, is read as
this packet: for every sequence of packets that are not empty and fit the line, successive
calls return them in their order. -/
theorem readAll_packets (packets : List (List Byte))
    (proper : ∀ packet ∈ packets, packet ≠ [] ∧ packet.length ≤ 82) :
    readAll packets.length
        (packets.flatMap fun packet => receive ++ (lnWriteLbserver packet).drop 4) = packets := by
  induction packets with
  | nil => rfl
  | cons packet packets ih =>
      obtain ⟨nonempty, short⟩ := proper packet List.mem_cons_self
      have rest := ih fun other mem => proper other (List.mem_cons_of_mem _ mem)
      have answered : receive ++ (lnWriteLbserver packet).drop 4 = receiveLine packet := by
        rw [lnWriteLbserver, receiveLine, List.append_assoc, List.append_assoc]
        rfl
      rw [List.flatMap_cons, answered, List.length_cons, readAll]
      obtain ⟨line, left⟩ := socketReadline_receiveLine short
        (packets.flatMap fun packet => receive ++ (lnWriteLbserver packet).drop 4)
      rw [line, left, rest, lnReadLbserver_line nonempty]
      exact congrArg (· :: packets) (List.take_left' rfl)

/-- A packet that switches the power on, and one for a slot. -/
theorem readAll_packets_two :
    readAll 2 ([[0x83, 0x7c], [0xa0, 0x03, 0x20, 0x7c]].flatMap fun packet =>
        receive ++ (lnWriteLbserver packet).drop 4) = [[0x83, 0x7c], [0xa0, 0x03, 0x20, 0x7c]] :=
  readAll_packets [[0x83, 0x7c], [0xa0, 0x03, 0x20, 0x7c]] (by decide)

end Srcpd.Driver.LnText
