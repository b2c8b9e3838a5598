import Srcpd.Transition.Core
import Srcpd.Types
import Mathlib.Data.List.Basic
import Mathlib.Logic.Function.Basic

/-!
# Packets from the serial LocoNet interface

`ln_read_serial` appends one byte to its buffer and looks for a packet in it.  The
scan for an opcode and the length byte are not bounded by what has arrived, and the
buffer and the packet not by their sizes.  `right_of_meets` says that the packets are
those of the stream as long as neither is overrun.
-/

namespace Srcpd.Driver.LnSerial

open Srcpd.Transition

/-- The length of the input buffer. -/
def ibufferSize : Nat := 256

/-- Only the first byte of a message has its highest bit set. -/
def IsOpcode (byte : Byte) : Prop :=
  byte &&& 0x80 = 0x80

instance : DecidablePred IsOpcode := fun _ => inferInstanceAs (Decidable (_ = _))

/-- Opcodes with a length byte behind them. -/
def HasLength (opcode : Byte) : Prop :=
  opcode &&& 0xe0 = 0xe0

instance : DecidablePred HasLength := fun _ => inferInstanceAs (Decidable (_ = _))

/-- The length that the opcode prescribes, or the byte behind it. -/
def pktlen (opcode next : Byte) : Nat :=
  if opcode &&& 0xe0 = 0x80 then 2
  else if opcode &&& 0xe0 = 0xa0 then 4
  else if opcode &&& 0xe0 = 0xc0 then 6
  else next.toNat

/-! ## The driver -/

/-- The driver data, with all that has arrived and was returned so far. -/
structure Serial where
  ibufferin : Nat
  ibuffer : Nat → Byte
  /-- There was an access behind the input buffer or the packet. -/
  fault : Bool
  stream : List Byte
  returned : List (List Byte)

/-- Append a byte to the buffer. -/
def Serial.append (serial : Serial) (c : Byte) : Serial :=
  { serial with
    ibufferin := serial.ibufferin + 1
    ibuffer := Function.update serial.ibuffer serial.ibufferin c
    fault := serial.fault || decide (ibufferSize ≤ serial.ibufferin)
    stream := serial.stream ++ [c] }

/-- Skip everything up to the next packet start; `none` when the scan leaves the buffer. -/
def ibufferout (ibuffer : Nat → Byte) : Option Nat :=
  (List.range ibufferSize).find? fun i => decide (IsOpcode (ibuffer i))

/-- Remove a complete packet from the buffer; `len` is the size of the caller's. -/
def Serial.examine (len : Nat) (serial : Serial) : Serial :=
  if serial.ibufferin < 2 then serial
  else
    match ibufferout serial.ibuffer with
    | none => { serial with fault := true }
    | some out =>
        let opcode := serial.ibuffer out
        if HasLength opcode ∧ ibufferSize ≤ out + 1 then { serial with fault := true }
        else
          let n := pktlen opcode (serial.ibuffer (out + 1))
          if serial.ibufferin < out + n then serial
          else if len < n then { serial with fault := true }
          else
            let packet := (List.range n).map fun i => serial.ibuffer (out + i)
            { serial with
              ibufferin := 0
              -- a call that returns 0 has no packet
              returned := if n = 0 then serial.returned else serial.returned ++ [packet] }

/-- A call, with the byte that has arrived. -/
def step (len : Nat) : Step Serial (Option Byte)
  | serial, some c => some ((serial.append c).examine len)
  | serial, none => some (serial.examine len)

/-! ## Packets -/

/-- The length of a packet as far as its first bytes tell. -/
def announced (opcode : Byte) (rest : List Byte) : Option Nat :=
  if HasLength opcode then rest.head?.map BitVec.toNat else some (pktlen opcode 0)

/-- An opcode, and as many bytes as it or the length byte prescribes. -/
def IsPacket (packet : List Byte) : Prop :=
  ∃ opcode rest, packet = opcode :: rest ∧ IsOpcode opcode ∧
    announced opcode rest = some packet.length

/-- The packets of a stream, which has other bytes between them that are no opcodes. -/
inductive Cut : List Byte → List (List Byte) → Prop
  | start : Cut [] []
  | skip {stream packets byte} : Cut stream packets → ¬ IsOpcode byte →
      Cut (stream ++ [byte]) packets
  | packet {stream packets packet} : Cut stream packets → IsPacket packet →
      Cut (stream ++ packet) (packets ++ [packet])

/-- The beginning of a packet, or nothing yet. -/
def Begins (part : List Byte) : Prop :=
  part = [] ∨ ∃ opcode rest, part = opcode :: rest ∧ IsOpcode opcode ∧
    ∀ n ∈ announced opcode rest, part.length < n

/-- The packets behind which only the beginning of the next one is left. -/
structure Delivers (stream pending : List Byte) (packets : List (List Byte)) : Prop where
  cut : ∃ before, stream = before ++ pending ∧ Cut before packets
  begins : ∃ junk part, pending = junk ++ part ∧ (∀ byte ∈ junk, ¬ IsOpcode byte) ∧ Begins part

/-- What is in the buffer. -/
def Serial.pending (serial : Serial) : List Byte :=
  (List.range serial.ibufferin).map serial.ibuffer

/-- The calls have returned the packets of the stream, none of them longer than the caller's
buffer, and there was no access out of range. -/
structure Right (len : Nat) (serial : Serial) : Prop where
  inRange : serial.fault = false
  delivers : Delivers serial.stream serial.pending serial.returned
  fits : ∀ packet ∈ serial.returned, packet.length ≤ len

/-- With the byte that has arrived. -/
def Serial.arrive (serial : Serial) : Option Byte → Serial
  | some c => serial.append c
  | none => serial

/-- There is room for the byte; an opcode is found in the buffer; and a length byte is found in
it, is not too small for a packet, and a packet that is complete is not too long. -/
structure Meets (len : Nat) (serial : Serial) (arrived : Option Byte) : Prop where
  room : arrived.isSome = true → serial.ibufferin < ibufferSize
  found : 2 ≤ (serial.arrive arrived).ibufferin →
    ∃ out, ibufferout (serial.arrive arrived).ibuffer = some out ∧
      (HasLength ((serial.arrive arrived).ibuffer out) → out + 1 < ibufferSize)
  length : 2 ≤ (serial.arrive arrived).ibufferin →
    ∀ out, ibufferout (serial.arrive arrived).ibuffer = some out →
      out < (serial.arrive arrived).ibufferin →
        let n := pktlen ((serial.arrive arrived).ibuffer out)
          ((serial.arrive arrived).ibuffer (out + 1))
        2 ≤ n ∧ (out + n ≤ (serial.arrive arrived).ibufferin → n ≤ len)

variable {len : Nat} {serial next : Serial}

/-! ## The scan -/

theorem ibufferout_eq_some_iff {ibuffer : Nat → Byte} {out : Nat} :
    ibufferout ibuffer = some out ↔
      IsOpcode (ibuffer out) ∧ out < ibufferSize ∧ ∀ i < out, ¬ IsOpcode (ibuffer i) := by
  rw [ibufferout, List.find?_range_eq_some]
  simp

theorem length_pending (serial : Serial) : serial.pending.length = serial.ibufferin := by
  rw [Serial.pending, List.length_map, List.length_range]

theorem pending_getElem? {i : Nat} (arrived : i < serial.ibufferin) :
    serial.pending[i]? = some (serial.ibuffer i) := by
  rw [Serial.pending, List.getElem?_map, List.getElem?_range arrived]
  rfl

theorem pending_append (serial : Serial) (c : Byte) :
    (serial.append c).pending = serial.pending ++ [c] := by
  rw [Serial.pending, Serial.append]
  dsimp only
  rw [List.range_succ, List.map_append, List.map_singleton, Function.update_self]
  congr 1
  apply List.map_congr_left
  intro i mem
  exact Function.update_of_ne (List.mem_range.mp mem).ne _ _

section Parts

variable {junk part rest : List Byte} {opcode : Byte} {out : Nat}

/-- What is in front of an opcode, the opcode, and what follows. -/
theorem ibuffer_opcode (held : serial.pending = junk ++ opcode :: rest) :
    serial.ibufferin = junk.length + (rest.length + 1) ∧
      serial.ibuffer junk.length = opcode ∧
      ∀ byte ∈ rest.head?, serial.ibuffer (junk.length + 1) = byte := by
  have size := length_pending serial
  rw [held, List.length_append, List.length_cons] at size
  refine ⟨size.symm, ?_, ?_⟩
  · have entry := @pending_getElem? serial junk.length (by omega)
    rw [held, List.getElem?_append_right (Nat.le_refl _), Nat.sub_self] at entry
    exact (Option.some.inj entry).symm
  · intro byte head
    cases rest with
    | nil => cases head
    | cons next rest =>
        cases head
        have entry := @pending_getElem? serial (junk.length + 1)
          (by rw [List.length_cons] at size; omega)
        rw [held, List.getElem?_append_right (by omega), Nat.add_sub_cancel_left] at entry
        exact (Option.some.inj entry).symm

theorem not_isOpcode_of_lt (held : serial.pending = junk ++ part)
    (noOpcode : ∀ byte ∈ junk, ¬ IsOpcode byte) {i : Nat} (before : i < junk.length) :
    ¬ IsOpcode (serial.ibuffer i) := by
  have size := length_pending serial
  rw [held, List.length_append] at size
  have entry := @pending_getElem? serial i (by omega)
  rw [held, List.getElem?_append_left before] at entry
  exact noOpcode _ (List.mem_of_getElem? entry)

/-- The scan finds the opcode that has arrived. -/
theorem ibufferout_eq (held : serial.pending = junk ++ opcode :: rest)
    (noOpcode : ∀ byte ∈ junk, ¬ IsOpcode byte) (isOpcode : IsOpcode opcode)
    (found : ibufferout serial.ibuffer = some out) : out = junk.length := by
  obtain ⟨first, -, none⟩ := ibufferout_eq_some_iff.mp found
  obtain ⟨-, entry, -⟩ := ibuffer_opcode held
  rcases Nat.lt_trichotomy out junk.length with less | same | more
  · exact absurd first (not_isOpcode_of_lt held noOpcode less)
  · exact same
  · have isOpcode' := none _ more
    rw [entry] at isOpcode'
    exact absurd isOpcode isOpcode'

/-- Without an opcode that has arrived, the scan finds an older one. -/
theorem ibufferin_le (held : serial.pending = junk) (noOpcode : ∀ byte ∈ junk, ¬ IsOpcode byte)
    (found : ibufferout serial.ibuffer = some out) : serial.ibufferin ≤ out := by
  obtain ⟨first, -, -⟩ := ibufferout_eq_some_iff.mp found
  by_contra less
  have entry := @pending_getElem? serial out (by omega)
  rw [held] at entry
  exact noOpcode _ (List.mem_of_getElem? entry) first

theorem map_range_eq (held : serial.pending = junk ++ part) :
    ((List.range part.length).map fun i => serial.ibuffer (junk.length + i)) = part := by
  have size := length_pending serial
  rw [held, List.length_append] at size
  have parts := held
  rw [Serial.pending, ← size, List.range_add, List.map_append, List.map_map] at parts
  exact (List.append_inj parts (by rw [List.length_map, List.length_range])).2

/-- The other opcodes prescribe a length. -/
theorem pktlen_fixed (isOpcode : IsOpcode opcode) (fixed : ¬ HasLength opcode) :
    ∃ n, 2 ≤ n ∧ ∀ next, pktlen opcode next = n := by
  have kinds : ∀ opcode : Byte, IsOpcode opcode → ¬ HasLength opcode →
      opcode &&& 0xe0 = 0x80 ∨ opcode &&& 0xe0 = 0xa0 ∨ opcode &&& 0xe0 = 0xc0 := by
    decide
  rcases kinds opcode isOpcode fixed with kind | kind | kind
  · exact ⟨2, by decide, fun next => by rw [pktlen, if_pos kind]⟩
  · exact ⟨4, by decide, fun next => by rw [pktlen, kind]; rfl⟩
  · exact ⟨6, by decide, fun next => by rw [pktlen, kind]; rfl⟩

theorem pktlen_of_hasLength (length : HasLength opcode) (next : Byte) :
    pktlen opcode next = next.toNat := by
  have length' : opcode &&& 0xe0 = 0xe0 := length
  rw [pktlen, length']
  rfl

end Parts

/-! ## Arrivals -/

/-- A packet or the beginning of one, unless its length is that of none. -/
def Reaches (part : List Byte) : Prop :=
  part = [] ∨ ∃ opcode rest, part = opcode :: rest ∧ IsOpcode opcode ∧
    ∀ n ∈ announced opcode rest, 2 ≤ n → part.length ≤ n

theorem Begins.reaches {part : List Byte} (begins : Begins part) : Reaches part := by
  rcases begins with nothing | ⟨opcode, rest, parts, isOpcode, short⟩
  · exact .inl nothing
  · exact .inr ⟨opcode, rest, parts, isOpcode, fun n mem _ => (short n mem).le⟩

/-- One more byte completes a packet at most. -/
theorem Begins.append {junk part : List Byte} (begins : Begins part)
    (noOpcode : ∀ byte ∈ junk, ¬ IsOpcode byte) (c : Byte) :
    ∃ junk' part', junk ++ part ++ [c] = junk' ++ part' ∧
      (∀ byte ∈ junk', ¬ IsOpcode byte) ∧ Reaches part' := by
  rcases begins with rfl | ⟨opcode, rest, rfl, isOpcode, short⟩
  · by_cases isOpcode : IsOpcode c
    · refine ⟨junk, [c], by rw [List.append_nil], noOpcode, .inr ⟨c, [], rfl, isOpcode, ?_⟩⟩
      intro n _ two
      rw [List.length_singleton]
      omega
    · refine ⟨junk ++ [c], [], by simp, ?_, .inl rfl⟩
      intro byte mem
      rcases List.mem_append.mp mem with old | new
      · exact noOpcode byte old
      · rw [List.mem_singleton.mp new]
        exact isOpcode
  · refine ⟨junk, opcode :: (rest ++ [c]), by simp, noOpcode,
      .inr ⟨opcode, rest ++ [c], rfl, isOpcode, ?_⟩⟩
    intro n mem two
    cases rest with
    | nil =>
        rw [List.nil_append, List.length_cons, List.length_singleton]
        exact two
    | cons first rest =>
        have same : announced opcode (first :: rest ++ [c]) = announced opcode (first :: rest) :=
          rfl
        rw [same] at mem
        have longer := short n mem
        simp only [List.length_cons, List.length_append, List.length_nil] at longer ⊢
        omega

theorem Cut.skipAll {stream junk : List Byte} {packets : List (List Byte)}
    (cut : Cut stream packets) (noOpcode : ∀ byte ∈ junk, ¬ IsOpcode byte) :
    Cut (stream ++ junk) packets := by
  induction junk generalizing stream with
  | nil =>
      rw [List.append_nil]
      exact cut
  | cons byte junk ih =>
      rw [← List.singleton_append, ← List.append_assoc]
      exact ih (cut.skip (noOpcode byte List.mem_cons_self))
        fun other mem => noOpcode other (List.mem_cons_of_mem byte mem)

/-! ## One call -/

/-- A call before it looks into the buffer. -/
structure Arrived (len : Nat) (serial : Serial) : Prop where
  inRange : serial.fault = false
  cut : ∃ before, serial.stream = before ++ serial.pending ∧ Cut before serial.returned
  parts : ∃ junk part, serial.pending = junk ++ part ∧ (∀ byte ∈ junk, ¬ IsOpcode byte) ∧
    Reaches part
  fits : ∀ packet ∈ serial.returned, packet.length ≤ len

theorem Right.arrive (right : Right len serial) (arrived : Option Byte)
    (room : arrived.isSome = true → serial.ibufferin < ibufferSize) :
    Arrived len (serial.arrive arrived) := by
  obtain ⟨before, stream, cut⟩ := right.delivers.cut
  obtain ⟨junk, part, held, noOpcode, begins⟩ := right.delivers.begins
  cases arrived with
  | none =>
      exact ⟨right.inRange, right.delivers.cut, ⟨junk, part, held, noOpcode, begins.reaches⟩,
        right.fits⟩
  | some c =>
      refine ⟨?_, ⟨before, ?_, cut⟩, ?_, right.fits⟩
      · have inside : ¬ ibufferSize ≤ serial.ibufferin := Nat.not_le.mpr (room rfl)
        simp [Serial.arrive, Serial.append, right.inRange, inside]
      · rw [Serial.arrive, pending_append, ← List.append_assoc, ← stream]
        rfl
      · rw [Serial.arrive, pending_append, held]
        exact begins.append noOpcode c

/-- The length that the call takes is the one announced, unless the length byte is still to
come. -/
theorem pktlen_announced {junk rest : List Byte} {opcode : Byte}
    (held : serial.pending = junk ++ opcode :: rest) (isOpcode : IsOpcode opcode) {n : Nat}
    (taken : n = pktlen opcode (serial.ibuffer (junk.length + 1))) :
    announced opcode rest = some n ∨ announced opcode rest = none ∧ rest = [] := by
  obtain ⟨-, -, next⟩ := ibuffer_opcode held
  by_cases length : HasLength opcode
  · cases rest with
    | nil =>
        rw [announced, if_pos length]
        exact .inr ⟨rfl, rfl⟩
    | cons byte rest =>
        rw [pktlen_of_hasLength length, next byte rfl] at taken
        rw [announced, if_pos length, taken]
        exact .inl rfl
  · obtain ⟨k, -, same⟩ := pktlen_fixed isOpcode length
    rw [announced, if_neg length, taken, same, same]
    exact .inl rfl

/-- A single byte is no packet. -/
theorem begins_singleton {opcode : Byte} (isOpcode : IsOpcode opcode) : Begins [opcode] := by
  refine .inr ⟨opcode, [], rfl, isOpcode, fun n mem => ?_⟩
  by_cases length : HasLength opcode
  · rw [announced, if_pos length] at mem
    cases mem
  · obtain ⟨k, two, same⟩ := pktlen_fixed isOpcode length
    rw [announced, if_neg length, same] at mem
    cases mem
    exact two

theorem Arrived.examine (arrived : Arrived len serial)
    (found : 2 ≤ serial.ibufferin → ∃ out, ibufferout serial.ibuffer = some out ∧
      (HasLength (serial.ibuffer out) → out + 1 < ibufferSize))
    (length : 2 ≤ serial.ibufferin → ∀ out, ibufferout serial.ibuffer = some out →
      out < serial.ibufferin →
        2 ≤ pktlen (serial.ibuffer out) (serial.ibuffer (out + 1)) ∧
          (out + pktlen (serial.ibuffer out) (serial.ibuffer (out + 1)) ≤ serial.ibufferin →
            pktlen (serial.ibuffer out) (serial.ibuffer (out + 1)) ≤ len)) :
    Right len (serial.examine len) := by
  obtain ⟨before, stream, cut⟩ := arrived.cut
  obtain ⟨junk, part, held, noOpcode, reaches⟩ := arrived.parts
  have size := length_pending serial
  rw [held, List.length_append] at size
  -- The call leaves the buffer alone while there is only the beginning of a packet.
  have waits (begins : Begins part) : Right len serial :=
    ⟨arrived.inRange, ⟨arrived.cut, junk, part, held, noOpcode, begins⟩, arrived.fits⟩
  rw [Serial.examine]
  by_cases few : serial.ibufferin < 2
  · rw [if_pos few]
    apply waits
    rcases reaches with nothing | ⟨opcode, rest, rfl, isOpcode, -⟩
    · exact .inl nothing
    · rw [List.length_cons] at size
      have single : rest = [] := List.length_eq_zero_iff.mp (by omega)
      rw [single]
      exact begins_singleton isOpcode
  · rw [if_neg few]
    obtain ⟨out, scanned, within⟩ := found (by omega)
    have inBuffer : ¬ (HasLength (serial.ibuffer out) ∧ ibufferSize ≤ out + 1) :=
      fun outside => absurd (within outside.1) (by omega)
    rw [scanned]
    dsimp only
    rw [if_neg inBuffer]
    generalize taken : pktlen (serial.ibuffer out) (serial.ibuffer (out + 1)) = n
    by_cases incomplete : serial.ibufferin < out + n
    · rw [if_pos incomplete]
      apply waits
      rcases reaches with nothing | ⟨opcode, rest, rfl, isOpcode, -⟩
      · exact .inl nothing
      · have here := ibufferout_eq held noOpcode isOpcode scanned
        rw [here, (ibuffer_opcode held).2.1] at taken
        refine .inr ⟨opcode, rest, rfl, isOpcode, fun m mem => ?_⟩
        rcases pktlen_announced held isOpcode taken.symm with known | ⟨unknown, -⟩
        · rw [known] at mem
          cases mem
          omega
        · rw [unknown] at mem
          cases mem
    · rw [if_neg incomplete]
      rcases reaches with rfl | ⟨opcode, rest, rfl, isOpcode, long⟩
      · -- A length byte of 0 behind what has arrived.
        rw [List.append_nil] at held
        have older := ibufferin_le held noOpcode scanned
        have none : n = 0 := by omega
        rw [none, if_neg (Nat.not_lt_zero len)]
        refine ⟨arrived.inRange, ⟨⟨serial.stream, (List.append_nil _).symm, ?_⟩, [], [], rfl, nofun,
          .inl rfl⟩, arrived.fits⟩
        dsimp only
        rw [if_pos rfl, stream, held]
        exact cut.skipAll noOpcode
      · have here := ibufferout_eq held noOpcode isOpcode scanned
        rw [List.length_cons] at size
        obtain ⟨two, room⟩ := length (by omega) out scanned (by omega)
        rw [taken] at two room
        have fits : n ≤ len := room (by omega)
        rw [here, (ibuffer_opcode held).2.1] at taken
        rcases pktlen_announced held isOpcode taken.symm with known | ⟨-, alone⟩
        · have complete : (opcode :: rest).length = n := by
            have most := long n known two
            rw [List.length_cons] at most ⊢
            omega
          have isPacket : IsPacket (opcode :: rest) :=
            ⟨opcode, rest, rfl, isOpcode, complete ▸ known⟩
          have nonzero : n ≠ 0 := by omega
          rw [if_neg (Nat.not_lt.mpr fits), here, if_neg nonzero, ← complete, map_range_eq held]
          refine ⟨arrived.inRange, ⟨⟨serial.stream, (List.append_nil _).symm, ?_⟩, [], [], rfl,
            nofun, .inl rfl⟩, ?_⟩
          · dsimp only
            rw [stream, held, ← List.append_assoc]
            exact (cut.skipAll noOpcode).packet isPacket
          · intro packet mem
            rcases List.mem_append.mp mem with old | new
            · exact arrived.fits packet old
            · rw [List.mem_singleton.mp new, complete]
              exact fits
        · rw [alone, List.length_nil] at size
          omega

/-! ## Runs -/

theorem step_right {arrived : Option Byte} (right : Right len serial)
    (met : Meets len serial arrived) (taken : step len serial arrived = some next) :
    Right len next := by
  have examined : next = (serial.arrive arrived).examine len := by
    cases arrived <;> exact (Option.some.inj taken).symm
  rw [examined]
  exact (right.arrive arrived met.room).examine met.found met.length

/-- The driver after its start, with whatever the memory contains. -/
def start (ibuffer : Nat → Byte) : Serial :=
  ⟨0, ibuffer, false, [], []⟩

theorem right_start (ibuffer : Nat → Byte) : Right len (start ibuffer) :=
  ⟨rfl, ⟨⟨[], rfl, .start⟩, [], [], rfl, nofun, .inl rfl⟩, nofun⟩

/-- In every run whose calls find what they look for in the buffer, the calls return the
packets of the stream. -/
theorem right_of_meets (len : Nat) (ibuffer : Nat → Byte) (arrivals : List (Option Byte))
    (meets : MeetsAlong (step len) (Meets len) (start ibuffer) arrivals) :
    HoldsAlong (step len) (Right len) (start ibuffer) arrivals :=
  holdsAlong_of_meets (fun _ right => right) (fun _ _ _ right met taken =>
    step_right right met taken) (right_start ibuffer) meets

/-- `OPC_GPON` in two calls, with one in between that finds nothing new. -/
theorem right_gpon :
    HoldsAlong (step 128) (Right 128) (start fun _ => 0) [some 0x83, none, some 0x7c] := by
  refine right_of_meets 128 (fun _ => 0) _ ?_
  intro first taken
  cases taken
  refine ⟨⟨fun _ => by decide, ?_, ?_⟩, ?_⟩
  · exact fun two => absurd two (by decide)
  · exact fun two => absurd two (by decide)
  intro second taken
  cases taken
  refine ⟨⟨nofun, fun two => absurd two (by decide), fun two => absurd two (by decide)⟩, ?_⟩
  intro third taken
  cases taken
  refine ⟨⟨fun _ => by decide, fun _ => ⟨0, rfl, by decide⟩, fun _ out found _ => ?_⟩, trivial⟩
  cases found
  decide

theorem Cut.noOpcode {stream : List Byte} {packets : List (List Byte)}
    (cut : Cut stream packets) (none : packets = []) : ∀ byte ∈ stream, ¬ IsOpcode byte := by
  induction cut with
  | start => nofun
  | skip _ noOpcode ih =>
      intro byte mem
      rcases List.mem_append.mp mem with old | new
      · exact ih none byte old
      · rw [List.mem_singleton.mp new]
        exact noOpcode
  | packet _ _ _ => simp at none

/-- An opcode behind another byte takes the length byte that is still to come from the buffer,
and is lost; and without an opcode the scan leaves the buffer. -/
theorem not_right_before_length :
    ¬ HoldsAlong (step 128) (Right 128) (start fun _ => 0) [some 0x00, some 0xe5] ∧
      ¬ HoldsAlong (step 128) (Right 128) (start fun _ => 0) [some 0x00, some 0x00] := by
  constructor
  · intro holds
    have executed : run (step 128) (start fun _ => 0) [some 0x00, some 0xe5] = some _ := rfl
    obtain ⟨before, stream, cut⟩ := (holds.last executed).delivers.cut
    have bytes : ([0x00, 0xe5] : List Byte) = before := stream.trans (List.append_nil before)
    rw [← bytes] at cut
    exact cut.noOpcode rfl 0xe5 (by decide) (by decide)
  · intro holds
    have executed : run (step 128) (start fun _ => 0) [some 0x00, some 0x00] = some _ := rfl
    exact absurd (holds.last executed).inRange (by decide)

end Srcpd.Driver.LnSerial
