import Srcpd.Transition.Loop

/-!
# Bit streams to packet streams

The translation routines of `ddl_nmra.c`.  A bit stream is the string of `0`
and `1` characters the composers build; a packet stream is the array of
`PKTSIZE` bytes that is written to the serial port, together with the number of
bytes in use.  The routines search, back up and restart, so each is a loop with
fuel; `none` means that it is still running.
-/

namespace Srcpd.Ddl

open Srcpd.Transition

/-- A string of `0` and `1` characters; `true` is the character `1`. -/
abbrev Bitstream := List Bool

/-- A buffer of bytes for the serial port. -/
abbrev Packetstream := List (BitVec 8)

/-- Large packet size reserved for F0-F28 packets. -/
def pktsize : Nat := 80

/-- 230 is needed for all functions F0-F28. -/
def buffersize : Nat := 1000

/-- `NMRA_STACKSIZE`, more than a packet has bytes. -/
def nmraStacksize : Nat := 200

/-- `memset(Packetstream, 0, PKTSIZE)`. -/
def emptyPacketstream : Packetstream := List.replicate pktsize 0

/-! ## Translation tables -/

/-- A pattern of whole bits and the byte that sends it. -/
structure TranslateEntry where
  pattern : Bitstream
  value : BitVec 8
  deriving DecidableEq, Repr

/-- The bits that an entry sends. -/
def TranslateEntry.patternlength (entry : TranslateEntry) : Nat := entry.pattern.length

/-- `TranslateData`, ordered by the length of the patterns. -/
def translateData : List TranslateEntry :=
  [⟨[false], 0xF0⟩,
   ⟨[false, false], 0xC6⟩,
   ⟨[false, true], 0x78⟩,
   ⟨[true, false], 0xE1⟩,
   ⟨[false, false, true], 0x66⟩,
   ⟨[false, true, false], 0x96⟩,
   ⟨[false, true, true], 0x5C⟩,
   ⟨[true, false, false], 0x99⟩,
   ⟨[true, false, true], 0x71⟩,
   ⟨[true, true, false], 0xC5⟩,
   ⟨[false, true, true, true], 0x56⟩,
   ⟨[true, false, true, true], 0x59⟩,
   ⟨[true, true, false, true], 0x65⟩,
   ⟨[true, true, true, false], 0x95⟩,
   ⟨[true, true, true, true, true], 0x55⟩]

/-- Number of translatable patterns. -/
def dataCnt : Nat := translateData.length

/-- The entry at an index of the table. -/
def translateDataAt (index : Int) : TranslateEntry :=
  translateData.getD index.toNat ⟨[], 0⟩

/-- A byte that shares its first and last bit with its neighbours, and the
number of bits it moves the reader on. -/
structure TranslateEntryV3 where
  value : BitVec 8
  patternlength : Nat
  deriving DecidableEq, Repr

/-! The bytes, named by the half (lower case) and whole (upper case) bits they
send: `h` for a `1`, `l` for a `0`. -/

/-- On the line `_____-----`. -/
def ll : BitVec 8 := 0xf0

/-- On the line `___--__---`. -/
def lLl : BitVec 8 := 0xcc

/-- On the line `____-_----`. -/
def lHl : BitVec 8 := 0xe8

/-- On the line `__-_--__--`. -/
def lHLl : BitVec 8 := 0x9a

/-- On the line `__--__-_--`. -/
def lLHl : BitVec 8 := 0xa6

/-- On the line `___-_-_---`. -/
def lHHl : BitVec 8 := 0xd4

/-- On the line `___---___-`. -/
def lLh : BitVec 8 := 0x1c

/-- On the line `_______-_-`. -/
def lHh : BitVec 8 := 0x40

/-- On the line `___--__-_-`. -/
def lLHh : BitVec 8 := 0x4c

/-- On the line `___-_--__-`. -/
def lHLh : BitVec 8 := 0x34

/-- On the line `_____-_-_-`. -/
def lHHh : BitVec 8 := 0x50

/-- On the line `___-_-_-_-`. -/
def lHHHh : BitVec 8 := 0x54

/-- On the line `_----____-`. -/
def hLh : BitVec 8 := 0x0f

/-- On the line `_-_---___-`. -/
def hHLh : BitVec 8 := 0x1d

/-- On the line `_---___-_-`. -/
def hLHh : BitVec 8 := 0x47

/-- On the line `_-_-_--__-`. -/
def hHHLh : BitVec 8 := 0x35

/-- On the line `_-_--__-_-`. -/
def hHLHh : BitVec 8 := 0x4d

/-- On the line `_--__-_-_-`. -/
def hLHHh : BitVec 8 := 0x53

/-- On the line `_-_-_-_-_-`. -/
def hHHHHh : BitVec 8 := 0x55

/-- On the line `_---------`. -/
def hl : BitVec 8 := 0xff

/-- On the line `_---___---`. -/
def hLl : BitVec 8 := 0xc7

/-- On the line `_-_-------`. -/
def hHl : BitVec 8 := 0xfd

/-- On the line `_-_--__---`. -/
def hHLl : BitVec 8 := 0xcd

/-- On the line `_--__-_---`. -/
def hLHl : BitVec 8 := 0xD3

/-- On the line `_-_-_-----`. -/
def hHHl : BitVec 8 := 0xF5

/-- On the line `_-_-_-_---`. -/
def hHHHl : BitVec 8 := 0xd5

/-- The first and the second try for each five-bit window. -/
def translateDataV3 : List (TranslateEntryV3 × TranslateEntryV3) :=
  [(⟨lLl, 2⟩, ⟨ll, 1⟩),
   (⟨lLl, 2⟩, ⟨ll, 1⟩),
   (⟨lLl, 2⟩, ⟨ll, 1⟩),
   (⟨lLl, 2⟩, ⟨ll, 1⟩),
   (⟨lLHl, 3⟩, ⟨lLh, 2⟩),
   (⟨lLHl, 3⟩, ⟨lLh, 2⟩),
   (⟨lLHh, 3⟩, ⟨lLh, 2⟩),
   (⟨lLHh, 3⟩, ⟨lLh, 2⟩),
   (⟨lHLl, 3⟩, ⟨lHl, 2⟩),
   (⟨lHLl, 3⟩, ⟨lHl, 2⟩),
   (⟨lHLh, 3⟩, ⟨lHl, 2⟩),
   (⟨lHLh, 3⟩, ⟨lHl, 2⟩),
   (⟨lHHl, 3⟩, ⟨lHh, 2⟩),
   (⟨lHHl, 3⟩, ⟨lHh, 2⟩),
   (⟨lHHh, 3⟩, ⟨lHh, 2⟩),
   (⟨lHHHh, 4⟩, ⟨lHHh, 3⟩),
   (⟨hLl, 2⟩, ⟨hl, 1⟩),
   (⟨hLl, 2⟩, ⟨hl, 1⟩),
   (⟨hLl, 2⟩, ⟨hl, 1⟩),
   (⟨hLl, 2⟩, ⟨hl, 1⟩),
   (⟨hLHl, 3⟩, ⟨hLh, 2⟩),
   (⟨hLHl, 3⟩, ⟨hLh, 2⟩),
   (⟨hLHh, 3⟩, ⟨hLh, 2⟩),
   (⟨hLHHh, 4⟩, ⟨hLHh, 3⟩),
   (⟨hHLl, 3⟩, ⟨hHl, 2⟩),
   (⟨hHLl, 3⟩, ⟨hHl, 2⟩),
   (⟨hHLh, 3⟩, ⟨hHl, 2⟩),
   (⟨hHLHh, 4⟩, ⟨hHLh, 3⟩),
   (⟨hHHl, 3⟩, ⟨hHHl, 3⟩),
   (⟨hHHLh, 4⟩, ⟨hHHl, 3⟩),
   (⟨hHHHl, 4⟩, ⟨hHHHl, 4⟩),
   (⟨hHHHHh, 5⟩, ⟨hHHHHh, 5⟩)]

/-- The first or the second entry for the next bits. -/
def translateDataV3At (index : Nat) (secondTry : Bool) : TranslateEntryV3 :=
  let tries := translateDataV3.getD index (⟨0, 0⟩, ⟨0, 0⟩)
  if secondTry then tries.2 else tries.1

/-! ## Version 1 -/

/-- The result is only an index, no warranty. -/
def translateabel (bs : Bitstream) : Bool :=
  translateData.any fun entry => entry.pattern.isSuffixOf bs

/-- The search `while (i >= 0) ... i--` for a pattern the rest begins with:
the candidates are the entries below `candidates`, the last one first. -/
def findPattern (rest : Bitstream) : Nat → Option Nat
  | 0 => none
  | candidates + 1 =>
      if (translateDataAt candidates).pattern.isPrefixOf rest then some candidates
      else findPattern rest candidates

/-- The variables of the loop of the first version. -/
structure V1State where
  buffer : Bitstream
  pBs : Nat
  i : Int
  j : Int
  stack : Nat → Int
  pstack : Int
  correction : Bool
  bufsize : Nat
  highestLevel : Int
  packetstream : Packetstream

/-- The backtracking step, to the last level that is available. -/
def v1Backtrack (forceTranslation : Bool) (s : V1State) : V1State :=
  let pstack := s.pstack - 1
  if 0 ≤ pstack then
    let i := s.stack pstack.toNat
    let j := s.j - 1
    -- Additional recursion base, speeds up.
    let j := if 7 ≤ s.highestLevel - j ∧ ¬ forceTranslation then 0 else j
    { s with
      pstack := pstack
      i := i - 1
      pBs := s.pBs - (translateDataAt i).patternlength
      j := j }
  else
    { s with pstack := pstack, i := -1 }

/-- A pattern fits: its byte is written and the reader moves on. -/
def v1Found (i : Nat) (s : V1State) : V1State :=
  { s with
    packetstream := s.packetstream.set s.j.toNat (translateDataAt i).value
    j := s.j + 1
    highestLevel := max s.highestLevel (s.j + 1)
    pBs := s.pBs + (translateDataAt i).patternlength
    stack := Function.update s.stack s.pstack.toNat i
    pstack := s.pstack + 1
    i := dataCnt - 1 }

/-- Leading 1's don't make problems: append one and start again. -/
def v1Restart (s : V1State) : V1State :=
  { s with
    buffer := s.buffer ++ [true]
    bufsize := s.bufsize + 1
    pBs := 0
    j := 0
    pstack := 0
    i := dataCnt - 1
    correction := false
    packetstream := emptyPacketstream }

/-- One turn of the loop of the first version. -/
def v1Body (forceTranslation : Bool) (s : V1State) : V1State ⊕ (Nat × Packetstream) :=
  if s.pBs < s.buffer.length then
    let s := match findPattern (s.buffer.drop s.pBs) (s.i + 1).toNat with
      | none => v1Backtrack forceTranslation s
      | some i => v1Found i s
    if (pktsize : Int) - 1 ≤ s.j ∨ s.bufsize = buffersize then
      .inr (0, s.packetstream)
    else if s.j ≤ 0 ∨ s.pstack < 0 ∨ (nmraStacksize : Int) - 1 < s.pstack then
      .inl (v1Restart s)
    else
      .inl s
  else if s.correction then
    -- The final '1' that was cut off.
    .inr (s.j.toNat + 2, s.packetstream.set s.j.toNat 0x99)
  else
    .inr (s.j.toNat + 1, s.packetstream)

/-- The variables before the loop, with the copy of the stream that it reads. -/
def v1Init (bitstream : Bitstream) : V1State :=
  let copied := bitstream.take (buffersize - 1)
  let buffer := if translateabel copied then copied else copied.dropLast
  { buffer := buffer
    pBs := 0
    i := dataCnt - 1
    j := 0
    stack := fun _ => 0
    pstack := 0
    correction := ¬ translateabel copied
    bufsize := buffer.length
    highestLevel := 0
    packetstream := emptyPacketstream }

/-- The first version, which guesses when nothing fits. -/
def translateBitstream2PacketstreamV1 (fuel : Nat) (bitstream : Bitstream)
    (forceTranslation : Bool) : Option (Nat × Packetstream) :=
  iterate (v1Body forceTranslation) fuel (v1Init bitstream)

/-! ## Version 2 -/

/-- The variables of the loop of the second version. -/
structure V2State where
  position : Nat
  i : Int
  j : Nat
  stack : Nat → Int
  packetstream : Packetstream

/-- The end of the buffer contains only 1s. -/
def v2AtEnd (rest : Bitstream) : Bool :=
  decide (rest.length ≤ 5) && rest.all id

/-- One turn of the loop of the second version. -/
def v2Body (bitstream : Bitstream) (s : V2State) : V2State ⊕ (Nat × Packetstream) :=
  let rest := bitstream.drop s.position
  if rest = [] then
    .inr (s.j + 1, s.packetstream)
  else if v2AtEnd rest then
    .inr (s.j + 2, s.packetstream.set s.j 0x55)
  else
    match findPattern rest (s.i + 1).toNat with
    | none =>
        if 0 < s.j then
          let j := s.j - 1
          let i := s.stack j
          let next := { s with
            j := j
            i := i - 1
            position := s.position - (translateDataAt i).patternlength }
          if pktsize ≤ next.j then .inr (0, next.packetstream) else .inl next
        else
          .inr (0, s.packetstream)
    | some i =>
        let next := { s with
          packetstream := s.packetstream.set s.j (translateDataAt i).value
          position := s.position + (translateDataAt i).patternlength
          stack := Function.update s.stack s.j i
          j := s.j + 1
          i := dataCnt - 1 }
        if pktsize ≤ next.j then .inr (0, next.packetstream) else .inl next

/-- The variables before the loop. -/
def v2Init : V2State :=
  { position := 0
    i := dataCnt - 1
    j := 0
    stack := fun _ => 0
    packetstream := emptyPacketstream }

/-- The second version, which gives up when nothing fits. -/
def translateBitstream2PacketstreamV2 (fuel : Nat) (bitstream : Bitstream) :
    Option (Nat × Packetstream) :=
  iterate (v2Body bitstream) fuel v2Init

/-! ## Version 3 -/

/-- The next six characters as a number; a character behind the end is not
`'0'`. -/
def readNextSixBits (bitstream : Bitstream) : Nat :=
  (List.range 6).foldl (fun bits i => (bits <<< 1) ||| (bitstream.getD i true).toNat) 0

/-- Pointers into the buffer are offsets; `lastRestart` is `none` before the
first restart, where the source has `Buffer - 1`. -/
structure V3State where
  readPtr : Nat
  restartRead : Nat
  lastRestart : Option Nat
  restartPacket : Nat
  generatePacket : Nat
  secondTry : Bool
  packetstream : Packetstream
  deriving DecidableEq, Repr

/-- `111110`, the window that is not directly translatable. -/
def untranslatable : Nat := 0x3e

/-- One bit to start with its second half, one bit to be able to back up, then
the stream, then at most six trailing bits. -/
def v3Buffer (bitstream : Bitstream) : Bitstream :=
  true :: true :: bitstream.take (buffersize - 1) ++ List.replicate 6 true

/-- Offset of the first trailing bit. -/
def v3BufEnd (bitstream : Bitstream) : Nat :=
  2 + (bitstream.take (buffersize - 1)).length

/-- Try again from the last position where a shorter translation could be
chosen. -/
def v3Restart (s : V3State) : V3State :=
  { s with
    secondTry := true
    generatePacket := s.restartPacket
    lastRestart := some s.restartRead
    readPtr := s.restartRead }

/-- Translate the window under the reader into one byte. -/
def v3Emit (buffer : Bitstream) (s : V3State) : V3State :=
  let actSix := readNextSixBits (buffer.drop s.readPtr)
  let entry := translateDataV3At (actSix >>> 1) s.secondTry
  -- A smaller window fixes the translation up to here.
  let fixed := actSix < untranslatable
  { s with
    packetstream := s.packetstream.set s.generatePacket entry.value
    restartPacket := if fixed then s.generatePacket else s.restartPacket
    restartRead := if fixed then s.readPtr else s.restartRead
    readPtr := s.readPtr + entry.patternlength
    generatePacket := s.generatePacket + 1
    secondTry := false }

/-- One turn of the loop of the third version. -/
def v3Body (buffer : Bitstream) (bufEnd : Nat) (s : V3State) : V3State ⊕ (Nat × Packetstream) :=
  if s.generatePacket < pktsize ∧ s.readPtr < bufEnd then
    if readNextSixBits (buffer.drop s.readPtr) = untranslatable then
      .inl (v3Emit buffer (v3Restart s))
    else
      .inl (v3Emit buffer s)
  else
    .inr (s.generatePacket, s.packetstream)

/-- The variables before the loop. -/
def v3Init : V3State :=
  { readPtr := 0
    restartRead := 0
    lastRestart := none
    restartPacket := 0
    generatePacket := 0
    secondTry := false
    packetstream := emptyPacketstream }

/-- This routine assumes that any bit stream starts with a 1 bit. -/
def translateBitstream2PacketstreamV3 (fuel : Nat) (bitstream : Bitstream) :
    Option (Nat × Packetstream) :=
  iterate (v3Body (v3Buffer bitstream) (v3BufEnd bitstream)) fuel v3Init

/-- The routine that the configuration selects; any other version yields no
bytes. -/
def translateBitstream2Packetstream (nmradccTrV : Int) (fuel : Nat) (bitstream : Bitstream)
    (forceTranslation : Bool) : Option (Nat × Packetstream) :=
  if nmradccTrV = 1 then
    translateBitstream2PacketstreamV1 fuel bitstream forceTranslation
  else if nmradccTrV = 2 then
    translateBitstream2PacketstreamV2 fuel bitstream
  else if nmradccTrV = 3 then
    translateBitstream2PacketstreamV3 fuel bitstream
  else
    some (0, emptyPacketstream)

end Srcpd.Ddl
