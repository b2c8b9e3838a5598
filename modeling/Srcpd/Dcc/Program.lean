import Mathlib.Data.List.Destutter
import Srcpd.Dcc.Packet

/-!
# Programming packets

What a decoder reads from the packets that access its configuration variables: the
direct and the register packets of the programming track, and the packets that name an
address on the main.  A command is a sequence of packets in which each one is repeated;
`Tells` says which instructions a decoder hears in it.
-/

namespace Srcpd.Dcc

/-- Access to a configuration variable, with its number from 1 on. -/
inductive Access
  | byte (verify : Bool) (cv value : Nat)
  | bit (verify : Bool) (cv bit : Nat) (value : Bool)
  deriving DecidableEq, Repr

/-- `CCAA AAAAAAAA DDDDDDDD`; the data of a bit are `111CDBBB`. -/
def decodeAccess (instruction low data : Byte) : Option Access :=
  let cv := instruction.toNat % 4 * 256 + low.toNat + 1
  if instruction &&& 0x0c = 0x04 then some (.byte true cv data.toNat)
  else if instruction &&& 0x0c = 0x0c then some (.byte false cv data.toNat)
  else if instruction &&& 0x0c = 0x08 ∧ data &&& 0xe0 = 0xe0 then
    some (.bit (!data.getLsbD 4) cv (data.toNat % 8) (data.getLsbD 3))
  else none

/-- What a programming packet asks for, in service mode or on the main track. -/
inductive Programming
  | register (verify : Bool) (number value : Nat)
  | direct (access : Access)
  | onMain (address : Address) (access : Access)
  deriving DecidableEq, Repr

/-- The bytes before the error detection on the programming track: `0111CRRR DDDDDDDD`
for a register, three bytes for a variable. -/
def decodeService : List Byte → Option Programming
  | [instruction, data] =>
      if instruction &&& 0xf0 = 0x70 then
        some (.register (!instruction.getLsbD 3) (instruction.toNat % 8 + 1) data.toNat)
      else none
  | [instruction, low, data] =>
      if instruction &&& 0xf0 = 0x70 then (decodeAccess instruction low data).map .direct
      else none
  | _ => none

/-- The same on the main, behind an address. -/
def decodeOnMain (bytes : List Byte) : Option Programming :=
  (splitAddress bytes).bind fun split =>
    match split.2 with
    | [instruction, low, data] =>
        if instruction &&& 0xf0 = 0xe0 then
          (decodeAccess instruction low data).map (.onMain split.1)
        else none
    | _ => none

/-- The variable behind one of the four registers of a page; page 0 is the last one. -/
def pagedCv (page register : Nat) : Nat :=
  (page + 255) % 256 * 4 + (register - 1) + 1

/-! ## Sequences of packets -/

/-- The bytes of the reset packet with their error byte. -/
def resetBytes : List Byte := [0x00, 0x00, 0x00]

/-- The bytes of the idle packet with their error byte. -/
def idleBytes : List Byte := [0xff, 0x00, 0xff]

section Sequences

variable {α β : Type*} {parts : List (Nat × α)}

/-- Each part as often as its number says. -/
def loops (parts : List (Nat × α)) : List α :=
  parts.flatMap fun part => List.replicate part.1 part.2

@[simp]
theorem loops_nil : loops ([] : List (Nat × α)) = [] :=
  rfl

@[simp]
theorem loops_cons (part : Nat × α) :
    loops (part :: parts) = List.replicate part.1 part.2 ++ loops parts :=
  List.flatMap_cons

theorem map_loops (f : α → β) :
    (loops parts).map f = loops (parts.map fun part => (part.1, f part.2)) := by
  induction parts with
  | nil => rfl
  | cons part parts ih =>
      rw [loops_cons, List.map_append, List.map_replicate, ih, List.map_cons, loops_cons]

theorem filter_loops (keep : α → Bool) :
    (loops parts).filter keep = loops (parts.filter fun part => keep part.2) := by
  induction parts with
  | nil => rfl
  | cons part parts ih =>
      rw [loops_cons, List.filter_append, ih, List.filter_replicate, List.filter_cons]
      split
      · rw [loops_cons]
      · rfl

theorem mem_loops {value : α} (mem : value ∈ loops parts) :
    ∃ part ∈ parts, part.2 = value := by
  obtain ⟨part, partMem, repeated⟩ := List.mem_flatMap.mp mem
  exact ⟨part, partMem, (List.eq_of_mem_replicate repeated).symm⟩

variable [DecidableEq α]

theorem destutter'_replicate_append (count : Nat) (value : α) (rest : List α) :
    (List.replicate count value ++ rest).destutter' (· ≠ ·) value =
      rest.destutter' (· ≠ ·) value := by
  induction count with
  | zero => rfl
  | succ count ih =>
      rw [List.replicate_succ, List.cons_append, List.destutter'_cons_neg _ (not_not.mpr rfl), ih]

theorem destutter'_loops (value : α) (positive : ∀ part ∈ parts, 0 < part.1) :
    (loops parts).destutter' (· ≠ ·) value =
      (parts.map Prod.snd).destutter' (· ≠ ·) value := by
  induction parts generalizing value with
  | nil => rfl
  | cons part parts ih =>
      rcases part with ⟨count, next⟩
      obtain ⟨count, rfl⟩ := Nat.exists_eq_add_of_lt (positive (count, next) List.mem_cons_self)
      have others : ∀ part ∈ parts, 0 < part.1 :=
        fun part mem => positive part (List.mem_cons_of_mem _ mem)
      have repeated := destutter'_replicate_append (0 + count) next (loops parts)
      rw [loops_cons, List.map_cons, List.replicate_succ, List.cons_append, List.destutter'_cons,
        List.destutter'_cons, repeated, ih next others]
      split
      · rfl
      · rename_i same
        rw [not_not.mp same, repeated, ih next others]

/-- How often a part is repeated does not matter. -/
theorem destutter_loops (positive : ∀ part ∈ parts, 0 < part.1) :
    (loops parts).destutter (· ≠ ·) = (parts.map Prod.snd).destutter (· ≠ ·) := by
  cases parts with
  | nil => rfl
  | cons part parts =>
      rcases part with ⟨count, first⟩
      obtain ⟨count, rfl⟩ := Nat.exists_eq_add_of_lt (positive (count, first) List.mem_cons_self)
      have others : ∀ part ∈ parts, 0 < part.1 :=
        fun part mem => positive part (List.mem_cons_of_mem _ mem)
      rw [loops_cons, List.map_cons, List.replicate_succ, List.cons_append, List.destutter_cons',
        List.destutter_cons', destutter'_replicate_append, destutter'_loops first others]

end Sequences

/-- Resets and idle packets tell nothing. -/
def Telling (bytes : List Byte) : Bool :=
  bytes ≠ resetBytes ∧ bytes ≠ idleBytes

/-- The programming of all packets that are not fillers. -/
def told (decode : List Byte → Option Programming) (packets : List (List Byte)) :
    List (Option Programming) :=
  (packets.filter Telling).map fun packet => decode packet.dropLast

/-- The bits are well-formed packets that tell these instructions, each of them any number
of times. -/
def Tells (decode : List Byte → Option Programming) (bits : List Bool)
    (instructions : List Programming) : Prop :=
  ∃ packets, parsePackets bits = some packets ∧ (∀ packet ∈ packets, WellFormed packet) ∧
    (told decode packets).destutter (· ≠ ·) = (instructions.map some).destutter (· ≠ ·)

theorem parsePackets_flatten {preamble : Nat} (long : minPreamble ≤ preamble)
    {packets : List (List Byte)} (nonempty : ∀ packet ∈ packets, packet ≠ []) :
    parsePackets (packets.map (packetBits preamble)).flatten = some packets := by
  induction packets with
  | nil => rfl
  | cons packet packets ih =>
      rw [List.map_cons, List.flatten_cons,
        parsePackets_packet long (nonempty packet List.mem_cons_self),
        ih fun other mem => nonempty other (List.mem_cons_of_mem _ mem), Option.map_some]

theorem WellFormed.ne_nil {bytes : List Byte} (formed : WellFormed bytes) : bytes ≠ [] := by
  rintro rfl
  exact absurd formed.1 (by decide)

/-- Packets in loops from which a decoder hears these instructions. -/
structure Heard (decode : List Byte → Option Programming) (packets : List (List Bool))
    (instructions : List Programming) : Prop where
  loops : ∃ preamble parts, minPreamble ≤ preamble ∧
    packets = (loops parts).map (packetBits preamble) ∧
    (∀ part ∈ parts, 0 < part.1 ∧ WellFormed part.2) ∧
    ((parts.filter fun part => Telling part.2).map fun part =>
      decode part.2.dropLast).destutter (· ≠ ·) = (instructions.map some).destutter (· ≠ ·)

section

variable {decode : List Byte → Option Programming} {packets : List (List Bool)}
  {heard instructions : List Programming}

theorem Heard.read (hears : Heard decode packets heard) :
    ∃ read, parsePackets packets.flatten = some read ∧ (∀ packet ∈ read, WellFormed packet) ∧
      (told decode read).destutter (· ≠ ·) = (heard.map some).destutter (· ≠ ·) := by
  obtain ⟨preamble, parts, long, rfl, parts_formed, decoded⟩ := hears.loops
  have formed (packet : List Byte) (mem : packet ∈ Dcc.loops parts) : WellFormed packet := by
    obtain ⟨part, partMem, rfl⟩ := mem_loops mem
    exact (parts_formed part partMem).2
  refine ⟨Dcc.loops parts, ?_, formed, ?_⟩
  · exact parsePackets_flatten long fun packet mem => (formed packet mem).ne_nil
  · rw [told, filter_loops, map_loops, destutter_loops, List.map_map]
    · exact decoded
    · intro part mem
      obtain ⟨kept, keptMem, rfl⟩ := List.mem_map.mp mem
      exact (parts_formed kept (List.mem_of_mem_filter keptMem)).1

/-- What is heard is told, and nothing else is. -/
theorem Heard.tells_heard_iff (hears : Heard decode packets heard) :
    Tells decode packets.flatten instructions ↔
      heard.destutter (· ≠ ·) = instructions.destutter (· ≠ ·) := by
  obtain ⟨read, parse, formed, once⟩ := hears.read
  have strip (programs : List Programming) : (programs.map some).destutter (· ≠ ·) =
      (programs.destutter (· ≠ ·)).map some :=
    (List.map_destutter_ne _ (Option.some_injective _)).symm
  constructor
  · rintro ⟨other, otherEq, -, same⟩
    cases otherEq.symm.trans parse
    rw [once, strip, strip] at same
    exact List.map_injective_iff.mpr (Option.some_injective _) same
  · intro same
    refine ⟨read, parse, formed, ?_⟩
    rw [once, strip, strip, same]

/-- Packets that are the same are heard the same. -/
theorem Heard.unique (hears : Heard decode packets heard)
    (hears' : Heard decode packets instructions) :
    heard.destutter (· ≠ ·) = instructions.destutter (· ≠ ·) :=
  hears.tells_heard_iff.mp (hears'.tells_heard_iff.mpr rfl)

end

end Srcpd.Dcc
