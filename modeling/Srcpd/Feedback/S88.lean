import Srcpd.Driver.DelayedOff
import Srcpd.Feedback.Levels
import Srcpd.Transition.Family

/-!
# Contacts behind a parallel port

`s88load` clocks the shift registers of four S88 buses through the port, one bit of each
bus at a time, and hands every eight bits to `setFBmodul`.  `s88load_row` says which
contact gets the level of which clock, for whatever is behind the port, and
`s88load_latches` that with a chain of modules there each contact gets its own latch.
`run_loads` is about whole runs of the thread: how far apart its loads are, and that the
contacts and their messages follow the loads.
-/

namespace Srcpd.Feedback.S88

open Srcpd.Command Srcpd.Transition Srcpd.Driver.DelayedOff

universe u

variable {σ : Type u}

/-! ## The port -/

/-- What is behind the port. -/
structure Port (σ : Type u) where
  outb : BitVec 8 → σ → σ
  inb : σ → BitVec 8

/-- `S88_QUIET`. -/
def s88Quiet : BitVec 8 := 0x00

/-- `S88_RESET`. -/
def s88Reset : BitVec 8 := 0x04

/-- `S88_LOAD`. -/
def s88Load : BitVec 8 := 0x02

/-- `S88_CLOCK`. -/
def s88Clock : BitVec 8 := 0x01

/-- `S88_MAXPORTSB`, the bytes of each bus. -/
def s88Maxportsb : Nat := 62

/-- The four buses of a port, as `busnumber`, `busnumber + 1` and so on. -/
inductive S88Bus
  | bus1
  | bus2
  | bus3
  | bus4
  deriving DecidableEq

/-- The four buses in the order of the source. -/
def S88Bus.all : List S88Bus :=
  [.bus1, .bus2, .bus3, .bus4]

/-- The position of a bus among the four. -/
def S88Bus.number : S88Bus → Nat
  | .bus1 => 0
  | .bus2 => 1
  | .bus3 => 2
  | .bus4 => 3

theorem S88Bus.nodup_all : S88Bus.all.Nodup := by
  decide

theorem S88Bus.mem_all (bus : S88Bus) : bus ∈ S88Bus.all := by
  cases bus <;> decide

theorem S88Bus.number_inj {bus other : S88Bus} (same : bus.number = other.number) :
    bus = other := by
  cases bus <;> cases other <;> first | rfl | cases same

/-- The configuration of the four buses and their port. -/
structure Config where
  numberFb : S88Bus → Int
  port : Int
  refresh : Int
  clockscale : Int

/-- `S88REFRESH` is an `int`. -/
def Config.s88Refresh (config : Config) : Int :=
  (1000 * config.refresh).bmod (2 ^ 32)

/-- `S88_WRITE`. -/
def s88Write (port : Port σ) (config : Config) (x : BitVec 8) (device : σ) : σ :=
  (port.outb x)^[config.clockscale.toNat] device

/-- The writes before the first reading. -/
def load (port : Port σ) (config : Config) (device : σ) : σ :=
  [s88Load, s88Load ||| s88Clock, s88Quiet, s88Reset, s88Quiet].foldl
    (fun device x => s88Write port config x device) device

/-- The writes behind a reading. -/
def clock (port : Port σ) (config : Config) (device : σ) : σ :=
  s88Write port config s88Quiet (s88Write port config s88Clock device)

/-! ## A load -/

/-- `S88_DATA1` to `S88_DATA4`. -/
def s88Data : S88Bus → BitVec 8
  | .bus1 => 0x40
  | .bus2 => 0x80
  | .bus3 => 0x20
  | .bus4 => 0x10

/-- The level of a bus in a reading; the line of the second bus is inverted. -/
def line (bus : S88Bus) (inbyte : BitVec 8) : Bool :=
  if bus = .bus2 then inbyte &&& s88Data bus = 0 else inbyte &&& s88Data bus ≠ 0

/-- `bitvalue`, from the highest bit on. -/
def bitValues : List (BitVec 32) :=
  [0x80, 0x40, 0x20, 0x10, 0x08, 0x04, 0x02, 0x01]

/-- The element of `s88data` for byte `j` of a bus. -/
def index (j : Nat) (bus : S88Bus) : Nat :=
  j + bus.number * s88Maxportsb

/-- What one reading adds to `s88data`. -/
def interpret (inbyte : BitVec 8) (j k : Nat) (s88data : Nat → BitVec 32) : Nat → BitVec 32 :=
  S88Bus.all.foldl (fun data bus =>
    if line bus inbyte then
      Function.update data (index j bus) (data (index j bus) + bitValues.getD k 0#32)
    else data) s88data

/-- The device and the array after `count` passes of the loop over the bits of byte `j`. -/
def readBits (port : Port σ) (config : Config) (j : Nat) :
    Nat → σ × (Nat → BitVec 32) → σ × (Nat → BitVec 32)
  | 0, read => read
  | count + 1, read =>
      let before := readBits port config j count read
      (clock port config before.1, interpret (port.inb before.1) j count before.2)

/-- No flag is set: modules have eight ports, the first one in the highest bit. -/
def s88Flags : ModulFlags :=
  ⟨false, false, false⟩

/-- The calls of `setFBmodul` behind byte `j`. -/
def setModuls (config : Config) (now : Int) (j : Nat) (s88data : Nat → BitVec 32) :
    List (S88Bus × FbAction) :=
  S88Bus.all.flatMap fun bus =>
    (if (j : Int) < config.numberFb bus * 2 then
      setFBmodul s88Flags now (j + 1) (s88data (index j bus))
    else []).map fun call => (bus, call)

/-- `count` passes of the loop over the bytes: the device, the array and the calls. -/
def readBytes (port : Port σ) (config : Config) (now : Int) :
    Nat → σ → σ × (Nat → BitVec 32) × List (S88Bus × FbAction)
  | 0, device => (device, fun _ => 0#32, [])
  | j + 1, device =>
      let before := readBytes port config now j device
      let read := readBits port config j 8 (before.1, before.2.1)
      (read.1, read.2, before.2.2 ++ setModuls config now j read.2)

/-- `s88valid` is past. -/
def outOfDate (s88valid : Timeval) (now : Nat) : Bool :=
  let nowtime := gettimeofday now
  s88valid.sec < nowtime.sec ∨ nowtime.sec = s88valid.sec ∧ s88valid.usec < nowtime.usec

/-- Until when the data are up to date. -/
def nextValid (config : Config) (now : Nat) : Timeval :=
  let nowtime := gettimeofday now
  let usec := nowtime.usec + config.s88Refresh
  { sec := nowtime.sec + usec.tdiv 1000000, usec := usec.tmod 1000000 }

/-- The device, the new time and the calls of `s88load`. -/
def s88load (port : Port σ) (config : Config) (now : Nat) (s88valid : Timeval) (device : σ) :
    σ × Timeval × List (S88Bus × FbAction) :=
  if outOfDate s88valid now ∧ config.port ≠ 0 then
    let read := readBytes port config now s88Maxportsb (load port config device)
    (read.1, nextValid config now, read.2.2)
  else (device, s88valid, [])

/-! ## The bits of a word -/

variable {port : Port σ} {config : Config}

theorem bitValues_getLsbD {k : Nat} (below : k < 8) (i : Nat) :
    (bitValues.getD k 0#32).getLsbD i = decide (i = 7 - k) := by
  by_cases wide : i < 32
  · revert i
    interval_cases k <;> decide
  · rw [BitVec.getLsbD_of_ge _ _ (by omega), eq_comm, decide_eq_false_iff_not]
    omega

/-- The word after `count` passes. -/
def word (bits : Nat → Bool) : Nat → BitVec 32
  | 0 => 0#32
  | k + 1 => word bits k + if bits k then bitValues.getD k 0#32 else 0#32

/-- The first bit read is the highest. -/
theorem word_getLsbD (bits : Nat → Bool) {count : Nat} (most : count ≤ 8) (i : Nat) :
    (word bits count).getLsbD i = (decide (8 - count ≤ i ∧ i < 8) && bits (7 - i)) := by
  induction count generalizing i with
  | zero =>
      have none : ¬ (8 - 0 ≤ i ∧ i < 8) := by omega
      rw [decide_eq_false none, Bool.false_and, word]
      exact BitVec.getLsbD_zero
  | succ count ih =>
      have before := ih (by omega)
      have added (place : Nat) :
          (if bits count then bitValues.getD count 0#32 else 0#32).getLsbD place =
            (bits count && decide (place = 7 - count)) := by
        cases bits count with
        | false => exact BitVec.getLsbD_zero
        | true => exact bitValues_getLsbD (by omega) place
      have apart :
          word bits count &&& (if bits count then bitValues.getD count 0#32 else 0#32) = 0 := by
        apply BitVec.eq_of_getLsbD_eq
        intro place _
        rw [BitVec.getLsbD_and, before, added]
        by_cases same : place = 7 - count
        · have outside : ¬ (8 - count ≤ place ∧ place < 8) := by omega
          rw [decide_eq_false outside, Bool.false_and, Bool.false_and]
          exact BitVec.getLsbD_zero.symm
        · rw [decide_eq_false same, Bool.and_false, Bool.and_false]
          exact BitVec.getLsbD_zero.symm
      rw [word, BitVec.add_eq_or_of_and_eq_zero _ _ apart, BitVec.getLsbD_or, before, added]
      by_cases same : i = 7 - count
      · have outside : ¬ (8 - count ≤ i ∧ i < 8) := by omega
        have inside : 8 - (count + 1) ≤ i ∧ i < 8 := by omega
        have mirrored : 7 - i = count := by omega
        rw [decide_eq_false outside, decide_eq_true inside, decide_eq_true same, mirrored]
        simp
      · have bounds : (8 - (count + 1) ≤ i ∧ i < 8) ↔ (8 - count ≤ i ∧ i < 8) := by omega
        rw [decide_eq_false same, Bool.and_false, Bool.or_false, decide_eq_decide.mpr bounds]

/-! ## The loops -/

theorem index_inj {j : Nat} {bus other : S88Bus} (same : index j bus = index j other) :
    bus = other := by
  rw [index, index, s88Maxportsb] at same
  exact S88Bus.number_inj (by omega)

theorem index_ne {i j : Nat} (low : i < s88Maxportsb) (low' : j < s88Maxportsb) (apart : i ≠ j)
    (first second : S88Bus) : index i first ≠ index j second := by
  rw [index, index]
  rw [s88Maxportsb] at *
  omega

theorem foldl_interpret {buses : List (S88Bus)} (distinct : buses.Nodup) (inbyte : BitVec 8)
    (j k : Nat) (s88data : Nat → BitVec 32) (place : Nat) :
    buses.foldl (fun data bus =>
        if line bus inbyte then
          Function.update data (index j bus) (data (index j bus) + bitValues.getD k 0#32)
        else data) s88data place =
      s88data place +
        if ∃ bus ∈ buses, place = index j bus ∧ line bus inbyte = true then bitValues.getD k 0#32
        else 0#32 := by
  induction buses generalizing s88data with
  | nil => simp
  | cons bus buses ih =>
      rw [List.nodup_cons] at distinct
      rw [List.foldl_cons, ih distinct.2]
      by_cases own : place = index j bus
      · have others : ¬ ∃ other ∈ buses, place = index j other ∧ line other inbyte = true := by
          rintro ⟨other, mem, same, _⟩
          exact distinct.1 (index_inj (own.symm.trans same) ▸ mem)
        rw [if_neg others]
        by_cases level : line bus inbyte = true
        · have first : ∃ other ∈ bus :: buses, place = index j other ∧ line other inbyte = true :=
            ⟨bus, List.mem_cons_self, own, level⟩
          rw [if_pos level, if_pos first, own, Function.update_self, BitVec.add_zero]
        · have none : ¬ ∃ other ∈ bus :: buses,
              place = index j other ∧ line other inbyte = true := by
            rintro ⟨other, mem, same, high⟩
            rw [← index_inj (own.symm.trans same)] at high
            exact level high
          rw [if_neg level, if_neg none]
      · have same : (∃ other ∈ bus :: buses, place = index j other ∧ line other inbyte = true) ↔
            ∃ other ∈ buses, place = index j other ∧ line other inbyte = true := by
          simp [own]
        have kept : (if line bus inbyte = true then
            Function.update s88data (index j bus) (s88data (index j bus) + bitValues.getD k 0#32)
            else s88data) place = s88data place := by
          split
          · exact Function.update_of_ne own _ _
          · rfl
        rw [kept, if_congr same rfl rfl]

theorem interpret_index (inbyte : BitVec 8) (j k : Nat) (s88data : Nat → BitVec 32)
    (bus : S88Bus) :
    interpret inbyte j k s88data (index j bus) =
      s88data (index j bus) + if line bus inbyte then bitValues.getD k 0#32 else 0#32 := by
  rw [interpret, foldl_interpret S88Bus.nodup_all]
  have same : (∃ other ∈ S88Bus.all, index j bus = index j other ∧
      line other inbyte = true) ↔ line bus inbyte = true := by
    constructor
    · rintro ⟨other, _, same, level⟩
      rwa [index_inj same]
    · intro level
      exact ⟨bus, bus.mem_all, rfl, level⟩
  rw [if_congr same rfl rfl]

theorem interpret_other {inbyte : BitVec 8} {j k place : Nat} {s88data : Nat → BitVec 32}
    (other : ∀ bus, place ≠ index j bus) : interpret inbyte j k s88data place = s88data place := by
  rw [interpret, foldl_interpret S88Bus.nodup_all, if_neg, BitVec.add_zero]
  rintro ⟨bus, _, same, _⟩
  exact other bus same

/-- The reading behind a number of clocks. -/
def reading (port : Port σ) (config : Config) (device : σ) (clocks : Nat) : BitVec 8 :=
  port.inb ((clock port config)^[clocks] device)

theorem readBits_device (j count : Nat) (read : σ × (Nat → BitVec 32)) :
    (readBits port config j count read).1 = (clock port config)^[count] read.1 := by
  induction count with
  | zero => rfl
  | succ count ih => rw [readBits, ih, Function.iterate_succ_apply']

theorem readBits_index (j count : Nat) (read : σ × (Nat → BitVec 32)) (bus : S88Bus) :
    (readBits port config j count read).2 (index j bus) =
      read.2 (index j bus) +
        word (fun k => line bus (reading port config read.1 k)) count := by
  induction count with
  | zero => exact (BitVec.add_zero _).symm
  | succ count ih =>
      rw [readBits]
      dsimp only
      rw [interpret_index, ih, readBits_device, word, BitVec.add_assoc]
      rfl

theorem readBits_other {j place : Nat} (other : ∀ bus, place ≠ index j bus) (count : Nat)
    (read : σ × (Nat → BitVec 32)) :
    (readBits port config j count read).2 place = read.2 place := by
  induction count with
  | zero => rfl
  | succ count ih =>
      rw [readBits]
      exact (interpret_other other).trans ih

theorem readBytes_device (now : Int) (j : Nat) (device : σ) :
    (readBytes port config now j device).1 = (clock port config)^[8 * j] device := by
  induction j with
  | zero => rfl
  | succ j ih =>
      rw [readBytes, readBits_device, ih, ← Function.iterate_add_apply]
      congr 1
      omega

/-- The bytes that are still to be read are zero. -/
theorem readBytes_later (now : Int) {j later : Nat} (device : σ) (behind : j ≤ later)
    (last : later < s88Maxportsb) (bus : S88Bus) :
    (readBytes port config now j device).2.1 (index later bus) = 0#32 := by
  induction j with
  | zero => rfl
  | succ j ih =>
      have elsewhere (other : S88Bus) : index later bus ≠ index j other :=
        index_ne last (by omega) (by omega) bus other
      rw [readBytes]
      exact (readBits_other elsewhere 8 _).trans (ih (by omega))

/-- The contacts of a bus that are read. -/
def Config.count (config : Config) (bus : S88Bus) (bytes : Nat) : Nat :=
  8 * min bytes (config.numberFb bus * 2).toNat

/-- The calls for a bus. -/
def row (now : Int) (count : Nat) (bits : Nat → Bool) : List FbAction :=
  (List.range count).map fun (c : Nat) => .updateFB now (1 + c) (bitValue (bits c))

theorem setFBmodul_word (now : Int) (j : Nat) (bits : Nat → Bool) :
    setFBmodul s88Flags now (j + 1) (word (fun k => bits (8 * j + k)) 8) =
      (List.range 8).map fun k => .updateFB now (1 + (8 * j + k : Nat))
        (bitValue (bits (8 * j + k))) := by
  rw [setFBmodul]
  apply List.map_congr_left
  intro k mem
  have below : k < 8 := List.mem_range.mp mem
  have place : (8 - 8 ≤ 7 - k ∧ 7 - k < 8) := by omega
  have mirrored : 7 - (7 - k) = k := by omega
  have bit : (word (fun k => bits (8 * j + k)) 8).getLsbD (7 - k) = bits (8 * j + k) := by
    rw [word_getLsbD _ le_rfl, decide_eq_true place, Bool.true_and, mirrored]
  have port : ((j : Int) + 1 - 1) * (s88Flags.ports : Int) + 1 + k = 1 + (8 * j + k : Nat) := by
    show ((j : Int) + 1 - 1) * 8 + 1 + k = 1 + (8 * j + k : Nat)
    push_cast
    omega
  show FbAction.updateFB now (((j : Int) + 1 - 1) * (s88Flags.ports : Int) + 1 + k)
    (if (word (fun k => bits (8 * j + k)) 8).getLsbD (7 - k) then 1 else 0) = _
  rw [port, bit, bitValue]

/-- The calls for a bus are about its contacts in order, each with the level of its clock. -/
theorem ofMember_readBytes (now : Int) {j : Nat} (most : j ≤ s88Maxportsb) (device : σ)
    (bus : S88Bus) :
    ofMember bus (readBytes port config now j device).2.2 =
      row now (config.count bus j) fun c => line bus (reading port config device c) := by
  induction j with
  | zero => rw [Config.count, Nat.zero_min]; rfl
  | succ j ih =>
      rw [readBytes, ofMember_append, ih (by omega), setModuls,
        ofMember_flatMap S88Bus.nodup_all bus.mem_all]
      by_cases within : (j : Int) < config.numberFb bus * 2
      · have before : config.count bus j = 8 * j := by rw [Config.count]; omega
        have after : config.count bus (j + 1) = 8 * j + 8 := by rw [Config.count]; omega
        have value : (readBits port config j 8 ((readBytes port config now j device).1,
            (readBytes port config now j device).2.1)).2 (index j bus) =
              word (fun k => line bus (reading port config device (8 * j + k))) 8 := by
          have later : (readBytes port config now j device).2.1 (index j bus) = 0#32 :=
            readBytes_later now device le_rfl (by omega) bus
          rw [readBits_index]
          dsimp only
          rw [later, readBytes_device, BitVec.zero_add]
          congr 1
          funext k
          rw [reading, reading, ← Function.iterate_add_apply, Nat.add_comm]
        have moduls : setFBmodul s88Flags now (j + 1)
            (word (fun k => line bus (reading port config device (8 * j + k))) 8) =
              (List.range 8).map fun k => .updateFB now (1 + (8 * j + k : Nat))
                (bitValue (line bus (reading port config device (8 * j + k)))) :=
          setFBmodul_word now j fun c => line bus (reading port config device c)
        rw [if_pos within, value, moduls, before, after, row, row, List.range_add,
          List.map_append, List.map_map]
        rfl
      · have before : config.count bus j = config.count bus (j + 1) := by
          rw [Config.count, Config.count]
          omega
        rw [if_neg within, List.append_nil, before]

/-! ## Contacts of a load -/

/-- Where a load is due, each contact of a bus without a delay gets the level behind its own
number of clocks, and no other contact changes. -/
theorem s88load_row {fb : Fb} (settled : fb.Settled) (infos : List Int) {now : Nat}
    {s88valid : Timeval} (due : outOfDate s88valid now = true) (enabled : config.port ≠ 0)
    (device : σ) (bus : S88Bus) :
    ∃ last new, run reportStep (fb, infos)
        (ofMember bus (s88load port config now s88valid device).2.2) = some (last, infos ++ new) ∧
      SetsRow fb last 1 (config.count bus s88Maxportsb)
        (fun c => line bus (reading port config (load port config device) c)) new := by
  rw [s88load, if_pos ⟨due, enabled⟩]
  dsimp only
  rw [ofMember_readBytes now le_rfl]
  exact run_row settled infos now 1 _ _

/-! ### A chain of modules -/

/-- The latches of the contacts and the shift registers: a rising clock takes the latches over
while the load line is high, and shifts otherwise. -/
structure Chain where
  lines : BitVec 8
  latches : S88Bus → Nat → Bool
  shift : S88Bus → Nat → Bool

/-- What the shift registers do when the port is written to. -/
def Chain.outb (x : BitVec 8) (chain : Chain) : Chain :=
  { lines := x
    latches := if x &&& s88Reset ≠ 0 then fun _ _ => false else chain.latches
    shift :=
      if x &&& s88Clock ≠ 0 ∧ chain.lines &&& s88Clock = 0 then
        if x &&& s88Load ≠ 0 then chain.latches else fun bus c => chain.shift bus (c + 1)
      else chain.shift }

/-- What the port reads; two of the lines are inverted. -/
def Chain.inb (chain : Chain) : BitVec 8 :=
  (if chain.shift .bus1 0 then s88Data .bus1 else 0) |||
    (if chain.shift .bus2 0 then 0 else s88Data .bus2) |||
      (if chain.shift .bus3 0 then s88Data .bus3 else 0) |||
        (if chain.shift .bus4 0 then s88Data .bus4 else 0)

/-- The four chains of modules at the port. -/
def chainPort : Port Chain :=
  ⟨Chain.outb, Chain.inb⟩

theorem line_byte : ∀ first second third fourth : Bool,
    let inbyte := (if first then s88Data .bus1 else 0) ||| (if second then 0 else s88Data .bus2) |||
      (if third then s88Data .bus3 else 0) ||| (if fourth then s88Data .bus4 else 0)
    line .bus1 inbyte = first ∧ line .bus2 inbyte = second ∧ line .bus3 inbyte = third ∧
      line .bus4 inbyte = fourth := by
  decide

theorem line_inb (chain : Chain) (bus : S88Bus) : line bus chain.inb = chain.shift bus 0 := by
  have levels := line_byte (chain.shift .bus1 0) (chain.shift .bus2 0) (chain.shift .bus3 0)
    (chain.shift .bus4 0)
  cases bus with
  | bus1 => exact levels.1
  | bus2 => exact levels.2.1
  | bus3 => exact levels.2.2.1
  | bus4 => exact levels.2.2.2

/-- Repeated writes are one write. -/
theorem s88Write_chain (scaled : 0 < config.clockscale) (x : BitVec 8) (chain : Chain) :
    s88Write chainPort config x chain = chain.outb x := by
  have again (chain : Chain) : (chain.outb x).outb x = chain.outb x := by
    have cleared : (if x &&& s88Reset ≠ 0 then fun _ _ => false else
        if x &&& s88Reset ≠ 0 then fun _ _ => false else chain.latches) =
          if x &&& s88Reset ≠ 0 then fun _ _ => false else chain.latches := by
      split <;> rfl
    have steady : ¬ (x &&& s88Clock ≠ 0 ∧ x &&& s88Clock = 0) := fun both => both.1 both.2
    rw [Chain.outb, Chain.outb]
    dsimp only
    rw [cleared, if_neg steady]
  have fixed (count : Nat) : (Chain.outb x)^[count + 1] chain = chain.outb x := by
    induction count with
    | zero => rfl
    | succ count ih => rw [Function.iterate_succ_apply', ih, again]
  obtain ⟨count, same⟩ : ∃ count, config.clockscale.toNat = count + 1 :=
    ⟨config.clockscale.toNat - 1, by omega⟩
  rw [s88Write, same]
  exact fixed count

theorem load_chain (scaled : 0 < config.clockscale) (chain : Chain) :
    load chainPort config chain =
      { lines := s88Quiet, latches := fun _ _ => false, shift := chain.latches } := by
  simp [load, s88Write_chain scaled, Chain.outb, s88Load, s88Clock, s88Quiet, s88Reset]

theorem clock_chain (scaled : 0 < config.clockscale) {chain : Chain}
    (low : chain.lines = s88Quiet) :
    clock chainPort config chain =
      { chain with shift := fun bus c => chain.shift bus (c + 1) } := by
  obtain ⟨lines, latches, shift⟩ := chain
  subst low
  simp [clock, s88Write_chain scaled, Chain.outb, s88Clock, s88Quiet, s88Reset, s88Load]

/-- Behind a number of clocks stands the latch of that contact. -/
theorem line_reading_chain (scaled : 0 < config.clockscale) (chain : Chain) (bus : S88Bus)
    (c : Nat) :
    line bus (reading chainPort config (load chainPort config chain) c) = chain.latches bus c := by
  have shifted (clocks : Nat) :
      (clock chainPort config)^[clocks] (load chainPort config chain) =
        { lines := s88Quiet, latches := fun _ _ => false,
          shift := fun bus place => chain.latches bus (place + clocks) } := by
    induction clocks with
    | zero => exact load_chain scaled chain
    | succ clocks ih =>
        rw [Function.iterate_succ_apply', ih, clock_chain scaled rfl]
        have moved (bus : S88Bus) (place : Nat) :
            chain.latches bus (place + 1 + clocks) = chain.latches bus (place + (clocks + 1)) := by
          rw [Nat.add_assoc, Nat.add_comm 1]
        simp only [moved]
  show line bus (Chain.inb ((clock chainPort config)^[c] (load chainPort config chain))) = _
  rw [shifted, line_inb]
  exact congrArg (chain.latches bus) (Nat.zero_add c)

/-- With a chain of modules behind the port: where a load is due, each contact of a bus without
a delay is published as latched when the load line was pulsed, up to the contacts of the bus
and to the last byte that is read; no other contact changes, and each change is reported once. -/
theorem s88load_latches (scaled : 0 < config.clockscale) (enabled : config.port ≠ 0) {fb : Fb}
    (settled : fb.Settled) (infos : List Int) {now : Nat} {s88valid : Timeval}
    (due : outOfDate s88valid now = true) (chain : Chain) (bus : S88Bus) :
    ∃ last new, run reportStep (fb, infos)
        (ofMember bus (s88load chainPort config now s88valid chain).2.2) =
          some (last, infos ++ new) ∧
      SetsRow fb last 1 (config.count bus s88Maxportsb) (chain.latches bus) new := by
  obtain ⟨last, new, executed, sets⟩ :=
    @s88load_row Chain chainPort config fb settled infos now s88valid due enabled chain bus
  have same : (fun c => line bus (reading chainPort config (load chainPort config chain) c)) =
      chain.latches bus := funext fun c => line_reading_chain scaled chain bus c
  rw [same] at sets
  exact ⟨last, new, executed, sets⟩

/-- One module on each bus, as configured without further tags. -/
def defaultConfig : Config :=
  { numberFb := fun _ => 1, port := 0x378, refresh := 100, clockscale := 35 }

/-- The third contact of the second bus is closed. -/
theorem s88load_latches_third :
    ∃ last new, run reportStep (initFB 16 0 0, [])
        (ofMember .bus2 (s88load chainPort defaultConfig 1000000 ⟨0, 0⟩
          ⟨0, fun bus c => bus = .bus2 && c = 2, fun _ _ => true⟩).2.2) = some (last, [] ++ new) ∧
      SetsRow (initFB 16 0 0) last 1 (defaultConfig.count .bus2 s88Maxportsb)
        (fun c => S88Bus.bus2 = .bus2 && c = 2) new :=
  s88load_latches (by decide) (by decide) (settled_initFB 16 0) [] (by decide)
    ⟨0, fun bus c => bus = .bus2 && c = 2, fun _ _ => true⟩ .bus2

/-- No reset is pending on a bus without a delay. -/
structure Quiet (fb : Fb) : Prop where
  settled : fb.Settled
  resetQueue : fb.resetQueue = []

theorem quiet_initFB (number started : Int) : Quiet (initFB number 0 started) where
  settled := settled_initFB number started
  resetQueue := rfl

theorem reportStep_checkResetFB {fb : Fb} (quiet : Quiet fb) (infos : List Int) (now : Int) :
    reportStep (fb, infos) (.checkResetFB now) = some (fb, infos) := by
  rw [reportStep, checkResetFB_of_nil quiet.resetQueue, quiet.resetQueue, checkInfos,
    List.append_nil]

theorem Quiet.reportStep {fb : Fb} (quiet : Quiet fb) (infos : List Int) (action : FbAction) :
    ∃ last new, Feedback.reportStep (fb, infos) action = some (last, new) ∧ Quiet last := by
  cases action with
  | checkResetFB now => exact ⟨fb, infos, reportStep_checkResetFB quiet infos now, quiet⟩
  | updateFB now port value =>
      have room : fb.queueIsFull = false := by
        rw [Fb.queueIsFull, quiet.resetQueue]
        decide
      obtain ⟨⟨code, last⟩, returned⟩ :=
        Option.isSome_iff_exists.mp (updateFB_isSome room now port value)
      refine ⟨last, infos ++ updateInfos fb port value, ?_, ?_, ?_⟩
      · rw [Feedback.reportStep, returned]
        rfl
      · have taken : fbStep fb (.updateFB now port value) = some last := by
          rw [fbStep, returned]
          rfl
        exact quiet.settled.step taken
      · rw [updateFB_resetQueue quiet.settled returned, quiet.resetQueue]

theorem Quiet.run {fb : Fb} (quiet : Quiet fb) (infos : List Int) (actions : List FbAction) :
    ∃ last new, Transition.run Feedback.reportStep (fb, infos) actions = some (last, new) ∧
      Quiet last := by
  induction actions generalizing fb infos with
  | nil => exact ⟨fb, infos, rfl, quiet⟩
  | cons action actions ih =>
      obtain ⟨next, queued, taken, kept⟩ := quiet.reportStep infos action
      obtain ⟨last, new, executed, rest⟩ := ih kept queued
      exact ⟨last, new, run_cons_eq_some_iff.mpr ⟨_, taken, executed⟩, rest⟩

/-! ## The thread -/

/-- The buses with the loads so far, the last one first: its time and its readings. -/
structure State (σ : Type u) where
  device : σ
  s88valid : Timeval
  powerState : Bool
  contacts : S88Bus → Fb × List Int
  loads : List (Nat × (Nat → BitVec 8))

/-- A pass of the thread with the times of its two calls, a session that changes the power, and
whatever happens to the device. -/
inductive Action (σ : Type u)
  | pass (checked loaded : Nat)
  | setPower (on : Bool)
  | outside (device : σ)

/-- The loads so far with that of this moment. -/
def State.loaded (port : Port σ) (config : Config) (state : State σ) (now : Nat) :
    List (Nat × (Nat → BitVec 8)) :=
  if outOfDate state.s88valid now ∧ config.port ≠ 0 then
    (now, reading port config (load port config state.device)) :: state.loads
  else state.loads

/-- Only the resets of the first bus are checked. -/
def step (port : Port σ) (config : Config) : Step (State σ) (Action σ)
  | state, .pass checked loaded =>
      if state.powerState then
        let after := s88load port config loaded state.s88valid state.device
        (run (family reportStep) state.contacts ((.bus1, .checkResetFB checked) :: after.2.2)).map
          fun contacts =>
            { state with
              device := after.1
              s88valid := after.2.1
              contacts
              loads := state.loaded port config loaded }
      else some state
  | state, .setPower on => some { state with powerState := on }
  | state, .outside device => some { state with device }

/-- `fb_delay_time_0` is for the first bus alone, and `s88valid` is whatever the allocated
memory contains. -/
def State.start (config : Config) (delay started : Int) (device : σ) (s88valid : Timeval) :
    State σ :=
  { device
    s88valid
    powerState := false
    contacts := fun bus =>
      (initFB (config.numberFb bus * 16) (if bus = .bus1 then delay else 0) started, [])
    loads := [] }

variable {state next : State σ} {bus : S88Bus}

/-- A contact's levels in the loads, the last one first. -/
def levels (bus : S88Bus) (loads : List (Nat × (Nat → BitVec 8))) (c : Nat) : List Bool :=
  loads.map fun load => line bus (load.2 c)

/-- How often the level differs from the one before, which is low at first. -/
def changes : List Bool → Nat
  | [] => 0
  | level :: older => (if level = older.headD false then 0 else 1) + changes older

/-- The contacts of a bus are as in the last load, and their messages are the changes from load
to load. -/
structure Follows (config : Config) (bus : S88Bus) (loads : List (Nat × (Nat → BitVec 8)))
    (fb : Fb) (infos : List Int) : Prop where
  numberOfFb : fb.numberOfFb = max (config.numberFb bus * 16) 0
  contacts : ∀ c < config.count bus s88Maxportsb,
    (fb.fbstate c).state = bitValue ((levels bus loads c).headD false)
  others : ∀ c, config.count bus s88Maxportsb ≤ c → (fb.fbstate c).state = 0
  infos : ∀ c : Nat, infos.count ((c : Int) + 1) =
    if c < config.count bus s88Maxportsb then changes (levels bus loads c) else 0

theorem bitValue_inj {first second : Bool} (same : bitValue first = bitValue second) :
    first = second := by
  cases first <;> cases second <;> first | rfl | exact absurd same (by decide)

theorem portT_one (c : Nat) : portT (1 + c) = c := by
  rw [portT]
  omega

theorem Config.count_le (config : Config) (bus : S88Bus) (bytes : Nat) :
    (config.count bus bytes : Int) ≤ max (config.numberFb bus * 16) 0 := by
  rw [Config.count]
  omega

/-- One more load. -/
theorem Follows.load {loads : List (Nat × (Nat → BitVec 8))} {fb last : Fb} {infos new : List Int}
    (follows : Follows config bus loads fb infos) (now : Nat) (readings : Nat → BitVec 8)
    (sets : SetsRow fb last 1 (config.count bus s88Maxportsb) (fun c => line bus (readings c))
      new) :
    Follows config bus ((now, readings) :: loads) last (infos ++ new) := by
  have most := config.count_le bus s88Maxportsb
  have set {c : Nat} (below : c < config.count bus s88Maxportsb) :
      (last.fbstate c).state = bitValue (line bus (readings c)) := by
    have contact := sets.contacts c below (by omega) (by rw [follows.numberOfFb]; omega)
    rwa [portT_one] at contact
  have kept {c : Nat} (behind : config.count bus s88Maxportsb ≤ c) :
      last.fbstate c = fb.fbstate c := by
    apply sets.others
    intro k below
    omega
  refine ⟨sets.numberOfFb.trans follows.numberOfFb, fun c below => set below, ?_, ?_⟩
  · intro c behind
    rw [kept behind]
    exact follows.others c behind
  · intro c
    have place : portT ((c : Int) + 1) = c := by rw [Int.add_comm, portT_one]
    rw [List.count_append, follows.infos, sets.infos, place]
    by_cases below : c < config.count bus s88Maxportsb
    · rw [if_pos below, if_pos below, set below, follows.contacts c below]
      have inside : 1 ≤ (c : Int) + 1 ∧ (c : Int) + 1 ≤ fb.numberOfFb := by
        rw [follows.numberOfFb]
        omega
      show _ = (if line bus (readings c) = (levels bus loads c).headD false then 0 else 1) +
        changes (levels bus loads c)
      by_cases same : line bus (readings c) = (levels bus loads c).headD false
      · rw [if_pos same, if_neg (fun changed => changed.2.2 (congrArg bitValue same)), Nat.zero_add,
          Nat.add_zero]
      · rw [if_neg same, if_pos ⟨inside.1, inside.2, fun equal => same (bitValue_inj equal)⟩,
          Nat.add_comm]
    · rw [if_neg below, if_neg below, kept (by omega), if_neg (fun changed => changed.2.2 rfl)]

theorem start_follows (config : Config) (bus : S88Bus) (minTime started : Int) :
    Follows config bus [] (initFB (config.numberFb bus * 16) minTime started) [] where
  numberOfFb := rfl
  contacts := fun _ _ => rfl
  others := fun _ _ => rfl
  infos := by
    intro c
    split
    · rfl
    · rfl

/-! ### Times -/

/-- The time up to which the last load is valid. -/
def Valid (config : Config) (state : State σ) : Prop :=
  ∀ load ∈ state.loads.head?, 0 ≤ state.s88valid.usec ∧ state.s88valid.usec < 1000000 ∧
    state.s88valid.micros = load.1 + 1000 * config.refresh

theorem nextValid_total (refresh : 0 ≤ config.refresh) (fits : 1000 * config.refresh < 2 ^ 31)
    (now : Nat) :
    0 ≤ (nextValid config now).usec ∧ (nextValid config now).usec < 1000000 ∧
      (nextValid config now).micros = now + 1000 * config.refresh := by
  have product : config.s88Refresh = 1000 * config.refresh := by
    rw [Config.s88Refresh]
    exact Int.bmod_eq_of_le_mul_two (by omega) (by omega)
  have nonneg : 0 ≤ (gettimeofday now).usec + config.s88Refresh := by
    rw [product, gettimeofday]
    dsimp only
    omega
  rw [nextValid]
  dsimp only
  rw [Timeval.micros, Int.tdiv_eq_ediv_of_nonneg nonneg, Int.tmod_eq_emod_of_nonneg nonneg, product,
    gettimeofday]
  dsimp only
  omega

theorem lt_of_outOfDate {s88valid : Timeval} {now : Nat} (least : 0 ≤ s88valid.usec)
    (most : s88valid.usec < 1000000) (due : outOfDate s88valid now = true) :
    s88valid.micros < now := by
  have due := of_decide_eq_true due
  rw [gettimeofday] at due
  dsimp only at due
  rw [Timeval.micros]
  omega

/-! ### Runs -/

/-- Loads are further apart than the refresh time, and the buses without a delay follow them. -/
structure Inv (config : Config) (delay : Int) (state : State σ) : Prop where
  valid : Valid config state
  spaced : state.loads.IsChain fun newer older => (older.1 : Int) + 1000 * config.refresh < newer.1
  quiet : ∀ bus, (bus = .bus1 → delay = 0) → Quiet (state.contacts bus).1
  follows : ∀ bus, (bus = .bus1 → delay = 0) →
    Follows config bus state.loads (state.contacts bus).1 (state.contacts bus).2

/-- A bus without a delay in a pass of the thread. -/
theorem pass_bus {contacts : S88Bus → Fb × List Int} {checked loaded : Nat}
    (quiet : Quiet (state.contacts bus).1)
    (follows : Follows config bus state.loads (state.contacts bus).1 (state.contacts bus).2)
    (executed : run reportStep (state.contacts bus) (ofMember bus ((.bus1, .checkResetFB checked) ::
      (s88load port config loaded state.s88valid state.device).2.2)) = some (contacts bus)) :
    Follows config bus (state.loaded port config loaded) (contacts bus).1 (contacts bus).2 := by
  have calls : run reportStep (state.contacts bus)
      (ofMember bus (s88load port config loaded state.s88valid state.device).2.2) =
        some (contacts bus) := by
    by_cases first : S88Bus.bus1 = bus
    · subst first
      rw [ofMember_cons_self, run_cons_eq_some_iff] at executed
      obtain ⟨next, taken, executed⟩ := executed
      rw [reportStep_checkResetFB quiet] at taken
      rwa [← Option.some.inj taken] at executed
    · rwa [ofMember_cons_of_ne first] at executed
  rw [State.loaded]
  split
  · rename_i due
    obtain ⟨last, new, set, sets⟩ := s88load_row quiet.settled (state.contacts bus).2 due.1 due.2
      state.device bus
    have same := Option.some.inj (calls.symm.trans set)
    rw [same]
    exact follows.load loaded _ sets
  · rename_i early
    rw [s88load, if_neg early] at calls
    rw [← Option.some.inj calls]
    exact follows

theorem step_inv (refresh : 0 ≤ config.refresh) (fits : 1000 * config.refresh < 2 ^ 31)
    {delay : Int} {action : Action σ} (inv : Inv config delay state)
    (taken : step port config state action = some next) : Inv config delay next := by
  cases action with
  | setPower on =>
      cases taken
      exact ⟨inv.valid, inv.spaced, inv.quiet, inv.follows⟩
  | outside device =>
      cases taken
      exact ⟨inv.valid, inv.spaced, inv.quiet, inv.follows⟩
  | pass checked loaded =>
      rw [step] at taken
      split at taken
      · obtain ⟨contacts, executed, rfl⟩ := Option.map_eq_some_iff.mp taken
        have members := run_family_iff.mp executed
        refine ⟨?_, ?_, ?_, ?_⟩
        · show ∀ load ∈ (state.loaded port config loaded).head?, _
          rw [State.loaded]
          split
          · rename_i due
            intro load mem
            have newest : (loaded, _) = load := Option.some.inj mem
            rw [← newest]
            show 0 ≤ (s88load port config loaded state.s88valid state.device).2.1.usec ∧ _ ∧ _
            rw [s88load, if_pos due]
            exact nextValid_total refresh fits loaded
          · rename_i early
            show ∀ load ∈ state.loads.head?,
              0 ≤ (s88load port config loaded state.s88valid state.device).2.1.usec ∧ _ ∧ _
            rw [s88load, if_neg early]
            exact inv.valid
        · show (state.loaded port config loaded).IsChain _
          rw [State.loaded]
          split
          · rename_i due
            rw [List.isChain_cons]
            refine ⟨?_, inv.spaced⟩
            intro older mem
            obtain ⟨least, most, total⟩ := inv.valid older mem
            rw [← total]
            exact lt_of_outOfDate least most due.1
          · exact inv.spaced
        · intro bus undelayed
          obtain ⟨last, new, ran, kept⟩ :=
            (inv.quiet bus undelayed).run (state.contacts bus).2 (ofMember bus
              ((.bus1, .checkResetFB checked) ::
                (s88load port config loaded state.s88valid state.device).2.2))
          have same := Option.some.inj ((members bus).symm.trans ran)
          show Quiet (contacts bus).1
          rw [same]
          exact kept
        · intro bus undelayed
          exact pass_bus (inv.quiet bus undelayed) (inv.follows bus undelayed) (members bus)
      · cases taken
        exact inv

theorem start_inv (config : Config) (delay started : Int) (device : σ) (s88valid : Timeval) :
    Inv config delay (.start config delay started device s88valid) where
  valid := by
    intro load mem
    cases mem
  spaced := List.IsChain.nil
  quiet := by
    intro bus undelayed
    have none : (if bus = .bus1 then delay else 0) = 0 := by
      split
      · rename_i first
        exact undelayed first
      · rfl
    show Quiet (initFB (config.numberFb bus * 16) (if bus = .bus1 then delay else 0) started)
    rw [none]
    exact quiet_initFB _ _
  follows := fun bus _ => start_follows config bus _ _

/-- For every run of the thread, whatever is behind the port and whatever the memory contained
at first: loads are further apart than the refresh time, and on each bus without a delay the
contacts that are read are as in the last load, all others are open, and the messages about a
contact are its changes from load to load. -/
theorem run_loads (refresh : 0 ≤ config.refresh) (fits : 1000 * config.refresh < 2 ^ 31)
    (delay started : Int) (device : σ) (s88valid : Timeval) {actions : List (Action σ)}
    (executed : run (step port config) (.start config delay started device s88valid) actions =
      some state) :
    (state.loads.IsChain fun newer older =>
        (older.1 : Int) + 1000 * config.refresh < newer.1) ∧
      ∀ bus, (bus = .bus1 → delay = 0) →
        Follows config bus state.loads (state.contacts bus).1 (state.contacts bus).2 := by
  have inv := run_invariant (fun _ _ _ before taken => step_inv refresh fits before taken)
    (start_inv config delay started device s88valid) executed
  exact ⟨inv.spaced, inv.follows⟩

/-- Without a delay the thread is never blocked. -/
theorem step_returns (quiet : ∀ bus, Quiet (state.contacts bus).1) (action : Action σ) :
    ∃ next, step port config state action = some next ∧ ∀ bus, Quiet (next.contacts bus).1 := by
  cases action with
  | setPower on => exact ⟨{ state with powerState := on }, rfl, quiet⟩
  | outside device => exact ⟨{ state with device }, rfl, quiet⟩
  | pass checked loaded =>
      rw [step]
      split
      · have member (bus : S88Bus) := (quiet bus).run (state.contacts bus).2 (ofMember bus
          ((.bus1, .checkResetFB checked) ::
            (s88load port config loaded state.s88valid state.device).2.2))
        choose last new executed kept using member
        have together : run (family reportStep) state.contacts ((.bus1, .checkResetFB checked) ::
            (s88load port config loaded state.s88valid state.device).2.2) =
              some fun bus => (last bus, new bus) := run_family_iff.mpr executed
        exact ⟨_, Option.map_eq_some_iff.mpr ⟨_, together, rfl⟩, kept⟩
      · exact ⟨state, rfl, quiet⟩

theorem run_returns (quiet : ∀ bus, Quiet (state.contacts bus).1) (actions : List (Action σ)) :
    ∃ last, run (step port config) state actions = some last := by
  induction actions generalizing state with
  | nil => exact ⟨state, rfl⟩
  | cons action actions ih =>
      obtain ⟨next, taken, kept⟩ := @step_returns σ port config state quiet action
      obtain ⟨last, executed⟩ := ih kept
      exact ⟨last, run_cons_eq_some_iff.mpr ⟨next, taken, executed⟩⟩

/-- The power is switched on, and two loads are due. -/
theorem run_loads_twice :
    ∃ state, run (step chainPort defaultConfig)
        (.start defaultConfig 0 0 ⟨0, fun _ _ => true, fun _ _ => false⟩ ⟨0, 0⟩)
        [.setPower true, .pass 900000 1000000, .pass 1100000 1200000] = some state ∧
      (state.loads.IsChain fun newer older =>
          (older.1 : Int) + 1000 * defaultConfig.refresh < newer.1) ∧
        ∀ bus, (bus = .bus1 → (0 : Int) = 0) →
          Follows defaultConfig bus state.loads (state.contacts bus).1 (state.contacts bus).2 := by
  obtain ⟨state, executed⟩ := @run_returns Chain chainPort defaultConfig
    (.start defaultConfig 0 0 ⟨0, fun _ _ => true, fun _ _ => false⟩ ⟨0, 0⟩)
    (fun bus => (start_inv defaultConfig 0 0 _ ⟨0, 0⟩).quiet bus fun _ => rfl)
    [.setPower true, .pass 900000 1000000, .pass 1100000 1200000]
  exact ⟨state, executed, run_loads (by decide) (by decide) 0 0 _ _ executed⟩

end Srcpd.Feedback.S88
