import Srcpd.Dcc.Packet
import Srcpd.Ddl.V3Path

/-!
# How many bytes a packet takes

Between two zeros the path depends only on the few bits that the reader has not
passed yet (`pendings`).  A byte of the packet stream covers at least two bits,
so a potential bounds their number: what the pending bits are worth, plus one
for each further bit, pays two for every byte (`Weighing.Lawful`).  Ones at
certain places of the data bytes are paid for besides; as the XOR of a packet is
zero, a one in such a place comes twice.
-/

namespace Srcpd.Ddl

open Srcpd.Dcc

/-- `n` bytes take the reader from before `bits` to before `left`, whatever
follows. -/
def Passes (bits : Bitstream) (n : Nat) (left : Bitstream) : Prop :=
  ∀ rest, advance^[n] (bits ++ rest) = left ++ rest

theorem Passes.refl (bits : Bitstream) : Passes bits 0 bits :=
  fun _ => rfl

theorem Passes.trans {bits middle more left : Bitstream} {n m : Nat}
    (first : Passes bits n middle) (second : Passes (middle ++ more) m left) :
    Passes (bits ++ more) (m + n) left := by
  intro rest
  rw [Function.iterate_add_apply, List.append_assoc, first, ← List.append_assoc, second]

/-! ## What follows a zero does not matter -/

theorem runsOut_append (bits rest : Bitstream) :
    runsOut (bits ++ false :: rest) = runsOut (bits ++ [false]) := by
  have split : ∃ n more more', bits ++ false :: rest = List.replicate n true ++ false :: more ∧
      bits ++ [false] = List.replicate n true ++ false :: more' := by
    induction bits with
    | nil => exact ⟨0, rest, [], rfl, rfl⟩
    | cons bit bits ih =>
        cases bit with
        | false => exact ⟨0, bits ++ false :: rest, bits ++ [false], rfl, rfl⟩
        | true =>
            rcases ih with ⟨n, more, more', first, second⟩
            refine ⟨n + 1, more, more', ?_, ?_⟩
            · rw [List.cons_append, first, List.replicate_succ, List.cons_append]
            · rw [List.cons_append, second, List.replicate_succ, List.cons_append]
  rcases split with ⟨n, more, more', first, second⟩
  rw [first, second, runsOut_replicate, runsOut_replicate]

theorem tries_append {bits : Bitstream} (long : 4 ≤ bits.length) (rest : Bitstream) :
    tries (bits ++ false :: rest) = tries (bits ++ [false]) ∧
      (tries (bits ++ [false])).1 ≤ bits.length ∧ (tries (bits ++ [false])).2 ≤ bits.length := by
  match bits, long with
  | [a, b, c, d], _ => cases a <;> cases b <;> cases c <;> cases d <;> simp [tries]
  | a :: b :: c :: d :: e :: bits, _ =>
      constructor
      · cases a <;> cases b <;> cases c <;> cases d <;> cases e <;> rfl
      · have le := tries_le (a :: b :: c :: d :: e :: bits ++ [false])
        simp only [List.length_cons]
        omega

/-- With at least four bits before a zero the next byte stops before this zero. -/
theorem advance_append {bits : Bitstream} (long : 4 ≤ bits.length) :
    ∃ left, ∀ rest, advance (bits ++ false :: rest) = left ++ false :: rest := by
  refine ⟨bits.drop (move (bits ++ [false])), fun rest => ?_⟩
  rcases tries_append long rest with ⟨same, first, second⟩
  have behind (more : Bitstream) : (bits ++ false :: more).drop (tries (bits ++ [false])).1 =
      bits.drop (tries (bits ++ [false])).1 ++ false :: more :=
    List.drop_append_of_le_length first
  have moves : move (bits ++ false :: rest) = move (bits ++ [false]) := by
    simp only [move, same]
    rw [behind, behind, runsOut_append]
  have inside : move (bits ++ [false]) ≤ bits.length := by
    simp only [move]
    split
    · exact second
    · exact first
  rw [advance, moves, List.drop_append_of_le_length inside]

/-- Follow the path until at most four bits are left, and count the bytes. -/
def settle : Nat → Bitstream → Nat × Bitstream
  | 0, bits => (0, bits)
  | fuel + 1, bits =>
      match bits with
      | _ :: _ :: _ :: _ :: _ :: _ =>
          let settled := settle fuel (advance bits)
          (settled.1 + 1, settled.2)
      | _ => (0, bits)

theorem settle_passes (fuel : Nat) (bits : Bitstream) :
    Passes (bits ++ [false]) (settle fuel (bits ++ [false])).1
      (settle fuel (bits ++ [false])).2 := by
  induction fuel generalizing bits with
  | zero => exact Passes.refl _
  | succ fuel ih =>
      match bits with
      | [] => exact Passes.refl _
      | [_] => exact Passes.refl _
      | [_, _] => exact Passes.refl _
      | [_, _, _] => exact Passes.refl _
      | a :: b :: c :: d :: bits =>
          rcases @advance_append (a :: b :: c :: d :: bits) (by simp) with ⟨left, onward⟩
          have settled : settle (fuel + 1) (a :: b :: c :: d :: bits ++ [false]) =
              ((settle fuel (left ++ [false])).1 + 1, (settle fuel (left ++ [false])).2) := by
            rw [← onward []]
            cases bits <;> rfl
          rw [settled]
          intro rest
          have further := ih left rest
          rw [List.append_assoc, List.singleton_append] at further ⊢
          rw [Function.iterate_succ_apply, onward rest, further]

theorem settle_append_passes (fuel : Nat) (pending bits : Bitstream) :
    Passes (pending ++ (bits ++ [false])) (settle fuel (pending ++ (bits ++ [false]))).1
      (settle fuel (pending ++ (bits ++ [false]))).2 := by
  rw [← List.append_assoc]
  exact settle_passes fuel (pending ++ bits)

/-! ## Weighing -/

/-- The bits the reader can stop in front of: at most three and a zero. -/
def pendings : List Bitstream :=
  [[false], [false, false], [true, false], [false, false, false], [false, true, false],
    [true, false, false], [true, true, false], [false, false, false, false],
    [false, false, true, false], [false, true, false, false], [false, true, true, false],
    [true, false, false, false], [true, false, true, false], [true, true, false, false],
    [true, true, true, false]]

/-- The bits it can stop in front of when a long run of ones ends. -/
def boundaries : List Bitstream :=
  [[false], [true, false], [true, true, false], [true, true, true, false]]

/-- What pending bits are worth, twice the number of bytes they can cost.  A
single one before the zero is worth more where `spare` holds. -/
def worth (spare : Bool) : Bitstream → Nat
  | [false] => 0
  | [_, false] => 1
  | [_, true, false] => if spare then 2 else 1
  | [_, false, false, false] => 3
  | _ => 2

/-- The places of a data byte where ones count, and the places where a single
pending one is worth more: one for each bit, the zero behind the byte, and the
first bit of the next byte. -/
structure Weighing where
  weights : Bitstream
  spare : Bitstream

/-- Number of ones in places that count. -/
def weight : Bitstream → Bitstream → Nat
  | place :: places, bit :: bits => (place && bit).toNat + weight places bits
  | _, _ => 0

/-- What is pending before a place, and `ones` ones and a zero from there on, pays
for the bytes, the ones that count, and what is pending then. -/
def Weighing.Pays (w : Weighing) (place ones : Nat) (pending : Bitstream) : Prop :=
  let settled := settle 12 (pending ++ (List.replicate ones true ++ [false]))
  settled.2 ∈ pendings ∧
    2 * settled.1 + weight (w.weights.drop place) (List.replicate ones true) +
        worth (w.spare.getD (place + ones + 1) true) settled.2 ≤
      ones + 1 + worth (w.spare.getD place true) pending

instance (w : Weighing) (place ones : Nat) (pending : Bitstream) :
    Decidable (w.Pays place ones pending) :=
  inferInstanceAs (Decidable (_ ∧ _))

/-- Every run of ones within a byte and its zero pays for itself, and between the
bytes a single pending one is worth more. -/
def Weighing.Lawful (w : Weighing) : Prop :=
  (w.spare.getD 0 true = true ∧ w.spare.getD 9 true = true) ∧
    ∀ place < 9, ∀ ones < 9 - place, ∀ pending ∈ pendings, w.Pays place ones pending

instance (w : Weighing) : Decidable w.Lawful := by
  unfold Weighing.Lawful
  infer_instance

/-- No ones count. -/
def noOnes : Weighing where
  weights := List.replicate 9 false
  spare := [true, false, false, false, false, false, false, false, true, true]

/-- The second bit of a byte counts. -/
def secondBit : Weighing where
  weights := [false, true, false, false, false, false, false, false, false]
  spare := [true, true, false, false, false, false, false, false, true, true]

/-- Every third bit counts. -/
def thirdBits : Weighing where
  weights := [true, false, false, true, false, false, true, false, false]
  spare := [true, false, false, true, false, false, true, false, false, true]

theorem noOnes_lawful : noOnes.Lawful := by
  decide

theorem secondBit_lawful : secondBit.Lawful := by
  decide

theorem thirdBits_lawful : thirdBits.Lawful := by
  decide

theorem weight_append (places bits more : Bitstream) :
    weight places (bits ++ more) = weight places bits + weight (places.drop bits.length) more := by
  induction bits generalizing places with
  | nil => simp [weight]
  | cons bit bits ih =>
      cases places with
      | nil => simp [weight]
      | cons place places =>
          rw [List.cons_append, weight, weight, ih, List.length_cons, List.drop_succ_cons,
            Nat.add_assoc]

theorem weight_zero (places : Bitstream) : weight places [false] = 0 := by
  cases places <;> simp [weight]

/-- Nothing, or bits up to a zero. -/
def Closed (bits : Bitstream) : Prop :=
  bits = [] ∨ ∃ before, bits = before ++ [false]

/-- The ones at the end of a bit string. -/
theorem exists_trailing_ones (bits : Bitstream) :
    ∃ front ones, bits = front ++ List.replicate ones true ∧ Closed front := by
  induction bits using List.reverseRecOn with
  | nil => exact ⟨[], 0, rfl, .inl rfl⟩
  | append_singleton bits bit ih =>
      cases bit with
      | false => exact ⟨bits ++ [false], 0, by simp, .inr ⟨bits, rfl⟩⟩
      | true =>
          rcases ih with ⟨front, ones, rfl, closed⟩
          exact ⟨front, ones + 1, by rw [List.replicate_succ', List.append_assoc], closed⟩

/-- The ones at the start of bits up to a zero. -/
theorem exists_leading_ones (bits : Bitstream) :
    ∃ ones tail, bits ++ [false] = List.replicate ones true ++ false :: tail ∧
      ones ≤ bits.length ∧ Closed tail := by
  induction bits with
  | nil => exact ⟨0, [], rfl, Nat.le_refl 0, .inl rfl⟩
  | cons bit bits ih =>
      cases bit with
      | false => exact ⟨0, bits ++ [false], rfl, Nat.zero_le _, .inr ⟨bits, rfl⟩⟩
      | true =>
          rcases ih with ⟨ones, tail, split, short, closed⟩
          refine ⟨ones + 1, tail, ?_, Nat.succ_le_succ short, closed⟩
          rw [List.cons_append, split, List.replicate_succ, List.cons_append]

/-- The bits of a byte from a place on up to a zero pay for themselves. -/
theorem Weighing.Lawful.passes_closed {w : Weighing} (lawful : w.Lawful) (place : Nat)
    {bits : Bitstream} (closed : Closed bits) (short : place + bits.length ≤ 9)
    {pending : Bitstream} (mem : pending ∈ pendings) :
    ∃ n, ∃ left ∈ pendings, Passes (pending ++ bits) n left ∧
      2 * n + weight (w.weights.drop place) bits +
          worth (w.spare.getD (place + bits.length) true) left ≤
        bits.length + worth (w.spare.getD place true) pending := by
  induction lengthEq : bits.length using Nat.strong_induction_on generalizing bits with
  | _ length ih =>
      subst lengthEq
      rcases closed with rfl | ⟨before, rfl⟩
      · exact ⟨0, pending, mem, by simpa using Passes.refl pending, by simp [weight]⟩
      · rcases exists_trailing_ones before with ⟨front, ones, rfl, closed⟩
        simp only [List.length_append, List.length_replicate, List.length_singleton,
          ← Nat.add_assoc] at short ih ⊢
        rcases ih front.length (by omega) closed (by omega) rfl with
          ⟨n, middle, middleMem, passes, paid⟩
        rcases lawful.2 (place + front.length) (by omega) ones (by omega) middle middleMem with
          ⟨leftMem, pays⟩
        have onward := passes.trans
          (settle_append_passes 12 middle (List.replicate ones true))
        generalize settle 12 (middle ++ (List.replicate ones true ++ [false])) = settled
          at leftMem pays onward
        refine ⟨settled.1 + n, settled.2, leftMem, ?_, ?_⟩
        · rw [List.append_assoc, ← List.append_assoc pending]
          exact onward
        · rw [List.append_assoc, weight_append, weight_append, weight_zero, List.drop_drop]
          omega

/-! ## Bytes -/

/-- From these pending bits, a data byte and the zero behind it are paid for with
`bound`. -/
def Weighing.Affords (w : Weighing) (byte : Byte) (bound : Nat) (pending : Bitstream) : Prop :=
  ∃ n, ∃ left ∈ pendings, Passes (pending ++ (byteBits byte ++ [false])) n left ∧
    2 * n + weight w.weights (byteBits byte) + worth true left ≤ bound

/-- A data byte costs at most so much, besides what is pending. -/
def Weighing.Takes (w : Weighing) (byte : Byte) (bound : Nat) : Prop :=
  ∀ pending ∈ pendings, w.Affords byte (bound + worth true pending) pending

theorem Weighing.Lawful.takes {w : Weighing} (lawful : w.Lawful) (byte : Byte) :
    w.Takes byte 9 := by
  intro pending mem
  rcases lawful.passes_closed 0 (.inr ⟨byteBits byte, rfl⟩) (Nat.le_refl 9) mem with
    ⟨n, left, leftMem, passes, paid⟩
  refine ⟨n, left, leftMem, passes, ?_⟩
  have closed : (byteBits byte ++ [false]).length = 9 := rfl
  rw [closed, Nat.zero_add, lawful.1.1, lawful.1.2, weight_append, weight_zero] at paid
  exact paid

/-- The bits at the start of a byte, up to a zero, leave one for each further
bit. -/
def Weighing.PaysStart (w : Weighing) (start : Bitstream) (bound : Nat) (pending : Bitstream) :
    Prop :=
  let settled := settle 12 (pending ++ (start ++ [false]))
  settled.2 ∈ pendings ∧
    2 * settled.1 + weight w.weights start +
        worth (w.spare.getD (start.length + 1) true) settled.2 + (8 - start.length) ≤ bound

instance (w : Weighing) (start : Bitstream) (bound : Nat) (pending : Bitstream) :
    Decidable (w.PaysStart start bound pending) :=
  inferInstanceAs (Decidable (_ ∧ _))

theorem Weighing.Lawful.affords {w : Weighing} (lawful : w.Lawful) {byte : Byte}
    {start tail : Bitstream} (split : byteBits byte ++ [false] = start ++ [false] ++ tail)
    (closed : Closed tail) {bound : Nat} {pending : Bitstream}
    (pays : w.PaysStart start bound pending) : w.Affords byte bound pending := by
  rcases pays with ⟨middleMem, paidStart⟩
  have length := congrArg List.length split
  simp only [List.length_append, List.length_singleton] at length
  have eight : (byteBits byte).length = 8 := rfl
  rcases lawful.passes_closed (start.length + 1) closed (by omega) middleMem with
    ⟨n, left, leftMem, passes, paid⟩
  have onward := (settle_append_passes 12 pending start).trans passes
  have weights := weight_append w.weights (byteBits byte) [false]
  rw [split, weight_append, weight_append, weight_zero, weight_zero, List.length_append,
    List.length_singleton] at weights
  have stop : start.length + 1 + tail.length = 9 := by omega
  rw [stop, lawful.1.2] at paid
  generalize settle 12 (pending ++ (start ++ [false])) = settled at paidStart paid onward
  refine ⟨n + settled.1, left, leftMem, ?_, ?_⟩
  · rw [split, ← List.append_assoc]
    exact onward
  · omega

/-- `11` at the start of a first byte. -/
theorem longAddress_table : ∀ ones < 7,
    thirdBits.PaysStart (List.replicate (ones + 2) true) 10 [true, true, false] ∧
      ∀ pending ∈ boundaries,
        noOnes.PaysStart (List.replicate (ones + 2) true) 9 pending ∧
          secondBit.PaysStart (List.replicate (ones + 2) true) 10 pending := by
  decide

theorem speedCommand_table : ∀ pending ∈ pendings,
    thirdBits.PaysStart (byteBits 0x3f) (8 + worth true pending) pending := by
  decide

theorem lowerGroup_table : ∀ ones < 5, ∀ pending ∈ pendings,
    secondBit.PaysStart ([true, false] ++ List.replicate (ones + 2) true)
      (7 + worth true pending) pending := by
  decide

theorem groups_table : ∀ pending ∈ pendings,
    noOnes.PaysStart [true, false] (8 + worth true pending) pending ∧
      noOnes.PaysStart [true, false, true] (8 + worth true pending) pending := by
  decide

theorem expansion_table : ∀ pending ∈ pendings,
    noOnes.PaysStart (byteBits 0xde) (6 + worth true pending) pending ∧
      noOnes.PaysStart (byteBits 0xdf) (6 + worth true pending) pending := by
  decide

/-- A byte that ends in `ones` ones, and the gap behind it. -/
def Weighing.PaysGap (w : Weighing) (ones : Nat) (pending : Bitstream) : Prop :=
  let settled := settle 20 (pending ++ (List.replicate (ones + 51) true ++ [false]))
  settled.2 ∈ boundaries ∧
    2 * settled.1 + weight (w.weights.drop (8 - ones)) (List.replicate ones true) + (8 - ones) ≤
      29 + worth (w.spare.getD (8 - ones) true) pending

instance (w : Weighing) (ones : Nat) (pending : Bitstream) :
    Decidable (w.PaysGap ones pending) :=
  inferInstanceAs (Decidable (_ ∧ _))

theorem paysGap_table : ∀ ones < 9, ∀ pending ∈ pendings,
    noOnes.PaysGap ones pending ∧ secondBit.PaysGap ones pending ∧
      thirdBits.PaysGap ones pending := by
  decide

/-- Follow the path until at most the six trailing bits are left. -/
def finish : Nat → Bitstream → Nat
  | 0, _ => 0
  | fuel + 1, bits => if bits.length ≤ 6 then 0 else finish fuel (advance bits) + 1

theorem finish_table : ∀ ones < 9, ∀ pending ∈ pendings,
    (advance^[finish 12 (pending ++ List.replicate (ones + 7) true)]
        (pending ++ List.replicate (ones + 7) true)).length ≤ 6 ∧
      2 * finish 12 (pending ++ List.replicate (ones + 7) true) + (8 - ones) ≤
        10 + worth (noOnes.spare.getD (8 - ones) true) pending := by
  decide

/-! ## Packets -/

/-- Number of ones in places that count, in all bytes. -/
def totalWeight (places : Bitstream) (bytes : List Byte) : Nat :=
  (bytes.map fun byte => weight places (byteBits byte)).sum

theorem weight_zipWith_xor (places bits bits' : Bitstream) :
    weight places (List.zipWith xor bits bits') ≤ weight places bits + weight places bits' := by
  induction places generalizing bits bits' with
  | nil => simp [weight]
  | cons place places ih =>
      cases bits with
      | nil => simp [weight]
      | cons bit bits =>
          cases bits' with
          | nil => simp [weight]
          | cons bit' bits' =>
              have rest := ih bits bits'
              rw [List.zipWith_cons_cons, weight, weight, weight]
              cases place <;> cases bit <;> cases bit' <;> simp <;> omega

theorem weight_xor (places : Bitstream) (byte byte' : Byte) :
    weight places (byteBits (byte ^^^ byte')) ≤
      weight places (byteBits byte) + weight places (byteBits byte') := by
  have spelled : byteBits (byte ^^^ byte') = List.zipWith xor (byteBits byte) (byteBits byte') := by
    simp [byteBits]
  rw [spelled]
  exact weight_zipWith_xor _ _ _

theorem weight_xorBytes (places : Bitstream) (bytes : List Byte) :
    weight places (byteBits (xorBytes bytes)) ≤ totalWeight places bytes := by
  induction bytes with
  | nil =>
      have zeros : byteBits (xorBytes []) = List.replicate 8 false := by decide
      have none : ∀ n, weight places (List.replicate n false) = 0 := by
        intro n
        induction n generalizing places with
        | zero => simp [weight]
        | succ n ih => cases places <;> simp [List.replicate_succ, weight, ih]
      rw [zeros, none]
      exact Nat.zero_le _
  | cons byte bytes ih =>
      have both := weight_xor places byte (xorBytes bytes)
      simp only [totalWeight, List.map_cons, List.sum_cons, xorBytes_cons] at ih ⊢
      omega

/-- What counts in one byte of a packet counts twice in the packet. -/
theorem two_mul_weight_le {bytes : List Byte} (zero : xorBytes bytes = 0) {byte : Byte}
    (mem : byte ∈ bytes) (places : Bitstream) :
    2 * weight places (byteBits byte) ≤ totalWeight places bytes := by
  rcases List.append_of_mem mem with ⟨front, back, rfl⟩
  rw [xorBytes_append, xorBytes_cons, BitVec.xor_comm, BitVec.xor_assoc] at zero
  have same : byte = xorBytes (back ++ front) := by
    rw [xorBytes_append]
    exact BitVec.xor_eq_zero_iff.mp zero
  have others := weight_xorBytes places (back ++ front)
  rw [← same] at others
  simp only [totalWeight, List.map_append, List.sum_append, List.map_cons, List.sum_cons]
    at others ⊢
  omega

theorem xorBytes_completed (bytes : List Byte) : xorBytes (completed bytes) = 0 := by
  rw [completed, xorBytes_append]
  simp

section Packet

variable {w : Weighing} {pending : Bitstream}

theorem Weighing.passes_bytes {bytes : List (Byte × Nat)}
    (takes : ∀ byte ∈ bytes, w.Takes byte.1 byte.2) (mem : pending ∈ pendings) :
    ∃ n, ∃ left ∈ pendings,
      Passes (pending ++ (bytes.map Prod.fst).flatMap fun byte => byteBits byte ++ [false]) n left ∧
        2 * n + totalWeight w.weights (bytes.map Prod.fst) + worth true left ≤
          (bytes.map Prod.snd).sum + worth true pending := by
  induction bytes generalizing pending with
  | nil => exact ⟨0, pending, mem, by simpa using Passes.refl pending, by simp [totalWeight]⟩
  | cons byte bytes ih =>
      rcases takes byte List.mem_cons_self pending mem with ⟨n, middle, middleMem, passes, paid⟩
      rcases ih (fun other later => takes other (List.mem_cons_of_mem _ later)) middleMem with
        ⟨m, left, leftMem, onward, paidOnward⟩
      refine ⟨m + n, left, leftMem, ?_, ?_⟩
      · rw [List.map_cons, List.flatMap_cons, ← List.append_assoc]
        exact passes.trans onward
      · simp only [totalWeight, List.map_cons, List.sum_cons] at paidOnward ⊢
        omega

/-- The last byte of a packet and the gap behind it. -/
theorem Weighing.Lawful.passes_gap (lawful : w.Lawful)
    (gap : ∀ ones < 9, ∀ pending ∈ pendings, w.PaysGap ones pending) (byte : Byte)
    (mem : pending ∈ pendings) :
    ∃ n, ∃ left ∈ boundaries,
      Passes (pending ++ (byteBits byte ++ List.replicate 51 true ++ [false])) n left ∧
        2 * n + weight w.weights (byteBits byte) ≤ 29 + worth true pending := by
  rcases exists_trailing_ones (byteBits byte) with ⟨front, ones, split, closed⟩
  have length := congrArg List.length split
  rw [List.length_append, List.length_replicate] at length
  have eight : (byteBits byte).length = 8 := rfl
  rcases lawful.passes_closed 0 closed (by omega) mem with ⟨n, middle, middleMem, passes, paid⟩
  rcases gap ones (by omega) middle middleMem with ⟨leftMem, paidGap⟩
  have onward := passes.trans
    (settle_append_passes 20 middle (List.replicate (ones + 51) true))
  generalize settle 20 (middle ++ (List.replicate (ones + 51) true ++ [false])) = settled
    at leftMem paidGap onward
  refine ⟨settled.1 + n, settled.2, leftMem, ?_, ?_⟩
  · rw [split, List.append_assoc front, List.replicate_append_replicate, List.append_assoc front,
      ← List.append_assoc pending]
    exact onward
  · have place : front.length = 8 - ones := by omega
    rw [split, weight_append, place]
    rw [Nat.zero_add, place, lawful.1.1, List.drop_zero] at paid
    omega

/-- The last byte of the last packet, up to the trailing bits. -/
theorem passes_finish (byte : Byte) (mem : pending ∈ pendings) :
    ∃ n, (advance^[n] (pending ++ (byteBits byte ++ List.replicate 7 true))).length ≤ 6 ∧
      2 * n ≤ 10 + worth true pending := by
  rcases exists_trailing_ones (byteBits byte) with ⟨front, ones, split, closed⟩
  have length := congrArg List.length split
  rw [List.length_append, List.length_replicate] at length
  have eight : (byteBits byte).length = 8 := rfl
  rcases noOnes_lawful.passes_closed 0 closed (by omega) mem with
    ⟨n, middle, middleMem, passes, paid⟩
  rcases finish_table ones (by omega) middle middleMem with ⟨atEnd, paidFinish⟩
  refine ⟨finish 12 (middle ++ List.replicate (ones + 7) true) + n, ?_, ?_⟩
  · rw [split, List.append_assoc, List.replicate_append_replicate, ← List.append_assoc,
      Function.iterate_add_apply, passes]
    exact atEnd
  · have place : front.length = 8 - ones := by omega
    rw [Nat.zero_add, place, noOnes_lawful.1.1] at paid
    omega

/-- A packet and the gap behind it. -/
theorem Weighing.Lawful.passes_packet (lawful : w.Lawful)
    (gap : ∀ ones < 9, ∀ pending ∈ pendings, w.PaysGap ones pending) {first : Byte} {bound : Nat}
    (affords : w.Affords first bound pending) {bytes : List (Byte × Nat)}
    (takes : ∀ byte ∈ bytes, w.Takes byte.1 byte.2) :
    ∃ n, ∃ left ∈ boundaries,
      Passes (pending ++ (dataBits (completed (first :: bytes.map Prod.fst)) ++
        (List.replicate 50 true ++ [false]))) n left ∧
        2 * n + totalWeight w.weights (completed (first :: bytes.map Prod.fst)) ≤
          bound + (bytes.map Prod.snd).sum + 29 := by
  rcases affords with ⟨n, second, secondMem, passes, paid⟩
  rcases passes_bytes takes secondMem with ⟨m, last, lastMem, onward, paidOnward⟩
  rcases lawful.passes_gap gap (xorBytes (first :: bytes.map Prod.fst)) lastMem with
    ⟨k, left, leftMem, atGap, paidGap⟩
  refine ⟨k + (m + n), left, leftMem, ?_, ?_⟩
  · have whole := (passes.trans onward).trans atGap
    rw [completed, dataBits_append _ (List.cons_ne_nil _ _), List.flatMap_cons]
    simp only [dataBits, List.append_assoc] at whole ⊢
    exact whole
  · simp only [totalWeight, completed, List.cons_append, List.map_cons, List.map_append,
      List.sum_cons, List.sum_append, List.map_nil, List.sum_nil] at paidOnward ⊢
    omega

/-- The last packet. -/
theorem finish_packet {first : Byte} {bound : Nat}
    (affords : noOnes.Affords first bound pending) {bytes : List (Byte × Nat)}
    (takes : ∀ byte ∈ bytes, noOnes.Takes byte.1 byte.2) :
    ∃ n, (advance^[n] (pending ++ (dataBits (completed (first :: bytes.map Prod.fst)) ++
        List.replicate 6 true))).length ≤ 6 ∧
      2 * n ≤ bound + (bytes.map Prod.snd).sum + 10 := by
  rcases affords with ⟨n, second, secondMem, passes, paid⟩
  rcases Weighing.passes_bytes takes secondMem with ⟨m, last, lastMem, onward, paidOnward⟩
  rcases passes_finish (xorBytes (first :: bytes.map Prod.fst)) lastMem with ⟨k, atEnd, paidEnd⟩
  refine ⟨k + (m + n), ?_, ?_⟩
  · have bits : pending ++ (dataBits (completed (first :: bytes.map Prod.fst)) ++
        List.replicate 6 true) =
        pending ++ (byteBits first ++ [false]) ++
          ((bytes.map Prod.fst).flatMap fun byte => byteBits byte ++ [false]) ++
          (byteBits (xorBytes (first :: bytes.map Prod.fst)) ++ List.replicate 7 true) := by
      rw [completed, dataBits_append _ (List.cons_ne_nil _ _), List.flatMap_cons]
      simp [dataBits, List.replicate_succ]
    rw [bits, Function.iterate_add_apply, passes.trans onward]
    exact atEnd
  · omega

end Packet

end Srcpd.Ddl
