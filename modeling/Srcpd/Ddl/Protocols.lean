import Srcpd.Command.Gl

/-!
# The protocol string of a DDL bus

`init_bus_DDL` collects the letters of the enabled protocols in a static array,
and every bus that it initialises refers to this one array.
`holdsAlong_answers_iff` says which configurations this is right for.
-/

namespace Srcpd.Ddl.Protocols

open Srcpd.Command Srcpd.Transition

/-- `EP_MAERKLIN`. -/
def epMaerklin : BitVec 32 := 1

/-- `EP_NMRADCC`. -/
def epNmradcc : BitVec 32 := 2

/-- Protocol `protocol` is switched on. -/
def Enables (enabledProtocols : BitVec 32) (protocol : Char) : Prop :=
  protocol = 'M' ∧ enabledProtocols &&& epMaerklin ≠ 0 ∨
    protocol = 'N' ∧ enabledProtocols &&& epNmradcc ≠ 0

instance (enabledProtocols : BitVec 32) (protocol : Char) :
    Decidable (Enables enabledProtocols protocol) :=
  inferInstanceAs (Decidable (_ ∨ _))

/-- What all DDL buses share of their protocols. -/
structure Buses where
  /-- `static char protocols[3]`. -/
  array : List Char
  /-- `buses[].protocols` is the array and not a null pointer. -/
  protocols : Nat → Bool

/-- The array is all zeros and no bus refers to it. -/
def Buses.start : Buses :=
  { array := List.replicate 3 (Char.ofNat 0)
    protocols := fun _ => false }

/-- The assignments to the array; the letters of an earlier call stay where nothing
is written. -/
def writeProtocols (enabledProtocols : BitVec 32) (array : List Char) : List Char :=
  let maerklin :=
    if enabledProtocols &&& epMaerklin ≠ 0 then (array.set 0 'M', 1) else (array, 0)
  if enabledProtocols &&& epNmradcc ≠ 0 then maerklin.1.set maerklin.2 'N' else maerklin.1

/-- The protocols of a bus are written to the array of all buses. -/
def initBusDDL (enabledProtocols : Nat → BitVec 32) (buses : Buses) (busnumber : Nat) : Buses :=
  { array := writeProtocols (enabledProtocols busnumber) buses.array
    protocols := Function.update buses.protocols busnumber true }

/-- The characters up to the first zero. -/
def cString (array : List Char) : List Char :=
  array.takeWhile fun c => c ≠ Char.ofNat 0

/-- `bus_supports_protocol` looks into the array. -/
def busSupportsProtocol (buses : Buses) (busnumber : Nat) (protocol : Char) : SrcpCode :=
  if buses.protocols busnumber ∧ protocol ∈ cString buses.array then .ok
  else .unsupportedDeviceProtocol

/-- Initialising one bus after the other. -/
def step (enabledProtocols : Nat → BitVec 32) : Step Buses Nat :=
  fun buses busnumber => some (initBusDDL enabledProtocols buses busnumber)

/-- Every bus initialised so far answers after its own switches. -/
def Answers (enabledProtocols : Nat → BitVec 32) (buses : Buses) : Prop :=
  ∀ busnumber, buses.protocols busnumber = true → ∀ protocol,
    busSupportsProtocol buses busnumber protocol = .ok ↔
      Enables (enabledProtocols busnumber) protocol

/-- Two buses with the same protocols switched on. -/
def Alike (first second : BitVec 32) : Prop :=
  ∀ protocol, Enables first protocol ↔ Enables second protocol

theorem enables_maerklin (enabledProtocols : BitVec 32) :
    Enables enabledProtocols 'M' ↔ enabledProtocols &&& epMaerklin ≠ 0 := by
  simp [Enables]

theorem enables_nmradcc (enabledProtocols : BitVec 32) :
    Enables enabledProtocols 'N' ↔ enabledProtocols &&& epNmradcc ≠ 0 := by
  simp [Enables]

theorem Alike.writeProtocols_eq {first second : BitVec 32} (alike : Alike first second)
    (array : List Char) : writeProtocols first array = writeProtocols second array := by
  have maerklin := alike 'M'
  have nmradcc := alike 'N'
  rw [enables_maerklin, enables_maerklin] at maerklin
  rw [enables_nmradcc, enables_nmradcc] at nmradcc
  simp only [writeProtocols, maerklin, nmradcc]

theorem writeProtocols_idem (enabledProtocols : BitVec 32) (array : List Char) :
    writeProtocols enabledProtocols (writeProtocols enabledProtocols array) =
      writeProtocols enabledProtocols array := by
  by_cases maerklin : enabledProtocols &&& epMaerklin = 0#32 <;>
    by_cases nmradcc : enabledProtocols &&& epNmradcc = 0#32 <;>
      rcases array with _ | ⟨first, _ | ⟨second, rest⟩⟩ <;>
        simp [writeProtocols, maerklin, nmradcc]

/-- The array of zeros takes the letters of one bus. -/
theorem mem_cString_writeProtocols (enabledProtocols : BitVec 32) (protocol : Char) :
    protocol ∈ cString (writeProtocols enabledProtocols Buses.start.array) ↔
      Enables enabledProtocols protocol := by
  by_cases maerklin : enabledProtocols &&& epMaerklin = 0#32 <;>
    by_cases nmradcc : enabledProtocols &&& epNmradcc = 0#32 <;>
      simp [writeProtocols, Enables, Buses.start, cString, maerklin, nmradcc]

variable {enabledProtocols : Nat → BitVec 32} {buses : Buses}

/-- No bus refers to the array of zeros, or it is as the first bus has left it and the
others are like this one. -/
def Uniform (enabledProtocols : Nat → BitVec 32) (buses : Buses) : Prop :=
  (buses.array = Buses.start.array ∧ ∀ busnumber, buses.protocols busnumber = false) ∨
    ∃ first, buses.array = writeProtocols (enabledProtocols first) Buses.start.array ∧
      buses.protocols first = true ∧ ∀ busnumber, buses.protocols busnumber = true →
        Alike (enabledProtocols first) (enabledProtocols busnumber)

/-- The buses before are like the one that is initialised. -/
def Joins (enabledProtocols : Nat → BitVec 32) (buses : Buses) (busnumber : Nat) : Prop :=
  ∀ before, buses.protocols before = true →
    Alike (enabledProtocols before) (enabledProtocols busnumber)

theorem busSupportsProtocol_eq_ok_iff {busnumber : Nat} {protocol : Char}
    (initialised : buses.protocols busnumber = true) :
    busSupportsProtocol buses busnumber protocol = .ok ↔ protocol ∈ cString buses.array := by
  simp [busSupportsProtocol, initialised]

theorem Uniform.answers (uniform : Uniform enabledProtocols buses) :
    Answers enabledProtocols buses := by
  intro busnumber initialised protocol
  rcases uniform with ⟨_, none⟩ | ⟨first, written, _, alike⟩
  · rw [none] at initialised
    contradiction
  · rw [busSupportsProtocol_eq_ok_iff initialised, written, mem_cString_writeProtocols]
    exact alike busnumber initialised protocol

theorem initBusDDL_protocols_iff {busnumber other : Nat} :
    (initBusDDL enabledProtocols buses busnumber).protocols other = true ↔
      other = busnumber ∨ buses.protocols other = true := by
  rw [initBusDDL]
  by_cases same : other = busnumber
  · simp [same]
  · simp [same]

theorem Uniform.initBusDDL {busnumber : Nat} (uniform : Uniform enabledProtocols buses)
    (joins : Joins enabledProtocols buses busnumber) :
    Uniform enabledProtocols (initBusDDL enabledProtocols buses busnumber) := by
  right
  rcases uniform with ⟨zeros, none⟩ | ⟨first, written, initialised, alike⟩
  · refine ⟨busnumber, ?_, initBusDDL_protocols_iff.mpr (Or.inl rfl), fun other refers => ?_⟩
    · rw [Protocols.initBusDDL, zeros]
    · rcases initBusDDL_protocols_iff.mp refers with rfl | earlier
      · exact fun protocol => Iff.rfl
      · rw [none] at earlier
        contradiction
  · have like := joins first initialised
    refine ⟨first, ?_, initBusDDL_protocols_iff.mpr (Or.inr initialised), fun other refers => ?_⟩
    · rw [Protocols.initBusDDL, written, ← like.writeProtocols_eq, writeProtocols_idem]
    · rcases initBusDDL_protocols_iff.mp refers with rfl | earlier
      · exact like
      · exact alike other earlier

/-- Two buses that refer to the array give the same answers. -/
theorem Answers.joins {busnumber : Nat}
    (answers : Answers enabledProtocols (initBusDDL enabledProtocols buses busnumber)) :
    Joins enabledProtocols buses busnumber := by
  intro before initialised protocol
  have own := (@initBusDDL_protocols_iff enabledProtocols buses busnumber busnumber).mpr
    (Or.inl rfl)
  have other := (@initBusDDL_protocols_iff enabledProtocols buses busnumber before).mpr
    (Or.inr initialised)
  rw [← answers before other, ← answers busnumber own, busSupportsProtocol_eq_ok_iff other,
    busSupportsProtocol_eq_ok_iff own]

theorem uniform_start (enabledProtocols : Nat → BitVec 32) :
    Uniform enabledProtocols Buses.start :=
  Or.inl ⟨rfl, fun _ => rfl⟩

/-- The steps join those before exactly when all buses are alike. -/
theorem meetsAlong_joins_iff {order : List Nat} :
    MeetsAlong (step enabledProtocols) (Joins enabledProtocols) buses order ↔
      (∀ busnumber ∈ order, Joins enabledProtocols buses busnumber) ∧
        ∀ first ∈ order, ∀ second ∈ order,
          Alike (enabledProtocols first) (enabledProtocols second) := by
  induction order generalizing buses with
  | nil => simp [MeetsAlong]
  | cons busnumber order ih =>
      rw [meetsAlong_cons_iff (rfl : step enabledProtocols buses busnumber = some _), ih,
        List.forall_mem_cons]
      constructor
      · rintro ⟨joins, rest, alike⟩
        have behind : ∀ other ∈ order,
            Alike (enabledProtocols busnumber) (enabledProtocols other) :=
          fun other mem => rest other mem busnumber (initBusDDL_protocols_iff.mpr (Or.inl rfl))
        refine ⟨⟨joins, fun other mem before initialised => ?_⟩, ?_⟩
        · exact rest other mem before (initBusDDL_protocols_iff.mpr (Or.inr initialised))
        · intro first firstMem second secondMem
          rcases List.mem_cons.mp firstMem with rfl | firstBehind <;>
            rcases List.mem_cons.mp secondMem with rfl | secondBehind
          · exact fun protocol => Iff.rfl
          · exact behind second secondBehind
          · exact fun protocol => (behind first firstBehind protocol).symm
          · exact alike first firstBehind second secondBehind
      · rintro ⟨⟨joins, rest⟩, alike⟩
        refine ⟨joins, fun other mem before initialised => ?_,
          fun first firstMem second secondMem =>
            alike first (List.mem_cons_of_mem _ firstMem) second (List.mem_cons_of_mem _ secondMem)⟩
        rcases initBusDDL_protocols_iff.mp initialised with rfl | earlier
        · exact alike before List.mem_cons_self other (List.mem_cons_of_mem _ mem)
        · exact rest other mem before earlier

/-- Whatever the order, every bus answers after its own switches all the time if and
only if the buses have the same protocols switched on. -/
theorem holdsAlong_answers_iff (enabledProtocols : Nat → BitVec 32) (order : List Nat) :
    HoldsAlong (step enabledProtocols) (Answers enabledProtocols) Buses.start order ↔
      ∀ first ∈ order, ∀ second ∈ order, ∀ protocol,
        Enables (enabledProtocols first) protocol ↔ Enables (enabledProtocols second) protocol := by
  have exact_condition := @holdsAlong_iff_meetsAlong _ _ (step enabledProtocols)
    (Joins enabledProtocols) (Uniform enabledProtocols) (Answers enabledProtocols)
    (fun _ uniform => uniform.answers)
    (fun _ _ _ uniform joins taken => by
      cases taken
      exact uniform.initBusDDL joins)
    (fun _ _ _ _ differs taken answers => by
      cases taken
      exact differs answers.joins)
    Buses.start order (uniform_start enabledProtocols)
  rw [exact_condition, meetsAlong_joins_iff]
  constructor
  · rintro ⟨_, alike⟩
    exact alike
  · intro alike
    exact ⟨fun _ _ _ initialised => absurd initialised Bool.false_ne_true, alike⟩

/-- Bus 1 has only the Märklin protocol switched on and bus 2 only NMRA DCC: bus 1
answers for NMRA DCC afterwards. -/
theorem not_answers_of_second_bus :
    ¬ ∀ (enabledProtocols : Nat → BitVec 32) (order : List Nat),
      HoldsAlong (step enabledProtocols) (Answers enabledProtocols) Buses.start order := by
  intro always
  have after := (always (fun busnumber => if busnumber = 1 then 1 else 2) [1, 2]).last rfl
  have nmradcc := (after 1 (by decide) 'N').mp (by decide)
  exact absurd nmradcc (by decide)

end Srcpd.Ddl.Protocols
