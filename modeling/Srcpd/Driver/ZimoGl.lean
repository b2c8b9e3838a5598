import Srcpd.Driver.ZimoAnswer

/-!
# Locomotive commands of the ZIMO central unit

A command is one F message with five bytes in hexadecimal digits.  A locomotive with a
long address has an internal one that the central unit is asked for.  The data bytes are
plain characters, so that F8 is their sign, and the internal address is also the one of
the cached record that is set.  `handleGlCommand_iff` says for which commands this does
not matter.
-/

namespace Srcpd.Driver.Zimo

open Srcpd.Command

/-! ## The driver -/

/-- `%0<width>X` of an `int`. -/
def printHex (width : Nat) (value : Int) : List Char :=
  let digits := (Nat.toDigits 16 (value % 2 ^ 32).toNat).map Char.toUpper
  List.replicate (width - digits.length) '0' ++ digits

/-- The character that ends a string. -/
def nul : Char := Char.ofNat 0

/-- What `writeString` takes from `msg[20]` behind `snprintf`. -/
def written (text : List Char) : List Char :=
  (text.take 19).takeWhile fun symbol => symbol != nul

/-- `isspace`. -/
def isSpace (c : Byte) : Bool :=
  c = 0x20 || (0x09 ≤ c && c ≤ 0x0d)

/-- `sscanf` with `%02X`: two characters at most behind white space, the first of which may
be a sign; 0 when nothing is converted, since the address was 0 before. -/
def scanHex (text : List Byte) : Int :=
  match text.dropWhile isSpace with
  | first :: rest =>
      let second := rest.head?.bind hexValue
      if first = 0x2d then -(second.getD 0 : Nat)
      else if first = 0x2b then (second.getD 0 : Nat)
      else
        match hexValue first, second with
        | some high, some low => 16 * high + low
        | some digit, none => digit
        | none, _ => 0
  | [] => 0

/-- The address for a request, from what `readanswer` returned. -/
def assigned (answer : Answer) : Int :=
  let msg := (List.range 20).map answer.2
  if answer.1 = 8 then scanHex (msg.drop 1)
  else if answer.1 = 10 then scanHex (msg.drop 3)
  else 0

/-- Direction, F0 and the mode of the speed steps. -/
def databyte1 (gltmp glakt : GlState) : BitVec 8 :=
  (if gltmp.direction ≠ 0 then 0 else 32) ||| (if gltmp.funcs.getLsbD 0 then 16 else 0) |||
    (if glakt.nFs = 128 then 12 else 0) ||| (if glakt.nFs = 28 then 8 else 0) |||
    (if glakt.nFs = 14 then 4 else 0)

/-- F1 to F8. -/
def databyte2 (gltmp : GlState) : BitVec 8 :=
  (gltmp.funcs >>> 1).setWidth 8

/-- `char` has a sign. -/
def fMessage (gltmp glakt : GlState) (addr : Int) : List Char :=
  ['F', glakt.protocol] ++ printHex 2 addr ++ printHex 2 gltmp.speed ++
    printHex 2 (databyte1 gltmp glakt).toInt ++ printHex 2 (databyte2 gltmp).toInt ++
    printHex 2 (0 : BitVec 8).toInt ++ ['\r']

/-- The messages, the record that is set, and the records. -/
structure Outcome where
  request : Option (List Char)
  message : Option (List Char)
  stored : Option Int
  gl : Gl

/-- `glakt` is indeterminate when there is no record of the locomotive; `answer` is for the
request of a long address. -/
def handleGlCommand (gl : Gl) (glakt gltmp : GlState) (answer : Answer) : Outcome :=
  let glakt := (cacheGetGL gl gltmp.id).2.getD glakt
  let request :=
    if 128 < gltmp.id then some (written (['E'] ++ printHex 4 gltmp.id ++ ['\r'])) else none
  let addr := if 128 < gltmp.id then assigned answer else gltmp.id
  if 0 < addr then
    { request := request
      message := some (written (fMessage gltmp glakt addr))
      stored := some addr
      gl := (cacheSetGL gl addr gltmp).2 }
  else { request := request, message := none, stored := none, gl := gl }

/-! ## What has to hold -/

/-- What an F message says. -/
structure FMessage where
  protocol : Char
  address : Int
  speed : Int
  direction : Int
  nFs : Int
  light : Bool
  functions : BitVec 8
  deriving DecidableEq

/-- A hexadecimal digit in capitals, as `%02X` prints it. -/
def hexDigit (digit : Nat) : Char :=
  (Nat.digitChar digit).toUpper

/-- The value of a digit in capitals. -/
def nibble (symbol : Char) : Option Nat :=
  (List.range 16).find? fun digit => hexDigit digit = symbol

/-- Two digits. -/
def hexByte (high low : Char) : Option (BitVec 8) :=
  (nibble high).bind fun high => (nibble low).map fun low => BitVec.ofNat 8 (16 * high + low)

/-- The number of speed steps in the first data byte. -/
def stepMode (data : BitVec 8) : Option Int :=
  match data.getLsbD 3, data.getLsbD 2 with
  | true, true => some 128
  | true, false => some 28
  | false, true => some 14
  | false, false => none

/-- 'F', a protocol letter and five bytes. -/
def decodeF : List Char → Option FMessage
  | ['F', protocol, a1, a0, s1, s0, d1, d0, e1, e0, g1, g0, '\r'] =>
      (hexByte a1 a0).bind fun address => (hexByte s1 s0).bind fun speed =>
        (hexByte d1 d0).bind fun data1 => (hexByte e1 e0).bind fun data2 =>
          (hexByte g1 g0).bind fun _ => (stepMode data1).map fun nFs =>
            { protocol := protocol
              address := address.toNat
              speed := speed.toNat
              direction := if data1.getLsbD 5 then 0 else 1
              nFs := nFs
              light := data1.getLsbD 4
              functions := data2 }
  | _ => none

/-- The address in the message. -/
def address (gltmp : GlState) (answer : Answer) : Int :=
  if 128 < gltmp.id then assigned answer else gltmp.id

/-- The command in a message; the queue has protocol and speed steps of the locomotive. -/
def asFMessage (gltmp : GlState) (answer : Answer) : FMessage where
  protocol := gltmp.protocol
  address := address gltmp answer
  speed := gltmp.speed
  direction := gltmp.direction
  nFs := gltmp.nFs
  light := gltmp.funcs.getLsbD 0
  functions := (gltmp.funcs >>> 1).setWidth 8

/-- The message for an address there is says what was commanded, and the one record that is
set is that of the commanded address. -/
structure Right (gl : Gl) (gltmp : GlState) (answer : Answer) (outcome : Outcome) : Prop where
  message : 0 < address gltmp answer →
    outcome.message.bind decodeF = some (asFMessage gltmp answer)
  nothing : address gltmp answer ≤ 0 → outcome.message = none
  stored : ∀ addr, outcome.stored = some addr → addr = gltmp.id
  others : ∀ other, other ≠ gltmp.id → outcome.gl.glstate other = gl.glstate other

/-- The condition on the command and the record. -/
structure Fits (glakt gltmp : GlState) : Prop where
  protocol : glakt.protocol = gltmp.protocol ∧ gltmp.protocol ≠ nul
  steps : glakt.nFs = gltmp.nFs ∧ (gltmp.nFs = 14 ∨ gltmp.nFs = 28 ∨ gltmp.nFs = 128)
  direction : gltmp.direction ≠ 2
  f8 : gltmp.funcs.getLsbD 8 = false

/-! ## Digits -/

variable {gl : Gl} {glakt gltmp : GlState} {answer : Answer} {value : Int} {data : BitVec 8}
  {width : Nat}

theorem mem_toDigits (n : Nat) :
    ∀ c ∈ Nat.toDigits 16 n, ∃ digit < 16, c = Nat.digitChar digit := by
  induction n using Nat.strong_induction_on with
  | _ n ih =>
      intro c mem
      rw [Nat.toDigits_eq_if (by decide)] at mem
      split at mem
      · rename_i small
        exact ⟨n, small, List.mem_singleton.mp mem⟩
      · rename_i large
        rcases List.mem_append.mp mem with earlier | last
        · exact ih (n / 16) (Nat.div_lt_self (by omega) (by decide)) c earlier
        · exact ⟨n % 16, Nat.mod_lt n (by decide), List.mem_singleton.mp last⟩

theorem mem_printHex {c : Char} (mem : c ∈ printHex width value) : c ≠ nul := by
  rcases List.mem_append.mp mem with zero | upper
  · rw [List.eq_of_mem_replicate zero]
    decide
  · rcases List.mem_map.mp upper with ⟨lower, listed, rfl⟩
    rcases mem_toDigits _ lower listed with ⟨digit, below, rfl⟩
    have table : ∀ digit < 16, (Nat.digitChar digit).toUpper ≠ nul := by decide
    exact table digit below

theorem le_length_printHex : width ≤ (printHex width value).length := by
  rw [printHex, List.length_append, List.length_replicate]
  omega

/-- Two digits are one byte. -/
theorem printHex_of_length (two : (printHex 2 value).length = 2) : value % 2 ^ 32 < 256 := by
  rw [printHex, List.length_append, List.length_replicate] at two
  have digits : (Nat.toDigits 16 (value % 2 ^ 32).toNat).length ≤ 2 := by
    rw [List.length_map] at two
    omega
  have small := (Nat.length_toDigits_le_iff (by decide) (by decide)).mp digits
  omega

theorem printHex_byte (same : value % 2 ^ 32 = data.toNat) :
    ∃ high low, printHex 2 value = [high, low] ∧ hexByte high low = some data := by
  have digits : ∀ data : BitVec 8,
      let digits := (Nat.toDigits 16 data.toNat).map Char.toUpper
      let text := List.replicate (2 - digits.length) '0' ++ digits
      text.length = 2 ∧ hexByte (text.getD 0 nul) (text.getD 1 nul) = some data := by
    decide
  have number : (value % 2 ^ 32).toNat = data.toNat := by
    rw [same]
    rfl
  rcases digits data with ⟨two, decoded⟩
  rw [← number] at two decoded
  rcases List.length_eq_two.mp two with ⟨high, low, text⟩
  rw [text] at decoded
  exact ⟨high, low, text, decoded⟩

/-- A byte without a sign. -/
theorem printHex_toInt (positive : data.msb = false) :
    ∃ high low, printHex 2 data.toInt = [high, low] ∧ hexByte high low = some data := by
  have bound := data.isLt
  apply printHex_byte
  rw [BitVec.toInt_eq_toNat_of_msb positive]
  omega

theorem length_printHex_negative (negative : data.msb = true) :
    8 ≤ (printHex 2 data.toInt).length := by
  have bound := data.isLt
  have half := BitVec.msb_eq_true_iff_two_mul_ge.mp negative
  by_contra short
  rw [printHex, List.length_append, List.length_replicate, List.length_map] at short
  have digits : (Nat.toDigits 16 (data.toInt % 2 ^ 32).toNat).length ≤ 7 := by omega
  have small := (Nat.length_toDigits_le_iff (by decide) (by decide)).mp digits
  rw [BitVec.toInt_eq_msb_cond, if_pos negative] at small
  omega

/-! ## The message -/

theorem decodeF_length {text : List Char} {message : FMessage}
    (decoded : decodeF text = some message) : text.length = 13 := by
  unfold decodeF at decoded
  split at decoded
  · rfl
  · cases decoded

/-- Without a protocol the message ends behind its first letter. -/
theorem written_fMessage_nul (missing : glakt.protocol = nul) (addr : Int) :
    written (fMessage gltmp glakt addr) = ['F'] := by
  rw [written, fMessage, missing]
  rfl

theorem written_fMessage (known : glakt.protocol ≠ nul) (addr : Int) :
    written (fMessage gltmp glakt addr) = (fMessage gltmp glakt addr).take 19 := by
  have whole : ∀ symbol ∈ (fMessage gltmp glakt addr).take 19, (symbol != nul) = true := by
    intro symbol mem
    have listed := List.mem_of_mem_take mem
    rw [bne_iff_ne]
    simp only [fMessage, List.mem_append, List.mem_cons, List.not_mem_nil, or_false] at listed
    rcases listed with
      ((((((rfl | rfl) | digit) | digit) | digit) | digit) | digit) | rfl
    · decide
    · exact known
    all_goals first
      | exact mem_printHex digit
      | decide
  rw [written, ← List.append_nil ((fMessage gltmp glakt addr).take 19),
    List.takeWhile_append_of_pos whole, List.takeWhile_nil]

theorem length_fMessage (addr : Int) :
    (fMessage gltmp glakt addr).length = 3 + (printHex 2 addr).length +
      (printHex 2 gltmp.speed).length + (printHex 2 (databyte1 gltmp glakt).toInt).length +
      (printHex 2 (databyte2 gltmp).toInt).length + (printHex 2 (0 : BitVec 8).toInt).length := by
  simp only [fMessage, List.length_append, List.length_cons, List.length_nil]
  omega

theorem databyte2_msb : (databyte2 gltmp).msb = gltmp.funcs.getLsbD 8 := by
  rw [databyte2, BitVec.msb_eq_getLsbD_last, BitVec.getLsbD_setWidth, BitVec.getLsbD_ushiftRight]
  rfl

/-- A decoded message has two digits for each byte. -/
theorem length_of_decodeF {addr : Int} {message : FMessage}
    (decoded : decodeF (written (fMessage gltmp glakt addr)) = some message) :
    glakt.protocol ≠ nul ∧ gltmp.funcs.getLsbD 8 = false ∧ gltmp.speed % 2 ^ 32 < 256 := by
  have known : glakt.protocol ≠ nul := by
    intro missing
    rw [written_fMessage_nul missing] at decoded
    cases decoded
  have length := decodeF_length decoded
  rw [written_fMessage known, List.length_take, length_fMessage] at length
  have address : 2 ≤ (printHex 2 addr).length := le_length_printHex
  have speed : 2 ≤ (printHex 2 gltmp.speed).length := le_length_printHex
  have data1 : 2 ≤ (printHex 2 (databyte1 gltmp glakt).toInt).length := le_length_printHex
  have data2 : 2 ≤ (printHex 2 (databyte2 gltmp).toInt).length := le_length_printHex
  have data3 : 2 ≤ (printHex 2 (0 : BitVec 8).toInt).length := le_length_printHex
  refine ⟨known, ?_, printHex_of_length (by omega)⟩
  by_contra on
  rw [Bool.not_eq_false, ← databyte2_msb] at on
  have long := length_printHex_negative on
  omega

theorem databyte1_fields :
    (databyte1 gltmp glakt).msb = false ∧
      (databyte1 gltmp glakt).getLsbD 5 = decide (gltmp.direction = 0) ∧
      (databyte1 gltmp glakt).getLsbD 4 = gltmp.funcs.getLsbD 0 ∧
      stepMode (databyte1 gltmp glakt) =
        if glakt.nFs = 14 ∨ glakt.nFs = 28 ∨ glakt.nFs = 128 then some glakt.nFs else none := by
  unfold databyte1
  by_cases steps : glakt.nFs = 14 ∨ glakt.nFs = 28 ∨ glakt.nFs = 128
  · rcases steps with steps | steps | steps
    all_goals
      rw [steps]
      by_cases backward : gltmp.direction = 0 <;> cases light : gltmp.funcs.getLsbD 0 <;>
        simp [backward, stepMode] <;> decide
  · rcases not_or.mp steps with ⟨not14, others⟩
    rcases not_or.mp others with ⟨not28, not128⟩
    rw [if_neg not14, if_neg not28, if_neg not128]
    by_cases backward : gltmp.direction = 0 <;> cases light : gltmp.funcs.getLsbD 0 <;>
      simp [backward, stepMode, not14, not28, not128] <;> decide

theorem decodeF_fMessage {addr : Int} {low : BitVec 8} (known : glakt.protocol ≠ nul)
    (f8 : gltmp.funcs.getLsbD 8 = false) (small : addr = low.toNat)
    {speed : BitVec 8} (slow : gltmp.speed % 2 ^ 32 = speed.toNat) :
    decodeF (written (fMessage gltmp glakt addr)) =
      (stepMode (databyte1 gltmp glakt)).map fun nFs =>
        { protocol := glakt.protocol
          address := addr
          speed := speed.toNat
          direction := if gltmp.direction = 0 then 0 else 1
          nFs := nFs
          light := gltmp.funcs.getLsbD 0
          functions := databyte2 gltmp } := by
  rcases databyte1_fields with ⟨positive, backward, light, _⟩
  have bound := low.isLt
  have addressByte : addr % 2 ^ 32 = low.toNat := by omega
  rcases printHex_byte addressByte with ⟨a1, a0, address, addressValue⟩
  rcases printHex_byte slow with ⟨s1, s0, speedText, speedValue⟩
  rcases printHex_toInt positive with ⟨d1, d0, data1, data1Value⟩
  rcases printHex_toInt (databyte2_msb.trans f8) with ⟨e1, e0, data2, data2Value⟩
  rcases printHex_toInt (rfl : (0 : BitVec 8).msb = false) with ⟨g1, g0, data3, data3Value⟩
  rw [written_fMessage known, fMessage, address, speedText, data1, data2, data3]
  simp only [List.cons_append, List.nil_append, List.take_succ_cons, List.take_nil]
  rw [decodeF, addressValue, speedValue, data1Value, data2Value, data3Value]
  simp only [Option.bind_some, backward, light, decide_eq_true_eq, small]

/-! ## Commands -/

theorem hexValue_lt {c : Byte} {digit : Nat} (found : hexValue c = some digit) : digit < 16 := by
  have table : ∀ c : Byte, ∀ digit ∈ hexValue c, digit < 16 := by decide
  exact table c digit found

theorem scanHex_le (text : List Byte) : scanHex text ≤ 255 := by
  have second (symbol : Option Byte) : (symbol.bind hexValue).getD 0 < 16 := by
    cases read : symbol.bind hexValue with
    | none => exact Nat.zero_lt_succ _
    | some digit =>
        rcases Option.bind_eq_some_iff.mp read with ⟨c, _, found⟩
        exact hexValue_lt found
  unfold scanHex
  split
  · rename_i first rest _
    have low := second rest.head?
    dsimp only
    split
    · omega
    · split
      · omega
      · split
        · rename_i high value highFound lowFound
          have high := hexValue_lt highFound
          rw [lowFound] at low
          simp only [Option.getD_some] at low
          omega
        · rename_i digit highFound _
          have high := hexValue_lt highFound
          omega
        · decide
  · decide

theorem assigned_le (answer : Answer) : assigned answer ≤ 255 := by
  unfold assigned
  dsimp only
  split
  · exact scanHex_le _
  · split
    · exact scanHex_le _
    · decide

theorem address_le : address gltmp answer ≤ 255 := by
  rw [address]
  split
  · exact assigned_le answer
  · omega

/-- The message for an address is right if and only if the command and the record fit. -/
theorem decodeF_iff (valid : 0 < address gltmp answer) (speed : 0 ≤ gltmp.speed)
    (steps : gltmp.speed ≤ gltmp.nFs) (directions : 0 ≤ gltmp.direction ∧ gltmp.direction ≤ 2) :
    decodeF (written (fMessage gltmp glakt (address gltmp answer))) =
      some (asFMessage gltmp answer) ↔ Fits glakt gltmp := by
  have bound : address gltmp answer ≤ 255 := address_le
  have low : address gltmp answer = (BitVec.ofNat 8 (address gltmp answer).toNat).toNat := by
    rw [BitVec.toNat_ofNat]
    omega
  have slow (small : gltmp.speed % 2 ^ 32 < 256) : gltmp.speed % 2 ^ 32 =
      (BitVec.ofNat 8 (gltmp.speed % 2 ^ 32).toNat).toNat := by
    rw [BitVec.toNat_ofNat]
    omega
  have mode : stepMode (databyte1 gltmp glakt) = _ := databyte1_fields.2.2.2
  constructor
  · intro decoded
    rcases length_of_decodeF decoded with ⟨known, f8, small⟩
    rw [decodeF_fMessage known f8 low (slow small), mode] at decoded
    by_cases steps : glakt.nFs = 14 ∨ glakt.nFs = 28 ∨ glakt.nFs = 128
    · rw [if_pos steps] at decoded
      simp only [Option.map_some, Option.some.injEq, asFMessage, FMessage.mk.injEq] at decoded
      rcases decoded with ⟨protocol, _, _, direction, nFs, _⟩
      refine ⟨⟨protocol, protocol ▸ known⟩, ⟨nFs, nFs ▸ steps⟩, ?_, f8⟩
      split at direction <;> omega
    · rw [if_neg steps] at decoded
      cases decoded
  · rintro ⟨⟨protocol, known⟩, ⟨nFs, modes⟩, direction, f8⟩
    have small : gltmp.speed % 2 ^ 32 < 256 := by omega
    have speedValue :
        ((BitVec.ofNat 8 (gltmp.speed % 2 ^ 32).toNat).toNat : Int) = gltmp.speed := by
      rw [← slow small]
      omega
    have bit : (if gltmp.direction = 0 then 0 else 1 : Int) = gltmp.direction := by
      split <;> omega
    rw [decodeF_fMessage (protocol ▸ known) f8 low (slow small), mode, nFs, if_pos modes,
      Option.map_some, bit, speedValue, protocol]
    rfl

/-- A command is sent and stored right if and only if there is no address to send it to, or
the address is its own and command and record fit. -/
theorem handleGlCommand_iff (gl : Gl) (glakt gltmp : GlState) (answer : Answer)
    (speed : 0 ≤ gltmp.speed ∧ gltmp.speed ≤ gltmp.nFs)
    (directions : 0 ≤ gltmp.direction ∧ gltmp.direction ≤ 2) :
    Right gl gltmp answer (handleGlCommand gl glakt gltmp answer) ↔
      (0 < address gltmp answer → address gltmp answer = gltmp.id ∧
        Fits ((cacheGetGL gl gltmp.id).2.getD glakt) gltmp) := by
  by_cases valid : 0 < address gltmp answer
  · have handled : ∃ request, handleGlCommand gl glakt gltmp answer =
        { request := request
          message := some (written (fMessage gltmp ((cacheGetGL gl gltmp.id).2.getD glakt)
            (address gltmp answer)))
          stored := some (address gltmp answer)
          gl := (cacheSetGL gl (address gltmp answer) gltmp).2 } := ⟨_, if_pos valid⟩
    rcases handled with ⟨request, handled⟩
    rw [handled, forall_prop_of_true valid]
    have decoded : decodeF (written (fMessage gltmp ((cacheGetGL gl gltmp.id).2.getD glakt)
        (address gltmp answer))) = some (asFMessage gltmp answer) ↔ _ :=
      decodeF_iff valid speed.1 speed.2 directions
    constructor
    · intro right
      exact ⟨right.stored _ rfl, decoded.mp (right.message valid)⟩
    · rintro ⟨own, fits⟩
      refine ⟨fun _ => decoded.mpr fits, fun missing => absurd valid (by omega), ?_, ?_⟩
      · rintro addr same
        cases same
        exact own
      · intro other apart
        rw [← own] at apart
        exact cacheSetGL_of_ne _ apart _
  · have handled : ∃ request, handleGlCommand gl glakt gltmp answer =
        { request := request, message := none, stored := none, gl := gl } := ⟨_, if_neg valid⟩
    rcases handled with ⟨request, handled⟩
    rw [handled]
    exact iff_of_true ⟨fun some_address => absurd some_address valid, fun _ => rfl, nofun,
      fun _ _ => rfl⟩ fun some_address => absurd some_address valid

/-- With what the scanner returns there is never an internal address, so that a locomotive
with a long one gets no message. -/
theorem handleGlCommand_long {stream : ByteStream} {fuel : Nat} {buf : Nat → Byte}
    (long : 128 < gltmp.id)
    (returned : readanswer fuel stream.toLine 0x45 buf 20 40 = some answer) :
    (handleGlCommand gl glakt gltmp answer).message = none ∧
      (handleGlCommand gl glakt gltmp answer).gl = gl := by
  have zero := (readanswer_eq_zero stream.reads (by decide) (by decide) returned).1
  have nowhere : ¬ 0 < address gltmp answer := by
    rw [address, if_pos long, assigned, zero]
    exact Int.lt_irrefl 0
  have handled : handleGlCommand gl glakt gltmp answer = _ := if_neg nowhere
  rw [handled]
  exact ⟨rfl, rfl⟩

/-- Locomotives with 28 speed steps. -/
def locomotives : Gl where
  configured := true
  numberOfGl := 80
  glstate addr := { GlState.zero with state := 1, protocol := 'N', nFs := 28, id := addr }
  clock := 0

/-- A command with these functions. -/
def forwardWith (funcs : BitVec 32) : GlState :=
  { GlState.zero with
    protocol := 'N'
    nFs := 28
    id := 3
    speed := 5
    direction := 1
    funcs := funcs }

theorem handleGlCommand_iff_f7 :
    Right locomotives (forwardWith 0xff) (0, fun _ => 0)
      (handleGlCommand locomotives .zero (forwardWith 0xff) (0, fun _ => 0)) :=
  (handleGlCommand_iff locomotives .zero (forwardWith 0xff) (0, fun _ => 0) (by decide)
    (by decide)).mpr fun _ =>
      ⟨rfl, ⟨rfl, by decide⟩, ⟨rfl, .inr (.inl rfl)⟩, by decide, by decide⟩

/-- F8 makes its byte eight digits. -/
theorem f8_not_right :
    (handleGlCommand locomotives .zero (forwardWith 0x100) (0, fun _ => 0)).message =
        some "FN030508FFFFFF8000\r".toList ∧
      ¬ Right locomotives (forwardWith 0x100) (0, fun _ => 0)
        (handleGlCommand locomotives .zero (forwardWith 0x100) (0, fun _ => 0)) := by
  have text : (handleGlCommand locomotives .zero (forwardWith 0x100) (0, fun _ => 0)).message =
      some "FN030508FFFFFF8000\r".toList := by
    decide
  refine ⟨text, fun right => ?_⟩
  have decoded := right.message (by decide)
  rw [text] at decoded
  cases decoded

end Srcpd.Driver.Zimo
