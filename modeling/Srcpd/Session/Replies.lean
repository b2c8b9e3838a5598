import Srcpd.Command.Handlers

/-!
# Replies

A reply is one complete line that starts with a time stamp and a code.  The texts of
the messages and of the informations for a session in command mode all have this
form, if they are not empty and not cut off.
-/

namespace Srcpd.CmdClient

open Srcpd.Command Srcpd.Info Srcpd.Time

/-- A complete line that starts with a time stamp and a code. -/
structure Reply (text : List Char) : Prop where
  complete : Complete text
  starts : ∃ time code behind,
    text = (Word.stamp time).text ++ ' ' :: ((Word.int code).text ++ ' ' :: behind)

/-- The texts of `srcp_fmt_msg`. -/
def codeText : Nat → Option String
  | 100 => some "INFO"
  | 101 => some "INFO"
  | 102 => some "INFO"
  | 110 => some "INFO"
  | 200 => some "OK"
  | 202 => some "OK CONNECTIONMODE"
  | 201 => some "OK PROTOCOL SRCP"
  | 400 => some "ERROR unsupported protocol"
  | 401 => some "ERROR unsupported connection mode"
  | 402 => some "ERROR insufficient data"
  | 410 => some "ERROR unknown command"
  | 411 => some "ERROR unknown value"
  | 412 => some "ERROR wrong value"
  | 413 => some "ERROR temporarily prohibited"
  | 414 => some "ERROR device locked"
  | 415 => some "ERROR forbidden"
  | 416 => some "ERROR no data"
  | 417 => some "ERROR timeout"
  | 418 => some "ERROR list too long"
  | 419 => some "ERROR list too short"
  | 420 => some "ERROR unsupported device protocol"
  | 421 => some "ERROR unsupported device"
  | 422 => some "ERROR unsupported device group"
  | 423 => some "ERROR unsupported operation"
  | 424 => some "ERROR device reinitialized"
  | 500 => some "ERROR out of resources"
  | _ => none

/-- The text for a code without a text of its own. -/
def internalError (errorcode : Nat) : List Char :=
  "ERROR internal error ".toList ++ (Word.int errorcode).text ++
    ", please report to srcpd-devel@srcpd.sorceforge.net".toList

/-- A time, a code and a text. -/
def replyLine (time code : Nat) (text : List Char) : List Char :=
  (Word.stamp time).text ++ ' ' :: ((Word.int code).text ++ ' ' :: text) ++ [newline]

/-- `srcp_fmt_msg`. -/
def srcpFmtMsg (errorcode time : Nat) : List Char :=
  match codeText errorcode with
  | some text => replyLine time errorcode text.toList
  | none => replyLine time 600 (internalError errorcode)

/-- A short text that can stand in a line. -/
structure LineText where
  text : List Char
  printable : ∀ symbol ∈ text, Printable symbol
  short : text.length ≤ 100

/-- The power of a bus with its message. -/
structure PowerState where
  on : Bool
  message : LineText
  changeTime : Nat

/-- The result of a service mode command. -/
inductive SmResult
  | timedOut
  | refused
  | value (result : Int)

/-! ## The formatters of a GET -/

/-- `infoPower`. -/
def infoPower (bus : Nat) (power : PowerState) : List Char :=
  replyLine power.changeTime 100
    ((Keyword.info.word).text ++ ' ' :: ((Word.long bus).text ++
      ((if power.on then " POWER ON " else " POWER OFF ").toList ++ power.message.text)))

/-- `describe_bus`. -/
def describeBus (bus : Nat) (power : PowerState) (text : LineText) : List Char :=
  replyLine power.changeTime 100
    ((Keyword.info.word).text ++ ' ' :: ((Word.long bus).text ++
      (" DESCRIPTION ".toList ++ text.text)))

/-- `strcasecmp` with the names of the types. -/
def smTypeOf (text : List Char) : Option SmType :=
  let lower := text.map Char.toLower
  if lower = "reg".toList then some .register
  else if lower = "cvbit".toList then some .cvBit
  else if lower = "page".toList then some .page
  else if lower = "cv".toList then some .cv
  else none

/-- The word for a type in a reply. -/
def smTypeText : SmType → String
  | .register => " REG"
  | .cv => " CV"
  | .cvBit => " CVBIT"
  | .page => " PAGE"

/-- The numbers behind the type: only a bit has three of them. -/
def smNumbers (type : SmType) (typeaddr bit result : Int) : List Word :=
  match type with
  | .cvBit => [.int typeaddr, .int bit, .int result]
  | _ => [.int typeaddr, .int result]

/-- The reply of `infoSM` to a `GET`. -/
def infoSM (now bus : Nat) (type : SmType) (addr typeaddr bit : Int) : SmResult → List Char
  | .timedOut => replyLine now 417 "ERROR timeout".toList
  | .refused => replyLine now 412 "ERROR wrong value".toList
  | .value result =>
      replyLine now 100
        ((Keyword.info.word).text ++ ' ' :: ((Word.long bus).text ++
          (" SM".toList ++ (spaced [.int addr] ++ ((smTypeText type).toList ++
            spaced (smNumbers type typeaddr bit result))))))

/-- A text, or the message for the code of a formatter that left the reply empty. -/
def orCode (text : List Char) (code now : Nat) : List Char :=
  if text = [] then srcpFmtMsg code now else text

/-! ## Their form -/

section Forms

variable {time now bus : Nat} {text first second : List Char} {addr : Int}

theorem printable_append (printable : ∀ symbol ∈ first, Printable symbol)
    (printable' : ∀ symbol ∈ second, Printable symbol) :
    ∀ symbol ∈ first ++ second, Printable symbol := by
  intro symbol mem
  rcases List.mem_append.mp mem with mem | mem
  · exact printable symbol mem
  · exact printable' symbol mem

theorem printable_blank (printable : ∀ symbol ∈ text, Printable symbol) :
    ∀ symbol ∈ ' ' :: text, Printable symbol := by
  intro symbol mem
  rcases List.mem_cons.mp mem with rfl | mem
  · decide
  · exact printable symbol mem

theorem not_reply_nil : ¬ Reply [] := fun reply => not_complete_nil reply.complete

theorem reply_replyLine {code : Nat} (printable : ∀ symbol ∈ text, Printable symbol)
    (short : text.length ≤ 900) : Reply (replyLine time code text) := by
  have stampShort := (Word.stamp time).short
  have codeShort := (Word.int code).short
  unfold replyLine
  constructor
  · apply complete_of_printable
    · intro empty
      exact Word.stamp_ne_nil time (List.append_eq_nil_iff.mp empty).1
    · exact printable_append (Word.stamp time).printable
        (printable_blank (printable_append (Word.int code).printable (printable_blank printable)))
    · have limit : maxsrcplinelen = 1001 := rfl
      rw [wordLimit] at stampShort codeShort
      rw [limit, List.length_append, List.length_cons, List.length_append, List.length_cons]
      omega
  · refine ⟨time, code, text ++ [newline], ?_⟩
    rw [List.append_assoc, List.cons_append, List.append_assoc, List.cons_append]

/-- Two words and more. -/
theorem words_starts (third : Word) (rest : List Word) {code : Int} :
    words (.stamp time :: .int code :: third :: rest) =
      (Word.stamp time).text ++ ' ' :: ((Word.int code).text ++ ' ' :: words (third :: rest)) := by
  rw [words_cons, words_cons]

theorem reply_line {third : Word} {rest : List Word} {code : Int} (few : rest.length < 36) :
    Reply (line (.stamp time :: .int code :: third :: rest)) := by
  constructor
  · apply complete_stamped
    rw [List.length_cons, List.length_cons]
    omega
  · refine ⟨time, code, words (third :: rest) ++ [newline], ?_⟩
    rw [line, words_starts]
    simp

theorem printable_codeText {code : Nat} {message : String} (known : codeText code = some message) :
    (∀ symbol ∈ message.toList, Printable symbol) ∧ message.toList.length ≤ 100 := by
  unfold codeText at known
  split at known
  all_goals first
    | cases known
      exact ⟨printable_literal rfl, length_literal (Nat.le_of_ble_eq_true rfl)⟩
    | cases known

theorem reply_internalError {code : Nat} : Reply (replyLine now 600 (internalError code)) := by
  have codeShort := (Word.int code).short
  have printable : (∀ symbol ∈ "ERROR internal error ".toList, Printable symbol) ∧
      ∀ symbol ∈ ", please report to srcpd-devel@srcpd.sorceforge.net".toList,
        Printable symbol :=
    ⟨printable_literal rfl, printable_literal rfl⟩
  have lengths : "ERROR internal error ".toList.length = 21 ∧
      ", please report to srcpd-devel@srcpd.sorceforge.net".toList.length = 51 := ⟨rfl, rfl⟩
  unfold internalError
  apply reply_replyLine
  · exact printable_append (printable_append printable.1 (Word.int code).printable) printable.2
  · rw [wordLimit] at codeShort
    rw [List.length_append, List.length_append, lengths.1, lengths.2]
    omega

/-- Every code has its message. -/
theorem reply_srcpFmtMsg {code : Nat} : Reply (srcpFmtMsg code now) := by
  rcases known : codeText code with _ | message
  · rw [srcpFmtMsg, known]
    exact reply_internalError
  · have properties := printable_codeText known
    rw [srcpFmtMsg, known]
    exact reply_replyLine properties.1 (properties.2.trans (by decide))

theorem reply_orCode {code : Nat} (form : text ≠ [] → Reply text) :
    Reply (orCode text code now) := by
  rw [orCode]
  split
  · exact reply_srcpFmtMsg
  · rename_i nonempty
    exact form nonempty

theorem reply_infoTIME {clock : ClockState} :
    infoTIME clock now ≠ [] → Reply (infoTIME clock now) := by
  intro nonempty
  rw [infoTIME] at nonempty ⊢
  split
  · exact reply_line (Nat.le_of_ble_eq_true rfl)
  · rename_i stopped
    rw [if_neg stopped] at nonempty
    exact absurd rfl nonempty

theorem reply_infoTIME_iff {clock : ClockState} :
    Reply (infoTIME clock now) ↔ timeIsAvailable clock = true := by
  constructor
  · intro reply
    exact complete_infoTIME_iff.mp reply.complete
  · intro available
    rw [infoTIME, if_pos available]
    exact reply_line (Nat.le_of_ble_eq_true rfl)

theorem reply_infoFB {fb : Feedback.Fb} {port : Int} : Reply (infoFB bus fb port) :=
  reply_line (Nat.le_of_ble_eq_true rfl)

theorem reply_infoGA {ga : GaBus} {port : Int} : Reply (infoGA bus ga addr port now) := by
  simp only [infoGA, noDataMessage]
  split
  · exact reply_line (Nat.le_of_ble_eq_true rfl)
  · exact reply_line (Nat.le_of_ble_eq_true rfl)

theorem reply_describeLOCK {group : Keyword} {state : LockState} :
    Reply (describeLOCK bus group addr state) :=
  reply_line (Nat.le_of_ble_eq_true rfl)

theorem reply_describeTIME {clock : ClockState} {inittime : Nat} :
    Reply (describeTIME clock inittime) :=
  reply_line (Nat.le_of_ble_eq_true rfl)

theorem reply_infoSERVER {state : Keyword} : Reply (infoSERVER now state) :=
  reply_line (Nat.le_of_ble_eq_true rfl)

theorem reply_description {inittime : Nat} {group : Keyword} {protocol : Char}
    {numbers : List Word} (printable : Printable protocol) (few : numbers.length ≤ 10) :
    Reply (description inittime bus group addr protocol numbers) := by
  constructor
  · exact complete_description printable few
  · refine ⟨inittime, 101, words [Keyword.info.word, .long bus, group.word, .int addr] ++
      ' ' :: protocol :: spaced numbers ++ [newline], ?_⟩
    rw [description, words_starts]
    simp

theorem reply_glInfo_iff {state : GlState} :
    Reply (snprintf (glInfoBody bus addr state ++ [newline])) ↔
      (glInfoBody bus addr state).length + 1 < maxsrcplinelen := by
  constructor
  · intro reply
    exact complete_glInfo_iff.mp reply.complete
  · intro fits
    refine ⟨complete_glInfo_iff.mpr fits, ?_⟩
    have whole : snprintf (glInfoBody bus addr state ++ [newline]) =
        glInfoBody bus addr state ++ [newline] := by
      rw [snprintf, List.take_of_length_le]
      rw [List.length_append, List.length_singleton]
      omega
    rw [whole, glInfoBody, glInfoStart, words_starts]
    simp only [List.append_assoc, List.cons_append]
    exact ⟨_, _, _, rfl⟩

theorem reply_infoPower {power : PowerState} : Reply (infoPower bus power) := by
  have busShort := (Word.long (bus : Int)).short
  have infoShort := (Keyword.info.word).short
  have messageShort := power.message.short
  have state : (∀ symbol ∈ (if power.on then " POWER ON " else " POWER OFF ").toList,
      Printable symbol) ∧
      (if power.on then " POWER ON " else " POWER OFF ").toList.length ≤ 11 := by
    split
    · exact ⟨printable_literal rfl, length_literal (Nat.le_of_ble_eq_true rfl)⟩
    · exact ⟨printable_literal rfl, length_literal (Nat.le_of_ble_eq_true rfl)⟩
  apply reply_replyLine
  · exact printable_append (Keyword.info.word).printable (printable_blank
      (printable_append (Word.long bus).printable
        (printable_append state.1 power.message.printable)))
  · have stateShort := state.2
    rw [wordLimit] at busShort infoShort
    rw [List.length_append, List.length_cons, List.length_append, List.length_append]
    omega

theorem reply_describeBus {power : PowerState} {message : LineText} :
    Reply (describeBus bus power message) := by
  have busShort := (Word.long (bus : Int)).short
  have infoShort := (Keyword.info.word).short
  have messageShort := message.short
  have length : " DESCRIPTION ".toList.length = 13 := rfl
  apply reply_replyLine
  · exact printable_append (Keyword.info.word).printable (printable_blank
      (printable_append (Word.long bus).printable
        (printable_append (printable_literal rfl) message.printable)))
  · rw [wordLimit] at busShort infoShort
    rw [List.length_append, List.length_cons, List.length_append, List.length_append, length]
    omega

theorem reply_infoSM {type : SmType} {typeaddr bit : Int} {result : SmResult} :
    Reply (infoSM now bus type addr typeaddr bit result) := by
  have busShort := (Word.long (bus : Int)).short
  have infoShort := (Keyword.info.word).short
  have typeText :
      (∀ symbol ∈ (smTypeText type).toList, Printable symbol) ∧
        (smTypeText type).toList.length ≤ 6 := by
    cases type <;> exact ⟨printable_literal rfl, length_literal (Nat.le_of_ble_eq_true rfl)⟩
  have typeShort := typeText.2
  have addrShort : (spaced [Word.int addr]).length ≤ 1 * (wordLimit + 1) := length_spaced
  have sm : " SM".toList.length = 3 := rfl
  cases result with
  | timedOut =>
      exact reply_replyLine (printable_literal rfl) (length_literal (Nat.le_of_ble_eq_true rfl))
  | refused =>
      exact reply_replyLine (printable_literal rfl) (length_literal (Nat.le_of_ble_eq_true rfl))
  | value result =>
      have few : (smNumbers type typeaddr bit result).length ≤ 3 := by
        cases type <;> exact Nat.le_of_ble_eq_true rfl
      have numbersShort : (spaced (smNumbers type typeaddr bit result)).length ≤
          (smNumbers type typeaddr bit result).length * (wordLimit + 1) := length_spaced
      apply reply_replyLine
      · exact printable_append (Keyword.info.word).printable (printable_blank
          (printable_append (Word.long bus).printable
            (printable_append (printable_literal rfl)
              (printable_append printable_spaced
                (printable_append typeText.1 printable_spaced)))))
      · rw [wordLimit] at busShort infoShort addrShort numbersShort
        rw [List.length_append, List.length_cons, List.length_append, List.length_append, sm,
          List.length_append, List.length_append]
        omega

end Forms

end Srcpd.CmdClient
