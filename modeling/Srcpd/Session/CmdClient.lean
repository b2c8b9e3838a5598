import Srcpd.Session.SocketReadline
import Srcpd.Session.Wait

/-!
# A session in command mode

The loop of a client thread: it reads a line, lets the handler of the command fill
the reply, and writes the reply.  Clients wait for it before they send the next line.

`answers_iff` is the exact condition under which a line gets one reply.
-/

namespace Srcpd.CmdClient

open Srcpd.Command Srcpd.Handlers Srcpd.Info

/-- The commands that a client has. -/
inductive Command
  | set
  | get
  | wait
  | init
  | term
  | verify
  | reset
  deriving DecidableEq

/-- The word of a command; it is compared with as many letters as it has. -/
def Command.name : Command → String
  | set => "set"
  | get => "get"
  | wait => "wait"
  | init => "init"
  | term => "term"
  | verify => "verify"
  | reset => "reset"

/-- The first command that a word starts with. -/
def commandOf (text : List Char) : Option Command :=
  [Command.set, .get, .wait, .init, .term, .verify, .reset].find? fun command =>
    hasPrefix command.name text

/-- The words of a line; `none` when there are fewer than three. -/
structure ScannedLine where
  command : List Char
  bus : Int
  device : List Char
  parameter : List Char

/-- `atoi`. -/
def atoi (text : List Char) : Int :=
  int32 ((scanLong text).elim 0 Prod.fst)

/-- The command, the bus, the device group and the parameters of a line. -/
def scanLine (line : List Char) : Option ScannedLine :=
  match scanWord line with
  | none => none
  | some (command, rest) =>
      match scanWord rest with
      | none => none
      | some (cbus, rest) =>
          match scanWord rest with
          | none => none
          | some (device, rest) => some ⟨command, atoi cbus, device, (skipSpace rest).take 1000⟩

/-- What the loop writes for a line; `none` when it does not come to the write. -/
def serveLine (fuel : Nat) (sur : Surroundings) (course : Course) (session : Nat)
    (line : List Char) : Option (List Char) :=
  let site := course.site 0
  match scanLine line with
  | none => some (fmtCode sur.env.now 419)
  | some scanned =>
      -- a negative number is a large one
      if 0 ≤ scanned.bus ∧ scanned.bus ≤ site.numBuses then
        let bus := scanned.bus.toNat
        match commandOf scanned.command with
        | some .set => handleSetReply sur site bus session scanned.device scanned.parameter
        | some .get => some (handleGET sur site bus scanned.device scanned.parameter)
        | some .wait => handleWAIT fuel sur course bus scanned.device scanned.parameter
        | some .init => handleInitReply sur site bus session scanned.device scanned.parameter
        | some .term => handleTermReply sur site bus session scanned.device scanned.parameter
        | some .verify => some (handleVerifyReply sur site bus scanned.device scanned.parameter)
        | some .reset => some (handleResetReply sur site bus scanned.device)
        -- the code of an unknown command is not made a reply
        | none => some []
      else some (fmtCode sur.env.now 412)

section Lines

variable {sur : Surroundings} {course : Course} {session : Nat}

/-- The condition under which a line gets a reply. -/
def Answerable (sur : Surroundings) (course : Course) (session : Nat) (line : List Char) : Prop :=
  let site := course.site 0
  ∀ scanned, scanLine line = some scanned → 0 ≤ scanned.bus ∧ scanned.bus ≤ site.numBuses →
    let bus := scanned.bus.toNat
    match commandOf scanned.command with
    | some .set => FbReturns site bus scanned.device scanned.parameter
    | some .get => GlFits site bus scanned.device scanned.parameter
    | some .wait => WaitAnswers sur course bus scanned.device scanned.parameter
    | some .term => TermsOther site bus session scanned.device scanned.parameter
    | some _ => True
    | none => False

theorem exists_fuel_iff {text : Option (List Char)} :
    (∃ _ : Nat, ∃ reply, text = some reply ∧ Reply reply) ↔
      ∃ reply, text = some reply ∧ Reply reply :=
  ⟨fun ⟨_, found⟩ => found, fun found => ⟨0, found⟩⟩

theorem some_reply_iff {text : List Char} :
    (∃ reply, some text = some reply ∧ Reply reply) ↔ Reply text := by
  constructor
  · rintro ⟨reply, same, replies⟩
    cases same
    exact replies
  · intro replies
    exact ⟨text, rfl, replies⟩

theorem reply_serveLine_iff {line : List Char} :
    (∃ fuel reply, serveLine fuel sur course session line = some reply ∧ Reply reply) ↔
      Answerable sur course session line := by
  unfold serveLine Answerable
  dsimp only
  rcases scanLine line with _ | scanned
  · refine iff_of_true ⟨0, answered_code⟩ ?_
    intro scanned none
    cases none
  · by_cases known : 0 ≤ scanned.bus ∧ scanned.bus ≤ (course.site 0).numBuses
    · have one : ∀ P : ScannedLine → Prop, (∀ scanned', some scanned = some scanned' →
          0 ≤ scanned'.bus ∧ scanned'.bus ≤ (course.site 0).numBuses → P scanned') ↔ P scanned := by
        intro P
        constructor
        · intro all
          exact all scanned rfl known
        · intro holds scanned' same _
          cases same
          exact holds
      rw [one]
      simp only [if_pos known]
      rcases commandOf scanned.command with _ | command
      · refine iff_of_false ?_ id
        rintro ⟨fuel, reply, same, replies⟩
        cases same
        exact not_reply_nil replies
      · cases command with
        | set => exact exists_fuel_iff.trans reply_handleSet_iff
        | get => exact (exists_fuel_iff.trans some_reply_iff).trans reply_handleGET_iff
        | wait => exact reply_handleWAIT_iff
        | init => exact iff_of_true ⟨0, reply_handleInit⟩ trivial
        | term => exact exists_fuel_iff.trans reply_handleTerm_iff
        | verify => exact iff_of_true ⟨0, _, rfl, reply_handleVerify⟩ trivial
        | reset => exact iff_of_true ⟨0, _, rfl, reply_handleReset⟩ trivial
    · simp only [if_neg known]
      refine iff_of_true ⟨0, answered_code⟩ ?_
      intro scanned' same known'
      cases same
      exact absurd known' known

end Lines

/-! ## Reading a line -/

/-- Printable characters, tabs and newlines are kept. -/
def isValidChar (symbol : Char) : Bool :=
  (32 ≤ symbol.toNat && symbol.toNat ≤ 127) || symbol.toNat == 9 || symbol == newline

/-- The line with one more character, as long as there is room. -/
def keep (length : Nat) (line : List Char) (symbol : Char) : List Char :=
  if isValidChar symbol && line.length < length - 1 then line ++ [symbol] else line

/-- The loop over the characters behind the first one, with the line so far; `none`
while the newline has not arrived. -/
def readRest (length : Nat) : List Char → List Char → Option (List Char × List Char)
  | [], _ => none
  | symbol :: stream, line =>
      if symbol = newline then some (keep length line symbol, stream)
      else readRest length stream (keep length line symbol)

/-- The first character, which has room. -/
def firstOf (symbol : Char) : List Char :=
  if isValidChar symbol then [symbol] else []

/-- The first character is not tested for a newline. -/
def socketReadline (length : Nat) : List Char → Option (List Char × List Char)
  | [] => none
  | symbol :: stream => readRest length stream (firstOf symbol)

/-! ### Characters and bytes -/

/-- The characters of bytes. -/
def chars (bytes : List Byte) : List Char :=
  bytes.map fun c => Char.ofNat c.toNat

theorem toNat_char (c : Byte) : (Char.ofNat c.toNat).toNat = c.toNat := by
  have valid : c.toNat.isValidChar := Or.inl (by omega)
  rw [Char.ofNat, dif_pos valid]
  rfl

theorem char_eq_newline_iff {c : Byte} :
    Char.ofNat c.toNat = newline ↔ c = Session.Readline.newline := by
  constructor
  · intro same
    have number := congrArg Char.toNat same
    rw [toNat_char] at number
    exact BitVec.eq_of_toNat_eq number
  · rintro rfl
    rfl

theorem isValidChar_char (c : Byte) :
    isValidChar (Char.ofNat c.toNat) = Session.Readline.isvalidchar c := by
  have nine : (c.toNat == 9) = (c == 0x09) := by
    rw [Bool.eq_iff_iff, beq_iff_eq, beq_iff_eq, ← BitVec.toNat_inj]
    rfl
  have line : (Char.ofNat c.toNat == newline) = (c == Session.Readline.newline) := by
    rw [Bool.eq_iff_iff, beq_iff_eq, beq_iff_eq, char_eq_newline_iff]
  rw [isValidChar, Session.Readline.isvalidchar, toNat_char, nine, line]
  rfl

theorem readRest_chars {length : Nat} {stream line : List Byte}
    (arrived : Session.Readline.newline ∈ stream) :
    readRest length (chars stream) (chars line) =
      some (chars (Session.Readline.readRest length stream line).1,
        chars (Session.Readline.readRest length stream line).2) := by
  induction stream generalizing line with
  | nil => contradiction
  | cons c stream ih =>
      have kept : keep length (chars line) (Char.ofNat c.toNat) =
          chars (if Session.Readline.isvalidchar c && line.length < length - 1 then line ++ [c]
            else line) := by
        rw [keep, isValidChar_char, chars, List.length_map]
        split
        · rw [chars, List.map_append]
          rfl
        · rfl
      rw [chars, List.map_cons, readRest, Session.Readline.readRest]
      by_cases isLast : c = Session.Readline.newline
      · rw [if_pos (char_eq_newline_iff.mpr isLast), if_pos isLast, kept]
        rfl
      · rw [if_neg fun same => isLast (char_eq_newline_iff.mp same), if_neg isLast, kept]
        exact ih (List.mem_of_ne_of_mem (Ne.symm isLast) arrived)

/-- Once a newline has arrived behind the first byte, the line is that of the bytes. -/
theorem socketReadline_chars {length : Nat} {c : Byte} {stream : List Byte}
    (arrived : Session.Readline.newline ∈ stream) :
    socketReadline length (chars (c :: stream)) =
      some (chars (Session.Readline.socketReadline length (c :: stream)).line,
        chars (Session.Readline.socketReadline length (c :: stream)).rest) := by
  have first : firstOf (Char.ofNat c.toNat) =
      chars (if Session.Readline.isvalidchar c then [c] else []) := by
    rw [firstOf, isValidChar_char]
    split <;> rfl
  rw [chars, List.map_cons, socketReadline, Session.Readline.socketReadline, first]
  exact readRest_chars arrived

/-- Remove the terminating line break. -/
def withoutBreak (line : List Char) : List Char :=
  if 1 < line.length ∧ line.getLast? = some newline then line.dropLast else line

/-- One turn of the loop on what the client has sent: what is written, and what is
still to be read. -/
def doCmdClient (fuel : Nat) (sur : Surroundings) (course : Course) (session : Nat)
    (stream : List Char) : Option (List Char × List Char) :=
  match socketReadline (maxsrcplinelen - 1) stream with
  | none => none
  | some (line, rest) =>
      (serveLine fuel sur course session (withoutBreak line)).map fun written => (written, rest)

section Reading

variable {length : Nat} {text rest stream line read : List Char}

theorem readRest_line (oneLine : newline ∉ text) :
    readRest length (text ++ newline :: rest) line =
      some (keep length (text.foldl (keep length) line) newline, rest) := by
  induction text generalizing line with
  | nil => rw [List.nil_append, readRest, if_pos rfl, List.foldl_nil]
  | cons symbol text ih =>
      have other : symbol ≠ newline := by
        rintro rfl
        exact oneLine List.mem_cons_self
      rw [List.cons_append, readRest, if_neg other, List.foldl_cons]
      exact ih fun mem => oneLine (List.mem_cons_of_mem _ mem)

theorem readRest_shorter (done : readRest length stream line = some (read, rest)) :
    rest.length < stream.length := by
  induction stream generalizing line with
  | nil => cases done
  | cons symbol stream ih =>
      rw [readRest] at done
      split at done
      · cases done
        exact Nat.lt_succ_self _
      · exact Nat.lt_succ_of_lt (ih done)

end Reading

/-- The line that the loop makes of a text in front of a newline. -/
def lineOf : List Char → List Char
  | [] => []
  | symbol :: text =>
      withoutBreak (keep (maxsrcplinelen - 1)
        (text.foldl (keep (maxsrcplinelen - 1)) (firstOf symbol)) newline)

/-- A line gets one reply, and nothing else of what the client has sent is used up. -/
def Answers (sur : Surroundings) (course : Course) (session : Nat) (text rest : List Char) :
    Prop :=
  ∃ fuel reply, doCmdClient fuel sur course session (text ++ newline :: rest) =
    some (reply, rest) ∧ Reply reply

/-- The newline of an empty line is taken for the first character of the next line. -/
theorem not_answers_nil {sur : Surroundings} {course : Course} {session : Nat}
    {rest : List Char} : ¬ Answers sur course session [] rest := by
  rintro ⟨fuel, reply, served, -⟩
  rw [List.nil_append, doCmdClient, socketReadline] at served
  split at served
  · cases served
  · rename_i line left read
    rcases Option.map_eq_some_iff.mp served with ⟨written, -, same⟩
    cases same
    exact Nat.lt_irrefl _ (readRest_shorter read)

/-- A line is answered with one reply, and the next line is read behind it, if and only if the
line is not empty and its command is one that is answered. -/
theorem answers_iff (sur : Surroundings) (course : Course) (session : Nat)
    (text rest : List Char) (oneLine : newline ∉ text) :
    Answers sur course session text rest ↔
      text ≠ [] ∧ Answerable sur course session (lineOf text) := by
  cases text with
  | nil => exact iff_of_false not_answers_nil fun both => both.1 rfl
  | cons symbol text =>
      have read : readRest (maxsrcplinelen - 1) (text ++ newline :: rest) (firstOf symbol) =
          some (keep (maxsrcplinelen - 1)
            (text.foldl (keep (maxsrcplinelen - 1)) (firstOf symbol)) newline, rest) :=
        readRest_line fun mem => oneLine (List.mem_cons_of_mem _ mem)
      rw [← reply_serveLine_iff]
      constructor
      · rintro ⟨fuel, reply, served, replies⟩
        rw [List.cons_append, doCmdClient, socketReadline, read] at served
        rcases Option.map_eq_some_iff.mp served with ⟨written, written', same⟩
        cases same
        exact ⟨List.cons_ne_nil _ _, fuel, reply, written', replies⟩
      · rintro ⟨-, fuel, reply, written, replies⟩
        refine ⟨fuel, reply, ?_, replies⟩
        rw [List.cons_append, doCmdClient, socketReadline, read]
        exact Option.map_eq_some_iff.mpr ⟨reply, written, rfl⟩

/-! ## A server that has just started -/

/-- A server behind its start, with all device groups. -/
def startedServer : Server where
  tables := startedTables
  gaQueue := fun _ => ⟨⟨fun _ => (GaDevice.zero).toGaState, 0, 0⟩, [], []⟩
  hasDevicegroup := fun _ _ => true

theorem startedTables_dead : ProtocolsPrintable startedTables := by
  constructor
  · intro bus addr initialized
    have dead : (startedTables.gl bus).isInitialized addr = false := by
      rw [Gl.isInitialized]
      split <;> rfl
    rw [dead] at initialized
    cases initialized
  · intro bus addr initialized
    cases initialized

/-- A bus without a description. -/
def emptyText : LineText where
  text := []
  printable := by rintro symbol ⟨⟩
  short := Nat.zero_le _

/-- A server with two buses that have all device groups. -/
def startedSite : Site where
  server := startedServer
  protocols := startedTables_dead
  numBuses := 2
  hasDevice := fun _ _ => true
  busDescription := fun _ => emptyText
  power := fun _ => ⟨false, emptyText, 0⟩
  serverState := none

/-- Nothing changes while a client waits. -/
def startedCourse : Course where
  site := fun _ => startedSite
  ports := fun _ _ => rfl

/-- What the handlers answer that are not modelled here. -/
def startedSurroundings : Surroundings where
  env := loopback
  otherCode := fun _ _ _ => 423
  smResult := .timedOut
  value := 0
  addr := 0

/-- A line whose handler leaves the reply empty. -/
theorem not_answers_silent {sur : Surroundings} {course : Course} {session : Nat}
    {text rest : List Char}
    (silent : ∀ fuel, doCmdClient fuel sur course session (text ++ newline :: rest) =
      some ([], rest)) : ¬ Answers sur course session text rest := by
  rintro ⟨fuel, reply, served, replies⟩
  rw [silent] at served
  cases served
  exact not_reply_nil replies

/-- An unknown command, a `WAIT` for a group that cannot be waited for, the end of the
own session, and an empty line. -/
theorem unanswered_lines :
    ¬ Answers startedSurroundings startedCourse 1 "FOO 1 GL".toList [] ∧
    ¬ Answers startedSurroundings startedCourse 1 "WAIT 1 GL 3".toList [] ∧
    ¬ Answers startedSurroundings startedCourse 1 "TERM 0 SESSION".toList [] ∧
    ¬ Answers startedSurroundings startedCourse 1 [] ("GET 0 SERVER".toList ++ [newline]) := by
  refine ⟨not_answers_silent fun fuel => ?_, not_answers_silent fun fuel => ?_,
    not_answers_silent fun fuel => ?_, not_answers_nil⟩
  · rfl
  · rfl
  · rfl

theorem answers_iff_server :
    Answers startedSurroundings startedCourse 1 "GET 0 SERVER".toList [] := by
  refine (answers_iff _ _ _ _ _ (by decide)).mpr ⟨by decide, ?_⟩
  intro scanned same known
  have scans : scanLine (lineOf "GET 0 SERVER".toList) =
      some ⟨"GET".toList, 0, "SERVER".toList, []⟩ := rfl
  rw [scans] at same
  cases same
  change GlFits startedSite 0 "SERVER".toList []
  intro other
  cases other

end Srcpd.CmdClient
