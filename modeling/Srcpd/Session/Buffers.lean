import Srcpd.Session.CmdClient

/-!
# Buffers

What is stored in a buffer of fixed size because of a client: the tokens that are scanned
from a line, the text of a `SET POWER` on its way into the messages of the drivers, the
replies and the INFO lines.  `fits_iff` is the exact condition under which everything
fits, with its terminating zero.
-/

namespace Srcpd.Buffers

open Srcpd.Command Srcpd.Handlers Srcpd.Info Srcpd.CmdClient

/-- A text that is stored, and the size of the buffer. -/
structure Write where
  capacity : Nat
  text : List Char

/-- The text and its NUL fit into the buffer. -/
def Write.Fits (write : Write) : Prop :=
  write.text.length < write.capacity

/-- A buffer for a line. -/
def Write.line (text : List Char) : Write :=
  ⟨maxsrcplinelen, text⟩

/-- What `socket_readline` delivers. -/
structure ClientLine where
  text : List Char
  short : text.length ≤ 1000

/-- The server and the clients, as the handlers see them. -/
structure World where
  sur : Surroundings
  course : Course

/-- The state of the server when a command is handled. -/
def World.site (world : World) : Site :=
  world.course.site 0

/-! ## Tokens -/

/-- `%s`. -/
def wordToken (capacity : Nat) (text : List Char) : List Write :=
  (scanWord text).toList.map fun scanned => ⟨capacity, scanned.1⟩

/-- `%s %1000c`. -/
def handshakeTokens (text : List Char) : List Write :=
  match scanWord text with
  | none => []
  | some (cmd, rest) => [.line cmd, .line ((skipSpace rest).take 1000)]

/-- The first lines of a session: the line and, behind a `SET`, the parameter; the reply is
the new session or a code. -/
def handshakeWrites (now session rc : Nat) (line : List Char) : List Write :=
  .line line :: handshakeTokens line ++
    match scanWord line with
    | some (cmd, rest) =>
        if hasPrefix "go" cmd then
          [.line (replyLine now 200 ("OK GO ".toList ++ (Word.long session).text))]
        else
          (if hasPrefix "set" cmd then handshakeTokens ((skipSpace rest).take 1000) else []) ++
            [.line (srcpFmtMsg rc now)]
    | none => [.line (srcpFmtMsg rc now)]

/-- `%s %s %s %1000c`. -/
def lineTokens (line : List Char) : List Write :=
  match scanWord line with
  | none => []
  | some (command, rest) =>
      .line command :: match scanWord rest with
        | none => []
        | some (cbus, rest) =>
            .line cbus :: match scanWord rest with
              | none => []
              | some (device, rest) => [.line device, .line ((skipSpace rest).take 1000)]

/-- `%lu %lu %990c`. -/
def gmToken (parameter : List Char) : List Write :=
  match scanLong parameter with
  | none => []
  | some (_, rest) => (scanLong rest).toList.map fun scanned =>
      .line ((skipSpace scanned.2).take 990)

/-- The type of a service mode command, behind its address. -/
def smToken (parameter : List Char) : List Write :=
  (scanLong parameter).elim [] fun scanned => wordToken maxsrcplinelen scanned.2

/-- `%3s %100c`: the state and the text. -/
def scanPower (parameter : List Char) : List Char × List Char :=
  let state := ((skipSpace parameter).takeWhile fun symbol => !isSpace symbol).take 3
  (state, (skipSpace ((skipSpace parameter).drop state.length)).take 100)

/-- The text is copied to the bus when the state is `ON` or `OFF`. -/
def setsPower (parameter : List Char) : Bool :=
  hasPrefix "off" (scanPower parameter).1 || hasPrefix "on" (scanPower parameter).1

/-- The buffers for the two words of `SET POWER`, and the record of the bus for the second one. -/
def powerWrites (parameter : List Char) : List Write :=
  [⟨5, (scanPower parameter).1⟩, ⟨256, (scanPower parameter).2⟩] ++
    if setsPower parameter then [⟨100, (scanPower parameter).2⟩] else []

/-! ## Service mode -/

/-- The reply that `infoSM` writes for a `SET` or a `VERIFY`. -/
def smReply (sur : Surroundings) (bus : Nat) (parameter : List Char) : List Write :=
  match scanLong parameter with
  | none => []
  | some (addr, rest) =>
      match scanWord rest with
      | none => []
      | some (ctype, rest) =>
          match smTypeOf ctype, scanLongs 3 rest with
          | some .cvBit, [value1, value2, _] =>
              [.line (infoSM sur.env.now bus .cvBit addr value1 value2 sur.smResult)]
          | some .cvBit, _ => []
          | some type, value1 :: _ :: _ =>
              [.line (infoSM sur.env.now bus type addr value1 0 sur.smResult)]
          | _, _ => []

/-- The commands in service mode that are reported. -/
inductive SmCommand
  | init
  | term
  | other (type : SmType)

/-- What `enqueueInfoSM` is called with. -/
structure SmReport where
  time : Nat
  bus : Nat
  addr : Int
  command : SmCommand
  typeaddr : Int
  bit : Int
  value : Int
  returnCode : Int

/-- The text about a command in service mode. -/
def SmReport.buffer (report : SmReport) : List Char :=
  let bus : List Word := [.long report.bus]
  let sm := " SM".toList
  if report.returnCode = 0 then
    match report.command with
    | .init => words ([.stamp report.time, .int 101, Keyword.info.word] ++ bus) ++ sm
    | .term => words ([.stamp report.time, .int 102, Keyword.info.word] ++ bus) ++ sm
    | .other _ =>
        words ([.stamp report.time, .int 100, Keyword.info.word] ++ bus) ++ sm ++
          spaced [.int report.addr]
  else
    words ([.stamp report.time, .int 600, Keyword.error.word] ++ bus) ++ sm ++
      spaced [.int report.addr, .int report.returnCode]

/-- The texts for the errors of the programmer. -/
def smErrors : List (Int × String) :=
  [(0xf2, "Cannot terminate task "),
    (0xf3, "No task to terminate"),
    (0xf4, "Task terminated"),
    (0xf6, "XPT_DCCQD: Not Ok (direct bit read mode is (probably) not supported)"),
    (0xf7, "XPT_DCCQD: Ok (direct bit read mode is (probably) supported)"),
    (0xf8, "Error during Selectrix read"),
    (0xf9, "No acknowledge to paged operation (paged r/w not supported?)"),
    (0xfa, "Error during DCC direct bit mode operation"),
    (0xfb, "Generic Error"),
    (0xfc, "No decoder detected"),
    (0xfd, "Short! (on the PT)"),
    (0xfe, "No acknowledge from decoder (but a write maybe was successful)"),
    (0xff, "Timeout")]

/-- `none` when nothing is stored in the buffer. -/
def SmReport.tmp (report : SmReport) : Option (List Char) :=
  if report.returnCode = 0 then
    match report.command with
    | .init => if report.typeaddr = 0 then some "NMRA".toList else none
    | .term => some []
    | .other type => some ((smTypeText type).toList.drop 1 ++
        spaced (smNumbers type report.typeaddr report.bit report.value))
  else (smErrors.find? (·.1 = report.returnCode)).map fun entry => entry.2.toList

/-- A buffer in which nothing is stored is read up to the next zero. -/
def SmReport.writes (report : SmReport) (garbage : List Char) : List Write :=
  ⟨1000, report.buffer⟩ :: report.tmp.toList.map (⟨100, ·⟩) ++
    [⟨1000, report.buffer ++ ' ' :: report.tmp.getD garbage ++ [newline]⟩]

/-! ## Handlers -/

/-- What the handler of a command writes. -/
def handlerWrites (world : World) (bus : Nat) (device parameter : List Char) :
    CmdClient.Command → List Write
  | .set =>
      match world.site.groupOf bus device with
      | some .gm => gmToken parameter
      | some .sm => smToken parameter ++ smReply world.sur bus parameter
      | some .lock => wordToken maxsrcplinelen parameter
      | some .power => powerWrites parameter
      | _ => []
  | .get =>
      match world.site.groupOf bus device with
      | some .sm => smToken parameter
      -- the conversion ends behind ten characters
      | some .description => (scanWord parameter).toList.map fun scanned => ⟨11, scanned.1.take 10⟩
      | some .lock => wordToken 10 parameter
      | _ => []
  | .term =>
      match world.site.groupOf bus device with
      | some .sm => [.line (infoSM world.sur.env.now bus .register (-1) 0 0 world.sur.smResult)]
      | some .lock => wordToken 10 parameter
      -- `termPower`
      | some .power => [⟨100, "Device Termination".toList⟩]
      | _ => []
  | .init =>
      match world.site.groupOf bus device with
      | some .sm => wordToken maxsrcplinelen parameter ++
          [.line (infoSM world.sur.env.now bus .register (-1) 0 0 world.sur.smResult)]
      | _ => []
  | .verify =>
      match world.site.groupOf bus device with
      | some .sm => smToken parameter ++ smReply world.sur bus parameter
      | _ => []
  | _ => []

/-- What a command line writes: the line, its words, what its handler writes, and the reply. -/
def commandWrites (world : World) (fuel session : Nat) (line : List Char) : List Write :=
  .line line :: lineTokens line ++
    (match scanLine line with
      | none => []
      | some scanned =>
          if 0 ≤ scanned.bus ∧ scanned.bus ≤ world.site.numBuses then
            (commandOf scanned.command).elim [] fun command =>
              handlerWrites world scanned.bus.toNat scanned.device scanned.parameter command
          else []) ++
    (serveLine fuel world.sur world.course session line).toList.map .line

/-! ## INFO lines -/

/-- The buffers of the functions that announce. -/
def capacity : Operation → Nat
  | .clock _ => 100
  | .cacheInitGL .. => 1000
  | .enqueueGL .. => 1000
  | .cacheSetGL .. => 1000
  | .clearGL .. => 256
  | .cacheLockGL .. => 256
  | .cacheUnlockGL .. => 256
  | .initGA .. => 100
  | .setGA .. => 1000
  | .termGA .. => 256
  | .lockGA .. => 256
  | .unlockGA .. => 256
  | .fb .. => maxsrcplinelen
  | .setGM .. => maxsrcplinelen
  | .startSession .. => 1000
  | .stopSession .. => 1000
  | .serverReset => 100
  | .serverShutdown => 100
  -- nothing is announced
  | .countGL .. => 0
  | .countGA .. => 0

/-- Nothing is stored for an announcement that is left uninitialised. -/
def announced (capacity : Nat) (announcements : List Announcement) : List Write :=
  announcements.filterMap fun announcement =>
    match announcement with
    | .text characters => some ⟨capacity, characters⟩
    | .uninitialised => none

/-- What an operation of the tables writes for its message. -/
def operationWrites (world : World) (now : Nat) (operation : Operation) : List Write :=
  match operate world.sur.env.drivers world.site.server.tables now operation with
  | none => []
  | some (_, announcements) => announced (capacity operation) announcements

/-- The drivers that announce a change of the power. -/
inductive PowerDriver
  | loopback
  | dccar
  | ddl
  | ddlS88
  | ib
  | loconet
  | i2cDev
  | m605x
  | selectrix
  | zimo

/-- The size of `msg`. -/
def PowerDriver.msg : PowerDriver → Nat
  | .i2cDev => 1000
  | .m605x => 1000
  | .selectrix => 1000
  | .zimo => 5
  | _ => 110

/-- The Zimo driver has the command in the same buffer first. -/
def powerReport (world : World) (driver : PowerDriver) (bus : Nat) : List Write :=
  (match driver with
    | .zimo => [⟨driver.msg, ['S', if (world.site.power bus).on then 'E' else 'A', Char.ofNat 13]⟩]
    | _ => []) ++
    [⟨driver.msg, infoPower bus (world.site.power bus)⟩]

/-- What a new client in info mode is told about a bus and an address. -/
def greeting (world : World) (bus now : Nat) (addr port : Int) : List Write :=
  let site := world.site
  let tables := site.server.tables
  let description := describeBus bus (site.power bus) (site.busDescription bus)
  ([description, description, infoPower bus (site.power bus),
    describeTIME tables.clock tables.inittime, infoTIME tables.clock now,
    cacheDescribeGL bus (tables.gl bus) addr, describeLOCK bus .gl addr (tables.glLock bus),
    infoGA bus (tables.ga bus) addr port now,
    describeLOCK bus .ga addr ((tables.ga bus).gastate addr).lock,
    infoFB bus (tables.fb bus) port] ++ (cacheInfoGL bus (tables.gl bus) addr).toList ++
    (describeGA bus (tables.ga bus) addr).toList).map .line

/-- What writes to a buffer of fixed length. -/
inductive Event
  | handshake (now session rc : Nat) (line : ClientLine)
  | command (fuel session : Nat) (line : ClientLine)
  | operation (now : Nat) (operation : Operation)
  | power (driver : PowerDriver) (bus : Nat)
  | sm (report : SmReport) (garbage : List Char)
  | greeting (bus now : Nat) (addr port : Int)

/-- The writes of an event. -/
def writes (world : World) : Event → List Write
  | .handshake now session rc line => handshakeWrites now session rc line.text
  | .command fuel session line => commandWrites world fuel session line.text
  | .operation now operation => operationWrites world now operation
  | .power driver bus => powerReport world driver bus
  | .sm report garbage => report.writes garbage
  | .greeting bus now addr port => Buffers.greeting world bus now addr port

/-! ## What has to fit -/

/-- A group of at most nine characters for `LOCK`, except for a `SET`, and a text of at most
99 characters for `POWER`. -/
def TokensFit (world : World) (bus : Nat) (device parameter : List Char) :
    CmdClient.Command → Prop
  | .set => world.site.groupOf bus device = some .power → setsPower parameter = true →
      (scanPower parameter).2.length ≤ 99
  | .get => world.site.groupOf bus device = some .lock →
      ∀ word rest, scanWord parameter = some (word, rest) → word.length ≤ 9
  | .term => world.site.groupOf bus device = some .lock →
      ∀ word rest, scanWord parameter = some (word, rest) → word.length ≤ 9
  | _ => True

/-- Printed numbers are counted with their digits. -/
def PowerFits (world : World) (driver : PowerDriver) (bus : Nat) : Prop :=
  let power := world.site.power bus
  (Word.stamp power.changeTime).text.length + (Word.long bus).text.length +
    (if power.on then 21 else 22) + power.message.text.length < driver.msg

/-- The condition on an event under which its texts fit. -/
def Fits (world : World) : Event → Prop
  | .handshake .. => True
  | .command _ _ line =>
      ∀ scanned, scanLine line.text = some scanned →
        0 ≤ scanned.bus ∧ scanned.bus ≤ world.site.numBuses →
          ∀ command, commandOf scanned.command = some command →
            TokensFit world scanned.bus.toNat scanned.device scanned.parameter command
  | .operation now (.cacheSetGL bus addr l) =>
      let gl := world.site.server.tables.glAt bus now
      gl.isValid addr = true → (gl.glstate addr).state = 1 →
        (glInfoBody bus addr (reported gl addr l)).length + 1 < 1000
  | .operation _ _ => True
  | .power driver bus => PowerFits world driver bus
  | .sm report garbage => report.tmp = none → report.buffer.length + garbage.length + 2 < 1000
  | .greeting .. => True

/-! ## Lengths -/

section Lengths

variable {text rest word : List Char}

theorem skipSpace_length : (skipSpace text).length ≤ text.length :=
  (List.dropWhile_suffix _).length_le

theorem scanWord_length (scanned : scanWord text = some (word, rest)) :
    word.length ≤ text.length ∧ rest.length ≤ text.length := by
  rw [scanWord] at scanned
  split at scanned
  · cases scanned
  · cases scanned
    constructor
    · exact (List.takeWhile_prefix _).length_le.trans skipSpace_length
    · exact (List.dropWhile_suffix _).length_le.trans skipSpace_length

theorem scanSign_length : (scanSign text).2.length ≤ text.length := by
  unfold scanSign
  split
  · exact Nat.le_succ _
  · exact Nat.le_succ _
  · exact le_rfl

theorem scanLong_length {value : Int} (scanned : scanLong text = some (value, rest)) :
    rest.length ≤ text.length := by
  rw [scanLong] at scanned
  dsimp only at scanned
  split at scanned
  · cases scanned
  · cases scanned
    exact ((List.dropWhile_suffix _).length_le.trans scanSign_length).trans skipSpace_length

theorem fits_line_of_short (short : text.length ≤ 1000) : (Write.line text).Fits :=
  Nat.lt_succ_of_le short

theorem fits_line_take (count : Nat) (few : count ≤ 1000) : (Write.line (text.take count)).Fits :=
  fits_line_of_short ((List.length_take_le _ _).trans few)

theorem fits_line_of_reply (reply : Reply text) : (Write.line text).Fits :=
  reply.complete.short

theorem fits_line_of_nonempty (reply : text ≠ [] → Reply text) : (Write.line text).Fits := by
  by_cases empty : text = []
  · rw [empty]
    exact fits_line_of_short (Nat.zero_le _)
  · exact fits_line_of_reply (reply empty)

theorem length_line (texts : List Word) : (line texts).length = (words texts).length + 1 := by
  rw [line, List.length_append, List.length_singleton]

theorem length_line_single (word : Word) : (line [word]).length = word.text.length + 1 := by
  rw [length_line]
  simp [words]

theorem length_line_cons (first second : Word) (texts : List Word) :
    (line (first :: second :: texts)).length =
      first.text.length + 1 + (line (second :: texts)).length := by
  rw [length_line, length_line, words_cons, List.length_append, List.length_cons]
  omega

theorem length_stamp (time : Nat) : (Word.stamp time).text.length ≤ 24 :=
  (Word.stamp time).short

/-- A sign and 19 digits. -/
theorem length_long (number : Int) : (Word.long number).text.length ≤ 20 := by
  have least : -(2 ^ 63) ≤ number.bmod (2 ^ 64) := Int.le_bmod (by decide)
  have most : number.bmod (2 ^ 64) < 2 ^ 63 := Int.bmod_lt (by decide)
  have digits : (Nat.toDigits 10 (number.bmod (2 ^ 64)).natAbs).length ≤ 19 :=
    (Nat.length_toDigits_le_iff (by decide) (by decide)).mpr (by omega)
  rw [Word.long, List.length_append]
  split
  · rw [List.length_singleton]
    omega
  · rw [List.length_nil]
    omega

/-- A sign and 10 digits. -/
theorem length_int (number : Int) : (Word.int number).text.length ≤ 11 := by
  have least : -(2 ^ 31) ≤ number.bmod (2 ^ 32) := Int.le_bmod (by decide)
  have most : number.bmod (2 ^ 32) < 2 ^ 31 := Int.bmod_lt (by decide)
  have same : (number.bmod (2 ^ 32)).bmod (2 ^ 64) = number.bmod (2 ^ 32) :=
    Int.bmod_eq_of_le (by omega) (by omega)
  have digits : (Nat.toDigits 10 (number.bmod (2 ^ 32)).natAbs).length ≤ 10 :=
    (Nat.length_toDigits_le_iff (by decide) (by decide)).mpr (by omega)
  rw [Word.int, Word.long]
  dsimp only
  rw [same, List.length_append]
  split
  · rw [List.length_singleton]
    omega
  · rw [List.length_nil]
    omega

theorem length_replyLine (time code : Nat) (text : List Char) :
    (replyLine time code text).length =
      (Word.stamp time).text.length + (Word.int code).text.length + text.length + 3 := by
  have split (first second : List Char) :
      (first ++ ' ' :: (second ++ ' ' :: text) ++ [newline]).length =
        first.length + second.length + text.length + 3 := by
    simp only [List.length_append, List.length_cons, List.length_nil]
    omega
  exact split _ _

end Lengths

/-! ## Tokens of a line -/

section Tokens

variable {text : List Char}

/-- All texts fit. -/
def AllFit (writes : List Write) : Prop :=
  ∀ write ∈ writes, write.Fits

theorem allFit_nil : AllFit [] := fun _ mem => nomatch mem

theorem allFit_cons_iff {write : Write} {writes : List Write} :
    AllFit (write :: writes) ↔ write.Fits ∧ AllFit writes :=
  List.forall_mem_cons

theorem allFit_append_iff {first second : List Write} :
    AllFit (first ++ second) ↔ AllFit first ∧ AllFit second :=
  List.forall_mem_append

theorem allFit_single_iff {write : Write} : AllFit [write] ↔ write.Fits :=
  List.forall_mem_singleton

theorem allFit_wordToken_iff {capacity : Nat} :
    AllFit (wordToken capacity text) ↔
      ∀ word rest, scanWord text = some (word, rest) → word.length < capacity := by
  rw [wordToken]
  cases scanned : scanWord text with
  | none => exact iff_of_true allFit_nil fun _ _ found => nomatch found
  | some token =>
      refine allFit_single_iff.trans ⟨?_, ?_⟩
      · rintro fits word rest ⟨⟩
        exact fits
      · intro fits
        exact fits token.1 token.2 rfl

theorem allFit_wordToken_line (short : text.length ≤ 1000) :
    AllFit (wordToken maxsrcplinelen text) :=
  allFit_wordToken_iff.mpr fun _ _ scanned =>
    Nat.lt_succ_of_le ((scanWord_length scanned).1.trans short)

theorem allFit_handshakeTokens (short : text.length ≤ 1000) : AllFit (handshakeTokens text) := by
  rw [handshakeTokens]
  split
  · exact allFit_nil
  · rename_i cmd rest scanned
    apply allFit_cons_iff.mpr
    constructor
    · exact fits_line_of_short ((scanWord_length scanned).1.trans short)
    · exact allFit_single_iff.mpr (fits_line_take 1000 le_rfl)

theorem fits_srcpFmtMsg (code now : Nat) : (Write.line (srcpFmtMsg code now)).Fits :=
  fits_line_of_reply reply_srcpFmtMsg

theorem allFit_handshakeWrites (now session rc : Nat) (short : text.length ≤ 1000) :
    AllFit (handshakeWrites now session rc text) := by
  have tokens := allFit_handshakeTokens short
  have code := allFit_single_iff.mpr (fits_srcpFmtMsg rc now)
  rw [handshakeWrites, allFit_append_iff, allFit_cons_iff]
  refine ⟨⟨fits_line_of_short short, tokens⟩, ?_⟩
  split
  · rename_i cmd rest scanned
    split
    · apply allFit_single_iff.mpr
      have stamp := length_stamp now
      have code := length_int ((200 : Nat) : Int)
      have text : ("OK GO ".toList ++ (Word.long session).text).length ≤ 6 + 20 := by
        rw [List.length_append]
        exact Nat.add_le_add_left (length_long session) 6
      apply fits_line_of_short
      rw [length_replyLine]
      omega
    · apply allFit_append_iff.mpr
      constructor
      · split
        · exact allFit_handshakeTokens (List.length_take_le _ _)
        · exact allFit_nil
      · exact code
  · exact code

theorem allFit_lineTokens (short : text.length ≤ 1000) : AllFit (lineTokens text) := by
  rw [lineTokens]
  split
  · exact allFit_nil
  · rename_i command rest scanned
    have first := scanWord_length scanned
    refine allFit_cons_iff.mpr ⟨fits_line_of_short (first.1.trans short), ?_⟩
    split
    · exact allFit_nil
    · rename_i cbus rest scanned
      have second := scanWord_length scanned
      refine allFit_cons_iff.mpr ⟨fits_line_of_short (second.1.trans (first.2.trans short)), ?_⟩
      split
      · exact allFit_nil
      · rename_i device rest scanned
        have third := scanWord_length scanned
        apply allFit_cons_iff.mpr
        constructor
        · exact fits_line_of_short (third.1.trans (second.2.trans (first.2.trans short)))
        · exact allFit_single_iff.mpr (fits_line_take 1000 le_rfl)

theorem allFit_gmToken : AllFit (gmToken text) := by
  rw [gmToken]
  split
  · exact allFit_nil
  · intro write mem
    obtain ⟨scanned, -, rfl⟩ := List.mem_map.mp mem
    exact fits_line_take 990 (by decide)

theorem allFit_smToken (short : text.length ≤ 1000) : AllFit (smToken text) := by
  rw [smToken]
  cases scanned : scanLong text with
  | none => exact allFit_nil
  | some number =>
      have found : scanLong text = some (number.1, number.2) := scanned
      exact allFit_wordToken_line ((scanLong_length found).trans short)

theorem allFit_smReply (sur : Surroundings) (bus : Nat) : AllFit (smReply sur bus text) := by
  unfold smReply
  repeat' split
  all_goals first
    | exact allFit_nil
    | exact allFit_single_iff.mpr (fits_line_of_reply reply_infoSM)

theorem allFit_powerWrites_iff :
    AllFit (powerWrites text) ↔ (setsPower text = true → (scanPower text).2.length ≤ 99) := by
  have state : (scanPower text).1.length ≤ 3 := List.length_take_le _ _
  have message : (scanPower text).2.length ≤ 100 := List.length_take_le _ _
  have scanned : AllFit [⟨5, (scanPower text).1⟩, ⟨256, (scanPower text).2⟩] := by
    apply allFit_cons_iff.mpr
    constructor
    · show (scanPower text).1.length < 5
      omega
    · apply allFit_single_iff.mpr
      show (scanPower text).2.length < 256
      omega
  rw [powerWrites, allFit_append_iff, and_iff_right scanned]
  by_cases sets : setsPower text = true
  · rw [if_pos sets, allFit_single_iff, forall_prop_of_true sets]
    exact Nat.lt_succ_iff
  · rw [if_neg sets]
    exact iff_of_true allFit_nil fun set => absurd set sets

end Tokens

/-! ## Commands -/

section Commands

variable {world : World} {bus : Nat} {device parameter : List Char}

theorem allFit_lockToken_iff :
    AllFit (wordToken 10 parameter) ↔
      ∀ word rest, scanWord parameter = some (word, rest) → word.length ≤ 9 := by
  refine allFit_wordToken_iff.trans ?_
  exact forall₃_congr fun _ _ _ => Nat.lt_succ_iff

theorem fits_infoSM {now : Nat} {type : SmType} {addr typeaddr bit : Int}
    {result : SmResult} :
    AllFit [.line (infoSM now bus type addr typeaddr bit result)] :=
  allFit_single_iff.mpr (fits_line_of_reply reply_infoSM)

theorem allFit_handlerWrites_iff (short : parameter.length ≤ 1000) (command : CmdClient.Command) :
    AllFit (handlerWrites world bus device parameter command) ↔
      TokensFit world bus device parameter command := by
  unfold handlerWrites TokensFit
  cases command with
  | set =>
      dsimp only
      generalize world.site.groupOf bus device = group
      split
      · exact iff_of_true allFit_gmToken nofun
      · exact iff_of_true (allFit_append_iff.mpr ⟨allFit_smToken short, allFit_smReply _ _⟩) nofun
      · exact iff_of_true (allFit_wordToken_line short) nofun
      · exact allFit_powerWrites_iff.trans ⟨fun fits _ => fits, fun fits => fits rfl⟩
      · rename_i other _ _ _ none
        exact iff_of_true allFit_nil fun power => absurd power none
  | get =>
      dsimp only
      generalize world.site.groupOf bus device = group
      split
      · exact iff_of_true (allFit_smToken short) nofun
      · refine iff_of_true ?_ nofun
        intro write mem
        obtain ⟨scanned, -, rfl⟩ := List.mem_map.mp mem
        exact Nat.lt_succ_of_le (List.length_take_le 10 _)
      · exact allFit_lockToken_iff.trans ⟨fun fits _ => fits, fun fits => fits rfl⟩
      · rename_i other _ _ none
        exact iff_of_true allFit_nil fun lock => absurd lock none
  | term =>
      dsimp only
      generalize world.site.groupOf bus device = group
      split
      · exact iff_of_true fits_infoSM nofun
      · exact allFit_lockToken_iff.trans ⟨fun fits _ => fits, fun fits => fits rfl⟩
      · refine iff_of_true (allFit_single_iff.mpr ?_) nofun
        exact (by decide : "Device Termination".toList.length < 100)
      · rename_i other _ none _
        exact iff_of_true allFit_nil fun lock => absurd lock none
  | init =>
      dsimp only
      refine iff_of_true ?_ trivial
      split
      · exact allFit_append_iff.mpr ⟨allFit_wordToken_line short, fits_infoSM⟩
      · exact allFit_nil
  | verify =>
      dsimp only
      refine iff_of_true ?_ trivial
      split
      · exact allFit_append_iff.mpr ⟨allFit_smToken short, allFit_smReply _ _⟩
      · exact allFit_nil
  | wait => exact iff_of_true allFit_nil trivial
  | reset => exact iff_of_true allFit_nil trivial

/-! ## Replies -/

theorem fits_orCode {text : List Char} {code now : Nat} (fits : (Write.line text).Fits) :
    (Write.line (orCode text code now)).Fits := by
  rw [orCode]
  split
  · exact fits_srcpFmtMsg code now
  · exact fits

theorem fits_cacheInfoGL {gl : Gl} {addr : Int} {text : List Char}
    (status : cacheInfoGL bus gl addr = some text) : (Write.line text).Fits := by
  rw [cacheInfoGL] at status
  split at status
  · cases status
    exact fits_line_take _ le_rfl
  · cases status

/-- The status of a locomotive is cut off at the end of the buffer. -/
theorem fits_handleGET :
    (Write.line (handleGET world.sur world.site bus device parameter)).Fits := by
  by_cases gl : world.site.groupOf bus device = some .gl
  · rw [handleGET, gl]
    dsimp only
    split
    · rename_i addr rest scanned
      cases status : cacheInfoGL bus (world.site.server.tables.gl bus) (int32 addr) with
      | none => exact fits_srcpFmtMsg 416 world.sur.env.now
      | some text => exact fits_orCode (fits_cacheInfoGL status)
    · exact fits_srcpFmtMsg _ _
  · exact fits_line_of_reply (reply_handleGET_iff.mpr fun group => absurd group gl)

theorem fits_handleWaitFB :
    (Write.line (handleWaitFB world.sur world.course bus parameter)).Fits :=
  fits_line_of_reply reply_handleWaitFB

theorem fits_handleWaitTIME {fuel : Nat} {text : List Char}
    (served : handleWaitTIME fuel world.sur world.course parameter = some text) :
    (Write.line text).Fits := by
  unfold handleWaitTIME at served
  dsimp only at served
  split at served
  · split at served
    · obtain ⟨poll, -, rfl⟩ := Option.map_eq_some_iff.mp served
      exact fits_line_of_nonempty reply_infoTIME
    · cases served
      exact fits_srcpFmtMsg _ _
  · cases served
    exact fits_srcpFmtMsg _ _

theorem fits_of_fmtCode {now : Nat} {text : List Char} {answer : Option Handlers.Answer}
    (served : (answer.map fun answer => fmtCode now answer.code) = some text) :
    (Write.line text).Fits := by
  obtain ⟨code, -, rfl⟩ := Option.map_eq_some_iff.mp served
  exact fits_srcpFmtMsg _ _

theorem fits_of_some {text reply : List Char} (fits : (Write.line text).Fits)
    (served : some text = some reply) : (Write.line reply).Fits := by
  cases served
  exact fits

theorem fits_serveLine {fuel session : Nat} {line text : List Char}
    (served : serveLine fuel world.sur world.course session line = some text) :
    (Write.line text).Fits := by
  have nothing : (Write.line []).Fits := fits_line_of_short (Nat.zero_le _)
  unfold serveLine at served
  dsimp only at served
  split at served
  · exact fits_of_some (fits_srcpFmtMsg _ _) served
  · split at served
    · split at served
      · unfold handleSetReply at served
        dsimp only at served
        repeat' split at served
        all_goals first
          | exact fits_of_fmtCode served
          | exact fits_of_some (fits_srcpFmtMsg _ _) served
      · exact fits_of_some fits_handleGET served
      · unfold handleWAIT at served
        split at served
        · exact fits_of_some fits_handleWaitFB served
        · exact fits_handleWaitTIME served
        · exact fits_of_some nothing served
      · unfold handleInitReply at served
        dsimp only at served
        repeat' split at served
        all_goals first
          | exact fits_of_fmtCode served
          | exact fits_of_some (fits_srcpFmtMsg _ _) served
      · unfold handleTermReply at served
        dsimp only at served
        repeat' split at served
        all_goals first
          | exact fits_of_fmtCode served
          | exact fits_of_some nothing served
          | exact fits_of_some (fits_srcpFmtMsg _ _) served
      · exact fits_of_some (fits_line_of_reply reply_handleVerify) served
      · exact fits_of_some (fits_line_of_reply reply_handleReset) served
      · exact fits_of_some nothing served
    · exact fits_of_some (fits_srcpFmtMsg _ _) served

theorem scanLine_length {line : List Char} {scanned : ScannedLine}
    (found : scanLine line = some scanned) : scanned.parameter.length ≤ 1000 := by
  unfold scanLine at found
  repeat' split at found
  all_goals cases found
  exact List.length_take_le _ _

theorem allFit_commandWrites_iff {fuel session : Nat} (line : ClientLine) :
    AllFit (commandWrites world fuel session line.text) ↔
      Fits world (.command fuel session line) := by
  have tokens : AllFit (.line line.text :: lineTokens line.text) :=
    allFit_cons_iff.mpr ⟨fits_line_of_short line.short, allFit_lineTokens line.short⟩
  have replies : AllFit ((serveLine fuel world.sur world.course session line.text).toList.map
      .line) := by
    intro write mem
    obtain ⟨text, served, rfl⟩ := List.mem_map.mp mem
    exact fits_serveLine (Option.mem_toList.mp served)
  rw [commandWrites, allFit_append_iff, allFit_append_iff, and_iff_right tokens,
    and_iff_left replies, Fits]
  cases found : scanLine line.text with
  | none => exact iff_of_true allFit_nil nofun
  | some scanned =>
      have short := scanLine_length found
      dsimp only
      by_cases known : 0 ≤ scanned.bus ∧ scanned.bus ≤ world.site.numBuses
      · rw [if_pos known]
        cases name : commandOf scanned.command with
        | none =>
            refine iff_of_true allFit_nil ?_
            rintro _ ⟨⟩ - command named
            rw [name] at named
            cases named
        | some command =>
            refine (allFit_handlerWrites_iff short command).trans ⟨?_, ?_⟩
            · rintro fits _ ⟨⟩ - other named
              rw [name] at named
              cases named
              exact fits
            · intro fits
              exact fits scanned rfl known command name
      · rw [if_neg known]
        refine iff_of_true allFit_nil ?_
        rintro _ ⟨⟩ inRange
        exact absurd inRange known

end Commands

/-! ## Operations -/

section Operations

variable {capacity bus now : Nat} {characters : List Char} {announcements : List Announcement}

theorem allFit_announced_nil : AllFit (announced capacity []) :=
  allFit_nil

theorem allFit_announced_cons_iff :
    AllFit (announced capacity (.text characters :: announcements)) ↔
      characters.length < capacity ∧ AllFit (announced capacity announcements) :=
  allFit_cons_iff

theorem allFit_announced_text (short : characters.length < capacity) :
    AllFit (announced capacity [.text characters]) :=
  allFit_announced_cons_iff.mpr ⟨short, allFit_announced_nil⟩

theorem length_line_le (texts : List Word) : (line texts).length ≤ texts.length * 25 + 1 := by
  rw [length_line]
  exact Nat.add_le_add_right length_words 1

/-- A line of few words. -/
theorem allFit_line {texts : List Word} (few : texts.length ≤ 9) (room : 226 < capacity) :
    AllFit (announced capacity [.text (line texts)]) := by
  apply allFit_announced_text
  have bound := length_line_le texts
  omega

theorem allFit_terminated {device : List Word} (few : device.length ≤ 5) (room : 226 < capacity) :
    AllFit (announced capacity [.text (terminated now bus device)]) := by
  apply allFit_line
  · rw [List.length_append]
    exact Nat.add_le_add_left few 4
  · exact room

theorem allFit_describeLOCK {group : Keyword} {addr : Int} {state : LockState}
    (room : 226 < capacity) :
    AllFit (announced capacity [.text (describeLOCK bus group addr state)]) :=
  allFit_line (Nat.le_of_ble_eq_true rfl) room

theorem length_descriptionWords (inittime : Nat) (group : Keyword) (addr : Int)
    (two : group.word.text.length = 2) :
    (words [.stamp inittime, .int 101, Keyword.info.word, .long bus, group.word,
      .int addr]).length + 1 ≤ 70 := by
  have stamp := length_stamp inittime
  have long := length_long bus
  have int := length_int addr
  have code : (Word.int 101).text.length = 3 := rfl
  have info : Keyword.info.word.text.length = 4 := rfl
  rw [← length_line]
  simp only [length_line_cons, length_line_single, code, info, two]
  omega

/-- The words of a description have 69 characters at most. -/
theorem length_description (inittime : Nat) (group : Keyword) (addr : Int) (protocol : Char)
    (numbers : List Word) (two : group.word.text.length = 2) :
    (description inittime bus group addr protocol numbers).length ≤ 72 + numbers.length * 25 := by
  have start : (words [.stamp inittime, .int 101, Keyword.info.word, .long bus, group.word,
      .int addr]).length ≤ 69 :=
    Nat.le_of_succ_le_succ (length_descriptionWords inittime group addr two)
  have behind : (spaced numbers).length ≤ numbers.length * 25 := length_spaced
  have split (first second : List Char) (symbol : Char) :
      (first ++ ' ' :: symbol :: second ++ [newline]).length =
        first.length + second.length + 3 := by
    simp only [List.length_append, List.length_cons, List.length_nil]
    omega
  have whole := split (words [.stamp inittime, .int 101, Keyword.info.word, .long bus, group.word,
    .int addr]) (spaced numbers) protocol
  rw [description, whole]
  exact (Nat.add_le_add_right (Nat.add_le_add start behind) 3).trans (by omega)

theorem length_infoTIME (clock : Time.ClockState) : (infoTIME clock now).length < 100 := by
  rw [infoTIME]
  split
  · have stamp := length_stamp now
    have day := length_int clock.vtime.day
    have hour := length_int clock.vtime.hour
    have min := length_int clock.vtime.min
    have sec := length_int clock.vtime.sec
    have code : (Word.int 100).text.length = 3 := rfl
    have zero : (Word.int 0).text.length = 1 := rfl
    have info : Keyword.info.word.text.length = 4 := rfl
    have time : Keyword.time.word.text.length = 4 := rfl
    rw [length_line_cons]
    simp only [length_line_cons, length_line_single]
    omega
  · decide

theorem length_describeTIME (clock : Time.ClockState) (inittime : Nat) :
    (describeTIME clock inittime).length < 100 := by
  have stamp := length_stamp inittime
  have x := length_int clock.distort.ratioX
  have y := length_int clock.distort.ratioY
  have code : (Word.int 101).text.length = 3 := rfl
  have zero : (Word.int 0).text.length = 1 := rfl
  have info : Keyword.info.word.text.length = 4 := rfl
  have time : Keyword.time.word.text.length = 4 := rfl
  rw [describeTIME, length_line_cons]
  simp only [length_line_cons, length_line_single]
  omega

theorem length_termTIME :
    (line [.stamp now, .int 102, Keyword.info.word, .int 0, Keyword.time.word]).length < 100 := by
  have stamp := length_stamp now
  have code : (Word.int 102).text.length = 3 := rfl
  have zero : (Word.int 0).text.length = 1 := rfl
  have info : Keyword.info.word.text.length = 4 := rfl
  have time : Keyword.time.word.text.length = 4 := rfl
  rw [length_line_cons]
  simp only [length_line_cons, length_line_single]
  omega

theorem length_infoSERVER (state : Keyword) (few : state.word.text.length ≤ 11) :
    (infoSERVER now state).length < 100 := by
  have stamp := length_stamp now
  have code : (Word.int 100).text.length = 3 := rfl
  have zero : (Word.int 0).text.length = 1 := rfl
  have info : Keyword.info.word.text.length = 4 := rfl
  have server : Keyword.server.word.text.length = 6 := rfl
  rw [infoSERVER, length_line_cons]
  simp only [length_line_cons, length_line_single]
  omega

theorem length_cacheDescribeGL (gl : Gl) (addr : Int) :
    (cacheDescribeGL bus gl addr).length < 1000 := by
  rw [cacheDescribeGL]
  split
  · refine Nat.lt_of_le_of_lt (length_description _ .gl _ _ _ rfl) ?_
    simp only [List.length_cons, List.length_nil]
    decide
  · decide

theorem length_describeGA {ga : GaBus} {addr : Int}
    (described : describeGA bus ga addr = some characters) : characters.length < 100 := by
  rw [describeGA] at described
  split at described
  · cases described
  · split at described
    · cases described
      exact Nat.lt_of_le_of_lt (length_description _ .ga _ _ [] rfl) (by decide)
    · cases described
      decide

theorem allFit_infoGA {ga : GaBus} {addr port : Int} :
    AllFit (announced 1000 [.text (infoGA bus ga addr port now)]) := by
  rw [infoGA]
  split
  · exact allFit_line (Nat.le_of_ble_eq_true rfl) (by decide)
  · exact allFit_line (Nat.le_of_ble_eq_true rfl) (by decide)

theorem length_infoFB (fb : Feedback.Fb) (port : Int) :
    (infoFB bus fb port).length < maxsrcplinelen :=
  fits_line_of_reply reply_infoFB

theorem allFit_clockOperation {tables next : Tables} {action : Time.ClockAction}
    (taken : tables.clockOperation now action = some (next, announcements)) :
    AllFit (announced 100 announcements) := by
  obtain ⟨clock, -, rest⟩ := Option.map_eq_some_iff.mp taken
  cases action with
  | setTIME d h m s =>
      cases rest
      split
      · exact allFit_announced_text (length_infoTIME _)
      · exact allFit_announced_nil
  | initTIME fx fy =>
      dsimp only at rest
      split at rest
      · cases rest
        exact allFit_announced_nil
      · cases rest
        exact allFit_announced_text (length_describeTIME _ _)
  | termTIME =>
      cases rest
      exact allFit_announced_text length_termTIME
  | write =>
      dsimp only at rest
      split at rest
      · cases rest
        exact allFit_announced_nil
      · cases rest
        exact allFit_announced_nil
  | informed =>
      cases rest
      split
      · exact allFit_announced_text (length_infoTIME _)
      · exact allFit_announced_nil
  | start =>
      cases rest
      exact allFit_announced_nil
  | leaveWait =>
      cases rest
      exact allFit_announced_nil
  | read =>
      cases rest
      exact allFit_announced_nil

theorem allFit_initGA {drivers : Drivers} {tables next : Tables} {addr : Int} {protocol : Char}
    (taken : tables.initGA drivers now bus addr protocol = some (next, announcements)) :
    AllFit (announced 100 announcements) := by
  unfold Tables.initGA at taken
  split at taken
  · dsimp only at taken
    split at taken
    · cases taken
      split
      · rename_i described
        exact allFit_announced_text (length_describeGA described)
      · exact allFit_nil
    · cases taken
      exact allFit_announced_nil
  · cases taken
    exact allFit_announced_nil

/-- What `cacheSetGL` reports has no room for more than 999 characters. -/
theorem allFit_cacheSetGL_iff {tables next : Tables} {addr : Int} {l : GlState}
    (taken : tables.cacheSetGL now bus addr l = some (next, announcements)) :
    AllFit (announced 1000 announcements) ↔
      ((tables.glAt bus now).isValid addr = true →
        ((tables.glAt bus now).glstate addr).state = 1 →
          (glInfoBody bus addr (reported (tables.glAt bus now) addr l)).length + 1 < 1000) := by
  unfold Tables.cacheSetGL at taken
  cases taken
  by_cases valid : (tables.glAt bus now).isValid addr = true
  · rw [if_pos valid, forall_prop_of_true valid]
    by_cases terminating : ((tables.glAt bus now).glstate addr).state = 2
    · rw [if_pos terminating]
      refine iff_of_true ?_ fun living => absurd (living.symm.trans terminating) (by decide)
      exact allFit_terminated (Nat.le_of_ble_eq_true rfl) (by decide)
    · rw [if_neg terminating, cacheSetGL_reported valid terminating]
      by_cases living : ((tables.glAt bus now).glstate addr).state = 1
      · have initialized : ((tables.glAt bus now).setState addr
            (reported (tables.glAt bus now) addr l)).isInitialized addr = true := by
          rw [isInitialized_reported valid, beq_iff_eq]
          exact living
        rw [cacheInfoGL_eq initialized, setState_reported, forall_prop_of_true living]
        refine allFit_announced_cons_iff.trans ((and_iff_left allFit_announced_nil).trans ?_)
        rw [snprintf, List.length_take, List.length_append, List.length_singleton, maxsrcplinelen]
        omega
      · have dead : ((tables.glAt bus now).setState addr
            (reported (tables.glAt bus now) addr l)).isInitialized addr = false := by
          rw [isInitialized_reported valid, beq_eq_false_iff_ne]
          exact living
        rw [cacheInfoGL, dead]
        exact iff_of_true allFit_nil fun alive => absurd alive living
  · rw [if_neg valid]
    exact iff_of_true allFit_nil fun isValid => absurd isValid valid

theorem allFit_cacheLockGL {tables next : Tables} {addr duration : Int} {sessionid : Nat}
    (taken : tables.cacheLockGL now bus addr duration sessionid = some (next, announcements)) :
    AllFit (announced 256 announcements) := by
  unfold Tables.cacheLockGL at taken
  split at taken
  · cases taken
    exact allFit_describeLOCK (by decide)
  · cases taken
    exact allFit_announced_nil

theorem allFit_cacheUnlockGL {tables next : Tables} {addr : Int} {sessionid : Nat}
    (taken : tables.cacheUnlockGL now bus addr sessionid = some (next, announcements)) :
    AllFit (announced 256 announcements) := by
  unfold Tables.cacheUnlockGL at taken
  split at taken
  · cases taken
    exact allFit_terminated (Nat.le_of_ble_eq_true rfl) (by decide)
  · cases taken
    exact allFit_announced_nil

theorem allFit_lockGA {tables next : Tables} {addr duration : Int} {sessionid : Nat}
    (taken : tables.lockGA now bus addr duration sessionid = some (next, announcements)) :
    AllFit (announced 256 announcements) := by
  unfold Tables.lockGA at taken
  dsimp only at taken
  split at taken
  · cases taken
    exact allFit_describeLOCK (by decide)
  · cases taken
    exact allFit_announced_nil

theorem allFit_unlockGA {tables next : Tables} {addr : Int} {sessionid : Nat}
    (taken : tables.unlockGA now bus addr sessionid = some (next, announcements)) :
    AllFit (announced 256 announcements) := by
  unfold Tables.unlockGA at taken
  dsimp only at taken
  split at taken
  · cases taken
    exact allFit_terminated (Nat.le_of_ble_eq_true rfl) (by decide)
  · cases taken
    exact allFit_announced_nil

theorem allFit_setGA {tables next : Tables} {addr : Int} {a : GaState}
    (taken : tables.setGA now bus addr a = some (next, announcements)) :
    AllFit (announced 1000 announcements) := by
  unfold Tables.setGA at taken
  dsimp only at taken
  split at taken
  · cases taken
    exact allFit_infoGA
  · cases taken
    exact allFit_announced_nil

theorem allFit_termGA {tables next : Tables} {addr : Int}
    (taken : tables.termGA now bus addr = some (next, announcements)) :
    AllFit (announced 256 announcements) := by
  unfold Tables.termGA at taken
  split at taken
  · cases taken
    exact allFit_terminated (Nat.le_of_ble_eq_true rfl) (by decide)
  · cases taken
    exact allFit_announced_nil

theorem allFit_setGM {tables next : Tables} {sid rid : Nat} {message : GmText}
    (taken : tables.setGM now sid rid message = some (next, announcements)) :
    AllFit (announced maxsrcplinelen announcements) := by
  unfold Tables.setGM at taken
  split at taken
  · cases taken
    exact allFit_announced_nil
  · cases taken
    exact allFit_announced_text (fits_line_take _ le_rfl)

theorem allFit_fbAnnouncements (fb next : Feedback.Fb) (action : Feedback.FbAction) :
    AllFit (announced maxsrcplinelen (fbAnnouncements bus fb next action)) := by
  cases action with
  | checkResetFB time =>
      intro write mem
      obtain ⟨announcement, inTexts, stored⟩ := List.mem_filterMap.mp mem
      obtain ⟨reset, port, rfl⟩ := Feedback.mem_checkInfos inTexts
      cases stored
      exact length_infoFB _ _
  | updateFB time port value =>
      intro write mem
      obtain ⟨announcement, inTexts, stored⟩ := List.mem_filterMap.mp mem
      obtain ⟨changed, -, rfl⟩ := List.mem_map.mp inTexts
      cases stored
      exact length_infoFB _ _

/-- Every operation but one has room for what it announces. -/
theorem allFit_of_operate {drivers : Drivers} {tables next : Tables} {operation : Operation}
    (other : ∀ bus addr l, operation ≠ .cacheSetGL bus addr l)
    (taken : operate drivers tables now operation = some (next, announcements)) :
    AllFit (announced (Buffers.capacity operation) announcements) := by
  cases operation with
  | clock action => exact allFit_clockOperation taken
  | cacheSetGL bus addr l => exact absurd rfl (other bus addr l)
  | initGA bus addr protocol => exact allFit_initGA taken
  | cacheInitGL bus addr protocol protoversion nFs nFunc =>
      cases taken
      split
      · exact allFit_announced_text (length_cacheDescribeGL _ _)
      · exact allFit_announced_nil
  | enqueueGL bus command =>
      cases taken
      split
      · exact allFit_announced_text (length_cacheDescribeGL _ _)
      · exact allFit_announced_nil
  | clearGL bus addr =>
      cases taken
      exact allFit_terminated (Nat.le_of_ble_eq_true rfl) (Nat.le_of_ble_eq_true rfl)
  | cacheLockGL bus addr duration sessionid => exact allFit_cacheLockGL taken
  | cacheUnlockGL bus addr sessionid => exact allFit_cacheUnlockGL taken
  | countGL bus =>
      rw [operate] at taken
      split at taken
      · cases taken
        exact allFit_announced_nil
      · cases taken
        exact allFit_announced_nil
  | setGA bus addr a => exact allFit_setGA taken
  | termGA bus addr => exact allFit_termGA taken
  | lockGA bus addr duration sessionid => exact allFit_lockGA taken
  | unlockGA bus addr sessionid => exact allFit_unlockGA taken
  | countGA bus addr =>
      cases taken
      exact allFit_announced_nil
  | fb bus action =>
      obtain ⟨after, -, rest⟩ := Option.map_eq_some_iff.mp taken
      cases rest
      exact allFit_fbAnnouncements _ _ _
  | setGM sid rid message => exact allFit_setGM taken
  | startSession sid inCommandMode =>
      cases taken
      exact allFit_line (Nat.le_of_ble_eq_true rfl) (Nat.le_of_ble_eq_true rfl)
  | stopSession sid =>
      cases taken
      exact allFit_line (Nat.le_of_ble_eq_true rfl) (Nat.le_of_ble_eq_true rfl)
  | serverReset =>
      cases taken
      exact allFit_announced_text (length_infoSERVER .resetting (by decide))
  | serverShutdown =>
      cases taken
      exact allFit_announced_text (length_infoSERVER .terminating (by decide))

theorem fits_operation {world : World} {operation : Operation}
    (other : ∀ bus addr l, operation ≠ .cacheSetGL bus addr l) :
    Fits world (.operation now operation) := by
  cases operation with
  | cacheSetGL bus addr l => exact absurd rfl (other bus addr l)
  | _ => trivial

theorem allFit_operationWrites_iff (world : World) (now : Nat) (operation : Operation) :
    AllFit (operationWrites world now operation) ↔ Fits world (.operation now operation) := by
  rw [operationWrites]
  cases taken : operate world.sur.env.drivers world.site.server.tables now operation with
  | none =>
      refine iff_of_true allFit_nil (fits_operation ?_)
      rintro bus addr l rfl
      cases taken
  | some result =>
      obtain ⟨next, announcements⟩ := result
      by_cases status : ∃ bus addr l, operation = .cacheSetGL bus addr l
      · obtain ⟨bus, addr, l, rfl⟩ := status
        exact allFit_cacheSetGL_iff taken
      · have other : ∀ bus addr l, operation ≠ .cacheSetGL bus addr l := fun bus addr l same =>
          status ⟨bus, addr, l, same⟩
        exact iff_of_true (allFit_of_operate other taken) (fits_operation other)

end Operations

/-! ## Power and service mode -/

theorem length_infoPower (bus : Nat) (power : PowerState) :
    (infoPower bus power).length =
      (Word.stamp power.changeTime).text.length + (Word.long bus).text.length +
        (if power.on then 21 else 22) + power.message.text.length := by
  have code : (Word.int (100 : Nat)).text.length = 3 := rfl
  have body (info number state message : List Char) :
      (info ++ ' ' :: (number ++ (state ++ message))).length =
        info.length + 1 + number.length + state.length + message.length := by
    simp only [List.length_append, List.length_cons]
    omega
  rw [infoPower, length_replyLine, body, code]
  have info : (Keyword.info.word).text.length = 4 := rfl
  rw [info]
  cases power.on with
  | true =>
      have state : (if true = true then " POWER ON " else " POWER OFF ").toList.length = 10 := rfl
      rw [state]
      simp only [if_true]
      omega
  | false =>
      have state : (if false = true then " POWER ON " else " POWER OFF ").toList.length = 11 := rfl
      rw [state]
      simp only [Bool.false_eq_true, if_false]
      omega

theorem allFit_powerReport_iff (world : World) (driver : PowerDriver) (bus : Nat) :
    AllFit (powerReport world driver bus) ↔ PowerFits world driver bus := by
  have message : AllFit [⟨driver.msg, infoPower bus (world.site.power bus)⟩] ↔
      PowerFits world driver bus := by
    rw [allFit_single_iff, Write.Fits, length_infoPower]
    rfl
  unfold powerReport
  rw [allFit_append_iff, message]
  apply and_iff_right
  cases driver with
  | zimo =>
      apply allFit_single_iff.mpr
      exact (by decide : 3 < 5)
  | _ => exact allFit_nil

theorem length_smBuffer (report : SmReport) : report.buffer.length ≤ 153 := by
  have start (texts : List Word) (four : texts.length = 4) : (words texts).length ≤ 100 := by
    have bound : (words texts).length ≤ texts.length * (wordLimit + 1) := length_words
    rw [four] at bound
    exact bound
  have behind (texts : List Word) (two : texts.length ≤ 2) : (spaced texts).length ≤ 50 := by
    have bound : (spaced texts).length ≤ texts.length * (wordLimit + 1) := length_spaced
    exact bound.trans (Nat.mul_le_mul_right _ two)
  have sm : " SM".toList.length = 3 := rfl
  have short (texts : List Word) (four : texts.length = 4) :
      (words texts ++ " SM".toList).length ≤ 103 := by
    rw [List.length_append, sm]
    exact Nat.add_le_add_right (start texts four) 3
  have long (texts numbers : List Word) (four : texts.length = 4) (two : numbers.length ≤ 2) :
      (words texts ++ " SM".toList ++ spaced numbers).length ≤ 153 := by
    rw [List.length_append]
    exact Nat.add_le_add (short texts four) (behind numbers two)
  rw [SmReport.buffer]
  split
  · split
    · exact (short _ rfl).trans (by decide)
    · exact (short _ rfl).trans (by decide)
    · exact long _ _ rfl (Nat.le_of_ble_eq_true rfl)
  · exact long _ _ rfl (Nat.le_of_ble_eq_true rfl)

theorem length_smErrors : ∀ entry ∈ smErrors, entry.2.toList.length < 100 := by
  rw [← List.forall_iff_forall_mem]
  refine ⟨?_, ?_, ?_, ?_, ?_, ?_, ?_, ?_, ?_, ?_, ?_, ?_, ?_⟩
  all_goals exact Nat.lt_of_le_of_lt (length_literal le_rfl) (Nat.le_of_ble_eq_true rfl)

theorem length_tmp {report : SmReport} {text : List Char} (stored : report.tmp = some text) :
    text.length < 100 := by
  unfold SmReport.tmp at stored
  split at stored
  · split at stored
    · split at stored
      · cases stored
        decide
      · cases stored
    · cases stored
      decide
    · rename_i type _
      cases stored
      have name : ((smTypeText type).toList.drop 1).length ≤ 5 := by
        cases type <;> decide
      have few : (smNumbers type report.typeaddr report.bit report.value).length ≤ 3 := by
        cases type <;> exact Nat.le_of_ble_eq_true rfl
      have behind : (spaced (smNumbers type report.typeaddr report.bit report.value)).length ≤
          (smNumbers type report.typeaddr report.bit report.value).length * (wordLimit + 1) :=
        length_spaced
      have bound := behind.trans (Nat.mul_le_mul_right (wordLimit + 1) few)
      rw [List.length_append]
      exact Nat.lt_of_le_of_lt (Nat.add_le_add name bound) (by decide)
  · obtain ⟨entry, found, rfl⟩ := Option.map_eq_some_iff.mp stored
    exact length_smErrors entry (List.mem_of_find?_eq_some found)

theorem allFit_smWrites_iff (report : SmReport) (garbage : List Char) :
    AllFit (report.writes garbage) ↔
      (report.tmp = none → report.buffer.length + garbage.length + 2 < 1000) := by
  have bound := length_smBuffer report
  have whole (tmp : List Char) : (report.buffer ++ ' ' :: tmp ++ [newline]).length =
      report.buffer.length + tmp.length + 2 := by
    simp only [List.length_append, List.length_cons, List.length_nil]
    omega
  have buffer : (⟨1000, report.buffer⟩ : Write).Fits :=
    Nat.lt_of_le_of_lt bound (by decide : 153 < 1000)
  have message (tmp : List Char) :
      (⟨1000, report.buffer ++ ' ' :: tmp ++ [newline]⟩ : Write).Fits ↔
        report.buffer.length + tmp.length + 2 < 1000 := by
    rw [Write.Fits, whole]
  rw [SmReport.writes, allFit_append_iff, allFit_cons_iff, allFit_single_iff, message]
  cases stored : report.tmp with
  | none =>
      rw [forall_prop_of_true rfl]
      exact and_iff_right ⟨buffer, allFit_nil⟩
  | some text =>
      have short := length_tmp stored
      refine iff_of_true ⟨⟨buffer, allFit_single_iff.mpr short⟩, ?_⟩ nofun
      show report.buffer.length + text.length + 2 < 1000
      omega

/-! ## Greetings -/

theorem allFit_greeting (world : World) (bus now : Nat) (addr port : Int) :
    AllFit (greeting world bus now addr port) := by
  have all (texts : List (List Char)) (each : ∀ text ∈ texts, (Write.line text).Fits) :
      AllFit (texts.map .line) := by
    intro write mem
    obtain ⟨text, inTexts, rfl⟩ := List.mem_map.mp mem
    exact each text inTexts
  apply all
  intro text mem
  rcases List.mem_append.mp mem with mem | described
  · rcases List.mem_append.mp mem with fixed | status
    · simp only [List.mem_cons, List.not_mem_nil, or_false] at fixed
      rcases fixed with rfl | rfl | rfl | rfl | rfl | rfl | rfl | rfl | rfl | rfl
      · exact fits_line_of_reply reply_describeBus
      · exact fits_line_of_reply reply_describeBus
      · exact fits_line_of_reply reply_infoPower
      · exact fits_line_of_reply reply_describeTIME
      · exact fits_line_of_nonempty reply_infoTIME
      · exact (length_cacheDescribeGL _ _).trans (by decide : 1000 < 1001)
      · exact fits_line_of_reply reply_describeLOCK
      · exact fits_line_of_reply reply_infoGA
      · exact fits_line_of_reply reply_describeLOCK
      · exact fits_line_of_reply reply_infoFB
    · exact fits_cacheInfoGL (Option.mem_toList.mp status)
  · exact (length_describeGA (Option.mem_toList.mp described)).trans (by decide : 100 < 1001)

/-- Everything that is stored in a buffer fits just when the event does. -/
theorem fits_iff (world : World) (event : Event) :
    (∀ write ∈ writes world event, write.Fits) ↔ Fits world event := by
  cases event with
  | handshake now session rc line =>
      exact iff_of_true (allFit_handshakeWrites now session rc line.short) trivial
  | command fuel session line => exact allFit_commandWrites_iff line
  | operation now operation => exact allFit_operationWrites_iff world now operation
  | power driver bus => exact allFit_powerReport_iff world driver bus
  | sm report garbage => exact allFit_smWrites_iff report garbage
  | greeting bus now addr port =>
      exact iff_of_true (allFit_greeting world bus now addr port) trivial

/-- A server with a loopback bus. -/
def startedWorld : World :=
  ⟨startedSurroundings, startedCourse⟩

/-- A group of ten characters. -/
def lockLine : ClientLine where
  text := "GET 1 LOCK GLxxxxxxxx 3".toList
  short := by decide

/-- The group needs eleven bytes of ten, and the Zimo driver has five for its message. -/
theorem not_fits_lock_zimo :
    (¬ ∀ write ∈ writes startedWorld (.command 0 1 lockLine), write.Fits) ∧
      ¬ ∀ write ∈ writes startedWorld (.power .zimo 1), write.Fits := by
  constructor
  · intro fits
    have tokens : Fits startedWorld (.command 0 1 lockLine) :=
      (allFit_commandWrites_iff lockLine).mp fits
    have group := tokens ⟨"GET".toList, 1, "LOCK".toList, "GLxxxxxxxx 3".toList⟩ rfl (by decide)
      .get rfl rfl "GLxxxxxxxx".toList " 3".toList rfl
    exact absurd group (by decide)
  · intro fits
    have message : (infoPower 1 ⟨false, emptyText, 0⟩).length < 5 :=
      fits ⟨5, infoPower 1 ⟨false, emptyText, 0⟩⟩ (List.mem_cons_of_mem _ List.mem_cons_self)
    rw [length_infoPower] at message
    have state : (if false = true then 21 else 22) = 22 := rfl
    rw [state] at message
    omega

end Srcpd.Buffers
