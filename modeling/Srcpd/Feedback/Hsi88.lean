import Srcpd.Feedback.Levels
import Srcpd.Line.Read
import Srcpd.Types

/-!
# The reports of an HSI-88

`thr_sendrec_HSI_88` tells the interface how many modules are connected, again and again until
the interface confirms their number, and then hands each module of its reports to `setFBmodul`.
`thread_reports` says what the thread does from its start on, with any pauses and any other
bytes in front of an answer, and `thread_contacts` what the contacts are then.  Where a read
fails inside a report, the byte before counts again.
-/

namespace Srcpd.Feedback.Hsi88

open Srcpd.Line Srcpd.Transition

/-! ## The thread -/

/-- The settings of the bus; a byte of `number_fb` is what is sent. -/
structure Config where
  numberFbLeft : Int
  numberFbCenter : Int
  numberFbRight : Int

/-- What the thread writes to the line and does to the contacts. -/
inductive Action
  | writeByte (byte : Byte)
  | checkResetFb
  | setFBmodul (modul : Byte) (values : BitVec 32)

/-- The letter in front of the number of modules. -/
def letterS : Byte := 0x73

/-- The letter in front of a report. -/
def letterI : Byte := 0x69

/-- A carriage return. -/
def cr : Byte := 0x0d

/-- The command that tells the interface its modules. -/
def modulBytes (config : Config) : List Byte :=
  [letterS, BitVec.ofInt 8 config.numberFbLeft, BitVec.ofInt 8 config.numberFbCenter,
    BitVec.ofInt 8 config.numberFbRight, cr, cr, cr, cr]

/-- Bytes are written one by one. -/
def writeBytes : List Byte → Program Action PUnit
  | [] => pure ⟨⟩
  | byte :: bytes => do
      act (.writeByte byte)
      writeBytes bytes

/-- `anzahl` is zero behind the three subtractions. -/
def Config.confirmed (config : Config) (rr : Byte) : Bool :=
  (rr.toNat : Int) - config.numberFbLeft - config.numberFbCenter - config.numberFbRight = 0

/-- The first loop; `waits` bounds the reads of each loop inside it. -/
def initialise (reads : Reads Byte) (config : Config) (waits : Nat) :
    Nat → Program Action PUnit
  | 0 => fun _ => none
  | fuel + 1 => do
      writeBytes (modulBytes config)
      let rr ← readValue reads 0
      let rr ← readUntil reads (fun rr => rr = letterS) (pure ⟨⟩) waits rr
      let rr ← readValue reads rr
      if config.confirmed rr then pure ⟨⟩
      else do
        let _ ← drain reads waits rr
        initialise reads config waits fuel

/-- The values that are handed on for the two bytes of a module. -/
def modulValues (temp rr : Byte) : BitVec 32 :=
  temp.setWidth 32 <<< 8 ||| rr.setWidth 32

/-- The number of a module and its two bytes, of which the first one is high. -/
def modulBody (reads : Reads Byte) (rr : Byte) : Program Action Byte := do
  let i ← readValue reads rr
  let temp ← readValue reads i
  let rr ← readValue reads temp
  act (.setFBmodul i (modulValues temp rr))
  pure rr

/-- One pass of the second loop. -/
def reportPass (reads : Reads Byte) (waits : Nat) : Program Action PUnit := do
  let rr ← readUntil reads (fun rr => rr = letterI) (act .checkResetFb) waits 0
  let anzahl ← readValue reads rr
  let rr ← repeatBody (modulBody reads) anzahl.toNat anzahl
  let _ ← readValue reads rr
  pure ⟨⟩

/-- Reports are read one by one. -/
def passes (reads : Reads Byte) (waits : Nat) : Nat → Program Action PUnit
  | 0 => pure ⟨⟩
  | count + 1 => do
      reportPass reads waits
      passes reads waits count

/-- The thread up to the end of a pass. -/
def thread (reads : Reads Byte) (config : Config) (waits fuel count : Nat) :
    Program Action PUnit := do
  initialise reads config waits fuel
  passes reads waits count

/-! ## The interface -/

/-- Failing reads and other bytes in front of the byte that the thread waits for. -/
structure Pause (wanted : Byte) where
  results : List (Option Byte)
  others : ∀ byte, some byte ∈ results → byte ≠ wanted

/-- The answer to the numbers of modules; its number may not have come when it is read. -/
structure Answer where
  pause : Pause letterS
  number : Option Byte

/-- The reads of the answer to the number of modules. -/
def Answer.results (answer : Answer) : List (Option Byte) :=
  answer.pause.results ++ [some letterS, answer.number]

/-- Without a number the variable holds the letter. -/
def Answer.confirms (config : Config) (answer : Answer) : Prop :=
  config.confirmed (answer.number.getD letterS) = true

instance (config : Config) (answer : Answer) : Decidable (answer.confirms config) :=
  inferInstanceAs (Decidable (config.confirmed (answer.number.getD letterS) = true))

/-- An answer that is refused, with the bytes until a read fails. -/
structure Refused (config : Config) where
  answer : Answer
  wrong : ¬ answer.confirms config
  rest : List Byte

/-- The reads of an answer with a wrong number, up to the read that finds nothing more. -/
def Refused.results {config : Config} (refused : Refused config) : List (Option Byte) :=
  refused.answer.results ++ (refused.rest.map some ++ [none])

/-- What the interface sends about a module. -/
structure ModulReport where
  modul : Byte
  high : Byte
  low : Byte

/-- A module as it is sent. -/
def ModulReport.bytes (report : ModulReport) : List Byte :=
  [report.modul, report.high, report.low]

/-- A report in full: how many modules, the modules, and the byte behind them. -/
def reportBytes (moduls : List ModulReport) (last : Byte) : List Byte :=
  BitVec.ofNat 8 moduls.length :: (moduls.flatMap ModulReport.bytes ++ [last])

/-- A report as the thread reads it. -/
structure Report where
  pause : Pause letterI
  moduls : List ModulReport
  few : moduls.length < 2 ^ 8
  last : Byte
  behind : List (Option Byte)
  spelled : heldValues letterI behind = reportBytes moduls last

/-- A report without failing reads. -/
def Report.full (pause : Pause letterI) (moduls : List ModulReport) (few : moduls.length < 2 ^ 8)
    (last : Byte) : Report where
  pause := pause
  moduls := moduls
  few := few
  last := last
  behind := (reportBytes moduls last).map some
  spelled := heldValues_some letterI (reportBytes moduls last)

/-- The values of a module go to its contacts. -/
def ModulReport.action (report : ModulReport) : Action :=
  .setFBmodul report.modul (modulValues report.high report.low)

/-- The reads of a report. -/
def Report.results (report : Report) : List (Option Byte) :=
  report.pause.results ++ [some letterI] ++ report.behind

/-- The resets are checked before each read of the pause and before the one behind it. -/
def Report.actions (report : Report) : List Action :=
  List.replicate (report.pause.results.length + 1) .checkResetFb ++
    report.moduls.map ModulReport.action

/-- Some answers are refused, one is not, and then there are reports. -/
structure Talk (config : Config) where
  refused : List (Refused config)
  answer : Answer
  confirms : answer.confirms config
  reports : List Report

/-- All reads: refused answers, the answer that is accepted, and the reports. -/
def Talk.results {config : Config} (talk : Talk config) : List (Option Byte) :=
  talk.refused.flatMap Refused.results ++ talk.answer.results ++
    talk.reports.flatMap Report.results

/-- What the thread does in the talk. -/
def Talk.actions {config : Config} (talk : Talk config) : List Action :=
  (List.replicate (talk.refused.length + 1) ((modulBytes config).map .writeByte)).flatten ++
    talk.reports.flatMap Report.actions

/-- No loop of the thread has more reads. -/
def Talk.waits {config : Config} (talk : Talk config) : Nat :=
  talk.results.length + 2

/-! ## Answers in full -/

section Talks

variable {reads : Reads Byte} {config : Config} {waits : Nat}

theorem writeBytes_yields (bytes : List Byte) :
    Yields reads (writeBytes bytes) [] (bytes.map .writeByte) ⟨⟩ := by
  induction bytes with
  | nil => exact .pure PUnit.unit
  | cons byte bytes ih => exact (Yields.act (Action.writeByte byte)).bind ih

theorem awaitS_yields (pause : Pause letterS) (enough : pause.results.length < waits) :
    Yields reads (do
        let rr ← readValue reads 0
        readUntil reads (fun rr => rr = letterS) (pure ⟨⟩) waits rr : Program Action Byte)
      (pause.results ++ [some letterS]) [] letterS := by
  have one : (do
        let rr ← readValue reads 0
        readUntil reads (fun rr => rr = letterS) (pure ⟨⟩) waits rr : Program Action Byte) =
      readUntil reads (fun rr => rr = letterS) (pure ⟨⟩) (waits + 1) 0 := rfl
  have others : ∀ byte, some byte ∈ pause.results → decide (byte = letterS) = false :=
    fun byte mem => decide_eq_false (pause.others byte mem)
  rw [one]
  refine (Yields.readUntil (Yields.pure PUnit.unit) (by decide) others
    (Nat.succ_lt_succ enough) (by decide)).congr rfl ?_
  rw [List.flatten_replicate_nil]

/-- The thread says how many modules there are and goes on with the number it is answered. -/
theorem answer_yields (answer : Answer) (enough : answer.results.length < waits)
    {next : Byte → Program Action PUnit} {results : List (Option Byte)} {actions : List Action}
    (rest : Yields reads (next (answer.number.getD letterS)) results actions ⟨⟩) :
    Yields reads (do
        writeBytes (modulBytes config)
        let rr ← readValue reads 0
        let rr ← readUntil reads (fun rr => rr = letterS) (pure ⟨⟩) waits rr
        let rr ← readValue reads rr
        next rr)
      (answer.results ++ results) ((modulBytes config).map .writeByte ++ actions) ⟨⟩ := by
  have short : answer.pause.results.length < waits := by
    rw [Answer.results, List.length_append] at enough
    omega
  have behind : Yields reads ((do
        let rr ← readValue reads 0
        readUntil reads (fun rr => rr = letterS) (pure ⟨⟩) waits rr) >>= fun rr =>
      readValue reads rr >>= next)
      (answer.pause.results ++ [some letterS] ++ ([answer.number] ++ results)) actions ⟨⟩ :=
    (awaitS_yields answer.pause short).bind ((Yields.readValue letterS answer.number).bind rest)
  rw [bind_assoc] at behind
  refine ((writeBytes_yields (modulBytes config)).bind behind).congr ?_ rfl
  rw [Answer.results]
  simp only [List.append_assoc, List.nil_append, List.cons_append]

theorem initialise_yields (answer : Answer) (confirms : answer.confirms config)
    (refused : List (Refused config)) {fuel : Nat}
    (enough : (refused.flatMap Refused.results ++ answer.results).length < waits)
    (tries : refused.length < fuel) :
    Yields reads (initialise reads config waits fuel)
      (refused.flatMap Refused.results ++ answer.results)
      (List.replicate (refused.length + 1) ((modulBytes config).map .writeByte)).flatten ⟨⟩ := by
  induction refused generalizing fuel with
  | nil =>
      obtain ⟨fuel, rfl⟩ : ∃ k, fuel = k + 1 := ⟨fuel - 1, by simp at tries; omega⟩
      have done : Yields reads (if config.confirmed (answer.number.getD letterS) then pure ⟨⟩
          else do
            let _ ← drain reads waits (answer.number.getD letterS)
            initialise reads config waits fuel : Program Action PUnit) [] [] ⟨⟩ := by
        have confirmed : config.confirmed (answer.number.getD letterS) = true := confirms
        rw [if_pos confirmed]
        exact .pure PUnit.unit
      refine (answer_yields answer enough done).congr ?_ ?_
      · rw [List.append_nil, List.flatMap_nil, List.nil_append]
      · simp
  | cons one refused ih =>
      obtain ⟨fuel, rfl⟩ : ∃ k, fuel = k + 1 := ⟨fuel - 1, by simp at tries; omega⟩
      rw [List.flatMap_cons, List.append_assoc, List.length_append] at enough
      have drained : one.rest.length < waits := by
        rw [Refused.results, List.length_append, List.length_append, List.length_map] at enough
        omega
      have answered : one.answer.results.length < waits := by
        rw [Refused.results, List.length_append] at enough
        omega
      rcases @Yields.drain Action Byte reads one.rest waits drained
        (one.answer.number.getD letterS) with ⟨last, silent⟩
      have again : Yields reads (if config.confirmed (one.answer.number.getD letterS) then pure ⟨⟩
          else do
            let _ ← drain reads waits (one.answer.number.getD letterS)
            initialise reads config waits fuel : Program Action PUnit)
          (one.rest.map some ++ [none] ++ (refused.flatMap Refused.results ++ answer.results))
          (List.replicate (refused.length + 1) ((modulBytes config).map .writeByte)).flatten
          ⟨⟩ := by
        have wrong : ¬ config.confirmed (one.answer.number.getD letterS) = true := one.wrong
        rw [if_neg wrong]
        exact silent.bind (ih (by omega) (Nat.lt_of_succ_lt_succ tries))
      refine (answer_yields one.answer answered again).congr ?_ ?_
      · rw [List.flatMap_cons, Refused.results]
        simp only [List.append_assoc]
      · rw [List.length_cons, List.replicate_succ, List.flatten_cons]

theorem modulBody_yields (rr : Byte) (first second third : Option Byte) :
    Yields reads (modulBody reads rr) [first, second, third]
      [.setFBmodul (first.getD rr) (modulValues (second.getD (first.getD rr))
        (third.getD (second.getD (first.getD rr))))]
      (third.getD (second.getD (first.getD rr))) :=
  (Yields.readValue rr first).bind ((Yields.readValue _ second).bind
    ((Yields.readValue _ third).bind ((Yields.act _).bind (.pure _))))

theorem modulBody_spelled {rr : Byte} {first second third : Option Byte}
    {results : List (Option Byte)} {report : ModulReport} {rest : List Byte}
    (spelled : heldValues rr (first :: second :: third :: results) = report.bytes ++ rest) :
    Yields reads (modulBody reads rr) [first, second, third] [report.action] report.low ∧
      heldValues report.low results = rest := by
  rw [heldValues, heldValues, heldValues, ModulReport.bytes] at spelled
  rcases List.cons_eq_cons.mp spelled with ⟨modul, spelled⟩
  rcases List.cons_eq_cons.mp spelled with ⟨high, spelled⟩
  rcases List.cons_eq_cons.mp spelled with ⟨low, spelled⟩
  rw [low] at spelled
  refine ⟨?_, spelled⟩
  have body := @modulBody_yields reads rr first second third
  rw [low, high, modul] at body
  exact body

/-- The modules are read, whichever of the reads fail, and the rest of the report is left. -/
theorem moduls_yield (moduls : List ModulReport) {rr : Byte} {results : List (Option Byte)}
    {rest : List Byte}
    (spelled : heldValues rr results = moduls.flatMap ModulReport.bytes ++ rest) :
    ∃ first second last, results = first ++ second ∧ heldValues last second = rest ∧
      Yields reads (repeatBody (modulBody reads) moduls.length rr) first
        (moduls.map ModulReport.action) last := by
  induction moduls generalizing rr results with
  | nil => exact ⟨[], results, rr, rfl, spelled, .pure rr⟩
  | cons report moduls ih =>
      rw [List.flatMap_cons, List.append_assoc] at spelled
      have long : 3 ≤ results.length := by
        rw [← length_heldValues rr results, spelled, List.length_append]
        exact Nat.le_add_right 3 _
      obtain ⟨first, second, third, behind, rfl⟩ :
          ∃ first second third behind, results = first :: second :: third :: behind := by
        rcases results with _ | ⟨first, _ | ⟨second, _ | ⟨third, behind⟩⟩⟩
        · simp at long
        · simp at long
        · simp at long
        · exact ⟨first, second, third, behind, rfl⟩
      rcases modulBody_spelled spelled with ⟨body, left⟩
      rcases ih left with ⟨before, after, last, same, tail, read⟩
      refine ⟨first :: second :: third :: before, after, last, ?_, tail, body.bind read⟩
      rw [same]
      rfl

theorem reportPass_yields (report : Report) (enough : report.pause.results.length + 1 < waits) :
    Yields reads (reportPass reads waits) report.results report.actions ⟨⟩ := by
  have anzahl : (BitVec.ofNat 8 report.moduls.length).toNat = report.moduls.length := by
    rw [BitVec.toNat_ofNat, Nat.mod_eq_of_lt report.few]
  have others : ∀ byte, some byte ∈ report.pause.results → decide (byte = letterI) = false :=
    fun byte mem => decide_eq_false (report.pause.others byte mem)
  have waiting : Yields reads
      (readUntil reads (fun rr => rr = letterI) (act Action.checkResetFb) waits 0) _ _ letterI :=
    Yields.readUntil (Yields.act Action.checkResetFb) (by decide) others enough (by decide)
  have spelled := report.spelled
  rw [reportBytes] at spelled
  cases read : report.behind with
  | nil =>
      rw [read] at spelled
      cases spelled
  | cons number behind =>
      rw [read, heldValues] at spelled
      rcases List.cons_eq_cons.mp spelled with ⟨counter, moduls⟩
      rw [counter] at moduls
      rcases @moduls_yield reads report.moduls _ _ _ moduls with
        ⟨first, second, rr, same, tail, bodies⟩
      obtain ⟨last, rfl⟩ : ∃ last, second = [last] := by
        have one := congrArg List.length tail
        rw [length_heldValues] at one
        exact List.length_eq_one_iff.mp one
      have counted : Yields reads
          (repeatBody (modulBody reads) (number.getD letterI).toNat (number.getD letterI)) first
          (report.moduls.map ModulReport.action) rr := by
        rw [counter, anzahl]
        exact bodies
      refine (waiting.bind ((Yields.readValue letterI number).bind
        (counted.bind ((Yields.readValue rr last).bind (.pure PUnit.unit))))).congr ?_ ?_
      · rw [Report.results, read, same]
        rfl
      · rw [Report.actions, List.flatten_replicate_singleton]
        simp

theorem passes_yields (reports : List Report)
    (enough : (reports.flatMap Report.results).length + 1 < waits) :
    Yields reads (passes reads waits reports.length) (reports.flatMap Report.results)
      (reports.flatMap Report.actions) ⟨⟩ := by
  induction reports with
  | nil => exact .pure PUnit.unit
  | cons report reports ih =>
      rw [List.flatMap_cons, List.length_append] at enough
      have first : report.pause.results.length + 1 < waits := by
        rw [Report.results, List.length_append, List.length_append] at enough
        omega
      exact (reportPass_yields report first).bind (ih (by omega))

theorem thread_yields (talk : Talk config) (more : Nat) :
    Yields reads
      (thread reads config (talk.waits + more) (talk.refused.length + 1 + more)
        talk.reports.length)
      talk.results talk.actions ⟨⟩ := by
  have most : talk.results.length + 1 < talk.waits + more := by
    rw [Talk.waits]
    omega
  rw [Talk.results, List.length_append] at most
  exact (initialise_yields talk.answer talk.confirms talk.refused (by omega) (by omega)).bind
    (passes_yields talk.reports (by omega))

end Talks

/-- From its start on, while the interface refuses some answers, confirms one and reports: the
thread tells it the numbers of modules once for each answer, and then checks the resets and hands
on the modules as the reports come, each module once.  What a report says is what the variable
holds behind its reads, failing ones too. -/
theorem thread_reports (reads : Reads Byte) (config : Config) (talk : Talk config) (more : Nat)
    (port : Port Action) (hears : Hears reads port.calls talk.results) :
    thread reads config (talk.waits + more) (talk.refused.length + 1 + more) talk.reports.length
        port =
      some ((), ⟨port.calls + talk.results.length, port.actions ++ talk.actions⟩) :=
  thread_yields talk more port hears

/-- An interface with one module on its left bus. -/
def oneModul : Config :=
  ⟨1, 0, 0⟩

/-- The first answer breaks off; the second report too, and its module has 0 twice. -/
def oneTalk : Talk oneModul where
  refused := [⟨⟨⟨[none], by decide⟩, none⟩, by decide, []⟩]
  answer := ⟨⟨[], by decide⟩, some 1⟩
  confirms := by decide
  reports := [.full ⟨[none, some cr], by decide⟩ [⟨1, 0x80, 0x05⟩] (by decide) cr,
    ⟨⟨[], by decide⟩, [⟨1, 0, 0⟩], by decide, 0, [some 1, none, some 0, none, none], rfl⟩]

theorem oneTalk_heard : Hears (fun n => (oneTalk.results[n]?).join) 0 oneTalk.results := by
  refine ⟨rfl, rfl, rfl, rfl, rfl, rfl, rfl, rfl, rfl, rfl, rfl, rfl, rfl, rfl, rfl, rfl, rfl, rfl,
    rfl, rfl, ?_⟩
  trivial

theorem thread_reports_oneTalk :
    thread (fun n => (oneTalk.results[n]?).join) oneModul (oneTalk.waits + 0)
        (oneTalk.refused.length + 1 + 0) oneTalk.reports.length ⟨0, []⟩ =
      some ((), ⟨0 + oneTalk.results.length, [] ++ oneTalk.actions⟩) :=
  thread_reports _ oneModul oneTalk 0 ⟨0, []⟩ oneTalk_heard

/-! ## Contacts behind the reports -/

/-- `readConfig_HSI_88` sets `FB_ORDER_0` and `FB_16_PORTS`. -/
def hsiFlags : ModulFlags :=
  ⟨true, false, true⟩

/-- What an action does to the contacts. -/
def Action.fbActions (now : Int) : Action → List FbAction
  | .writeByte _ => []
  | .checkResetFb => [.checkResetFB now]
  | .setFBmodul modul values => Feedback.setFBmodul hsiFlags now modul.toNat values

/-- Bits of the two bytes, from bit 0 of the second one on. -/
def ModulReport.bit (report : ModulReport) (k : Nat) : Bool :=
  if k < 8 then report.low.getLsbD k else report.high.getLsbD (k - 8)

/-- The contacts of a module with the levels that were sent. -/
def ModulReport.levels (report : ModulReport) : List (Int × Bool) :=
  (List.range 16).map fun (k : Nat) => (((report.modul.toNat : Int) - 1) * 16 + 1 + k, report.bit k)

/-- The contacts of all reports with their levels, in their order. -/
def Talk.levels {config : Config} (talk : Talk config) : List (Int × Bool) :=
  talk.reports.flatMap fun report => report.moduls.flatMap ModulReport.levels

/-- The contacts that an action sets, with their levels. -/
def Action.levels : Action → List (Int × Bool)
  | .setFBmodul modul values =>
      (List.range 16).map fun (k : Nat) =>
        (((modul.toNat : Int) - 1) * 16 + 1 + k, values.getLsbD k)
  | _ => []

theorem modulValues_bit (report : ModulReport) {k : Nat} (below : k < 16) :
    (modulValues report.high report.low).getLsbD k = report.bit k := by
  rw [modulValues, BitVec.getLsbD_or, BitVec.getLsbD_shiftLeft, BitVec.getLsbD_setWidth,
    BitVec.getLsbD_setWidth, ModulReport.bit]
  have width : k < 32 := by omega
  have narrow : k - 8 < 32 := by omega
  by_cases first : k < 8
  · simp [first, width]
  · have beyond : report.low.getLsbD k = false := BitVec.getLsbD_of_ge _ _ (by omega)
    simp [first, width, narrow, beyond]

theorem Action.fbActions_levels (now : Int) (action : Action) :
    (action.fbActions now).flatMap FbAction.levels = action.levels := by
  cases action with
  | writeByte byte => rfl
  | checkResetFb => rfl
  | setFBmodul modul values =>
      rw [Action.fbActions, Feedback.setFBmodul, List.flatMap_map, Action.levels,
        List.map_eq_flatMap]
      congr 1
      funext k
      exact FbAction.levels_bit now _ (values.getLsbD k)

theorem Action.fbActions_plain {fb : Fb} (empty : fb.resetQueue = []) (now : Int)
    (action : Action) : ∀ call ∈ action.fbActions now, call.Plain fb := by
  cases action with
  | writeByte byte =>
      intro call mem
      cases mem
  | checkResetFb =>
      intro call mem
      cases List.mem_singleton.mp mem
      exact empty
  | setFBmodul modul values =>
      intro call mem
      rcases List.mem_map.mp mem with ⟨k, -, rfl⟩
      exact ⟨values.getLsbD k, rfl⟩

theorem ModulReport.levels_action (report : ModulReport) :
    report.action.levels = report.levels := by
  apply List.map_congr_left
  intro k mem
  rw [modulValues_bit report (List.mem_range.mp mem)]

theorem Talk.actions_levels {config : Config} (talk : Talk config) :
    talk.actions.flatMap Action.levels = talk.levels := by
  have checked (count : Nat) :
      (List.replicate count Action.checkResetFb).flatMap Action.levels = [] := by
    simp [List.flatMap_replicate, Action.levels]
  have reported (report : Report) : report.actions.flatMap Action.levels =
      report.moduls.flatMap ModulReport.levels := by
    rw [Report.actions, List.flatMap_append, checked, List.nil_append, List.flatMap_map]
    simp only [ModulReport.levels_action]
  have started : (List.replicate (talk.refused.length + 1)
      ((modulBytes config).map Action.writeByte)).flatten.flatMap Action.levels = [] := by
    rw [← List.flatMap_id, List.flatMap_assoc]
    simp [Action.levels]
  rw [Talk.actions, List.flatMap_append, started, List.nil_append, List.flatMap_assoc, Talk.levels]
  simp only [reported]

/-- On a bus without a delay for resets, at whatever times the calls are made: a contact has the
last level that a report gave it, and without one the level that it had. -/
theorem thread_contacts (reads : Reads Byte) (config : Config) (talk : Talk config) (more : Nat)
    (port : Port Action) (hears : Hears reads port.calls talk.results) {fb : Fb}
    (settled : fb.Settled) (empty : fb.resetQueue = []) (infos : List Int) :
    ∃ last, thread reads config (talk.waits + more) (talk.refused.length + 1 + more)
        talk.reports.length port = some ((), last) ∧
      ∀ timed : List (Int × Action), last.actions = port.actions ++ timed.map Prod.snd →
        ∃ fb' new, run reportStep (fb, infos)
            (timed.flatMap fun call => call.2.fbActions call.1) = some (fb', infos ++ new) ∧
          ∀ contact, 1 ≤ contact → contact ≤ fb.numberOfFb →
            (fb'.fbstate (portT contact)).state =
              (lastLevel contact talk.levels).elim (fb.fbstate (portT contact)).state
                bitValue := by
  refine ⟨_, thread_yields talk more port hears, ?_⟩
  intro timed same
  have done : timed.map Prod.snd = talk.actions := (List.append_cancel_left same).symm
  have plain : ∀ call ∈ timed.flatMap fun call => call.2.fbActions call.1, call.Plain fb := by
    intro call mem
    rcases List.mem_flatMap.mp mem with ⟨action, -, one⟩
    exact action.2.fbActions_plain empty action.1 call one
  have levels : (timed.flatMap fun call => call.2.fbActions call.1).flatMap FbAction.levels =
      talk.levels := by
    rw [List.flatMap_assoc, ← talk.actions_levels, ← done, List.flatMap_map]
    simp only [Action.fbActions_levels]
  rcases run_levels settled infos _ plain with ⟨last, new, executed, sets⟩
  rw [levels] at sets
  exact ⟨last, new, executed, sets.contacts⟩

theorem thread_contacts_oneTalk :
    ∃ last, thread (fun n => (oneTalk.results[n]?).join) oneModul (oneTalk.waits + 0)
        (oneTalk.refused.length + 1 + 0) oneTalk.reports.length ⟨0, []⟩ = some ((), last) ∧
      ∀ timed : List (Int × Action), last.actions = [] ++ timed.map Prod.snd →
        ∃ fb' new, run reportStep (initFB 16 0 0, [])
            (timed.flatMap fun call => call.2.fbActions call.1) = some (fb', [] ++ new) ∧
          ∀ contact, 1 ≤ contact → contact ≤ (initFB 16 0 0).numberOfFb →
            (fb'.fbstate (portT contact)).state =
              (lastLevel contact oneTalk.levels).elim
                ((initFB 16 0 0).fbstate (portT contact)).state bitValue :=
  thread_contacts _ oneModul oneTalk 0 ⟨0, []⟩ oneTalk_heard (settled_initFB 16 0) rfl []

end Srcpd.Feedback.Hsi88
