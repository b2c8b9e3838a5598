import Srcpd.Session.Commands
import Srcpd.Session.Sessions

/-!
# The handshake of a session

The first loop of `thr_doClient`: a client may choose its mode and ask for a protocol
until it says `GO`.  The value of a `SET` line is read into an array that is neither
cleared nor terminated, so that the comparisons may read what the memory contained.

`handshake_mode` is about the mode a session gets, `shakeLine_determinate_iff` about the
lines whose reply the memory decides.
-/

namespace Srcpd.Session.Handshake

open Srcpd.Command Srcpd.CmdClient

/-! ## The loop -/

/-- What a line is answered with, the mode behind it, and the end of the handshake. -/
inductive Outcome
  | reply (code : Nat) (mode : SessionMode)
  | go
  deriving DecidableEq

/-- The array `p` once a text is written into it. -/
def written (text memory : List Char) : List Char :=
  text ++ memory.drop text.length

/-- The code and the mode for the parameter of a `SET` line; `memory` is what the array `p`
contained. -/
def shakeSet (memory : List Char) (mode : SessionMode) (parameter : List Char) :
    Nat × SessionMode :=
  match scanWord parameter with
  | none => (410, mode)
  | some (setcmd, rest) =>
      let text := (skipSpace rest).take 1000
      let p := written text memory
      let chosen :=
        if text ≠ [] ∧ hasPrefix "connectionmode" setcmd then
          if hasPrefix "srcp info" p then (202, SessionMode.smInfo)
          else if hasPrefix "srcp command" p then (202, .smCommand)
          else (401, mode)
        else (410, mode)
      -- no test that there is a text
      if hasPrefix "protocol" setcmd then
        (if hasPrefix "srcp 0.8" p then 201 else 400, chosen.2)
      else chosen

/-- A line without its line break. -/
def shakeLine (memory : List Char) (mode : SessionMode) (line : List Char) : Outcome :=
  match scanWord line with
  | none => .reply 402 mode
  | some (cmd, rest) =>
      if hasPrefix "go" cmd then .go
      else if hasPrefix "set" cmd then
        let answer := shakeSet memory mode ((skipSpace rest).take 1000)
        .reply answer.1 answer.2
      else .reply 410 mode

/-- A line, and what the memory contains when it comes. -/
structure Arrival where
  line : List Char
  memory : List Char

/-- `register_session`. -/
def registered (mode : SessionMode) : SessionMode :=
  if mode = .smUndefined then .smCommand else mode

/-- What is written to the client: the text of a code, or `200 OK GO` with the number of the
session. -/
inductive Reply
  | code (code : Nat)
  | go (session : Nat)
  deriving DecidableEq

/-- The replies, and the mode of the session when it comes to one; `session` is the number
that `register_session` gives it. -/
def handshake (session : Nat) (mode : SessionMode) :
    List Arrival → List Reply × Option SessionMode
  | [] => ([], none)
  | arrival :: rest =>
      match shakeLine arrival.memory mode arrival.line with
      | .go => ([.go session], some (registered mode))
      | .reply code next =>
          let later := handshake session next rest
          (.code code :: later.1, later.2)

/-! ## The mode of a session -/

/-- The line says `GO`. -/
def Arrival.isGo (arrival : Arrival) : Bool :=
  match scanWord arrival.line with
  | none => false
  | some (cmd, _) => hasPrefix "go" cmd

/-- The mode that the text of a line names. -/
def Arrival.named (arrival : Arrival) : SessionMode :=
  match scanWord arrival.line with
  | none => .smCommand
  | some (_, rest) =>
      match scanWord ((skipSpace rest).take 1000) with
      | none => .smCommand
      | some (_, rest) =>
          if hasPrefix "srcp info" (written ((skipSpace rest).take 1000) arrival.memory) then
            .smInfo
          else .smCommand

/-- The mode that the lines of a handshake leave, from what the last accepted one names. -/
def lastNamed (mode : SessionMode) (answered : List (Arrival × Nat)) : SessionMode :=
  (answered.reverse.find? fun pair => pair.2 == 202).elim mode fun pair => pair.1.named

theorem lastNamed_cons (mode : SessionMode) (pair : Arrival × Nat)
    (rest : List (Arrival × Nat)) :
    lastNamed mode (pair :: rest) =
      lastNamed (if pair.2 = 202 then pair.1.named else mode) rest := by
  rw [lastNamed, lastNamed, List.reverse_cons, List.find?_append]
  cases rest.reverse.find? fun pair => pair.2 == 202 with
  | some found => rfl
  | none =>
      rw [Option.none_or]
      by_cases accepted : pair.2 = 202
      · simp [accepted]
      · simp [accepted]

theorem shakeLine_go_iff {memory : List Char} {mode : SessionMode} {line : List Char} :
    shakeLine memory mode line = .go ↔ Arrival.isGo ⟨line, memory⟩ = true := by
  rw [shakeLine, Arrival.isGo]
  dsimp only
  cases scanWord line with
  | none => simp
  | some scanned =>
      dsimp only
      split
      · rename_i go
        simp [go]
      · rename_i other
        split
        · simp [other]
        · simp [other]

/-- A text begins with the first letter of its prefix. -/
theorem head_of_hasPrefix {name : String} {text : List Char} {first : Char} {rest : List Char}
    (letters : name.toList = first :: rest) (begins : hasPrefix name text = true) :
    text.head?.map Char.toLower = some first := by
  rw [hasPrefix, beq_iff_eq, letters, List.length_cons] at begins
  cases text with
  | nil => cases begins
  | cons letter text =>
      rw [List.take_succ_cons, List.map_cons, List.cons.injEq] at begins
      rw [List.head?_cons, Option.map_some, begins.1]

theorem not_connectionmode_of_protocol {text : List Char}
    (protocol : hasPrefix "protocol" text = true) :
    ¬ hasPrefix "connectionmode" text = true := by
  intro connectionmode
  have first := head_of_hasPrefix (rfl : "protocol".toList = 'p' :: _) protocol
  rw [head_of_hasPrefix (rfl : "connectionmode".toList = 'c' :: _) connectionmode] at first
  exact absurd first (by decide)

/-- An accepted mode is the one named, and no other line changes the mode. -/
theorem shakeLine_mode {memory : List Char} {mode next : SessionMode} {line : List Char}
    {code : Nat} (answered : shakeLine memory mode line = .reply code next) :
    next = if code = 202 then Arrival.named ⟨line, memory⟩ else mode := by
  rw [shakeLine] at answered
  rw [Arrival.named]
  dsimp only
  cases scanned : scanWord line with
  | none =>
      rw [scanned] at answered
      cases answered
      rfl
  | some word =>
      rw [scanned] at answered
      dsimp only at answered ⊢
      split at answered
      · cases answered
      · split at answered
        · rw [Outcome.reply.injEq] at answered
          obtain ⟨rfl, rfl⟩ := answered
          rw [shakeSet]
          cases scanWord ((skipSpace word.2).take 1000) with
          | none => rfl
          | some setcmd =>
              dsimp only
              split
              · rename_i protocol
                have other := not_connectionmode_of_protocol protocol
                rw [if_neg (show ¬ (_ ∧ hasPrefix "connectionmode" setcmd.1 = true) from
                  fun both => other both.2)]
                split <;> rfl
              · split
                · split
                  · rfl
                  · split <;> rfl
                · rfl
        · cases answered
          rfl

/-- For every sequence of lines, whatever the memory contains: each line before the first `GO`
gets one reply with a code, the first `GO` the number of the session, and no line behind it
one of the handshake; a session starts exactly when there is a `GO`; and its mode is the one
that the last line answered with 202 names, and command mode without one. -/
theorem handshake_mode (session : Nat) (mode : SessionMode) (arrivals : List Arrival) :
    let result := handshake session mode arrivals
    let before := arrivals.takeWhile fun arrival => !arrival.isGo
    ∃ codes : List Nat, codes.length = before.length ∧
      result.1 = codes.map Reply.code ++
        (if ∃ arrival ∈ arrivals, arrival.isGo = true then [Reply.go session] else []) ∧
      result.2 = if ∃ arrival ∈ arrivals, arrival.isGo = true then
        some (registered (lastNamed mode (before.zip codes))) else none := by
  induction arrivals generalizing mode with
  | nil => exact ⟨[], rfl, rfl, rfl⟩
  | cons arrival arrivals ih =>
      intro result before
      cases isGo : arrival.isGo with
      | true =>
          have go : shakeLine arrival.memory mode arrival.line = .go :=
            shakeLine_go_iff.mpr isGo
          have shape : result = ([.go session], some (registered mode)) := by
            simp only [result, handshake, go]
          have none : before = [] := by
            simp only [before, List.takeWhile_cons, isGo, Bool.not_true, Bool.false_eq_true,
              if_false]
          have started : ∃ other ∈ arrival :: arrivals, other.isGo = true :=
            ⟨arrival, List.mem_cons_self, isGo⟩
          rw [shape, none]
          refine ⟨[], rfl, ?_, ?_⟩
          · rw [if_pos started]
            rfl
          · rw [if_pos started]
            rfl
      | false =>
          cases answered : shakeLine arrival.memory mode arrival.line with
          | go => rw [shakeLine_go_iff.mp answered] at isGo; cases isGo
          | reply code next =>
              obtain ⟨codes, lengths, replies, started⟩ := ih next
              have shape : result = (.code code :: (handshake session next arrivals).1,
                  (handshake session next arrivals).2) := by
                simp only [result, handshake, answered]
              have first : before =
                  arrival :: arrivals.takeWhile fun arrival => !arrival.isGo := by
                simp only [before, List.takeWhile_cons, isGo, Bool.not_false, if_true]
              have same : (∃ other ∈ arrival :: arrivals, other.isGo = true) ↔
                  ∃ other ∈ arrivals, other.isGo = true := by
                simp [isGo]
              rw [shape, first]
              refine ⟨code :: codes, ?_, ?_, ?_⟩
              · rw [List.length_cons, List.length_cons, lengths]
              · rw [replies, if_congr same rfl rfl, List.map_cons, List.cons_append]
              · rw [started, List.zip_cons_cons, lastNamed_cons, if_congr same rfl rfl,
                  shakeLine_mode answered]

/-! ## Lines that the memory decides -/

/-- A text that more letters may complete to a name. -/
def Incomplete (name : String) (text : List Char) : Prop :=
  text.length < name.toList.length ∧ text.map Char.toLower = name.toList.take text.length

instance (name : String) (text : List Char) : Decidable (Incomplete name text) :=
  inferInstanceAs (Decidable (_ ∧ _))

theorem hasPrefix_written_congr {name : String} {text : List Char}
    (complete : ¬ Incomplete name text) (memory memory' : List Char) :
    hasPrefix name (written text memory) = hasPrefix name (written text memory') := by
  rw [hasPrefix, hasPrefix, written, written, List.take_append, List.take_append]
  by_cases short : text.length < name.toList.length
  · have differ : ¬ text.map Char.toLower = name.toList.take text.length :=
      fun same => complete ⟨short, same⟩
    have never (more : List Char) :
        (List.map Char.toLower (text.take name.toList.length ++ more) == name.toList) = false := by
      rw [beq_eq_false_iff_ne]
      intro same
      apply differ
      rw [← same, List.map_append, List.take_of_length_le short.le,
        List.take_left' (List.length_map _)]
    rw [never, never]
  · have none (more : List Char) : more.take (name.toList.length - text.length) = [] := by
      rw [Nat.sub_eq_zero_of_le (Nat.le_of_not_lt short), List.take_zero]
    rw [none, none]

/-- Two contents of the memory that complete a text and that do not. -/
theorem hasPrefix_written_of_incomplete {name : String} {text : List Char}
    (lower : name.toList.map Char.toLower = name.toList) (incomplete : Incomplete name text) :
    hasPrefix name (written text []) = false ∧
      hasPrefix name (written text (name.toList)) = true := by
  obtain ⟨short, same⟩ := incomplete
  constructor
  · rw [hasPrefix, written, List.drop_nil, List.append_nil, beq_eq_false_iff_ne]
    intro equal
    have lengths := congrArg List.length equal
    rw [List.length_map, List.length_take] at lengths
    omega
  · rw [hasPrefix, written, beq_iff_eq, List.take_of_length_le, List.map_append, same,
      List.map_drop, lower, List.take_append_drop]
    rw [List.length_append, List.length_drop]
    omega

theorem length_le_of_hasPrefix {name : String} {text : List Char}
    (begins : hasPrefix name text = true) : name.toList.length ≤ text.length := by
  rw [hasPrefix, beq_iff_eq] at begins
  have lengths := congrArg List.length begins
  rw [List.length_map, List.length_take] at lengths
  omega

/-- A text that command mode may complete does not name info mode. -/
theorem not_info_of_incomplete {text : List Char}
    (incomplete : Incomplete "srcp info" text ∨ Incomplete "srcp command" text) :
    hasPrefix "srcp info" (written text []) = false := by
  rcases incomplete with info | command
  · exact (hasPrefix_written_of_incomplete rfl info).1
  · rw [Bool.eq_false_iff]
    intro begins
    have long := length_le_of_hasPrefix begins
    rw [written, List.drop_nil, List.append_nil] at begins long
    rw [hasPrefix, beq_iff_eq, List.map_take, command.2, List.take_take,
      Nat.min_eq_left long] at begins
    exact absurd begins (by decide)

theorem not_command_of_incomplete {text : List Char}
    (incomplete : Incomplete "srcp info" text ∨ Incomplete "srcp command" text) :
    hasPrefix "srcp command" (written text []) = false := by
  rcases incomplete with info | command
  · rw [Bool.eq_false_iff]
    intro begins
    have long := length_le_of_hasPrefix begins
    rw [written, List.drop_nil, List.append_nil] at long
    have short : text.length < 9 := info.1
    have twelve : "srcp command".toList.length = 12 := rfl
    omega
  · exact (hasPrefix_written_of_incomplete rfl command).1

/-- The parameters of `SET` for whose reply the memory is read. -/
def OpenSet (parameter : List Char) : Prop :=
  match scanWord parameter with
  | none => False
  | some (setcmd, rest) =>
      let text := (skipSpace rest).take 1000
      text ≠ [] ∧ hasPrefix "connectionmode" setcmd = true ∧
          (Incomplete "srcp info" text ∨ Incomplete "srcp command" text) ∨
        hasPrefix "protocol" setcmd = true ∧ Incomplete "srcp 0.8" text

theorem shakeSet_congr {parameter : List Char} (closed : ¬ OpenSet parameter)
    (memory memory' : List Char) (mode : SessionMode) :
    shakeSet memory mode parameter = shakeSet memory' mode parameter := by
  rw [OpenSet] at closed
  rw [shakeSet, shakeSet]
  cases scanned : scanWord parameter with
  | none => rfl
  | some word =>
      rw [scanned] at closed
      dsimp only at closed ⊢
      rw [not_or] at closed
      by_cases protocol : hasPrefix "protocol" word.1 = true
      · have other := not_connectionmode_of_protocol protocol
        rw [if_pos protocol, if_pos protocol,
          if_neg (show ¬ (_ ∧ hasPrefix "connectionmode" word.1 = true) from
            fun both => other both.2),
          if_neg (show ¬ (_ ∧ hasPrefix "connectionmode" word.1 = true) from
            fun both => other both.2),
          hasPrefix_written_congr (fun open08 => closed.2 ⟨protocol, open08⟩) memory memory']
      · rw [if_neg protocol, if_neg protocol]
        by_cases chosen : (skipSpace word.2).take 1000 ≠ [] ∧
            hasPrefix "connectionmode" word.1 = true
        · obtain ⟨info, command⟩ :=
            not_or.mp fun incomplete => closed.1 ⟨chosen.1, chosen.2, incomplete⟩
          rw [if_pos chosen, if_pos chosen, hasPrefix_written_congr info memory memory',
            hasPrefix_written_congr command memory memory']
        · rw [if_neg chosen, if_neg chosen]

theorem shakeSet_differs {parameter : List Char} (opened : OpenSet parameter)
    (mode : SessionMode) : ∃ memory,
      (shakeSet [] mode parameter).1 ≠ (shakeSet memory mode parameter).1 := by
  rw [OpenSet] at opened
  cases scanned : scanWord parameter with
  | none =>
      rw [scanned] at opened
      exact opened.elim
  | some word =>
      rw [scanned] at opened
      dsimp only at opened
      rcases opened with ⟨nonempty, connectionmode, incomplete⟩ | ⟨protocol, incomplete⟩
      · have other : ¬ hasPrefix "protocol" word.1 = true :=
          fun protocol => not_connectionmode_of_protocol protocol connectionmode
        have empty : (shakeSet [] mode parameter).1 = 401 := by
          rw [shakeSet, scanned]
          dsimp only
          rw [if_neg other, if_pos ⟨nonempty, connectionmode⟩, not_info_of_incomplete incomplete,
            not_command_of_incomplete incomplete]
          rfl
        have full (name : String) (known : name = "srcp info" ∨ name = "srcp command")
            (begins : hasPrefix name (written ((skipSpace word.2).take 1000) name.toList) = true) :
            (shakeSet name.toList mode parameter).1 = 202 := by
          rw [shakeSet, scanned]
          dsimp only
          rw [if_neg other, if_pos ⟨nonempty, connectionmode⟩]
          rcases known with rfl | rfl
          · rw [if_pos begins]
          · rw [if_pos begins]
            split <;> rfl
        rcases incomplete with info | command
        · refine ⟨"srcp info".toList, ?_⟩
          rw [empty, full _ (Or.inl rfl) (hasPrefix_written_of_incomplete rfl info).2]
          decide
        · refine ⟨"srcp command".toList, ?_⟩
          rw [empty, full _ (Or.inr rfl) (hasPrefix_written_of_incomplete rfl command).2]
          decide
      · obtain ⟨without, complete⟩ := hasPrefix_written_of_incomplete rfl incomplete
        refine ⟨"srcp 0.8".toList, ?_⟩
        rw [shakeSet, shakeSet, scanned]
        dsimp only
        rw [if_pos protocol, if_pos protocol, without, complete]
        exact (by decide : (400 : Nat) ≠ 201)

/-- The lines for whose reply the memory is read. -/
def Open (line : List Char) : Prop :=
  match scanWord line with
  | none => False
  | some (cmd, rest) =>
      ¬ hasPrefix "go" cmd = true ∧ hasPrefix "set" cmd = true ∧
        OpenSet ((skipSpace rest).take 1000)

/-- The reply to a line and the mode behind it do not depend on what the memory contained,
exactly when the line is no `SET CONNECTIONMODE` or `SET PROTOCOL` whose text breaks off
inside a name that would be accepted. -/
theorem shakeLine_determinate_iff (line : List Char) :
    (∀ (memory memory' : List Char) (mode : SessionMode),
      shakeLine memory mode line = shakeLine memory' mode line) ↔ ¬ Open line := by
  rw [Open]
  constructor
  · intro same opened
    cases scanned : scanWord line with
    | none =>
        rw [scanned] at opened
        exact opened
    | some word =>
        rw [scanned] at opened
        obtain ⟨other, set, opened⟩ := opened
        obtain ⟨memory, differs⟩ := shakeSet_differs opened .smUndefined
        have equal := same [] memory .smUndefined
        rw [shakeLine, shakeLine, scanned] at equal
        dsimp only at equal
        rw [if_neg other, if_neg other, if_pos set, if_pos set, Outcome.reply.injEq] at equal
        exact differs equal.1
  · intro closed memory memory' mode
    rw [shakeLine, shakeLine]
    cases scanned : scanWord line with
    | none => rfl
    | some word =>
        rw [scanned] at closed
        dsimp only at closed ⊢
        split
        · rfl
        · rename_i other
          split
          · rename_i set
            rw [shakeSet_congr (fun opened => closed ⟨other, set, opened⟩) memory memory' mode]
          · rfl

/-- A protocol without a text is accepted or not as the memory was left. -/
example : Open "SET PROTOCOL".toList :=
  ⟨by decide, by decide, Or.inr ⟨by decide, by decide⟩⟩

end Srcpd.Session.Handshake
