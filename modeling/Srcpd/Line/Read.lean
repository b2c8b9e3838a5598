import Mathlib.Tactic

/-!
# Programs that read a line

A program reads a line one value at a time.  A read may fail, and the variable that it
was to fill keeps what it held.  `Yields` says what a program does where its reads have the
results of a list, with one rule for each way to build a program, and `Delivers` is the case
of a line that sends a list of values.  `readRecords_returns_iff` says when a loop over records
comes to its end, whatever the line does.
-/

namespace Srcpd.Line

universe u

variable {α β γ δ ρ : Type u}

/-! ## Programs -/

/-- The results of all reads; `none` is one that fails. -/
abbrev Reads (β : Type u) := Nat → Option β

/-- The reads so far, and what has been done. -/
structure Port (α : Type u) where
  calls : Nat
  actions : List α

/-- `none` is a program that does not come to its end. -/
abbrev Program (α : Type u) := StateT (Port α) Option

/-- The result of a read, with the failure. -/
def tryRead (reads : Reads β) : Program α (Option β) := fun port =>
  some (reads port.calls, { port with calls := port.calls + 1 })

/-- A read into a variable that holds `old`. -/
def readValue (reads : Reads β) (old : β) : Program α β := do
  let value ← tryRead reads
  pure (value.getD old)

/-- What a variable holds that was not written to. -/
def fresh (junk : Nat → β) : Program α β := fun port =>
  some (junk port.calls, port)

/-- A program that does one thing. -/
def act (action : α) : Program α PUnit := fun port =>
  some (⟨⟩, { port with actions := port.actions ++ [action] })

/-- A program under a condition. -/
def onlyIf (condition : Prop) [Decidable condition] (program : Program α PUnit) :
    Program α PUnit :=
  if condition then program else pure ⟨⟩

/-- A variable is read, and while its value begins a record the body reads the rest of the
record and the variable is read again.  The result of the body is what the variable holds
before that read. -/
def readRecords (reads : Reads β) (more : β → Bool) (body : β → Program α β) :
    Nat → β → Program α β
  | 0, _ => fun _ => none
  | fuel + 1, old => do
      let value ← readValue reads old
      if more value then
        let old ← body value
        readRecords reads more body fuel old
      else pure value

/-- The body as many times as a counter says, with the value of its variable. -/
def repeatBody (body : β → Program α β) : Nat → β → Program α β
  | 0, value => pure value
  | count + 1, value => do
      let value ← body value
      repeatBody body count value

/-- A variable is read until its value is the wanted one, and something is done before each
read. -/
def readUntil (reads : Reads β) (wanted : β → Bool) (before : Program α PUnit) :
    Nat → β → Program α β
  | 0, _ => fun _ => none
  | fuel + 1, value =>
      if wanted value then pure value
      else do
        before
        let value ← readValue reads value
        readUntil reads wanted before fuel value

/-- Reads until one fails. -/
def drain (reads : Reads β) : Nat → β → Program α β
  | 0, _ => fun _ => none
  | fuel + 1, old => do
      match ← tryRead reads with
      | some value => drain reads fuel value
      | none => pure old

/-! ## A line with pauses -/

/-- From read number `n` on these are the results of the reads. -/
def Hears (reads : Reads β) : Nat → List (Option β) → Prop
  | _, [] => True
  | n, result :: results => reads n = result ∧ Hears reads (n + 1) results

theorem hears_append {reads : Reads β} {n : Nat} {first second : List (Option β)} :
    Hears reads n (first ++ second) ↔
      Hears reads n first ∧ Hears reads (n + first.length) second := by
  induction first generalizing n with
  | nil => simp [Hears]
  | cons result results ih =>
      rw [List.cons_append, Hears, Hears, ih, List.length_cons, and_assoc,
        show n + 1 + results.length = n + (results.length + 1) by omega]

/-- What a variable holds behind each of the reads. -/
def heldValues : β → List (Option β) → List β
  | _, [] => []
  | old, result :: results => result.getD old :: heldValues (result.getD old) results

theorem heldValues_some (old : β) (values : List β) :
    heldValues old (values.map some) = values := by
  induction values generalizing old with
  | nil => rfl
  | cons value values ih => rw [List.map_cons, heldValues, Option.getD_some, ih]

theorem length_heldValues (old : β) (results : List (Option β)) :
    (heldValues old results).length = results.length := by
  induction results generalizing old with
  | nil => rfl
  | cons result results ih => rw [heldValues, List.length_cons, List.length_cons, ih]

/-- Where the reads have these results, the program makes them all, does the actions and ends
with the result. -/
def Yields (reads : Reads β) (program : Program α γ) (results : List (Option β))
    (actions : List α) (result : γ) : Prop :=
  ∀ port, Hears reads port.calls results →
    program port = some (result, ⟨port.calls + results.length, port.actions ++ actions⟩)

namespace Yields

variable {reads : Reads β}

theorem pure (result : γ) : Yields reads (pure result : Program α γ) [] [] result := by
  intro port _
  rw [List.append_nil]
  rfl

theorem bind {program : Program α γ} {next : γ → Program α δ} {results results' : List (Option β)}
    {actions actions' : List α} {result : γ} {result' : δ}
    (first : Yields reads program results actions result)
    (second : Yields reads (next result) results' actions' result') :
    Yields reads (program >>= next) (results ++ results') (actions ++ actions') result' := by
  intro port hears
  rcases hears_append.mp hears with ⟨before, behind⟩
  have taken : (program >>= next) port =
      next result ⟨port.calls + results.length, port.actions ++ actions⟩ := by
    show (program port).bind (fun pair => next pair.1 pair.2) = _
    rw [first port before]
    rfl
  rw [taken, second _ behind, List.length_append, ← Nat.add_assoc, ← List.append_assoc]

theorem congr {program : Program α γ} {results results' : List (Option β)}
    {actions actions' : List α} {result : γ} (yields : Yields reads program results actions result)
    (heard : results' = results) (done : actions' = actions) :
    Yields reads program results' actions' result := by
  rw [heard, done]
  exact yields

theorem tryRead (result : Option β) :
    Yields reads (tryRead reads : Program α (Option β)) [result] [] result := by
  intro port hears
  rw [List.append_nil]
  show some (reads port.calls, _) = _
  rw [hears.1]
  rfl

theorem readValue (old : β) (result : Option β) :
    Yields reads (readValue reads old : Program α β) [result] [] (result.getD old) :=
  (tryRead result).bind (pure (result.getD old))

theorem act (action : α) : Yields reads (act action) [] [action] ⟨⟩ := by
  intro port _
  rfl

/-- The body runs once for each record. -/
theorem repeatBody {body : β → Program α β} {results : ρ → List (Option β)} {actions : ρ → List α}
    (reading : ∀ record old, ∃ last,
      Yields reads (body old) (results record) (actions record) last)
    (records : List ρ) (old : β) :
    ∃ last, Yields reads (repeatBody body records.length old) (records.flatMap results)
      (records.flatMap actions) last := by
  induction records generalizing old with
  | nil => exact ⟨old, pure old⟩
  | cons record records ih =>
      rcases reading record old with ⟨middle, read⟩
      rcases ih middle with ⟨last, rest⟩
      exact ⟨last, read.bind rest⟩

theorem readUntil {wanted : β → Bool} {before : Program α PUnit} {actions : List α}
    (done : Yields reads before [] actions ⟨⟩) {stop : β} (stops : wanted stop = true)
    {results : List (Option β)} (others : ∀ value, some value ∈ results → wanted value = false)
    {fuel : Nat} (enough : results.length + 1 < fuel) {old : β} (goes : wanted old = false) :
    Yields reads (readUntil reads wanted before fuel old) (results ++ [some stop])
      (List.replicate (results.length + 1) actions).flatten stop := by
  induction results generalizing fuel old with
  | nil =>
      obtain ⟨fuel, rfl⟩ : ∃ k, fuel = k + 2 := ⟨fuel - 2, by simp at enough; omega⟩
      rw [Line.readUntil, if_neg (Bool.eq_false_iff.mp goes)]
      refine (done.bind ((readValue old (some stop)).bind (?_ : Yields reads _ [] [] stop))).congr
        rfl (by simp)
      rw [Option.getD_some, Line.readUntil, if_pos stops]
      exact pure stop
  | cons result results ih =>
      obtain ⟨fuel, rfl⟩ : ∃ k, fuel = k + 1 := ⟨fuel - 1, by omega⟩
      rw [Line.readUntil, if_neg (Bool.eq_false_iff.mp goes)]
      have still : wanted (result.getD old) = false := by
        cases result with
        | none => exact goes
        | some value => exact others value (List.mem_cons_self ..)
      have rest := ih (fun value mem => others value (List.mem_cons_of_mem result mem))
        (Nat.lt_of_succ_lt_succ enough) still
      refine (done.bind ((readValue old result).bind rest)).congr rfl ?_
      rw [List.nil_append, List.length_cons, List.replicate_succ, List.flatten_cons]

theorem drain (values : List β) {fuel : Nat} (enough : values.length < fuel) (old : β) :
    ∃ last, Yields reads (drain reads fuel old : Program α β) (values.map some ++ [none]) []
      last := by
  induction values generalizing fuel old with
  | nil =>
      obtain ⟨fuel, rfl⟩ : ∃ k, fuel = k + 1 := ⟨fuel - 1, by simp at enough; omega⟩
      exact ⟨old, (tryRead none).bind (pure old)⟩
  | cons value values ih =>
      obtain ⟨fuel, rfl⟩ : ∃ k, fuel = k + 1 := ⟨fuel - 1, by simp at enough; omega⟩
      rcases ih (Nat.lt_of_succ_lt_succ enough) value with ⟨last, rest⟩
      exact ⟨last, (tryRead (some value)).bind rest⟩

end Yields

/-! ## A line that sends -/

/-- From read number `n` on the line sends the values. -/
def Sends (reads : Reads β) : Nat → List β → Prop
  | _, [] => True
  | n, value :: values => reads n = some value ∧ Sends reads (n + 1) values

theorem sends_iff_hears {reads : Reads β} {n : Nat} {values : List β} :
    Sends reads n values ↔ Hears reads n (values.map some) := by
  induction values generalizing n with
  | nil => exact Iff.rfl
  | cons value values ih => rw [Sends, ih, List.map_cons, Hears]

/-- While the line sends the values, the program reads them all, does the actions and ends
with the result. -/
def Delivers (reads : Reads β) (program : Program α γ) (values : List β) (actions : List α)
    (result : γ) : Prop :=
  ∀ port, Sends reads port.calls values →
    program port = some (result, ⟨port.calls + values.length, port.actions ++ actions⟩)

theorem delivers_iff_yields {reads : Reads β} {program : Program α γ} {values : List β}
    {actions : List α} {result : γ} :
    Delivers reads program values actions result ↔
      Yields reads program (values.map some) actions result := by
  rw [Delivers, Yields]
  simp only [sends_iff_hears, List.length_map]

theorem Delivers.yields {reads : Reads β} {program : Program α γ} {values : List β}
    {actions : List α} {result : γ} (delivers : Delivers reads program values actions result) :
    Yields reads program (values.map some) actions result :=
  delivers_iff_yields.mp delivers

theorem Yields.delivers {reads : Reads β} {program : Program α γ} {values : List β}
    {actions : List α} {result : γ}
    (yields : Yields reads program (values.map some) actions result) :
    Delivers reads program values actions result :=
  delivers_iff_yields.mpr yields

namespace Delivers

variable {reads : Reads β}

theorem pure (result : γ) : Delivers reads (pure result : Program α γ) [] [] result :=
  Yields.delivers (.pure result)

theorem bind {program : Program α γ} {next : γ → Program α δ} {values values' : List β}
    {actions actions' : List α} {result : γ} {result' : δ}
    (first : Delivers reads program values actions result)
    (second : Delivers reads (next result) values' actions' result') :
    Delivers reads (program >>= next) (values ++ values') (actions ++ actions') result' :=
  Yields.delivers (by rw [List.map_append]; exact first.yields.bind second.yields)

theorem congr {program : Program α γ} {values values' : List β} {actions actions' : List α}
    {result : γ} (delivers : Delivers reads program values actions result)
    (sent : values' = values) (done : actions' = actions) :
    Delivers reads program values' actions' result := by
  rw [sent, done]
  exact delivers

theorem tryRead (value : β) :
    Delivers reads (tryRead reads : Program α (Option β)) [value] [] (some value) :=
  Yields.delivers (.tryRead (some value))

theorem readValue (old value : β) :
    Delivers reads (readValue reads old : Program α β) [value] [] value :=
  (tryRead value).bind (pure value)

theorem act (action : α) : Delivers reads (act action) [] [action] ⟨⟩ :=
  Yields.delivers (.act action)

theorem fresh {junk : Nat → β} {next : β → Program α γ} {values : List β} {actions : List α}
    {result : γ} (delivers : ∀ old, Delivers reads (next old) values actions result) :
    Delivers reads (fresh junk >>= next) values actions result := by
  intro port sends
  exact delivers (junk port.calls) port sends

theorem onlyIf {condition : Prop} [Decidable condition] {program : Program α PUnit}
    {values : List β} {actions : List α}
    (delivers : condition → Delivers reads program values actions ⟨⟩) :
    Delivers reads (onlyIf condition program) (if condition then values else [])
      (if condition then actions else []) ⟨⟩ := by
  by_cases holds : condition
  · simp only [Line.onlyIf, if_pos holds]
    exact delivers holds
  · simp only [Line.onlyIf, if_neg holds]
    exact pure PUnit.unit

/-- The loop reads all records and the value behind them. -/
theorem records {more : β → Bool} {body : β → Program α β} {stop : β}
    (stops : more stop = false) {head : ρ → β} {tail : ρ → List β} {actions : ρ → List α}
    (begins : ∀ record, more (head record) = true)
    (reading : ∀ record, ∃ last,
      Delivers reads (body (head record)) (tail record) (actions record) last)
    (records : List ρ) {fuel : Nat} (enough : records.length < fuel) (old : β) :
    Delivers reads (readRecords reads more body fuel old)
      (records.flatMap (fun record => head record :: tail record) ++ [stop])
      (records.flatMap actions) stop := by
  induction records generalizing fuel old with
  | nil =>
      obtain ⟨fuel, rfl⟩ : ∃ k, fuel = k + 1 := ⟨fuel - 1, by simp at enough; omega⟩
      rw [readRecords]
      refine (readValue old stop).bind ?_
      rw [stops]
      exact pure stop
  | cons record records ih =>
      obtain ⟨fuel, rfl⟩ : ∃ k, fuel = k + 1 := ⟨fuel - 1, by simp at enough; omega⟩
      rcases reading record with ⟨last, read⟩
      have rest := ih (Nat.lt_of_succ_lt_succ enough) last
      rw [readRecords]
      refine congr ((readValue old (head record)).bind (?_ : Delivers reads _
        (tail record ++ (records.flatMap (fun record => head record :: tail record) ++ [stop]))
        (actions record ++ records.flatMap actions) stop)) ?_ ?_
      · rw [if_pos (begins record)]
        exact read.bind rest
      · simp [List.append_assoc]
      · simp

/-- The body reads as many records as the counter says. -/
theorem repeatBody {body : β → Program α β} {values : ρ → List β} {actions : ρ → List α}
    (reading : ∀ record old, ∃ last,
      Delivers reads (body old) (values record) (actions record) last)
    (records : List ρ) (old : β) :
    ∃ last, Delivers reads (repeatBody body records.length old) (records.flatMap values)
      (records.flatMap actions) last := by
  rcases Yields.repeatBody (fun record old => (reading record old).imp fun _ read => read.yields)
    records old with ⟨last, yields⟩
  exact ⟨last, Yields.delivers (by rw [List.map_flatMap]; exact yields)⟩

end Delivers

/-! ## Loops that come to an end -/

/-- The body reads `width` values and leaves `after` in the variable, whatever the line
does. -/
def BodyReads (width : Nat) (after : Nat → β → β) (body : β → Program α β) : Prop :=
  ∀ value port, ∃ actions,
    body value port = some (after port.calls value, ⟨port.calls + width, actions⟩)

/-- The values at which the loop tests for a record, from read number `n` on. -/
def boundary (reads : Reads β) (width : Nat) (after : Nat → β → β) (n : Nat) (old : β) :
    Nat → β
  | 0 => (reads n).getD old
  | k + 1 =>
      (reads (n + (k + 1) * (width + 1))).getD
        (after (n + k * (width + 1) + 1) (boundary reads width after n old k))

section Returns

variable {reads : Reads β} {width : Nat} {after : Nat → β → β}

theorem boundary_succ (n : Nat) (old : β) (k : Nat) :
    boundary reads width after n old (k + 1) =
      boundary reads width after (n + (width + 1)) (after (n + 1) ((reads n).getD old)) k := by
  induction k with
  | zero =>
      rw [boundary, boundary, boundary, Nat.zero_add, Nat.one_mul, Nat.zero_mul, Nat.add_zero]
  | succ k ih =>
      rw [boundary, ih, boundary,
        show n + (k + 1 + 1) * (width + 1) = n + (width + 1) + (k + 1) * (width + 1) by ring,
        show n + (k + 1) * (width + 1) + 1 = n + (width + 1) + k * (width + 1) + 1 by ring]

variable {more : β → Bool} {body : β → Program α β}

theorem readRecords_succ (bodyReads : BodyReads width after body) (old : β) (port : Port α) :
    if more ((reads port.calls).getD old) then
      ∃ actions, ∀ fuel, readRecords reads more body (fuel + 1) old port =
        readRecords reads more body fuel (after (port.calls + 1) ((reads port.calls).getD old))
          ⟨port.calls + (width + 1), actions⟩
    else ∀ fuel, (readRecords reads more body (fuel + 1) old port).isSome := by
  have unfolded (fuel : Nat) : readRecords reads more body (fuel + 1) old port =
      (if more ((reads port.calls).getD old) then do
          let old ← body ((reads port.calls).getD old)
          readRecords reads more body fuel old
        else pure ((reads port.calls).getD old)) { port with calls := port.calls + 1 } := rfl
  by_cases begins : more ((reads port.calls).getD old) = true
  · rcases bodyReads ((reads port.calls).getD old) { port with calls := port.calls + 1 } with
      ⟨actions, taken⟩
    rw [if_pos begins]
    refine ⟨actions, fun fuel => ?_⟩
    rw [unfolded, if_pos begins]
    show (body _ _).bind (fun pair => readRecords reads more body fuel pair.1 pair.2) = _
    rw [taken, Option.bind_some]
    dsimp only
    rw [Nat.add_assoc, Nat.add_comm 1 width]
  · rw [if_neg begins]
    intro fuel
    rw [unfolded, if_neg begins]
    rfl

/-- The loop ends precisely where one of the tests finds no record. -/
theorem readRecords_returns_iff (bodyReads : BodyReads width after body) (old : β)
    (port : Port α) :
    (∃ fuel, (readRecords reads more body fuel old port).isSome) ↔
      ∃ k, more (boundary reads width after port.calls old k) = false := by
  have step (old : β) (port : Port α) :=
    @readRecords_succ α β reads width after more body bodyReads old port
  constructor
  · rintro ⟨fuel, returned⟩
    induction fuel generalizing old port with
    | zero => exact absurd returned Bool.false_ne_true
    | succ fuel ih =>
        by_cases begins : more ((reads port.calls).getD old) = true
        · have next := step old port
          rw [if_pos begins] at next
          rcases next with ⟨actions, taken⟩
          rw [taken] at returned
          rcases ih _ _ returned with ⟨k, stops⟩
          exact ⟨k + 1, by rw [boundary_succ]; exact stops⟩
        · exact ⟨0, Bool.eq_false_iff.mpr begins⟩
  · rintro ⟨k, stops⟩
    induction k generalizing old port with
    | zero =>
        have ends := step old port
        have last : ¬ more ((reads port.calls).getD old) = true := Bool.eq_false_iff.mp stops
        rw [if_neg last] at ends
        exact ⟨1, ends 0⟩
    | succ k ih =>
        have next := step old port
        by_cases begins : more ((reads port.calls).getD old) = true
        · rw [if_pos begins] at next
          rcases next with ⟨actions, taken⟩
          rw [boundary_succ] at stops
          rcases ih _ ⟨port.calls + (width + 1), actions⟩ stops with ⟨fuel, returned⟩
          exact ⟨fuel + 1, by rw [taken]; exact returned⟩
        · rw [if_neg begins] at next
          exact ⟨1, next 0⟩

end Returns

end Srcpd.Line
