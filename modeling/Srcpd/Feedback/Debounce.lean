import Srcpd.Feedback.Fb

/-!
# Debouncing

What debouncing should do is a small machine of its own: a contact is shown as
closed from the first report of a 1 on, and as open from the first check at which
it has been reported open, and nothing else, for the minimum time.

The code differs from it in two ways.  A report of a 1 for a contact that is
published as 1 is ignored, so that it cancels no reset; and an entry that was
queued by a repeated report can survive its reset and cut the next one short.
`debounced_of_meets` says that there is no other difference.
-/

namespace Srcpd.Feedback

open Srcpd.Command Srcpd.Transition

/-! ## What debouncing should do -/

/-- A contact as it should be shown, and since when it has been reported open. -/
structure Contact where
  shown : Int
  openSince : Option Int
  deriving DecidableEq, Repr

/-- A contact that closes is shown at once, and one that opens starts its time. -/
def Contact.report (contact : Contact) (now : Int) (closed : Bool) : Contact :=
  if closed then ⟨1, none⟩
  else { contact with openSince := some (contact.openSince.getD now) }

/-- A contact that is open long enough is shown as open. -/
def Contact.check (contact : Contact) (minTime now : Int) : Contact :=
  match contact.openSince with
  | some since => if now - since < minTime then contact else { contact with shown := 0 }
  | none => contact

/-! ## Both machines side by side -/

/-- The contacts of a bus, the time of the last call, and what should be shown. -/
structure Line where
  fb : Fb
  clock : Int
  contacts : Nat → Contact

/-- Reports and checks, each with its time. -/
inductive LineAction
  | updateFB (now port : Int) (closed : Bool)
  | checkResetFB (now : Int)

/-- The clock does not run backwards. -/
def lineStep : Step Line LineAction
  | line, .updateFB now port closed =>
      if line.clock ≤ now then
        (updateFB line.fb now port (if closed then 1 else 0)).map fun returned =>
          { fb := returned.2
            clock := now
            contacts :=
              if port > line.fb.numberOfFb ∨ port < 1 then line.contacts
              else
                Function.update line.contacts (portT port)
                  ((line.contacts (portT port)).report now closed) }
      else none
  | line, .checkResetFB now =>
      if line.clock ≤ now then
        some
          { fb := checkResetFB line.fb now
            clock := now
            contacts := fun port => (line.contacts port).check line.fb.minTime now }
      else none

/-- Every port is published as it should be shown. -/
def Line.Debounced (line : Line) : Prop :=
  ∀ port, (line.fb.fbstate port).state = (line.contacts port).shown

/-- No port is reported closed while its reset is pending, and none starts to wait
for a reset while an older entry for it is in the queue. -/
def NoStaleReset (line : Line) : LineAction → Prop
  | .updateFB _ port true => (line.fb.fbstate (portT port)).change = 0
  | .updateFB _ port false =>
      (line.fb.fbstate (portT port)).state ≠ 0 → (line.fb.fbstate (portT port)).change = 0 →
        portT port ∉ line.fb.resetQueue.map FbReset.port
  | .checkResetFB _ => True

/-! ## A check -/

variable {fb next : Fb} {now : Int} {port : Nat} {resets : List FbReset}

/-- A port without a pending reset, or with one that is not due, is left alone. -/
theorem checkResets_fbstate_of_early
    (early : (fb.fbstate port).change = 0 ∨
      ∀ reset ∈ resets, reset.port = port → now - reset.timestamp < fb.minTime) :
    (checkResets now resets fb).fbstate port = fb.fbstate port := by
  induction resets generalizing fb with
  | nil => rfl
  | cons reset rest ih =>
      unfold checkResets
      split
      · apply ih
        exact early.imp id fun each other mem => each other (List.mem_cons_of_mem _ mem)
      · rename_i pending
        split
        · rfl
        · rename_i due
          have different : port ≠ reset.port := by
            rintro rfl
            rcases early with settled | each
            · exact pending settled
            · exact due (each reset List.mem_cons_self rfl)
          have same := fb.setState_fbstate_of_ne different ⟨reset.timestamp, 0, 0⟩
          rw [ih, same]
          rw [same]
          exact early.imp id fun each other mem => each other (List.mem_cons_of_mem _ mem)

/-- A pending reset that is due is carried out: no younger entry is in its way. -/
theorem checkResets_fbstate_of_due
    (sorted : resets.Pairwise fun first second => first.timestamp ≤ second.timestamp)
    (pending : (fb.fbstate port).change ≠ 0)
    (due : ∃ reset ∈ resets, reset.port = port ∧ ¬ now - reset.timestamp < fb.minTime) :
    ((checkResets now resets fb).fbstate port).state = 0 ∧
      ((checkResets now resets fb).fbstate port).change = 0 := by
  induction resets generalizing fb with
  | nil =>
      rcases due with ⟨_, mem, _⟩
      cases mem
  | cons reset rest ih =>
      rcases List.pairwise_cons.mp sorted with ⟨oldest, sorted⟩
      rcases due with ⟨other, mem, portEq, due⟩
      unfold checkResets
      split
      · rename_i settled
        rcases List.mem_cons.mp mem with rfl | later
        · rw [portEq] at settled
          exact absurd settled pending
        · exact ih sorted pending ⟨other, later, portEq, due⟩
      · split
        · rename_i early
          have least : reset.timestamp ≤ other.timestamp := by
            rcases List.mem_cons.mp mem with rfl | later
            · exact le_refl _
            · exact oldest other later
          omega
        · by_cases here : port = reset.port
          · subst here
            have settled := fb.setState_fbstate_self reset.port ⟨reset.timestamp, 0, 0⟩
            rw [checkResets_fbstate_of_early (.inl (by rw [settled])), settled]
            exact ⟨rfl, rfl⟩
          · have same : (fb.setState reset.port ⟨reset.timestamp, 0, 0⟩).fbstate port =
                fb.fbstate port := Function.update_of_ne here _ _
            rcases List.mem_cons.mp mem with rfl | later
            · exact absurd portEq.symm here
            · exact ih sorted (by rw [same]; exact pending) ⟨other, later, portEq, due⟩

/-- The entry of a reset that stays pending stays in the queue. -/
theorem mem_checkResets {reset : FbReset} (mem : reset ∈ resets)
    (pending : ((checkResets now resets fb).fbstate reset.port).change ≠ 0) :
    reset ∈ (checkResets now resets fb).resetQueue := by
  induction resets generalizing fb with
  | nil => cases mem
  | cons head rest ih =>
      unfold checkResets at pending ⊢
      split
      · rename_i settled
        rw [if_pos settled] at pending
        rcases List.mem_cons.mp mem with rfl | later
        · rw [checkResets_fbstate_of_early (.inl settled)] at pending
          exact absurd settled pending
        · exact ih later pending
      · rename_i waiting
        rw [if_neg waiting] at pending
        split
        · exact mem
        · rename_i due
          rw [if_neg due] at pending
          rcases List.mem_cons.mp mem with rfl | later
          · have settled : ((fb.setState reset.port ⟨reset.timestamp, 0, 0⟩).fbstate
                reset.port).change = 0 := by
              rw [Fb.setState_fbstate_self]
            rw [checkResets_fbstate_of_early (.inl settled)] at pending
            exact absurd settled pending
          · exact ih later pending

theorem checkResets_minTime (now : Int) (resets : List FbReset) (fb : Fb) :
    (checkResets now resets fb).minTime = fb.minTime := by
  induction resets generalizing fb with
  | nil => rfl
  | cons reset rest ih =>
      unfold checkResets
      split
      · exact ih fb
      · split
        · rfl
        · exact ih _

/-! ## Phases of a contact -/

/-- A contact is shown as open, or shown as closed and reported so last, or shown
as closed with a reset for the moment since which it has been reported open. -/
def Phase (queue : List FbReset) (port : Nat) (state : FbState) (contact : Contact) : Prop :=
  (state.state = 0 ∧ state.change = 0 ∧ contact.shown = 0) ∨
    (state.state = 1 ∧ state.change = 0 ∧ contact = ⟨1, none⟩) ∨
    (state.state = 1 ∧ state.change = -1 ∧ ∃ since, contact = ⟨1, some since⟩ ∧
      ⟨port, since⟩ ∈ queue ∧ ∀ reset ∈ queue, reset.port = port → since ≤ reset.timestamp)

theorem Phase.state_eq {queue : List FbReset} {state : FbState} {contact : Contact}
    (phase : Phase queue port state contact) : state.state = contact.shown := by
  rcases phase with ⟨isOpen, _, shown⟩ | ⟨isClosed, _, rfl⟩ | ⟨isClosed, _, _, rfl, _⟩
  · exact isOpen.trans shown.symm
  · exact isClosed
  · exact isClosed

/-- An entry for another port changes nothing. -/
theorem Phase.append_other {queue : List FbReset} {state : FbState} {contact : Contact}
    (phase : Phase queue port state contact) {reset : FbReset} (other : reset.port ≠ port) :
    Phase (queue ++ [reset]) port state contact := by
  rcases phase with isOpen | isClosed | ⟨isClosed, pending, since, contactEq, mem, first⟩
  · exact .inl isOpen
  · exact .inr (.inl isClosed)
  · refine .inr (.inr ⟨isClosed, pending, since, contactEq, List.mem_append_left _ mem, ?_⟩)
    intro next nextMem nextPort
    rcases List.mem_append.mp nextMem with old | new
    · exact first next old nextPort
    · rw [List.mem_singleton.mp new] at nextPort
      exact absurd nextPort other

/-- A report of a 1 when no reset is pending. -/
theorem Phase.report_closed (queue : List FbReset) (port : Nat) {state : FbState}
    (contact : Contact)
    (isClosed : state.state = 1) (settled : state.change = 0) (now : Int) :
    Phase queue port state (contact.report now true) :=
  .inr (.inl ⟨isClosed, settled, rfl⟩)

/-- A report of a 0 for a contact that is shown as open. -/
theorem Phase.report_still_open {queue : List FbReset} {state : FbState} {contact : Contact}
    (phase : Phase queue port state contact) (isOpen : state.state = 0) (now : Int) :
    Phase queue port state (contact.report now false) := by
  rcases phase with ⟨_, settled, shown⟩ | ⟨isClosed, _⟩ | ⟨isClosed, _⟩
  · exact .inl ⟨isOpen, settled, shown⟩
  · rw [isOpen] at isClosed
    cases isClosed
  · rw [isOpen] at isClosed
    cases isClosed

/-- A report of a 0 that queues a reset. -/
theorem Phase.report_open {queue : List FbReset} {state : FbState} {contact : Contact}
    (phase : Phase queue port state contact) (isClosed : state.state ≠ 0)
    (once : state.change = 0 → port ∉ queue.map FbReset.port)
    (recent : ∀ reset ∈ queue, reset.timestamp ≤ now) :
    Phase (queue ++ [⟨port, now⟩]) port { state with change := -1 }
      (contact.report now false) := by
  rcases phase with ⟨isOpen, _, _⟩ | ⟨closed, settled, rfl⟩ |
    ⟨closed, pending, since, rfl, mem, first⟩
  · exact absurd isOpen isClosed
  · refine .inr (.inr ⟨closed, rfl, now, rfl, by simp, ?_⟩)
    intro next nextMem nextPort
    rcases List.mem_append.mp nextMem with old | new
    · exact absurd (List.mem_map.mpr ⟨next, old, nextPort⟩) (once settled)
    · rw [List.mem_singleton.mp new]
  · refine .inr (.inr ⟨closed, rfl, since, rfl, List.mem_append_left _ mem, ?_⟩)
    intro next nextMem nextPort
    rcases List.mem_append.mp nextMem with old | new
    · exact first next old nextPort
    · rw [List.mem_singleton.mp new]
      exact recent _ mem

/-- A check resets exactly the contacts that have been open for long enough. -/
theorem Phase.check {contact : Contact}
    (phase : Phase fb.resetQueue port (fb.fbstate port) contact)
    (sorted : fb.resetQueue.Pairwise fun first second => first.timestamp ≤ second.timestamp) :
    Phase (checkResetFB fb now).resetQueue port ((checkResetFB fb now).fbstate port)
      (contact.check fb.minTime now) := by
  unfold checkResetFB
  rcases phase with ⟨isOpen, settled, shown⟩ | ⟨isClosed, settled, rfl⟩ |
    ⟨isClosed, pending, since, rfl, mem, first⟩
  · rw [checkResets_fbstate_of_early (.inl settled)]
    refine .inl ⟨isOpen, settled, ?_⟩
    unfold Contact.check
    split
    · split
      · exact shown
      · rfl
    · exact shown
  · rw [checkResets_fbstate_of_early (.inl settled)]
    exact .inr (.inl ⟨isClosed, settled, rfl⟩)
  · by_cases early : now - since < fb.minTime
    · have kept := checkResets_fbstate_of_early (.inr fun reset resetMem portEq =>
        lt_of_le_of_lt (sub_le_sub_left (first reset resetMem portEq) now) early)
      have stays : ((checkResets now fb.resetQueue fb).fbstate port).change ≠ 0 := by
        rw [kept, pending]
        decide
      rw [kept, Contact.check]
      simp only [early, if_true]
      refine .inr (.inr ⟨isClosed, pending, since, rfl, mem_checkResets mem stays, ?_⟩)
      intro reset resetMem portEq
      exact first reset ((checkResets_suffix now fb.resetQueue fb).subset resetMem) portEq
    · have waiting : (fb.fbstate port).change ≠ 0 := by
        rw [pending]
        decide
      rcases checkResets_fbstate_of_due sorted waiting ⟨_, mem, rfl, early⟩ with ⟨reset, settled⟩
      refine .inl ⟨reset, settled, ?_⟩
      simp [Contact.check, early]

/-! ## Runs -/

/-- The queue is in the order of time, and every contact is in a phase. -/
structure Line.Inv (line : Line) : Prop where
  delayed : 0 < line.fb.minTime
  sorted : line.fb.resetQueue.Pairwise fun first second => first.timestamp ≤ second.timestamp
  recent : ∀ reset ∈ line.fb.resetQueue, reset.timestamp ≤ line.clock
  phase : ∀ port, Phase line.fb.resetQueue port (line.fb.fbstate port) (line.contacts port)

variable {line : Line}

theorem Line.Inv.debounced (inv : line.Inv) : line.Debounced :=
  fun port => (inv.phase port).state_eq

theorem Line.Inv.checkResetFB (inv : line.Inv) (later : line.clock ≤ now) :
    Line.Inv ⟨Feedback.checkResetFB line.fb now, now,
      fun port => (line.contacts port).check line.fb.minTime now⟩ where
  delayed := by
    rw [Feedback.checkResetFB, checkResets_minTime]
    exact inv.delayed
  sorted := inv.sorted.sublist (checkResets_suffix now line.fb.resetQueue line.fb).sublist
  recent := by
    intro reset mem
    have old := (checkResets_suffix now line.fb.resetQueue line.fb).subset mem
    exact (inv.recent reset old).trans later
  phase := fun port => (inv.phase port).check inv.sorted

/-- A report that changes one contact and queues nothing. -/
theorem Line.Inv.setState (inv : line.Inv) (later : line.clock ≤ now) {state : FbState}
    {contact : Contact} (phase : Phase line.fb.resetQueue port state contact) :
    Line.Inv ⟨line.fb.setState port state, now,
      Function.update line.contacts port contact⟩ where
  delayed := inv.delayed
  sorted := inv.sorted
  recent := fun reset mem => (inv.recent reset mem).trans later
  phase := by
    intro other
    by_cases same : other = port
    · subst same
      simpa using phase
    · simpa [Fb.setState_fbstate_of_ne _ same, Function.update_of_ne same] using inv.phase other

theorem Fb.setState_eq_self (fb : Fb) (port : Nat) : fb.setState port (fb.fbstate port) = fb := by
  rw [Fb.setState, Function.update_eq_self]

theorem Line.Inv.queue (inv : line.Inv) (later : line.clock ≤ now)
    (isClosed : (line.fb.fbstate port).state ≠ 0)
    (once : (line.fb.fbstate port).change = 0 → port ∉ line.fb.resetQueue.map FbReset.port) :
    Line.Inv ⟨{ line.fb.setState port { line.fb.fbstate port with change := -1 } with
        resetQueue := line.fb.resetQueue ++ [⟨port, now⟩] }, now,
      Function.update line.contacts port ((line.contacts port).report now false)⟩ where
  delayed := inv.delayed
  sorted := by
    rw [List.pairwise_append]
    refine ⟨inv.sorted, List.pairwise_singleton _ _, ?_⟩
    intro reset mem other otherMem
    rw [List.mem_singleton.mp otherMem]
    exact (inv.recent reset mem).trans later
  recent := by
    intro reset mem
    rcases List.mem_append.mp mem with old | new
    · exact (inv.recent reset old).trans later
    · rw [List.mem_singleton.mp new]
  phase := by
    intro other
    by_cases same : other = port
    · subst same
      have queued := (inv.phase other).report_open isClosed once
        fun reset mem => (inv.recent reset mem).trans later
      simpa using queued
    · have phase := (inv.phase other).append_other
        (Ne.symm same : (⟨port, now⟩ : FbReset).port ≠ other)
      simpa [Fb.setState_fbstate_of_ne _ same, Function.update_of_ne same] using phase

theorem Line.Inv.step {next : Line} {action : LineAction} (inv : line.Inv)
    (fresh : NoStaleReset line action) (taken : lineStep line action = some next) : next.Inv := by
  cases action with
  | checkResetFB now =>
      simp only [lineStep, Option.ite_none_right_eq_some, Option.some.injEq] at taken
      rcases taken with ⟨later, rfl⟩
      exact inv.checkResetFB later
  | updateFB now port closed =>
      simp only [lineStep, Option.ite_none_right_eq_some, Option.map_eq_some_iff,
        Prod.exists] at taken
      rcases taken with ⟨later, code, after, returned, rfl⟩
      rcases updateFB_cases returned with ⟨outside, rfl⟩ | ⟨inside, branch⟩
      · rw [if_pos outside]
        exact Line.Inv.mk inv.delayed inv.sorted
          (fun reset mem => (inv.recent reset mem).trans later) inv.phase
      · simp only [if_neg inside]
        cases closed with
        | true =>
            have settled : (line.fb.fbstate (portT port)).change = 0 := fresh
            rcases branch with ⟨same, rfl⟩ | ⟨_, opens, _⟩ | ⟨_, opens, _⟩ | ⟨_, _, pending, _⟩ |
              ⟨_, _, _, rfl⟩
            · have phase := Phase.report_closed line.fb.resetQueue (portT port)
                (line.contacts (portT port)) same settled now
              simpa only [Fb.setState_eq_self] using inv.setState later phase
            · cases opens
            · cases opens
            · omega
            · exact inv.setState later (Phase.report_closed _ _ _ rfl rfl now)
        | false =>
            rcases branch with ⟨same, rfl⟩ | ⟨_, _, immediate, _⟩ | ⟨isClosed, _, _, _, rfl⟩ |
              ⟨_, closes, _⟩ | ⟨_, closes, _⟩
            · have phase := (inv.phase (portT port)).report_still_open same now
              simpa only [Fb.setState_eq_self] using inv.setState later phase
            · exact absurd immediate (ne_of_gt inv.delayed)
            · exact inv.queue later isClosed (fresh isClosed)
            · exact absurd rfl closes
            · exact absurd rfl closes

/-- A bus after its initialisation, with all contacts open. -/
def startLine (number minTime now : Int) : Line :=
  ⟨initFB number minTime now, now, fun _ => ⟨0, none⟩⟩

theorem inv_startLine (number : Int) {minTime : Int} (delayed : 0 < minTime) (now : Int) :
    (startLine number minTime now).Inv where
  delayed := delayed
  sorted := List.Pairwise.nil
  recent := by
    intro reset mem
    cases mem
  phase := fun _ => .inl ⟨rfl, rfl, rfl⟩

/-- Along every sequence of reports and checks without a stale reset, each port is
published exactly as debouncing requires. -/
theorem debounced_of_meets (number minTime now : Int) (delayed : 0 < minTime)
    (actions : List LineAction)
    (fresh : MeetsAlong lineStep NoStaleReset (startLine number minTime now) actions) :
    HoldsAlong lineStep Line.Debounced (startLine number minTime now) actions := by
  apply holdsAlong_of_meets
  · exact fun line inv => Line.Inv.debounced inv
  · exact fun line action next inv met taken => inv.step met taken
  · exact inv_startLine number delayed now
  · exact fresh

/-- A contact closes, opens, and is reset half a second later. -/
theorem debounced_of_meets_once :
    0 < (500000 : Int) ∧
      HoldsAlong lineStep Line.Debounced (startLine 8 500000 0)
        [.updateFB 0 1 true, .updateFB 100000 1 false, .checkResetFB 200000,
          .checkResetFB 600000] :=
  ⟨by decide, debounced_of_meets 8 500000 0 (by decide) _
    (by simp [MeetsAlong, NoStaleReset, lineStep, updateFB, startLine, initFB, portT, Fb.setState])⟩

/-- A contact bounces: it is reset although it was reported closed last, and a
reset comes early because of an entry that a repeated report left behind. -/
theorem bounce_not_cancelled :
    (∃ last, run lineStep (startLine 8 500000 0)
        [.updateFB 0 1 true, .updateFB 100000 1 false, .updateFB 200000 1 true,
          .checkResetFB 600000] = some last ∧
      (last.fb.fbstate 0).state = 0 ∧ last.contacts 0 = ⟨1, none⟩ ∧ ¬ last.Debounced) ∧
    (∃ last, run lineStep (startLine 8 500000 0)
        [.updateFB 0 1 true, .updateFB 0 2 true, .updateFB 100000 1 false,
          .updateFB 150000 2 false, .updateFB 160000 1 false, .checkResetFB 600000,
          .updateFB 610000 1 true, .updateFB 620000 1 false, .checkResetFB 700000] = some last ∧
      (last.fb.fbstate 0).state = 0 ∧ last.contacts 0 = ⟨1, some 620000⟩ ∧ ¬ last.Debounced) := by
  constructor
  · refine ⟨_, rfl, rfl, rfl, fun debounced => ?_⟩
    exact absurd (debounced 0) (by decide)
  · refine ⟨_, rfl, rfl, rfl, fun debounced => ?_⟩
    exact absurd (debounced 0) (by decide)

end Srcpd.Feedback
