import Mathlib.Tactic

/-!
# Texts in a stream

Texts are written to a stream one after the other, each behind it with a
terminator that occurs in none of them.  However much of the stream is read, what
was read is some whole texts and the beginning of the next one.
-/

namespace Srcpd.Info

universe u

variable {α : Type u}

/-- The stream of some texts. -/
def frames (terminator : α) (texts : List (List α)) : List α :=
  texts.flatMap fun text => text ++ [terminator]

variable {terminator : α} {text tail : List α} {texts : List (List α)}

@[simp]
theorem frames_nil : frames terminator [] = [] :=
  rfl

theorem frames_cons : frames terminator (text :: texts) =
    text ++ terminator :: frames terminator texts := by
  simp [frames]

theorem frames_append (first second : List (List α)) :
    frames terminator (first ++ second) = frames terminator first ++ frames terminator second :=
  List.flatMap_append

theorem length_frames : (frames terminator texts).length = texts.flatten.length + texts.length := by
  induction texts with
  | nil => rfl
  | cons text texts ih =>
      rw [frames_cons, List.length_append, List.length_cons, ih, List.flatten_cons,
        List.length_append, List.length_cons]
      omega

/-- The beginning of a stream is whole texts and a piece of the next one. -/
theorem take_frames (clean : ∀ text ∈ texts, terminator ∉ text) (count : Nat) :
    ∃ done rest tail, texts = done ++ rest ∧
      (frames terminator texts).take count = frames terminator done ++ tail ∧
      tail ++ (frames terminator texts).drop count = frames terminator rest ∧
      terminator ∉ tail ∧ (∀ text, rest.head? = some text → tail.length ≤ text.length) := by
  induction texts generalizing count with
  | nil => exact ⟨[], [], [], rfl, by simp, by simp, by simp, by simp⟩
  | cons text texts ih =>
      have cleanText := clean text List.mem_cons_self
      by_cases whole : text.length < count
      · rcases ih (fun other mem => clean other (List.mem_cons_of_mem _ mem))
          (count - (text.length + 1)) with ⟨done, rest, tail, split, taken, left, cleanTail, short⟩
        have cut : frames terminator (text :: texts) =
            (text ++ [terminator]) ++ frames terminator texts := by
          simp [frames_cons]
        have length : (text ++ [terminator]).length ≤ count := by simpa using whole
        refine ⟨text :: done, rest, tail, by rw [split, List.cons_append], ?_, ?_, cleanTail, short⟩
        · rw [cut, List.take_append, List.take_of_length_le length, List.length_append,
            List.length_singleton, taken, frames_cons]
          simp
        · rw [cut, List.drop_append, List.drop_of_length_le length, List.length_append,
            List.length_singleton, List.nil_append]
          exact left
      · refine ⟨[], text :: texts, (frames terminator (text :: texts)).take count, rfl, by simp,
          List.take_append_drop _ _, ?_, ?_⟩
        · rw [frames_cons, List.take_append_of_le_length (by omega)]
          intro mem
          exact cleanText (List.mem_of_mem_take mem)
        · intro other head
          cases head
          rw [List.length_take]
          omega

variable [DecidableEq α]

/-- Where the last text that is complete in the data starts. -/
def lastStart (terminator : α) (data : List α) : Nat :=
  let behind := (data.reverse.dropWhile fun symbol => symbol != terminator).tail
  (behind.dropWhile fun symbol => symbol != terminator).length

/-- The first text of a stream, up to its terminator. -/
theorem takeWhile_text (clean : terminator ∉ text) (rest : List α) :
    (text ++ terminator :: rest).takeWhile (fun symbol => symbol != terminator) = text := by
  rw [List.takeWhile_append_of_pos]
  · simp
  · intro symbol mem
    rw [bne_iff_ne]
    rintro rfl
    exact clean mem

theorem dropWhile_text (clean : terminator ∉ text) (rest : List α) :
    (text ++ terminator :: rest).dropWhile (fun symbol => symbol != terminator) =
      terminator :: rest := by
  rw [List.dropWhile_append_of_pos]
  · simp
  · intro symbol mem
    rw [bne_iff_ne]
    rintro rfl
    exact clean mem

theorem lastStart_frames {last : List α} (clean : terminator ∉ last)
    (cleanTail : terminator ∉ tail) :
    lastStart terminator (frames terminator (texts ++ [last]) ++ tail) =
      (frames terminator texts).length := by
  have reversed : (frames terminator (texts ++ [last]) ++ tail).reverse =
      tail.reverse ++ terminator :: (last.reverse ++ (frames terminator texts).reverse) := by
    simp [frames_append, frames_cons]
  have cleanTail : terminator ∉ tail.reverse := by simpa using cleanTail
  have clean : terminator ∉ last.reverse := by simpa using clean
  unfold lastStart
  rw [reversed, dropWhile_text cleanTail, List.tail_cons]
  dsimp only
  rcases List.eq_nil_or_concat texts with rfl | ⟨others, other, rfl⟩
  · rw [List.dropWhile_append_of_pos]
    · rfl
    · intro symbol mem
      rw [bne_iff_ne]
      rintro rfl
      exact clean mem
  · have behind : (frames terminator (others ++ [other])).reverse =
        terminator :: (other.reverse ++ (frames terminator others).reverse) := by
      simp [frames_append, frames_cons]
    rw [List.concat_eq_append, behind, dropWhile_text clean, ← behind, List.length_reverse]

end Srcpd.Info
