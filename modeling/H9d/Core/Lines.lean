import Mathlib.Data.List.Basic

/-! # Lines of a stream

A stream is cut into lines behind each end of line. Where the stream itself is cut into pieces makes
no difference, as long as the line that a piece leaves open is carried over to the next piece.
-/

namespace Lines

variable {α : Type*} (isEnd : α → Bool)

/-- The lines that end in a text whose first line begins with `buf`, and the line left open. -/
def split (buf : List α) : List α → List (List α) × List α
  | [] => ([], buf)
  | b :: rest =>
      if isEnd b then ((buf ++ [b]) :: (split [] rest).1, (split [] rest).2)
      else split (buf ++ [b]) rest

theorem split_cons_end {b : α} (ends : isEnd b = true) (buf rest : List α) :
    split isEnd buf (b :: rest) = ((buf ++ [b]) :: (split isEnd [] rest).1, (split isEnd [] rest).2) := by
  rw [split, if_pos ends]

theorem split_cons_open {b : α} (goes : isEnd b = false) (buf rest : List α) :
    split isEnd buf (b :: rest) = split isEnd (buf ++ [b]) rest := by
  rw [split, goes]
  exact if_neg Bool.false_ne_true

theorem split_append (buf first second : List α) :
    split isEnd buf (first ++ second) =
      ((split isEnd buf first).1 ++ (split isEnd (split isEnd buf first).2 second).1,
        (split isEnd (split isEnd buf first).2 second).2) := by
  induction first generalizing buf with
  | nil => rfl
  | cons b rest ih =>
    rw [List.cons_append]
    cases ends : isEnd b with
    | true =>
      rw [split_cons_end isEnd ends, split_cons_end isEnd ends, ih]
      rfl
    | false => rw [split_cons_open isEnd ends, split_cons_open isEnd ends, ih]

/-- A line without an end inside. -/
theorem split_line {body : List α} (inside : ∀ b ∈ body, isEnd b = false) {last : α}
    (ends : isEnd last = true) (buf rest : List α) :
    split isEnd buf (body ++ last :: rest) =
      ((buf ++ body ++ [last]) :: (split isEnd [] rest).1, (split isEnd [] rest).2) := by
  induction body generalizing buf with
  | nil => rw [List.nil_append, split_cons_end isEnd ends, List.append_nil]
  | cons b body ih =>
    rw [List.cons_append, split_cons_open isEnd (inside b List.mem_cons_self),
      ih fun b' member => inside b' (List.mem_cons_of_mem b member), List.append_assoc buf]
    rfl

/-- A line that does not end. -/
theorem split_open {body : List α} (inside : ∀ b ∈ body, isEnd b = false) (buf : List α) :
    split isEnd buf body = ([], buf ++ body) := by
  induction body generalizing buf with
  | nil => rw [List.append_nil, split]
  | cons b body ih =>
    rw [split_cons_open isEnd (inside b List.mem_cons_self),
      ih fun b' member => inside b' (List.mem_cons_of_mem b member), List.append_assoc]
    rfl

/-- Lines put one after the other are the lines of what comes out. -/
theorem split_flatten {lines : List (List α)}
    (each : ∀ line ∈ lines, ∃ body last, line = body ++ [last] ∧ (∀ b ∈ body, isEnd b = false) ∧
      isEnd last = true) : split isEnd [] lines.flatten = (lines, []) := by
  induction lines with
  | nil => rfl
  | cons line lines ih =>
    obtain ⟨body, last, rfl, inside, ends⟩ := each line List.mem_cons_self
    rw [List.flatten_cons, List.append_assoc]
    refine (split_line isEnd inside ends [] lines.flatten).trans ?_
    rw [ih fun line member => each line (List.mem_cons_of_mem _ member)]
    rfl

end Lines
