import Mathlib.Data.List.Basic
import StyleAudit.Position

/-!
Lines of findings.

Every position found in a text has a line number of one or more. For such spans the cut of whole
lines is the run of lines numbered from the first to the last.
-/

set_option autoImplicit false

namespace StyleAudit

/-- The lines numbered from `first` to `last`, both included; the first line has number one. -/
def numberedLines (lines : List String) (first last : Int) : List String :=
  ((lines.zipIdx 1).filter fun line => first ≤ line.2 ∧ line.2 ≤ last).map (·.1)

/-- Whether a span starts and ends on lines that a text can have. -/
def Span.OnLines (span : Span) : Prop :=
  1 ≤ span.start.line ∧ 1 ≤ span.stop.line

theorem Position.after_line_le (unit : ColumnUnit) (here : Position) (text : List Char)
    (offset : Nat) : here.line ≤ (here.after unit text offset).line := by
  induction text generalizing here offset with
  | nil => cases offset <;> exact Int.le_refl _
  | cons character rest ih =>
      cases offset with
      | zero => exact Int.le_refl _
      | succ left =>
          rw [Position.after]
          refine Int.le_trans ?_ (ih _ _)
          split
          · exact Int.le_add_one (Int.le_refl _)
          · exact Int.le_refl _

/-- What columns count does not matter to lines. -/
theorem Position.after_line_congr (unit other : ColumnUnit) {here there : Position}
    (same : here.line = there.line) (text : List Char) (offset : Nat) :
    (here.after unit text offset).line = (there.after other text offset).line := by
  induction text generalizing here there offset with
  | nil => cases offset <;> exact same
  | cons character rest ih =>
      cases offset with
      | zero => exact same
      | succ left =>
          rw [Position.after, Position.after]
          apply ih
          by_cases feed : character = '\n'
          · simp only [feed, ↓reduceIte, same]
          · simp only [feed, ↓reduceIte, same]

theorem positionAt_line_pos (unit : ColumnUnit) (text : List Char) (offset : Nat) :
    1 ≤ (positionAt unit text offset).line :=
  Position.after_line_le unit Position.origin text offset

theorem spanBetween_onLines (unit : ColumnUnit) (text : List Char) (start stop : Nat) :
    (spanBetween unit text start stop).OnLines :=
  ⟨positionAt_line_pos unit text start, positionAt_line_pos unit text stop⟩

/-- Selecting numbered lines is dropping those before and taking up to the last. The numbering may
start anywhere, which carries the induction. -/
theorem filter_zipIdx (lines : List String) (number first last : Nat) :
    ((lines.zipIdx number).filter fun line => first ≤ line.2 ∧ line.2 ≤ last).map (·.1) =
      (lines.drop (first - number)).take (last + 1 - max first number) := by
  induction lines generalizing number with
  | nil => simp
  | cons line rest ih =>
      rw [List.zipIdx_cons]
      by_cases early : number < first
      · have outside : ¬ (first ≤ number ∧ number ≤ last) := by omega
        have dropped : first - number = (first - (number + 1)) + 1 := by omega
        have widest : max first (number + 1) = max first number := by omega
        rw [List.filter_cons_of_neg (by simpa using outside), ih, dropped, List.drop_succ_cons,
          widest]
      · have whole : first - number = 0 := by omega
        have wholeNext : first - (number + 1) = 0 := by omega
        have widest : max first number = number := by omega
        have widestNext : max first (number + 1) = number + 1 := by omega
        by_cases late : last < number
        · have outside : ¬ (first ≤ number ∧ number ≤ last) := by omega
          rw [List.filter_cons_of_neg (by simpa using outside), ih, widest, widestNext,
            show last + 1 - number = 0 by omega, show last + 1 - (number + 1) = 0 by omega,
            List.take_zero, List.take_zero]
        · have inside : first ≤ number ∧ number ≤ last := by omega
          rw [List.filter_cons_of_pos (by simpa using inside), List.map_cons, ih, whole,
            wholeNext, widest, widestNext, List.drop_zero, List.drop_zero,
            show last + 1 - number = (last + 1 - (number + 1)) + 1 by omega,
            List.take_succ_cons]

theorem sliceBetween_natural (lines : List String) (first past : Nat) :
    sliceBetween lines (first : Int) (past : Int) = (lines.drop first).take (past - first) := by
  have low : clampIndex lines.length first = min first lines.length := by
    simp [clampIndex, Int.not_lt.mpr (Int.natCast_nonneg first)]
  have high : clampIndex lines.length past = min past lines.length := by
    simp [clampIndex, Int.not_lt.mpr (Int.natCast_nonneg past)]
  simp only [sliceBetween, low, high]
  by_cases inside : first ≤ lines.length
  · rw [Nat.min_eq_left inside, List.take_eq_take_iff, List.length_drop]
    omega
  · rw [List.drop_eq_nil_of_le (by omega), List.drop_eq_nil_of_le (by omega), List.take_nil,
      List.take_nil]

/-- Where both ends of a span are lines, its whole lines are the lines numbered from the first to
the last. -/
theorem sliceLines_eq_numberedLines (lines : List String) (span : Span) (placed : span.OnLines) :
    sliceLines lines span =
      "\n".intercalate (numberedLines lines span.start.line span.stop.line) := by
  obtain ⟨⟨startLine, startColumn⟩, ⟨stopLine, stopColumn⟩⟩ := span
  obtain ⟨fromFirst, toFirst⟩ := placed
  dsimp only at fromFirst toFirst
  obtain ⟨first, rfl⟩ : ∃ first : Nat, startLine = first + 1 := ⟨(startLine - 1).toNat, by omega⟩
  obtain ⟨last, rfl⟩ : ∃ last : Nat, stopLine = last := ⟨stopLine.toNat, by omega⟩
  have selected := filter_zipIdx lines 1 (first + 1) last
  have sliced := sliceBetween_natural lines first last
  rw [Nat.add_sub_cancel, Nat.max_eq_left (by omega), Nat.add_sub_add_right] at selected
  rw [← selected] at sliced
  simp only [sliceLines, numberedLines, Int.add_sub_cancel, sliced]
  norm_cast

end StyleAudit
