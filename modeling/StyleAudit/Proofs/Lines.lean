import Mathlib.Data.List.Basic
import StyleAudit.Text.Lines

/-!
Cutting a text into lines.

A text has at least one line, and its lines joined by line feeds are the text. Where two texts are
put together, the last line of the first and the first line of the second become one, and all other
lines stay.
-/

set_option autoImplicit false

namespace StyleAudit.Text

theorem splitWhere_eq_splitOnP (test : Char → Bool) (text : List Char) :
    splitWhere test text = text.splitOnP test := by
  induction text with
  | nil => rw [splitWhere, List.splitOnP_nil]
  | cons character rest ih =>
      rw [splitWhere, ih, List.splitOnP_cons_eq_if_modifyHead]
      cases pieces : rest.splitOnP test with
      | nil => exact absurd pieces (List.splitOnP_ne_nil test rest)
      | cons piece others => rfl

theorem splitWhere_ne_nil (test : Char → Bool) (text : List Char) : splitWhere test text ≠ [] := by
  rw [splitWhere_eq_splitOnP]
  exact List.splitOnP_ne_nil test text

theorem splitWhere_nil_eq_concat {test : Char → Bool} {before : List (List Char)}
    {last : List Char} (pieces : splitWhere test [] = before ++ [last]) :
    before = [] ∧ last = [] := by
  cases before with
  | nil => exact ⟨rfl, by simpa [splitWhere] using pieces.symm⟩
  | cons piece others => simp [splitWhere] at pieces

/-- How the pieces of a text come from those behind its first character: this is a mark that ends an
empty piece, or belongs to the first piece, which is the last one or not. -/
theorem splitWhere_cons_eq_concat {test : Char → Bool} {character : Char} {rest : List Char}
    {before : List (List Char)} {last : List Char}
    (pieces : splitWhere test (character :: rest) = before ++ [last]) :
    (test character = true ∧ ∃ others, before = [] :: others ∧
      splitWhere test rest = others ++ [last]) ∨
    (test character = false ∧ before = [] ∧ ∃ piece, last = character :: piece ∧
      splitWhere test rest = [] ++ [piece]) ∨
    (test character = false ∧ ∃ piece others, before = (character :: piece) :: others ∧
      splitWhere test rest = (piece :: others) ++ [last]) := by
  rw [splitWhere] at pieces
  cases mark : test character with
  | true =>
      simp only [mark, ↓reduceIte] at pieces
      cases before with
      | nil => exact absurd (List.cons.inj pieces).2 (splitWhere_ne_nil test rest)
      | cons piece others =>
          obtain ⟨rfl, behind⟩ := List.cons.inj pieces
          exact Or.inl ⟨rfl, others, rfl, behind⟩
  | false =>
      simp only [mark, Bool.false_eq_true, ↓reduceIte] at pieces
      cases behind : splitWhere test rest with
      | nil => exact absurd behind (splitWhere_ne_nil test rest)
      | cons piece others =>
          rw [behind] at pieces
          cases before with
          | nil =>
              obtain ⟨rfl, rfl⟩ := List.cons.inj pieces
              exact Or.inr (Or.inl ⟨rfl, rfl, piece, rfl, rfl⟩)
          | cons first before =>
              obtain ⟨rfl, rfl⟩ := List.cons.inj pieces
              exact Or.inr (Or.inr ⟨rfl, piece, before, rfl, rfl⟩)

/-- Only the pieces on both sides of the place where two texts meet become one. -/
theorem splitWhere_append (test : Char → Bool) {front back : List Char}
    {before after : List (List Char)} {last first : List Char}
    (frontPieces : splitWhere test front = before ++ [last])
    (backPieces : splitWhere test back = first :: after) :
    splitWhere test (front ++ back) = before ++ (last ++ first) :: after := by
  induction front generalizing before last with
  | nil =>
      obtain ⟨rfl, rfl⟩ := splitWhere_nil_eq_concat frontPieces
      exact backPieces
  | cons character rest ih =>
      rw [List.cons_append, splitWhere]
      rcases splitWhere_cons_eq_concat frontPieces with
        ⟨mark, others, rfl, pieces⟩ | ⟨plain, rfl, piece, rfl, pieces⟩ |
          ⟨plain, piece, others, rfl, pieces⟩
      · rw [ih pieces, mark]
        rfl
      · rw [ih pieces, plain]
        rfl
      · rw [ih pieces, plain]
        rfl

theorem splitLines_ne_nil (text : String) : splitLines text ≠ [] := by
  rw [splitLines, ne_eq, List.map_eq_nil_iff]
  exact splitWhere_ne_nil _ _

theorem exists_splitLines_eq_concat (text : String) :
    ∃ before last, splitLines text = before ++ [last] := by
  rcases List.eq_nil_or_concat (splitLines text) with empty | ⟨before, last, lines⟩
  · exact absurd empty (splitLines_ne_nil text)
  · exact ⟨before, last, lines.trans (List.concat_eq_append ..)⟩

theorem splitLines_eq_splitOn (text : String) :
    splitLines text = (text.toList.splitOn '\n').map String.ofList := by
  rw [splitLines, splitWhere_eq_splitOnP, List.splitOn_eq_splitOnP]
  rfl

/-- The lines of a text, joined again, are the text. -/
theorem intercalate_splitLines (text : String) : "\n".intercalate (splitLines text) = text := by
  have read : String.toList ∘ String.ofList = id := funext fun _ => String.toList_ofList
  rw [← String.toList_inj, String.toList_intercalate, splitLines_eq_splitOn, List.map_map, read,
    List.map_id]
  exact List.intercalate_splitOn '\n'

/-- A text ends in its last line. -/
theorem exists_eq_append_last {text last : String} {before : List String}
    (lines : splitLines text = before ++ [last]) : ∃ start, text = start ++ last := by
  have joined := intercalate_splitLines text
  rw [lines] at joined
  cases before with
  | nil => exact ⟨"", by simpa using joined.symm⟩
  | cons first others =>
      rw [String.intercalate_append_of_ne_nil (List.cons_ne_nil _ _) (List.cons_ne_nil _ _),
        String.intercalate_singleton] at joined
      exact ⟨_, joined.symm⟩

theorem splitLines_append {front back : String} {before after : List String} {last first : String}
    (frontLines : splitLines front = before ++ [last])
    (backLines : splitLines back = first :: after) :
    splitLines (front ++ back) = before ++ (last ++ first) :: after := by
  obtain ⟨beforePieces, others, frontPieces, rfl, lastPiece⟩ :=
    List.map_eq_append_iff.mp frontLines
  obtain ⟨lastPiece, rfl, rfl⟩ := List.map_eq_singleton_iff.mp lastPiece
  obtain ⟨firstPiece, afterPieces, backPieces, rfl, rfl⟩ := List.map_eq_cons_iff.mp backLines
  rw [splitLines, String.toList_append, splitWhere_append _ frontPieces backPieces,
    List.map_append, List.map_cons, String.ofList_append]

end StyleAudit.Text
