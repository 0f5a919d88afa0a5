import Mathlib.Data.List.ModifyLast
import Mathlib.Data.String.Basic
import StyleAudit.Proofs.Lines
import StyleAudit.Proofs.Position
import StyleAudit.Query

/-!
Spans locate their nodes.

A syntax tree counts bytes, a span counts lines and characters. Where both ends of a node lie
between characters, its span leads back to exactly its text, and no other stretch of the text has
the same span.
-/

set_option autoImplicit false

namespace StyleAudit

/-- The text between the two ends of a span: of the lines that it touches, the last one is cut at
its end and then the first one at its start. -/
def excerpt (lines : List String) (span : Span) : String :=
  "\n".intercalate <|
    ((numberedLines lines span.start.line span.stop.line).modifyLast
      fun line => String.ofList (line.toList.take span.stop.column)).modifyHead
      fun line => String.ofList (line.toList.drop span.start.column)

/-- Whether a position lies on a line, or right behind its end. -/
def Position.LiesOn (lines : List String) (position : Position) : Prop :=
  ∃ line, numberedLines lines position.line position.line = [line] ∧
    position.column ≤ line.length

/-- Whether a span leads to a piece of a text of the given lines. -/
structure Span.Locates (lines : List String) (piece : String) (span : Span) : Prop where
  first : 1 ≤ span.start.line
  ordered : span.start.line ≤ span.stop.line
  last : span.stop.line ≤ lines.length
  start : span.start.LiesOn lines
  stop : span.stop.LiesOn lines
  excerpt : excerpt lines span = piece
  quoted : ∃ front back, sliceLines lines span = front ++ piece ++ back

/-- Whether both ends of a node lie between characters of a text. -/
structure Node.LiesIn (text : String) (node : Node) : Prop where
  start : String.Pos.Raw.IsValid text ⟨node.start⟩
  stop : String.Pos.Raw.IsValid text ⟨node.stop⟩
  ordered : node.start ≤ node.stop

/-! ### Bytes -/

/-- The first character of a text takes some of its bytes, and leaves those of the rest. -/
theorem exists_utf8Len_cons (character : Char) (rest : List Char) :
    ∃ count, String.utf8Len (character :: rest) = count + 1 ∧
      count + 1 - character.utf8Size = String.utf8Len rest := by
  have size := character.utf8Size_pos
  refine ⟨String.utf8Len rest + (character.utf8Size - 1), ?_, ?_⟩
  · rw [String.utf8Len_cons]
    omega
  · omega

theorem dropBytes_append (front rest : List Char) :
    dropBytes (front ++ rest) (String.utf8Len front) = rest := by
  induction front with
  | nil => cases rest <;> rfl
  | cons character front ih =>
      obtain ⟨count, total, left⟩ := exists_utf8Len_cons character front
      rw [List.cons_append, total, dropBytes, left, ih]

theorem takeBytes_append (front rest : List Char) :
    takeBytes (front ++ rest) (String.utf8Len front) = front := by
  induction front with
  | nil => cases rest <;> rfl
  | cons character front ih =>
      obtain ⟨count, total, left⟩ := exists_utf8Len_cons character front
      rw [List.cons_append, total, takeBytes, left, ih]

theorem utf8ByteSize_eq (text : String) : text.utf8ByteSize = String.utf8Len text.toList := by
  rw [← String.utf8ByteSize_ofList, String.ofList_toList]

theorem cut_append (front piece back : String) :
    cut (front ++ piece ++ back).toList front.utf8ByteSize (front ++ piece).utf8ByteSize =
      piece.toList := by
  rw [cut, String.utf8ByteSize_append, Nat.add_sub_cancel_left, utf8ByteSize_eq front,
    utf8ByteSize_eq piece, String.append_assoc, String.toList_append, dropBytes_append,
    String.toList_append, takeBytes_append]

/-- A node cuts its text into what is in front of it, its own text and what is behind it. -/
theorem Node.LiesIn.exists_parts {text : String} {node : Node} (lies : node.LiesIn text) :
    ∃ front piece back, text = front ++ piece ++ back ∧ node.start = front.utf8ByteSize ∧
      node.stop = (front ++ piece).utf8ByteSize := by
  obtain ⟨front, rest, whole, start⟩ := String.Pos.Raw.isValid_iff_exists_append.mp lies.start
  obtain ⟨upTo, back, whole', stop⟩ := String.Pos.Raw.isValid_iff_exists_append.mp lies.stop
  have startSize : node.start = front.utf8ByteSize := congrArg String.Pos.Raw.byteIdx start
  have stopSize : node.stop = upTo.utf8ByteSize := congrArg String.Pos.Raw.byteIdx stop
  have ordered := lies.ordered
  have same : front.toList ++ rest.toList = upTo.toList ++ back.toList := by
    rw [← String.toList_append, ← String.toList_append, ← whole, ← whole']
  rcases List.append_eq_append_iff.mp same with ⟨piece, longer, _⟩ | ⟨piece, shorter, _⟩
  · have joined : front ++ String.ofList piece = upTo := by
      rw [← String.toList_inj, String.toList_append, String.toList_ofList, longer]
    exact ⟨front, String.ofList piece, back, joined ▸ whole', startSize, joined ▸ stopSize⟩
  · -- Nothing can lie between the end of a node and its start.
    have joined : front = upTo ++ String.ofList piece := by
      rw [← String.toList_inj, String.toList_append, String.toList_ofList, shorter]
    have size := congrArg String.utf8ByteSize joined
    rw [String.utf8ByteSize_append] at size
    have empty : String.ofList piece = "" := by
      rw [← String.utf8ByteSize_eq_zero_iff]
      omega
    rw [empty, String.append_empty] at joined
    subst joined
    exact ⟨front, "", back, by rw [String.append_empty]; exact whole', startSize,
      by rw [String.append_empty]; exact stopSize⟩

/-! ### Positions -/

/-- How much columns move over a whole text without line feeds. -/
def ColumnUnit.measure : ColumnUnit → List Char → Nat
  | .characters, text => text.length
  | .bytes, text => String.utf8Len text

/-- A character that is there as a whole moves columns by its own measure. -/
theorem ColumnUnit.measure_cons (unit : ColumnUnit) (character : Char) (rest : List Char)
    {left : Nat} (whole : character.utf8Size ≤ left) :
    unit.measure (character :: rest) = unit.width character left + unit.measure rest := by
  cases unit with
  | characters => exact Nat.add_comm rest.length 1
  | bytes =>
      simp only [measure, width, String.utf8Len_cons]
      omega

/-- Behind some text, lines have been counted up to its last one, and on that line all columns. A
first line goes on where the counting began. -/
theorem Position.after_append (unit : ColumnUnit) (here : Position) (front rest : List Char)
    {before : List (List Char)} {last : List Char}
    (pieces : Text.splitWhere (· = '\n') front = before ++ [last]) :
    here.after unit (front ++ rest) (String.utf8Len front) =
      ⟨here.line + before.length,
        (if before = [] then here.column else 0) + unit.measure last⟩ := by
  induction front generalizing here before last with
  | nil =>
      obtain ⟨rfl, rfl⟩ := Text.splitWhere_nil_eq_concat pieces
      have still : here.after unit ([] ++ rest) (String.utf8Len []) = here := by
        cases rest <;> rfl
      have nothing : unit.measure [] = 0 := by cases unit <;> rfl
      rw [still, nothing]
      simp
  | cons character front ih =>
      obtain ⟨count, total, left⟩ := exists_utf8Len_cons character front
      have whole : character.utf8Size ≤ count + 1 := by
        rw [← total, String.utf8Len_cons]
        omega
      rw [List.cons_append, total, Position.after, left]
      rcases Text.splitWhere_cons_eq_concat pieces with
        ⟨feed, others, rfl, behind⟩ | ⟨plain, rfl, piece, rfl, behind⟩ |
          ⟨plain, piece, others, rfl, behind⟩
      · rw [decide_eq_true_eq] at feed
        rw [ih _ behind]
        simp [feed]
        omega
      · rw [decide_eq_false_iff_not] at plain
        rw [ih _ behind, unit.measure_cons character piece whole]
        simp [plain]
        omega
      · rw [decide_eq_false_iff_not] at plain
        rw [ih _ behind]
        simp [plain]

theorem positionAt_append (unit : ColumnUnit) (front rest : String) {before : List String}
    {last : String} (lines : Text.splitLines front = before ++ [last]) :
    positionAt unit (front ++ rest).toList front.utf8ByteSize =
      ⟨before.length + 1, unit.measure last.toList⟩ := by
  obtain ⟨beforePieces, others, pieces, rfl, single⟩ := List.map_eq_append_iff.mp lines
  obtain ⟨lastPiece, rfl, rfl⟩ := List.map_eq_singleton_iff.mp single
  rw [positionAt, String.toList_append, utf8ByteSize_eq, Position.after_append _ _ _ _ pieces]
  simp [Position.origin]
  omega

theorem positionAt_characters_append (front rest : String) {before : List String} {last : String}
    (lines : Text.splitLines front = before ++ [last]) :
    positionAt .characters (front ++ rest).toList front.utf8ByteSize =
      ⟨before.length + 1, last.length⟩ := by
  rw [positionAt_append _ front rest lines, ColumnUnit.measure, String.length_toList]

/-- A position as it is found from bytes alone: the column is the number of characters among those
bytes of the line that are in front of an offset. -/
def positionFromBytes (text : List Char) (offset : Nat) : Position :=
  let counted := positionAt .bytes text offset
  ⟨counted.line, (cut text (offset - counted.column) offset).length⟩

theorem positionAt_eq_positionFromBytes {text : String} {offset : Nat}
    (boundary : String.Pos.Raw.IsValid text ⟨offset⟩) :
    positionAt .characters text.toList offset = positionFromBytes text.toList offset := by
  obtain ⟨front, rest, rfl, place⟩ := String.Pos.Raw.isValid_iff_exists_append.mp boundary
  obtain rfl : offset = front.utf8ByteSize := congrArg String.Pos.Raw.byteIdx place
  obtain ⟨before, last, lines⟩ := Text.exists_splitLines_eq_concat front
  obtain ⟨start, whole⟩ := Text.exists_eq_append_last lines
  have size := congrArg String.utf8ByteSize whole
  rw [String.utf8ByteSize_append] at size
  have behind : front.utf8ByteSize - last.utf8ByteSize = start.utf8ByteSize := by omega
  rw [positionAt_characters_append front rest lines, positionFromBytes,
    positionAt_append _ front rest lines]
  simp only [ColumnUnit.measure, ← utf8ByteSize_eq, behind]
  rw [whole, cut_append, String.length_toList]

/-- As many characters as a text has are its own, and what follows is the rest. -/
theorem ofList_take_append (front rest : String) :
    String.ofList ((front ++ rest).toList.take front.length) = front := by
  rw [String.toList_append, ← String.length_toList, List.take_left, String.ofList_toList]

theorem ofList_drop_append (front rest : String) :
    String.ofList ((front ++ rest).toList.drop front.length) = rest := by
  rw [String.toList_append, ← String.length_toList, List.drop_left, String.ofList_toList]

/-! ### Lines -/

theorem numberedLines_append (before touched after : List String) :
    numberedLines (before ++ touched ++ after) ((before.length : Int) + 1)
      ((before.length + touched.length : Nat) : Int) = touched := by
  have selected := filter_zipIdx (before ++ touched ++ after) 1 (before.length + 1)
    (before.length + touched.length)
  rw [Nat.add_sub_cancel, Nat.max_eq_left (by omega), List.append_assoc, List.drop_left,
    show before.length + touched.length + 1 - (before.length + 1) = touched.length by omega,
    List.take_left] at selected
  rw [← List.append_assoc] at selected
  simp only [numberedLines]
  norm_cast

theorem liesOn_middle (before after : List String) {line : String} {column : Nat}
    (inside : column ≤ line.length) :
    (⟨(before.length : Int) + 1, column⟩ : Position).LiesOn (before ++ line :: after) := by
  refine ⟨line, ?_, inside⟩
  have single := numberedLines_append before [line] after
  rw [List.append_assoc, List.singleton_append] at single
  simpa using single

theorem intercalate_append_head (separator front first : String) (rest : List String) :
    separator.intercalate ((front ++ first) :: rest) =
      front ++ separator.intercalate (first :: rest) := by
  cases rest with
  | nil => simp
  | cons second others => simp [String.intercalate_cons_cons, String.append_assoc]

theorem intercalate_append_last (separator last back : String) (before : List String) :
    separator.intercalate (before ++ [last ++ back]) =
      separator.intercalate (before ++ [last]) ++ back := by
  cases before with
  | nil => simp
  | cons first others =>
      rw [String.intercalate_append_of_ne_nil (List.cons_ne_nil _ _) (List.cons_ne_nil _ _),
        String.intercalate_append_of_ne_nil (List.cons_ne_nil _ _) (List.cons_ne_nil _ _)]
      simp [String.append_assoc]

/-! ### Locating -/

/-- A piece within one line. -/
theorem locates_within_line (before after : List String) (front piece back : String) :
    Span.Locates (before ++ (front ++ piece ++ back) :: after) piece
      ⟨⟨before.length + 1, front.length⟩, ⟨before.length + 1, (front ++ piece).length⟩⟩ := by
  have touched : numberedLines (before ++ (front ++ piece ++ back) :: after)
      ((before.length : Int) + 1) ((before.length : Int) + 1) = [front ++ piece ++ back] := by
    have single := numberedLines_append before [front ++ piece ++ back] after
    rw [List.append_assoc, List.singleton_append] at single
    simpa using single
  refine ⟨?_, ?_, ?_, ?_, ?_, ?_, front, back, ?_⟩
  · dsimp only
    omega
  · exact Int.le_refl _
  · simp only [List.length_append, List.length_cons]
    omega
  · apply liesOn_middle
    simp only [String.length_append]
    omega
  · apply liesOn_middle
    simp only [String.length_append]
    omega
  · have cutEnd := ofList_take_append (front ++ piece) back
    have cutStart := ofList_drop_append front piece
    rw [excerpt, touched]
    show "\n".intercalate [String.ofList ((String.ofList _).toList.drop front.length)] = piece
    rw [cutEnd, cutStart, String.intercalate_singleton]
  · rw [sliceLines_eq_numberedLines _ _ ⟨by dsimp only; omega, by dsimp only; omega⟩, touched,
      String.intercalate_singleton]

/-- A piece that starts on one line and ends on a later one. -/
theorem locates_across_lines (before middle after : List String)
    (front first last back : String) :
    Span.Locates (before ++ (front ++ first) :: middle ++ (last ++ back) :: after)
      ("\n".intercalate (first :: middle ++ [last]))
      ⟨⟨before.length + 1, front.length⟩,
        ⟨(before ++ (front ++ first) :: middle).length + 1, last.length⟩⟩ := by
  have touched : numberedLines (before ++ (front ++ first) :: middle ++ (last ++ back) :: after)
      ((before.length : Int) + 1) (((before ++ (front ++ first) :: middle).length : Int) + 1) =
      (front ++ first) :: middle ++ [last ++ back] := by
    have several := numberedLines_append before ((front ++ first) :: middle ++ [last ++ back]) after
    have length : before.length + ((front ++ first) :: middle ++ [last ++ back]).length =
        (before ++ (front ++ first) :: middle).length + 1 := by
      simp only [List.length_append, List.length_cons, List.length_nil]
      omega
    rw [length] at several
    simpa using several
  refine ⟨?_, ?_, ?_, ?_, ?_, ?_, front, back, ?_⟩
  · dsimp only
    omega
  · simp only [List.length_append]
    omega
  · simp only [List.length_append, List.length_cons]
    omega
  · rw [List.append_assoc]
    apply liesOn_middle
    simp only [String.length_append]
    omega
  · apply liesOn_middle
    simp only [String.length_append]
    omega
  · have cutEnd := ofList_take_append last back
    have cutStart := ofList_drop_append front first
    rw [excerpt, touched, List.modifyLast_concat]
    show "\n".intercalate (String.ofList ((front ++ first).toList.drop front.length) ::
      (middle ++ [String.ofList ((last ++ back).toList.take last.length)])) = _
    rw [cutEnd, cutStart]
    rfl
  · rw [sliceLines_eq_numberedLines _ _ ⟨by dsimp only; omega, by dsimp only; omega⟩, touched,
      intercalate_append_last, List.cons_append, intercalate_append_head]
    rfl

/-- Whatever stands in front of a piece and behind it, the span between its ends leads to it. -/
theorem spanBetween_locates (front piece back : String) :
    Span.Locates (Text.splitLines (front ++ piece ++ back)) piece
      (spanBetween .characters (front ++ piece ++ back).toList front.utf8ByteSize
        (front ++ piece).utf8ByteSize) := by
  obtain ⟨before, last, frontLines⟩ := Text.exists_splitLines_eq_concat front
  obtain ⟨head, after, backLines⟩ := List.exists_cons_of_ne_nil (Text.splitLines_ne_nil back)
  obtain ⟨first, others, pieceLines⟩ := List.exists_cons_of_ne_nil (Text.splitLines_ne_nil piece)
  have joined := Text.intercalate_splitLines piece
  have bothLines := Text.splitLines_append frontLines pieceLines
  rw [spanBetween, String.append_assoc, positionAt_characters_append front (piece ++ back) frontLines,
    ← String.append_assoc]
  rcases List.eq_nil_or_concat others with rfl | ⟨middle, final, rfl⟩
  · have only : first = piece := by
      rwa [pieceLines, String.intercalate_singleton] at joined
    subst only
    rw [positionAt_characters_append (front ++ first) back bothLines,
      Text.splitLines_append bothLines backLines]
    exact locates_within_line before after last first head
  · rw [List.concat_eq_append] at pieceLines bothLines
    have split : Text.splitLines (front ++ piece) =
        (before ++ (last ++ first) :: middle) ++ [final] := by
      rw [bothLines]
      simp
    rw [pieceLines] at joined
    rw [positionAt_characters_append (front ++ piece) back split, Text.splitLines_append split backLines,
      ← joined]
    exact locates_across_lines before middle after last first final head

/-! ### Telling positions apart -/

/-- Text that does not move the position is empty. -/
theorem eq_empty_of_positionAt_eq (front further rest : String)
    (same : positionAt .characters (front ++ further ++ rest).toList front.utf8ByteSize =
      positionAt .characters (front ++ further ++ rest).toList (front ++ further).utf8ByteSize) :
    further = "" := by
  obtain ⟨before, last, frontLines⟩ := Text.exists_splitLines_eq_concat front
  obtain ⟨first, others, lines⟩ := List.exists_cons_of_ne_nil (Text.splitLines_ne_nil further)
  have joined := Text.intercalate_splitLines further
  have bothLines := Text.splitLines_append frontLines lines
  rw [String.append_assoc, positionAt_characters_append front (further ++ rest) frontLines,
    ← String.append_assoc] at same
  rcases List.eq_nil_or_concat others with rfl | ⟨middle, final, rfl⟩
  · rw [positionAt_characters_append _ rest bothLines, Position.mk.injEq, String.length_append] at same
    have empty : first = "" := by
      rw [← String.length_eq_zero_iff]
      omega
    rw [← joined, lines, String.intercalate_singleton, empty]
  · rw [List.concat_eq_append] at bothLines
    have split : Text.splitLines (front ++ further) =
        (before ++ (last ++ first) :: middle) ++ [final] := by
      rw [bothLines]
      simp
    rw [positionAt_characters_append _ rest split, Position.mk.injEq, List.length_append,
      List.length_cons] at same
    omega

theorem offset_eq_of_positionAt_eq {front rest front' rest' : String}
    (text : front ++ rest = front' ++ rest')
    (same : positionAt .characters (front ++ rest).toList front.utf8ByteSize =
      positionAt .characters (front' ++ rest').toList front'.utf8ByteSize) :
    front.utf8ByteSize = front'.utf8ByteSize := by
  have lists : front.toList ++ rest.toList = front'.toList ++ rest'.toList := by
    rw [← String.toList_append, ← String.toList_append, text]
  rcases List.append_eq_append_iff.mp lists with ⟨further, longer, behind⟩ | ⟨further, longer, behind⟩
  · obtain rfl : front' = front ++ String.ofList further := by
      rw [← String.toList_inj, String.toList_append, String.toList_ofList, longer]
    rw [text] at same
    rw [eq_empty_of_positionAt_eq _ _ _ same, String.append_empty]
  · obtain rfl : front = front' ++ String.ofList further := by
      rw [← String.toList_inj, String.toList_append, String.toList_ofList, longer]
    rw [← text] at same
    rw [eq_empty_of_positionAt_eq _ _ _ same.symm, String.append_empty]

theorem boundary_eq_of_positionAt_eq {text : String} {offset other : Nat}
    (boundary : String.Pos.Raw.IsValid text ⟨offset⟩)
    (otherBoundary : String.Pos.Raw.IsValid text ⟨other⟩)
    (same : positionAt .characters text.toList offset =
      positionAt .characters text.toList other) : offset = other := by
  obtain ⟨front, rest, whole, size⟩ := String.Pos.Raw.isValid_iff_exists_append.mp boundary
  obtain ⟨front', rest', whole', size'⟩ := String.Pos.Raw.isValid_iff_exists_append.mp otherBoundary
  obtain rfl : offset = front.utf8ByteSize := congrArg String.Pos.Raw.byteIdx size
  obtain rfl : other = front'.utf8ByteSize := congrArg String.Pos.Raw.byteIdx size'
  apply offset_eq_of_positionAt_eq (whole.symm.trans whole')
  rwa [← whole, ← whole']

/-- The span of a node, which can be found from bytes alone, leads to its text, and to no other
stretch of the source. -/
theorem node_span_locates (text : String) (node : Node) (lies : node.LiesIn text) :
    (∃ front back, text = front ++ node.text text.toList ++ back ∧
      front.utf8ByteSize = node.start ∧
      (front ++ node.text text.toList).utf8ByteSize = node.stop) ∧
    node.span .characters text.toList =
      ⟨positionFromBytes text.toList node.start, positionFromBytes text.toList node.stop⟩ ∧
    Span.Locates (Text.splitLines text) (node.text text.toList)
      (node.span .characters text.toList) ∧
    ∀ other : Node, other.LiesIn text →
      other.span .characters text.toList = node.span .characters text.toList →
      other.start = node.start ∧ other.stop = node.stop := by
  refine ⟨?_, ?_, ?_, fun other otherLies same => ?_⟩
  · obtain ⟨front, piece, back, rfl, start, stop⟩ := lies.exists_parts
    have own : node.text (front ++ piece ++ back).toList = piece := by
      rw [Node.text, start, stop, cut_append, String.ofList_toList]
    rw [own]
    exact ⟨front, back, rfl, start.symm, stop.symm⟩
  · rw [Node.span, spanBetween, positionAt_eq_positionFromBytes lies.start,
      positionAt_eq_positionFromBytes lies.stop]
  · obtain ⟨front, piece, back, rfl, start, stop⟩ := lies.exists_parts
    rw [Node.text, Node.span, start, stop, cut_append, String.ofList_toList]
    exact spanBetween_locates front piece back
  · obtain ⟨sameStart, sameStop⟩ := Span.mk.inj same
    exact ⟨boundary_eq_of_positionAt_eq otherLies.start lies.start sameStart,
      boundary_eq_of_positionAt_eq otherLies.stop lies.stop sameStop⟩

namespace Sample

/-- A text in which some characters in front of a literal and inside it take several bytes. -/
def literalText : String :=
  "é = `😀\n\n  ü`;"

/-- The literal of the text. -/
def literal : Node :=
  ⟨"template_string", true, false, false, some "right", 5, 17, []⟩

theorem literal_liesIn : literal.LiesIn literalText where
  start := String.Pos.Raw.isValid_eq_true_iff.mp (by decide +kernel)
  stop := String.Pos.Raw.isValid_eq_true_iff.mp (by decide +kernel)
  ordered := by decide

end Sample

/-- The literal starts at the fifth character of the first line and ends on the third. -/
theorem sample_span_locates :
    Sample.literal.LiesIn Sample.literalText ∧
    Sample.literal.span .characters Sample.literalText.toList = ⟨⟨1, 4⟩, ⟨3, 4⟩⟩ ∧
    (∃ front back,
      Sample.literalText = front ++ Sample.literal.text Sample.literalText.toList ++ back ∧
      front.utf8ByteSize = Sample.literal.start ∧
      (front ++ Sample.literal.text Sample.literalText.toList).utf8ByteSize =
        Sample.literal.stop) ∧
    Sample.literal.span .characters Sample.literalText.toList =
      ⟨positionFromBytes Sample.literalText.toList Sample.literal.start,
        positionFromBytes Sample.literalText.toList Sample.literal.stop⟩ ∧
    Span.Locates (Text.splitLines Sample.literalText)
      (Sample.literal.text Sample.literalText.toList)
      (Sample.literal.span .characters Sample.literalText.toList) ∧
    ∀ other : Node, other.LiesIn Sample.literalText →
      other.span .characters Sample.literalText.toList =
        Sample.literal.span .characters Sample.literalText.toList →
      other.start = Sample.literal.start ∧ other.stop = Sample.literal.stop :=
  ⟨Sample.literal_liesIn, by decide +kernel,
    node_span_locates Sample.literalText Sample.literal Sample.literal_liesIn⟩

end StyleAudit
