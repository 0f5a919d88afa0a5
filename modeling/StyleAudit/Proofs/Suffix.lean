import StyleAudit.Path.Pattern

/-!
Suffixes, and the pattern of the names that end in one.

A name's suffix starts at its last dot, unless nothing is on one side of it. A star before text that
holds no sign of a pattern matches the names that end in this text. For the suffix of some name
these are the names of that suffix, and a dot file that has the suffix for its whole name.
-/

set_option autoImplicit false

namespace StyleAudit

/-! ### Stems and suffixes -/

namespace Path

theorem cutAtLastDot_eq_none_iff (text : List Char) : cutAtLastDot text = none ↔ '.' ∉ text := by
  induction text with
  | nil => simp [cutAtLastDot]
  | cons character rest ih =>
      rw [cutAtLastDot, List.mem_cons, not_or]
      cases found : cutAtLastDot rest with
      | none =>
          have absent := ih.mp found
          by_cases dot : character = '.'
          · simp [dot]
          · simp [dot, absent, Ne.symm dot]
      | some parts =>
          have present : ¬ '.' ∉ rest := by
            rw [← ih, found]
            exact Option.some_ne_none parts
          simp [present]

theorem cutAtLastDot_of_dot (front : List Char) {rest : List Char} (last : '.' ∉ rest) :
    cutAtLastDot (front ++ '.' :: rest) = some (front, '.' :: rest) := by
  induction front with
  | nil =>
      rw [List.nil_append, cutAtLastDot, (cutAtLastDot_eq_none_iff rest).mpr last]
      rfl
  | cons character more ih => rw [List.cons_append, cutAtLastDot, ih]

/-- The back of a cut starts with the last dot. -/
theorem cutAtLastDot_eq_some {text front back : List Char}
    (cut : cutAtLastDot text = some (front, back)) :
    ∃ rest, back = '.' :: rest ∧ '.' ∉ rest ∧ text = front ++ back := by
  induction text generalizing front with
  | nil => cases cut
  | cons character rest ih =>
      rw [cutAtLastDot] at cut
      cases found : cutAtLastDot rest with
      | none =>
          have absent := (cutAtLastDot_eq_none_iff rest).mp found
          rw [found] at cut
          by_cases dot : character = '.'
          · rw [dot] at cut
            cases cut
            exact ⟨rest, rfl, absent, by rw [dot, List.nil_append]⟩
          · simp only [dot, ↓reduceIte] at cut
            cases cut
      | some parts =>
          rw [found] at cut
          cases cut
          obtain ⟨after, shape, absent, whole⟩ := ih found
          exact ⟨after, shape, absent, by rw [whole, List.cons_append]⟩

theorem stemAndSuffix_of_dot {name : String} {front rest : List Char} (front_ne : front ≠ [])
    (rest_ne : rest ≠ []) (last : '.' ∉ rest) (whole : name.toList = front ++ '.' :: rest) :
    stemAndSuffix name = (String.ofList front, String.ofList ('.' :: rest)) := by
  have cut : cutAtLastDot name.toList = some (front, '.' :: rest) := by
    rw [whole]
    exact cutAtLastDot_of_dot front last
  obtain ⟨first, more, rfl⟩ := List.exists_cons_of_ne_nil front_ne
  obtain ⟨second, others, rfl⟩ := List.exists_cons_of_ne_nil rest_ne
  rw [stemAndSuffix, cut]

/-- A name that has a suffix is its stem and the suffix. -/
theorem exists_dot_of_suffix_ne {name : String} (suffixed : (stemAndSuffix name).2 ≠ "") :
    ∃ front rest, front ≠ [] ∧ rest ≠ [] ∧ '.' ∉ rest ∧ name.toList = front ++ '.' :: rest ∧
      stemAndSuffix name = (String.ofList front, String.ofList ('.' :: rest)) := by
  unfold stemAndSuffix at suffixed
  split at suffixed
  · rename_i first front dot second back cut
    obtain ⟨rest, shape, last, whole⟩ := cutAtLastDot_eq_some cut
    obtain ⟨rfl, rfl⟩ := List.cons.inj shape
    refine ⟨first :: front, second :: back, List.cons_ne_nil _ _, List.cons_ne_nil _ _, last, whole,
      ?_⟩
    exact stemAndSuffix_of_dot (List.cons_ne_nil _ _) (List.cons_ne_nil _ _) last whole
  · exact absurd rfl suffixed

/-- Of the names that end in the suffix of some name, only the suffix itself is not of it. -/
theorem suffix_of_endsWith {name other : String} (suffixed : (stemAndSuffix name).2 ≠ "")
    (within : (stemAndSuffix name).2.toList <:+ other.toList)
    (longer : other ≠ (stemAndSuffix name).2) :
    (stemAndSuffix other).2 = (stemAndSuffix name).2 := by
  obtain ⟨front, rest, _, rest_ne, last, _, cut⟩ := exists_dot_of_suffix_ne suffixed
  rw [cut] at within longer ⊢
  rw [String.toList_ofList] at within
  obtain ⟨start, whole⟩ := within
  have start_ne : start ≠ [] := by
    rintro rfl
    apply longer
    rw [← String.ofList_toList (s := other), ← whole, List.nil_append]
  rw [stemAndSuffix_of_dot start_ne rest_ne last whole.symm]

/-- A path without components has no name, and so no suffix. -/
theorem components_ne_nil_of_suffix {path : Path} (suffixed : path.suffix ≠ "") :
    path.components ≠ [] := by
  intro empty
  apply suffixed
  simp [suffix, name, empty, stemAndSuffix, cutAtLastDot]

end Path

/-! ### The pattern of a suffix -/

namespace Pattern

/-- Whether a character stands for itself in a pattern. -/
def IsLiteral (character : Char) : Prop :=
  character ≠ '*' ∧ character ≠ '?' ∧ character ≠ '['

instance (character : Char) : Decidable (IsLiteral character) :=
  inferInstanceAs (Decidable (_ ∧ _ ∧ _))

theorem hasDoubleStar_of_not_mem (text : List Char) (absent : '*' ∉ text) :
    hasDoubleStar ('*' :: text) = false := by
  have inside : ∀ others : List Char, '*' ∉ others → hasDoubleStar others = false := by
    intro others missing
    induction others with
    | nil => rfl
    | cons character rest ih =>
        simp only [List.mem_cons, not_or] at missing
        rw [hasDoubleStar]
        · exact ih missing.2
        · rintro more rfl
          exact absurd rfl missing.1
  cases text with
  | nil => rfl
  | cons character rest =>
      rw [hasDoubleStar]
      · exact inside _ absent
      · rintro more _ ⟨⟩
        exact absent List.mem_cons_self

theorem readParts_literals (fuel : Nat) (text : List Char) (enough : text.length ≤ fuel)
    (literal : ∀ character ∈ text, IsLiteral character) :
    readParts fuel text = text.map Part.exactly := by
  induction fuel generalizing text with
  | zero =>
      have empty : text = [] := List.eq_nil_of_length_eq_zero (Nat.le_zero.mp enough)
      rw [empty]
      rfl
  | succ fuel ih =>
      cases text with
      | nil => rfl
      | cons character rest =>
          obtain ⟨star, question, bracket⟩ := literal character List.mem_cons_self
          have shorter : rest.length ≤ fuel := Nat.le_of_succ_le_succ enough
          rw [readParts, ih rest shorter fun other member =>
            literal other (List.mem_cons_of_mem character member), List.map_cons]
          · exact star
          · exact question
          · exact bracket

theorem ofText?_star_literals (suffix : String)
    (literal : ∀ character ∈ suffix.toList, IsLiteral character) :
    ofText? ("*" ++ suffix) = some ⟨.anything :: suffix.toList.map .exactly⟩ := by
  have text : ("*" ++ suffix).toList = '*' :: suffix.toList := String.toList_append
  have single : hasDoubleStar ('*' :: suffix.toList) = false :=
    hasDoubleStar_of_not_mem _ fun star => (literal '*' star).1 rfl
  rw [ofText?, text, single, List.length_cons, readParts,
    readParts_literals _ _ (Nat.le_refl _) literal]
  rfl

theorem matchParts_exactly_iff (expected text : List Char) :
    matchParts (expected.map .exactly) text = true ↔ text = expected := by
  induction expected generalizing text with
  | nil => simp [matchParts]
  | cons character rest ih =>
      cases text with
      | nil => simp [matchParts]
      | cons first more =>
          simp only [List.map_cons, matchParts, Part.admits, Bool.and_eq_true, decide_eq_true_eq,
            ih, List.cons.injEq]
          exact and_congr_left' eq_comm

theorem someEnd_iff (test : List Char → Bool) (text : List Char) :
    someEnd test text = true ↔ ∃ back, back <:+ text ∧ test back = true := by
  induction text with
  | nil => simp [someEnd]
  | cons character rest ih =>
      rw [someEnd, Bool.or_eq_true, ih]
      constructor
      · rintro (whole | ⟨back, within, holds⟩)
        · exact ⟨_, List.suffix_rfl, whole⟩
        · exact ⟨back, within.trans (List.suffix_cons _ _), holds⟩
      · rintro ⟨back, within, holds⟩
        rcases List.suffix_cons_iff.mp within with rfl | inner
        · exact Or.inl holds
        · exact Or.inr ⟨back, inner, holds⟩

theorem accepts_star_literals_iff (suffix : List Char) (name : String) :
    accepts ⟨.anything :: suffix.map .exactly⟩ name = true ↔ suffix <:+ name.toList := by
  rw [accepts, matchParts, someEnd_iff]
  simp only [matchParts_exactly_iff, exists_eq_right]

end Pattern

end StyleAudit
