import Mathlib.Algebra.Group.Nat.Defs
import Mathlib.Tactic.SplitIfs
import StyleAudit.Toml.Reader
import StyleAudit.Toml.Writer

/-!
Written texts and names of TOML are read back.

A character that is not written as it is becomes an escape, which stands for this character and no
other. So a text is read back whatever it holds, and what follows it is left; only a quote must not
follow, since the empty text and a quote would open a text of several lines.
-/

set_option autoImplicit false

namespace StyleAudit

/-! ### Hexadecimal digits -/

namespace Text

theorem hexValue?_hexDigit {value : Nat} (small : value < 16) :
    hexValue? (hexDigit value) = some value := by
  have each : ∀ value < 16, hexValue? (hexDigit value) = some value := by decide
  exact each value small

theorem length_hexDigits (width number : Nat) : (hexDigits width number).length = width := by
  induction width generalizing number with
  | zero => rfl
  | succ width ih => rw [hexDigits, List.length_append, ih, List.length_singleton]

/-- As many digits as a number needs give the number. -/
theorem hexNumber?_hexDigits {width number : Nat} (fits : number < 16 ^ width) :
    hexNumber? (hexDigits width number) = some number := by
  induction width generalizing number with
  | zero =>
      have zero : number = 0 := by omega
      rw [zero]
      rfl
  | succ width ih =>
      have higher : number / 16 < 16 ^ width := by omega
      have front : (hexDigits width (number / 16)).foldlM
          (fun number digit => (hexValue? digit).map (number * 16 + ·)) 0 =
            some (number / 16) := ih higher
      have last := hexValue?_hexDigit (Nat.mod_lt number (show 16 > 0 by omega))
      rw [hexNumber?, hexDigits, List.foldlM_append, front]
      simp only [Option.bind_eq_bind, Option.bind_some, List.foldlM_cons, List.foldlM_nil, last,
        Option.map_some, Option.pure_def, Option.some.injEq]
      omega

theorem not_mem_hexDigits {mark : Char} (other : ∀ value < 16, hexDigit value ≠ mark)
    (width number : Nat) : mark ∉ hexDigits width number := by
  induction width generalizing number with
  | zero => exact List.not_mem_nil
  | succ width ih =>
      rw [hexDigits, List.mem_append, List.mem_singleton, not_or]
      exact ⟨ih _, fun same => other _ (Nat.mod_lt number (by omega)) same.symm⟩

end Text

namespace Toml

/-! ### Escapes -/

theorem codeCharacter_hexDigits {width : Nat} {character : Char}
    (fits : character.toNat < 16 ^ width) (rest : List Char) :
    codeCharacter width (Text.hexDigits width character.toNat ++ rest) =
      .ok ([character], rest) := by
  have length := Text.length_hexDigits width character.toNat
  have front : (Text.hexDigits width character.toNat ++ rest).take width =
      Text.hexDigits width character.toNat := List.take_left' length
  have back : (Text.hexDigits width character.toNat ++ rest).drop width = rest :=
    List.drop_left' length
  have enough : ¬ (Text.hexDigits width character.toNat ++ rest).length < width := by
    rw [List.length_append]
    omega
  have valid : character.toNat.isValidChar := character.valid
  rw [codeCharacter, if_neg enough, front, back, Text.hexNumber?_hexDigits fits]
  dsimp only
  rw [if_pos valid, Char.ofNat_toNat]

theorem isControl_toNat_lt {character : Char} (control : isControl character = true) :
    character.toNat < 0x80 := by
  simp only [isControl, Bool.or_eq_true, Bool.and_eq_true, decide_eq_true_eq, beq_iff_eq] at control
  omega

/-- How a character is written: as an escape that stands for it, or as it is, where it is no mark
and may stand in a text. -/
theorem writtenCharacter_cases (character : Char) :
    (∃ escaped, writtenCharacter character = '\\' :: escaped ∧ '\r' ∉ escaped ∧
      ∀ rest, escape false (escaped ++ rest) = .ok ([character], rest)) ∨
    (writtenCharacter character = [character] ∧ character ≠ '"' ∧ character ≠ '\\' ∧
      character ≠ '\r' ∧ isBarred false character = false) := by
  unfold writtenCharacter
  split_ifs with quote backslash feed back bell page control
  · exact Or.inl ⟨['"'], rfl, by decide, fun rest => by rw [quote]; rfl⟩
  · exact Or.inl ⟨['\\'], rfl, by decide, fun rest => by rw [backslash]; rfl⟩
  · exact Or.inl ⟨['n'], rfl, by decide, fun rest => by rw [feed]; rfl⟩
  · exact Or.inl ⟨['r'], rfl, by decide, fun rest => by rw [back]; rfl⟩
  · exact Or.inl ⟨['b'], rfl, by decide, fun rest => by rw [bell]; rfl⟩
  · exact Or.inl ⟨['f'], rfl, by decide, fun rest => by rw [page]; rfl⟩
  · have fits : character.toNat < 16 ^ 4 := by
      have small := isControl_toNat_lt control
      omega
    have plain : '\r' ∉ Text.hexDigits 4 character.toNat :=
      Text.not_mem_hexDigits (by decide) 4 character.toNat
    refine Or.inl ⟨'u' :: Text.hexDigits 4 character.toNat, rfl, ?_, fun rest => ?_⟩
    · simpa using plain
    · rw [List.cons_append, escape, codeCharacter_hexDigits fits]
  · refine Or.inr ⟨rfl, quote, backslash, back, ?_⟩
    rw [isBarred, Bool.eq_false_iff.mpr control, Bool.false_and]

/-! ### Texts -/

/-- A written character is read as this character. -/
theorem basicText_writtenCharacter (fuel : Nat) (character : Char) (rest : List Char) :
    basicText false (fuel + 1) (writtenCharacter character ++ rest) =
      (basicText false fuel rest).map fun read => (character :: read.1, read.2) := by
  rcases writtenCharacter_cases character with
    ⟨escaped, written, _, known⟩ | ⟨written, quote, backslash, _, free⟩
  · have opening : (quotes '"' false).isPrefixOf ('\\' :: (escaped ++ rest)) = false := rfl
    rw [written, List.cons_append, basicText, opening, if_neg Bool.false_ne_true, if_pos rfl,
      known]
    dsimp only [bind, Except.bind]
    cases basicText false fuel rest <;> rfl
  · have opening : (quotes '"' false).isPrefixOf (character :: rest) = false := by
      simp [quotes, List.isPrefixOf, Ne.symm quote]
    rw [written, List.singleton_append, basicText, opening, if_neg Bool.false_ne_true,
      if_neg backslash, free, if_neg Bool.false_ne_true]
    cases basicText false fuel rest <;> rfl

theorem basicText_written {characters : List Char} {fuel : Nat} (enough : characters.length < fuel)
    (rest : List Char) :
    basicText false fuel (characters.flatMap writtenCharacter ++ '"' :: rest) =
      .ok (characters, rest) := by
  obtain ⟨fuel, rfl⟩ := Nat.exists_eq_add_one.mpr (Nat.zero_lt_of_lt enough)
  induction characters generalizing fuel with
  | nil => rfl
  | cons first others ih =>
      rw [List.length_cons, Nat.add_lt_add_iff_right] at enough
      obtain ⟨more, rfl⟩ := Nat.exists_eq_add_one.mpr (Nat.zero_lt_of_lt enough)
      rw [List.flatMap_cons, List.append_assoc, basicText_writtenCharacter, ih more enough]
      rfl

theorem writtenCharacter_ne_nil (character : Char) : writtenCharacter character ≠ [] := by
  rcases writtenCharacter_cases character with ⟨escaped, written, _⟩ | ⟨written, _⟩
  · rw [written]
    exact List.cons_ne_nil _ _
  · rw [written]
    exact List.cons_ne_nil _ _

theorem length_le_length_written (characters : List Char) :
    characters.length ≤ (characters.flatMap writtenCharacter).length := by
  induction characters with
  | nil => exact Nat.le_refl 0
  | cons first others ih =>
      have positive := List.length_pos_iff.mpr (writtenCharacter_ne_nil first)
      rw [List.flatMap_cons, List.length_append, List.length_cons]
      omega

/-- A written text is read back behind its opening quote, and what follows it is left. -/
theorem basicText_writtenText (characters rest : List Char) :
    basicText false ((characters.flatMap writtenCharacter ++ '"' :: rest).length + 1)
      (characters.flatMap writtenCharacter ++ '"' :: rest) = .ok (characters, rest) := by
  have shorter := length_le_length_written characters
  apply basicText_written
  rw [List.length_append]
  omega

theorem writtenText_toList (content : String) :
    (writtenText content).toList = '"' :: (content.toList.flatMap writtenCharacter ++ ['"']) := by
  rw [writtenText, String.toList_ofList]
  rfl

theorem writtenText_append (content : String) (rest : List Char) :
    (writtenText content).toList ++ rest =
      '"' :: (content.toList.flatMap writtenCharacter ++ '"' :: rest) := by
  rw [writtenText_toList, List.cons_append, List.append_assoc, List.singleton_append]

theorem lineText_writtenText (content : String) (rest : List Char) :
    lineText ((writtenText content).toList ++ rest) = .ok (content.toList, rest) := by
  rw [writtenText_append, lineText, basicText_writtenText]

/-- Behind the opening quote stands a quote only where the text is empty. -/
theorem text_writtenText (content : String) {rest : List Char} (apart : rest.head? ≠ some '"') :
    text ((writtenText content).toList ++ rest) = .ok (content.toList, rest) := by
  have single : text ((writtenText content).toList ++ rest) =
      lineText ((writtenText content).toList ++ rest) := by
    rw [writtenText_append]
    cases content.toList with
    | nil =>
        unfold text
        split
        · rename_i more same
          simp_all
        · rename_i same
          cases same
        · rfl
    | cons first others =>
        unfold text
        split
        · rename_i more same
          rcases writtenCharacter_cases first with ⟨escaped, written, _⟩ | ⟨written, quote, _⟩
          · simp [written] at same
          · simp [written, quote] at same
        · rename_i same
          cases same
        · rfl
  rw [single, lineText_writtenText]

theorem scalar_writtenText (content : String) {rest : List Char} (apart : rest.head? ≠ some '"') :
    scalar ((writtenText content).toList ++ rest) = .ok (.text content, rest) := by
  have read := text_writtenText content apart
  rw [writtenText_append] at read ⊢
  rw [scalar, read]
  simp [bind, Except.bind, pure, Except.pure]

theorem return_not_mem_writtenText (content : String) : '\r' ∉ (writtenText content).toList := by
  rw [writtenText_toList, List.mem_cons, List.mem_append, List.mem_singleton, not_or, not_or]
  refine ⟨by decide, fun inside => ?_, by decide⟩
  obtain ⟨character, _, member⟩ := List.mem_flatMap.mp inside
  rcases writtenCharacter_cases character with
    ⟨escaped, written, plain, _⟩ | ⟨written, _, _, own, _⟩
  · rw [written, List.mem_cons] at member
    exact member.elim (by decide) plain
  · rw [written, List.mem_singleton] at member
    exact own member.symm

/-! ### Keys -/

theorem takeWhile_isBare {name : List Char} (bare : name.all isBare = true) {mark : Char}
    (stop : isBare mark = false) (rest : List Char) :
    (name ++ mark :: rest).takeWhile isBare = name ∧
      (name ++ mark :: rest).dropWhile isBare = mark :: rest := by
  have each : ∀ character ∈ name, isBare character = true := List.all_eq_true.mp bare
  constructor
  · rw [List.takeWhile_append_of_pos each, List.takeWhile_cons_of_neg (by simp [stop]),
      List.append_nil]
  · rw [List.dropWhile_append_of_pos each, List.dropWhile_cons_of_neg (by simp [stop])]

theorem skipBlanks_of_head {first : Char} (solid : isBlank first = false) (rest : List Char) :
    skipBlanks (first :: rest) = first :: rest :=
  List.dropWhile_cons_of_neg (by simp [solid])

/-- A written name is read back in front of an equals sign. -/
theorem keyPart_writtenKey (name : String) (rest : List Char) :
    keyPart ((writtenKey name).toList ++ ' ' :: '=' :: rest) = .ok (name, '=' :: rest) := by
  have behind : skipBlanks (' ' :: '=' :: rest) = '=' :: rest := rfl
  unfold writtenKey keyPart
  split
  · rename_i bare
    rw [Bool.and_eq_true] at bare
    obtain ⟨front, back⟩ := takeWhile_isBare bare.2 (show isBare ' ' = false by decide)
      ('=' :: rest)
    have occupied : name.toList.isEmpty = false := by
      rw [List.isEmpty_eq_false_iff, ne_eq, String.toList_eq_nil_iff]
      simpa using bare.1
    simp only [front, back, occupied, behind, Bool.false_eq_true, ↓reduceIte, String.ofList_toList]
  · have quoted := writtenText_append name (' ' :: '=' :: rest)
    have read := lineText_writtenText name (' ' :: '=' :: rest)
    have none : ((writtenText name).toList ++ ' ' :: '=' :: rest).takeWhile isBare = [] := by
      rw [quoted]
      exact List.takeWhile_cons_of_neg (by decide)
    simp only [none, List.isEmpty_nil, ↓reduceIte, read, bind, Except.bind, pure, Except.pure,
      behind, String.ofList_toList]

theorem key_writtenKey (name : String) (rest : List Char) :
    key ((writtenKey name).toList ++ ' ' :: '=' :: rest) = .ok ([name], '=' :: rest) := by
  rw [key, keyParts, keyPart_writtenKey]
  rfl

theorem return_not_mem_writtenKey (name : String) : '\r' ∉ (writtenKey name).toList := by
  unfold writtenKey
  split
  · rename_i bare
    rw [Bool.and_eq_true] at bare
    intro member
    have own := List.all_eq_true.mp bare.2 '\r' member
    exact absurd own (by decide)
  · exact return_not_mem_writtenText name

/-- What a written name begins with. -/
theorem exists_writtenKey_eq_cons (name : String) :
    ∃ first rest, (writtenKey name).toList = first :: rest ∧ startsKey first = true := by
  unfold writtenKey
  split
  · rename_i bare
    rw [Bool.and_eq_true] at bare
    cases spelled : name.toList with
    | nil =>
        have empty : name = "" := String.toList_eq_nil_iff.mp spelled
        simp [empty] at bare
    | cons first rest =>
        have own := List.all_eq_true.mp bare.2 first (by simp [spelled])
        exact ⟨first, rest, rfl, by simp [startsKey, own]⟩
  · exact ⟨'"', _, writtenText_toList name, rfl⟩

end Toml

end StyleAudit
