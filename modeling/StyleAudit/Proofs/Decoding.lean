import Mathlib.Tactic.SplitIfs
import StyleAudit.Text.Utf8

/-!
Damage stays where it is.

A byte of an ASCII character continues no other character. Wherever a decoder stands, such a byte
ends what was begun and becomes its own character, and what follows it is read as if nothing had
stood in front of it. The other way round, the characters that end lines come from their own bytes
alone.
-/

set_option autoImplicit false

namespace StyleAudit.Text.Utf8

/-- States from which no character below the first sixteen is reached: the bits so far, with the
least byte that may come next, already lead past them. -/
def State.IsSound : State → Prop
  | .between => True
  | .inside bits _ low _ => 0x80 ≤ low ∧ 16 ≤ bits * 64 + (low - 0x80)

theorem between_isSound : State.between.IsSound :=
  trivial

theorem start_isSound (byte : Nat) : (start byte).state.IsSound := by
  unfold start
  split_ifs <;> simp only [State.IsSound] <;> omega

theorem step_isSound {state : State} (sound : state.IsSound) (byte : Nat) :
    (step state byte).state.IsSound := by
  cases state with
  | between => exact start_isSound byte
  | inside bits owed low high =>
      obtain ⟨high_bit, far⟩ := sound
      simp only [step]
      split_ifs
      · trivial
      · exact ⟨Nat.le_refl _, by omega⟩
      · exact start_isSound byte

/-! ### Bytes of ASCII characters -/

theorem start_ascii {byte : Nat} (ascii : byte < 0x80) :
    start byte = ⟨[some (Char.ofNat byte)], .between⟩ :=
  if_pos ascii

/-- What was begun in front of an ASCII byte is given up, as it is at the end of the bytes. -/
theorem step_ascii {state : State} (sound : state.IsSound) {byte : Nat} (ascii : byte < 0x80) :
    step state byte = ⟨scan state [] ++ [some (Char.ofNat byte)], .between⟩ := by
  cases state with
  | between => exact start_ascii ascii
  | inside bits owed low high =>
      have refused : ¬ (low ≤ byte ∧ byte ≤ high) := by
        have high_bit := sound.1
        omega
      simp only [step, refused, ↓reduceIte, start_ascii ascii, scan, List.singleton_append]

theorem scan_cons (state : State) (byte : UInt8) (rest : List UInt8) :
    scan state (byte :: rest) =
      (step state byte.toNat).characters ++ scan (step state byte.toNat).state rest := by
  cases state <;> rfl

theorem scan_ascii {state : State} (sound : state.IsSound) {byte : UInt8}
    (ascii : byte.toNat < 0x80) (rest : List UInt8) :
    scan state (byte :: rest) =
      scan state [] ++ some (Char.ofNat byte.toNat) :: scan .between rest := by
  rw [scan_cons, step_ascii sound ascii, List.append_assoc, List.singleton_append]

/-- The characters of bytes read from a state on. -/
def decodeFrom (state : State) (bytes : List UInt8) : List Char :=
  (scan state bytes).map (·.getD replacement)

theorem decodeFrom_cons (state : State) (byte : UInt8) (rest : List UInt8) :
    decodeFrom state (byte :: rest) =
      (step state byte.toNat).characters.map (·.getD replacement) ++
        decodeFrom (step state byte.toNat).state rest := by
  rw [decodeFrom, scan_cons, List.map_append, decodeFrom]

theorem decodeFrom_ascii {state : State} (sound : state.IsSound) {byte : UInt8}
    (ascii : byte.toNat < 0x80) (rest : List UInt8) :
    decodeFrom state (byte :: rest) =
      decodeFrom state [] ++ Char.ofNat byte.toNat :: decodeFrom .between rest := by
  rw [decodeFrom, scan_ascii sound ascii, List.map_append, List.map_cons]
  rfl

/-! ### Where control characters come from -/

theorem toNat_ofNat_of_pos {code : Nat} (positive : 0 < (Char.ofNat code).toNat) :
    (Char.ofNat code).toNat = code := by
  by_cases valid : code.isValidChar
  · rw [Char.ofNat, dif_pos valid]
    rfl
  · rw [Char.ofNat, dif_neg valid] at positive
    exact absurd positive (by decide)

theorem mem_start_characters {byte : Nat} {character : Char}
    (member : some character ∈ (start byte).characters) (positive : 0 < character.toNat) :
    character.toNat = byte := by
  unfold start at member
  split_ifs at member <;> simp only [List.mem_singleton, Option.some.injEq, List.not_mem_nil,
    reduceCtorEq] at member
  subst member
  exact toNat_ofNat_of_pos positive

/-- One of the first sixteen characters is the byte just read, the null character apart. -/
theorem mem_step_characters {state : State} (sound : state.IsSound) {byte : Nat}
    {character : Char} (member : some character ∈ (step state byte).characters)
    (positive : 0 < character.toNat) (control : character.toNat < 16) : character.toNat = byte := by
  cases state with
  | between => exact mem_start_characters member positive
  | inside bits owed low high =>
      obtain ⟨high_bit, far⟩ := sound
      simp only [step] at member
      split_ifs at member with continued last
      · rw [List.mem_singleton, Option.some.injEq] at member
        rw [member] at positive control
        have code := toNat_ofNat_of_pos positive
        omega
      · simp at member
      · simp only [List.mem_cons, reduceCtorEq, false_or] at member
        exact mem_start_characters member positive

theorem mem_scan {state : State} (sound : state.IsSound) {bytes : List UInt8} {character : Char}
    (member : some character ∈ scan state bytes) (positive : 0 < character.toNat)
    (control : character.toNat < 16) : ∃ byte ∈ bytes, byte.toNat = character.toNat := by
  induction bytes generalizing state with
  | nil => cases state <;> simp [scan] at member
  | cons byte rest ih =>
      rw [scan_cons, List.mem_append] at member
      rcases member with here | later
      · exact ⟨byte, List.mem_cons_self, (mem_step_characters sound here positive control).symm⟩
      · obtain ⟨other, among, same⟩ := ih (step_isSound sound _) later
        exact ⟨other, List.mem_cons_of_mem _ among, same⟩

theorem mem_decode {bytes : List UInt8} {character : Char} (member : character ∈ decode bytes)
    (positive : 0 < character.toNat) (control : character.toNat < 16) :
    ∃ byte ∈ bytes, byte.toNat = character.toNat := by
  obtain ⟨mark, marked, rfl⟩ := List.mem_map.mp member
  cases mark with
  | none => exact absurd control (by decide)
  | some character => exact mem_scan between_isSound marked positive control

/-! ### Damage -/

theorem damageFrom_eq_none_iff (offset : Nat) (begun : List UInt8) (state : State)
    (bytes : List UInt8) :
    damageFrom offset begun state bytes = none ↔ none ∉ scan state bytes := by
  induction bytes generalizing offset begun state with
  | nil => cases state <;> simp [damageFrom, scan]
  | cons byte rest ih =>
      have read : damageFrom offset begun state (byte :: rest) = none ↔
          none ∉ (step state byte.toNat).characters ∧
            none ∉ scan (step state byte.toNat).state rest := by
        simp only [damageFrom, ← ih (offset + 1)
          (if (step state byte.toNat).state = .between then [] else begun ++ [byte])]
        by_cases damaged : none ∈ (step state byte.toNat).characters
        · cases state <;> simp [damaged] <;> split <;> simp
        · cases state <;> simp [damaged]
      rw [read, scan_cons, List.mem_append, not_or]

/-- Marks are all characters exactly when they are the marks of the characters. -/
theorem mapM_id_eq_some_iff {α : Type} (marks : List (Option α)) (values : List α) :
    marks.mapM id = some values ↔ marks = values.map some := by
  induction marks generalizing values with
  | nil => cases values <;> simp
  | cons mark rest ih =>
      cases mark with
      | none => cases values <;> simp
      | some value =>
          cases others : rest.mapM id with
          | none => cases values <;> simp [others, ← ih]
          | some found => cases values <;> simp [others, ← ih]

/-- Bytes can be read strictly exactly when nothing in them is damaged. -/
theorem decode?_eq_some_iff (bytes : List UInt8) (characters : List Char) :
    decode? bytes = some characters ↔ damage? bytes = none ∧ decode bytes = characters := by
  rw [decode?, mapM_id_eq_some_iff, damage?, damageFrom_eq_none_iff, decode]
  constructor
  · intro whole
    rw [whole]
    simp [Function.comp_def]
  · rintro ⟨sound, rfl⟩
    rw [List.map_map]
    refine (List.map_id _).symm.trans (List.map_congr_left fun mark member => ?_)
    cases mark with
    | none => exact absurd member sound
    | some character => rfl

end StyleAudit.Text.Utf8
