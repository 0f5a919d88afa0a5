import StyleAudit.Proofs.Encoding
import StyleAudit.Proofs.LineEndings

/-!
Damaged sources.

Every file that is there is read, whatever its bytes are. Where an ASCII byte starts the rest of a
file, this rest is read as if it stood alone, so what is damaged in front of it takes nothing away
from it. Only a carriage return and a line feed on the two sides of such a place belong together.
-/

set_option autoImplicit false

namespace StyleAudit

/-! ### Decoding from an ASCII byte on -/

namespace Text

namespace Utf8

theorem decodeFrom_append {state : State} (sound : state.IsSound) (front : List UInt8)
    {byte : UInt8} (ascii : byte.toNat < 0x80) (rest : List UInt8) :
    decodeFrom state (front ++ byte :: rest) =
      decodeFrom state front ++ decodeFrom .between (byte :: rest) := by
  induction front generalizing state with
  | nil =>
      rw [List.nil_append, decodeFrom_ascii sound ascii, decodeFrom_ascii between_isSound ascii]
      rfl
  | cons first more ih =>
      have next := step_isSound sound first.toNat
      rw [List.cons_append, decodeFrom_cons, decodeFrom_cons, ih next, List.append_assoc]

/-- What begins with an ASCII byte is decoded as if nothing stood in front of it. -/
theorem decode_append (front : List UInt8) {byte : UInt8} (ascii : byte.toNat < 0x80)
    (rest : List UInt8) : decode (front ++ byte :: rest) = decode front ++ decode (byte :: rest) :=
  decodeFrom_append between_isSound front ascii rest

/-- A byte gives a character, or begins one. -/
theorem step_characters_ne_nil {state : State} {byte : Nat}
    (settled : (step state byte).state = .between) : (step state byte).characters ≠ [] := by
  have fresh : (start byte).state = .between → (start byte).characters ≠ [] := by
    unfold start
    split_ifs <;> simp
  cases state with
  | between => exact fresh settled
  | inside bits owed low high =>
      simp only [step] at settled ⊢
      split_ifs <;> simp_all

/-- Only no bytes give no characters. -/
theorem decodeFrom_eq_nil_iff (state : State) (bytes : List UInt8) :
    decodeFrom state bytes = [] ↔ state = .between ∧ bytes = [] := by
  induction bytes generalizing state with
  | nil => cases state <;> simp [decodeFrom, scan]
  | cons byte rest ih =>
      rw [decodeFrom_cons, List.append_eq_nil_iff, List.map_eq_nil_iff, ih]
      constructor
      · rintro ⟨nothing, settled, _⟩
        exact absurd nothing (step_characters_ne_nil settled)
      · rintro ⟨_, empty⟩
        cases empty

/-- The last character is a carriage return only where the last byte is one. -/
theorem getLast?_of_decodeFrom {state : State} (sound : state.IsSound) {bytes : List UInt8}
    (ended : (decodeFrom state bytes).getLast? = some '\r') : bytes.getLast? = some 0x0D := by
  induction bytes generalizing state with
  | nil => cases state <;> simp [decodeFrom, scan, replacement] at ended
  | cons byte rest ih =>
      rw [decodeFrom_cons] at ended
      by_cases last : decodeFrom (step state byte.toNat).state rest = []
      · obtain ⟨_, rfl⟩ := (decodeFrom_eq_nil_iff _ _).mp last
        rw [last, List.append_nil] at ended
        obtain ⟨mark, marked, spelled⟩ := List.mem_map.mp (List.mem_of_getLast? ended)
        cases mark with
        | none => exact absurd spelled (by decide)
        | some character =>
            have named : character = '\r' := spelled
            subst named
            have code := mem_step_characters sound marked (by decide) (by decide)
            have same : byte = 0x0D := UInt8.toNat_inj.mp code.symm
            rw [same]
            rfl
      · rw [List.getLast?_append_of_ne_nil _ last] at ended
        have later := ih (step_isSound sound _) ended
        cases rest with
        | nil => cases later
        | cons next more => rw [List.getLast?_cons_cons, later]

end Utf8

/-! ### Normalizing two parts -/

theorem carriageReturn_not_mem_normalizeNewlines (text : List Char) :
    '\r' ∉ normalizeNewlines text := by
  induction text using normalizeNewlines.induct with
  | case1 => simp [normalizeNewlines]
  | case2 rest ih => simp [normalizeNewlines, ih]
  | case3 character rest single ih =>
      rw [normalizeNewlines.eq_3 _ _ single, List.mem_cons, not_or]
      refine ⟨?_, ih⟩
      split
      · decide
      · rename_i other
        exact Ne.symm other

theorem normalizeNewlines_of_not_mem {text : List Char} (lacking : '\r' ∉ text) :
    normalizeNewlines text = text := by
  induction text with
  | nil => rfl
  | cons character rest ih =>
      rw [List.mem_cons, not_or] at lacking
      rw [normalizeNewlines_cons_of_ne (Ne.symm lacking.1), ih lacking.2]

/-- Line ends are found in two parts as in the whole, unless one of them is cut apart. -/
theorem normalizeNewlines_append {front back : List Char}
    (apart : front.getLast? = some '\r' → back.head? ≠ some '\n') :
    normalizeNewlines (front ++ back) = normalizeNewlines front ++ normalizeNewlines back := by
  induction front using normalizeNewlines.induct with
  | case1 => rfl
  | case2 rest ih =>
      have later : rest.getLast? = some '\r' → back.head? ≠ some '\n' := by
        intro ended
        apply apart
        rw [List.getLast?_cons_cons]
        cases rest with
        | nil => cases ended
        | cons next more => rw [List.getLast?_cons_cons, ended]
      show '\n' :: normalizeNewlines (rest ++ back) = _
      rw [ih later]
      rfl
  | case3 character rest single ih =>
      have later : rest.getLast? = some '\r' → back.head? ≠ some '\n' := by
        intro ended
        apply apart
        cases rest with
        | nil => cases ended
        | cons next more => rw [List.getLast?_cons_cons, ended]
      -- A carriage return at the end of the front meets the first character of the back.
      have alone : ∀ more, character = '\r' → rest ++ back = '\n' :: more → False := by
        intro more ended met
        cases rest with
        | nil =>
            rw [List.nil_append] at met
            refine apart ?_ ?_
            · rw [ended]
              rfl
            · rw [met]
              rfl
        | cons next others =>
            obtain ⟨rfl, _⟩ := List.cons.inj met
            exact single others ended rfl
      rw [List.cons_append, normalizeNewlines.eq_3 _ _ alone, normalizeNewlines.eq_3 _ _ single,
        ih later, List.cons_append]

end Text

/-! ### Sources -/

/-- Whatever the bytes of a file are, it is read. -/
theorem readSource_of_bytes {store : FileStore} {path : Path} {bytes : List UInt8}
    (held : store.bytes path = .ok bytes) : readSource store path = .ok (sourceText bytes) := by
  rw [readSource, held]

theorem sourceText_toUTF8 (text : String) :
    sourceText text.toUTF8.toList = String.ofList (Text.normalizeNewlines text.toList) := by
  rw [sourceText, Text.Utf8.decode_toUTF8]

theorem sourceText_append {front rest : List UInt8} {byte : UInt8} (ascii : byte.toNat < 0x80)
    (apart : ¬ (front.getLast? = some 0x0D ∧ byte = 0x0A)) :
    sourceText (front ++ byte :: rest) = sourceText front ++ sourceText (byte :: rest) := by
  have first : Text.Utf8.decode (byte :: rest) =
      Char.ofNat byte.toNat :: Text.Utf8.decode rest :=
    Text.Utf8.decodeFrom_ascii Text.Utf8.between_isSound ascii rest
  have kept : (Text.Utf8.decode front).getLast? = some '\r' →
      (Text.Utf8.decode (byte :: rest)).head? ≠ some '\n' := by
    intro ended begun
    apply apart
    refine ⟨Text.Utf8.getLast?_of_decodeFrom Text.Utf8.between_isSound ended, ?_⟩
    rw [first, List.head?_cons, Option.some.injEq] at begun
    have code := congrArg Char.toNat begun
    have positive : 0 < (Char.ofNat byte.toNat).toNat := by
      rw [begun]
      decide
    rw [Text.Utf8.toNat_ofNat_of_pos positive] at code
    exact UInt8.toNat_inj.mp code
  rw [sourceText, Text.Utf8.decode_append front ascii rest, Text.normalizeNewlines_append kept,
    String.ofList_append]
  rfl

/-- Code that begins with an ASCII character is read as it is, whatever damage stands in front of
it. -/
theorem sourceText_append_code (front : List UInt8) {code : String} {first : Char}
    {others : List Char} (spelled : code.toList = first :: others) (ascii : first.toNat < 0x80)
    (inLine : first ≠ '\n') (lacking : '\r' ∉ code.toList) :
    sourceText (front ++ code.toUTF8.toList) = sourceText front ++ code := by
  have whole : sourceText code.toUTF8.toList = code := by
    rw [sourceText_toUTF8, Text.normalizeNewlines_of_not_mem lacking, String.ofList_toList]
  have lead : code.toUTF8.toList =
      UInt8.ofNat first.toNat :: others.flatMap String.utf8EncodeChar := by
    have single : String.utf8EncodeChar first = [UInt8.ofNat first.toNat] :=
      if_pos (Nat.le_of_lt_succ ascii)
    rw [Text.Utf8.toUTF8_toList, spelled, List.flatMap_cons, single, List.singleton_append]
  have byte : (UInt8.ofNat first.toNat).toNat = first.toNat :=
    UInt8.toNat_ofNat_of_lt' (show first.toNat < 256 by omega)
  have apart : ¬ (front.getLast? = some 0x0D ∧ UInt8.ofNat first.toNat = 0x0A) := by
    rintro ⟨_, met⟩
    apply inLine
    have same : first.toNat = '\n'.toNat := by
      rw [← byte, met]
      rfl
    exact Char.toNat_inj.mp same
  have low : (UInt8.ofNat first.toNat).toNat < 0x80 := by omega
  have read := @sourceText_append front (others.flatMap String.utf8EncodeChar) _ low apart
  rwa [← lead, whole] at read

/-- However the lines of a text end, it is read with line feeds. -/
theorem sourceText_respell (ending : LineEnding) {text : String} (lacking : '\r' ∉ text.toList) :
    sourceText (String.ofList (ending.respell text.toList)).toUTF8.toList = text := by
  rw [sourceText_toUTF8, String.toList_ofList, Text.normalizeNewlines_respell ending lacking,
    String.ofList_toList]

/-- Damage stays where it is. Every file is read, whatever bytes it holds; what is read holds no
carriage return; and the bytes of a text give this text with its line ends made one. Bytes that go
on with an ASCII byte are read in two parts, unless this would cut a carriage return from its line
feed; so code behind any bytes is read as it is. -/
theorem damage_stays_local :
    (∀ (store : FileStore) (path : Path), store.isFile path = true →
      ∃ bytes, store.bytes path = .ok bytes ∧ readSource store path = .ok (sourceText bytes)) ∧
    (∀ bytes, '\r' ∉ (sourceText bytes).toList) ∧
    ((∀ text : String, sourceText text.toUTF8.toList =
        String.ofList (Text.normalizeNewlines text.toList)) ∧
      ∀ (ending : LineEnding) (text : String), '\r' ∉ text.toList →
        sourceText (String.ofList (ending.respell text.toList)).toUTF8.toList = text) ∧
    (∀ front byte rest, byte.toNat < 0x80 → ¬ (front.getLast? = some 0x0D ∧ byte = 0x0A) →
      sourceText (front ++ byte :: rest) = sourceText front ++ sourceText (byte :: rest)) ∧
    ∀ (front : List UInt8) (code : String) first others, code.toList = first :: others →
      first.toNat < 0x80 → first ≠ '\n' → '\r' ∉ code.toList →
      sourceText (front ++ code.toUTF8.toList) = sourceText front ++ code := by
  refine ⟨?_, ?_, ⟨sourceText_toUTF8, fun ending _ lacking => sourceText_respell ending lacking⟩,
    fun _ _ _ ascii apart => sourceText_append ascii apart, ?_⟩
  · intro store path file
    obtain ⟨bytes, held⟩ := (FileStore.isFile_iff store path).mp file
    exact ⟨bytes, held, readSource_of_bytes held⟩
  · intro bytes
    rw [sourceText, String.toList_ofList]
    exact Text.carriageReturn_not_mem_normalizeNewlines _
  · intro front code first others spelled ascii inLine lacking
    exact sourceText_append_code front spelled ascii inLine lacking

namespace Sample

/-- The beginning of a character of three bytes, and a carriage return. -/
def cutCharacter : List UInt8 :=
  [0xE2, 0x82, 0x0D]

/-- A file that is damaged in front of a style access. -/
def damagedStore : FileStore :=
  ⟨[(["View.js"], cutCharacter ++ "styles.card;".toUTF8.toList)], [], []⟩

end Sample

/-- The access behind the damage is read, and so is a comment with lines of two kinds. -/
theorem sample_damage :
    readSource Sample.damagedStore ⟨.here, ["View.js"]⟩ = .ok "\uFFFD\nstyles.card;" ∧
    sourceText (Sample.cutCharacter ++ "styles.card;".toUTF8.toList) =
      sourceText Sample.cutCharacter ++ "styles.card;" ∧
    sourceText ([0xF0, 0x9F] ++ 0x0A :: [0xE9, 0x0D, 0x0A]) =
      sourceText [0xF0, 0x9F] ++ sourceText (0x0A :: [0xE9, 0x0D, 0x0A]) ∧
    sourceText (String.ofList (LineEnding.both.respell "é\n𝄞".toList)).toUTF8.toList = "é\n𝄞" := by
  obtain ⟨readable, _, ⟨_, respelled⟩, parts, code⟩ := damage_stays_local
  have behind := code Sample.cutCharacter "styles.card;" 's' "tyles.card;".toList (by decide)
    (by decide) (by decide) (by decide)
  refine ⟨?_, behind, parts _ _ _ (by decide) (by decide), respelled _ _ (by decide)⟩
  have file : Sample.damagedStore.isFile ⟨.here, ["View.js"]⟩ = true := by decide +kernel
  obtain ⟨bytes, held, read⟩ := readable _ _ file
  have same : Sample.damagedStore.bytes ⟨.here, ["View.js"]⟩ =
      .ok (Sample.cutCharacter ++ "styles.card;".toUTF8.toList) := by
    decide +kernel
  have front : sourceText Sample.cutCharacter = "\uFFFD\n" := by decide +kernel
  rw [same] at held
  rw [read, ← Except.ok.inj held, behind, front]
  rfl

end StyleAudit
