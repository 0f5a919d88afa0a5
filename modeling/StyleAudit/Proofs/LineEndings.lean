import StyleAudit.Proofs.Analysis
import StyleAudit.Proofs.Decoding

/-!
Ways of ending a line.

The files of a store may be rewritten, each in its own way, so that their lines end in carriage
returns, with or without line feeds. Decoding turns the bytes of a line ending into its characters
whatever damage stands in front of them, and normalizing brings back the line feed, so an analysis
cannot tell the two stores apart.
-/

set_option autoImplicit false

namespace StyleAudit

/-- A way to end a line. -/
inductive LineEnding where
  | lineFeed
  | carriageReturn
  | both
deriving DecidableEq, Repr

namespace LineEnding

/-- The bytes at the end of a line. -/
def bytes : LineEnding → List UInt8
  | lineFeed => [0x0A]
  | carriageReturn => [0x0D]
  | both => [0x0D, 0x0A]

/-- The characters at the end of a line. -/
def characters : LineEnding → List Char
  | lineFeed => ['\n']
  | carriageReturn => ['\r']
  | both => ['\r', '\n']

/-- Bytes in which every line feed has become a line ending. -/
def rewrite (ending : LineEnding) (content : List UInt8) : List UInt8 :=
  content.flatMap fun byte => if byte = 0x0A then ending.bytes else [byte]

/-- A text in which every line feed has become a line ending. -/
def respell (ending : LineEnding) (text : List Char) : List Char :=
  text.flatMap fun character => if character = '\n' then ending.characters else [character]

theorem rewrite_cons (ending : LineEnding) (byte : UInt8) (rest : List UInt8) :
    ending.rewrite (byte :: rest) =
      (if byte = 0x0A then ending.bytes else [byte]) ++ ending.rewrite rest :=
  List.flatMap_cons

theorem respell_cons (ending : LineEnding) (character : Char) (rest : List Char) :
    ending.respell (character :: rest) =
      (if character = '\n' then ending.characters else [character]) ++ ending.respell rest :=
  List.flatMap_cons

theorem respell_append (ending : LineEnding) (front back : List Char) :
    ending.respell (front ++ back) = ending.respell front ++ ending.respell back :=
  List.flatMap_append

theorem respell_of_not_mem (ending : LineEnding) {text : List Char} (lacking : '\n' ∉ text) :
    ending.respell text = text := by
  induction text with
  | nil => rfl
  | cons character rest ih =>
      rw [List.mem_cons, not_or] at lacking
      rw [respell_cons, if_neg (Ne.symm lacking.1), List.singleton_append, ih lacking.2]

theorem rewrite_lineFeed (content : List UInt8) : lineFeed.rewrite content = content := by
  induction content with
  | nil => rfl
  | cons byte rest ih =>
      rw [rewrite_cons, ih]
      split
      · rename_i same
        rw [same]
        rfl
      · rfl

end LineEnding

/-! ### Decoding a rewritten file -/

namespace Text

namespace Utf8

theorem lineFeed_not_mem_decodeFrom_nil (state : State) : '\n' ∉ decodeFrom state [] := by
  cases state <;> simp [decodeFrom, scan, replacement]

theorem lineFeed_not_mem_step {state : State} (sound : state.IsSound) {byte : UInt8}
    (other : byte ≠ 0x0A) :
    '\n' ∉ (step state byte.toNat).characters.map (·.getD replacement) := by
  intro member
  obtain ⟨mark, marked, spelled⟩ := List.mem_map.mp member
  cases mark with
  | none => exact absurd spelled (by decide)
  | some character =>
      have named : character = '\n' := spelled
      subst named
      have code := mem_step_characters sound marked (by decide) (by decide)
      exact other (UInt8.toNat_inj.mp code.symm)

/-- A line ending is read as its characters, whatever was begun in front of it. -/
theorem decodeFrom_lineEnding {state : State} (sound : state.IsSound) (ending : LineEnding)
    (rest : List UInt8) :
    decodeFrom state (ending.bytes ++ rest) =
      decodeFrom state [] ++ ending.characters ++ decodeFrom .between rest := by
  cases ending with
  | lineFeed => simp [LineEnding.bytes, LineEnding.characters, decodeFrom_ascii sound]
  | carriageReturn => simp [LineEnding.bytes, LineEnding.characters, decodeFrom_ascii sound]
  | both =>
      have again : decodeFrom .between (0x0A :: rest) = '\n' :: decodeFrom .between rest := rfl
      simp [LineEnding.bytes, LineEnding.characters, decodeFrom_ascii sound, again]

theorem decodeFrom_rewrite {state : State} (sound : state.IsSound) (ending : LineEnding)
    (bytes : List UInt8) :
    decodeFrom state (ending.rewrite bytes) = ending.respell (decodeFrom state bytes) := by
  induction bytes generalizing state with
  | nil => exact (ending.respell_of_not_mem (lineFeed_not_mem_decodeFrom_nil state)).symm
  | cons byte rest ih =>
      rw [LineEnding.rewrite_cons]
      split
      · rename_i ended
        subst ended
        have spelled : decodeFrom state (0x0A :: rest) =
            decodeFrom state [] ++ ('\n' :: decodeFrom .between rest) :=
          decodeFrom_ascii sound (by decide) rest
        have begun := ending.respell_of_not_mem (lineFeed_not_mem_decodeFrom_nil state)
        rw [decodeFrom_lineEnding sound, ih between_isSound, spelled,
          LineEnding.respell_append, begun, List.append_assoc]
        rfl
      · rename_i other
        rw [List.singleton_append, decodeFrom_cons, decodeFrom_cons, LineEnding.respell_append,
          ending.respell_of_not_mem (lineFeed_not_mem_step sound other),
          ih (step_isSound sound _)]

theorem decode_rewrite (ending : LineEnding) (bytes : List UInt8) :
    decode (ending.rewrite bytes) = ending.respell (decode bytes) :=
  decodeFrom_rewrite between_isSound ending bytes

end Utf8

/-! ### Normalizing what was read -/

theorem normalizeNewlines_cons_of_ne {character : Char} (other : character ≠ '\r')
    (rest : List Char) :
    normalizeNewlines (character :: rest) = character :: normalizeNewlines rest := by
  rw [normalizeNewlines.eq_def]
  split
  · rename_i same
    cases same
  · rename_i same
    cases same
    exact absurd rfl other
  · rename_i same
    cases same
    rw [if_neg other]

theorem normalizeNewlines_carriageReturn {rest : List Char} (apart : rest.head? ≠ some '\n') :
    normalizeNewlines ('\r' :: rest) = '\n' :: normalizeNewlines rest := by
  rw [normalizeNewlines.eq_def]
  split
  · rename_i same
    cases same
  · rename_i same
    cases same
    exact absurd rfl apart
  · rename_i same
    cases same
    rfl

theorem head?_respell_carriageReturn (text : List Char) :
    (LineEnding.carriageReturn.respell text).head? ≠ some '\n' := by
  cases text with
  | nil => simp [LineEnding.respell]
  | cons character rest =>
      by_cases ended : character = '\n'
      · simp [LineEnding.respell, ended, LineEnding.characters]
      · simp [LineEnding.respell, ended]

/-- Every line ending becomes a line feed, unless a carriage return meets the line feed of what
follows it. -/
theorem normalizeNewlines_lineEnding {ending : LineEnding} {rest : List Char}
    (apart : ending = .carriageReturn → rest.head? ≠ some '\n') :
    normalizeNewlines (ending.characters ++ rest) = '\n' :: normalizeNewlines rest := by
  cases ending with
  | lineFeed => exact normalizeNewlines_cons_of_ne (by decide) rest
  | carriageReturn => exact normalizeNewlines_carriageReturn (apart rfl)
  | both => rfl

theorem normalizeNewlines_respell (ending : LineEnding) {text : List Char}
    (lacking : '\r' ∉ text) : normalizeNewlines (ending.respell text) = text := by
  induction text with
  | nil => rfl
  | cons character rest ih =>
      rw [List.mem_cons, not_or] at lacking
      rw [LineEnding.respell_cons]
      split
      · rename_i ended
        have apart : ending = .carriageReturn → (ending.respell rest).head? ≠ some '\n' := by
          rintro rfl
          exact head?_respell_carriageReturn rest
        rw [normalizeNewlines_lineEnding apart, ih lacking.2, ended]
      · rw [List.singleton_append, normalizeNewlines_cons_of_ne (Ne.symm lacking.1), ih lacking.2]

end Text

theorem carriageReturn_not_mem_decode {bytes : List UInt8} (lacking : 0x0D ∉ bytes) :
    '\r' ∉ Text.Utf8.decode bytes := by
  intro member
  obtain ⟨byte, among, code⟩ := Text.Utf8.mem_decode member (by decide) (by decide)
  have same : byte = 0x0D := UInt8.toNat_inj.mp code
  exact lacking (same ▸ among)

/-- A file without carriage returns reads the same however its lines end. -/
theorem sourceText_rewrite (ending : LineEnding) {bytes : List UInt8} (lacking : 0x0D ∉ bytes) :
    sourceText (ending.rewrite bytes) = sourceText bytes := by
  have absent := carriageReturn_not_mem_decode lacking
  have plain : Text.normalizeNewlines (Text.Utf8.decode bytes) = Text.Utf8.decode bytes := by
    have spelled := Text.normalizeNewlines_respell .lineFeed absent
    rwa [← Text.Utf8.decode_rewrite, LineEnding.rewrite_lineFeed] at spelled
  rw [sourceText, sourceText, Text.Utf8.decode_rewrite, Text.normalizeNewlines_respell _ absent,
    plain]

/-! ### Rewritten stores -/

/-- An entry whose lines, if it is a file, end in the given way. -/
def Entry.withLineEnding (ending : LineEnding) : Entry → Entry
  | .file bytes => .file (ending.rewrite bytes)
  | .directory => .directory

namespace FileStore

/-- A store in which the lines of each file end in the way given for its place. -/
def withLineEndings (store : FileStore) (endings : List String → LineEnding) : FileStore :=
  { store with files := store.files.map fun file => (file.1, (endings file.1).rewrite file.2) }

/-- What is found at the end of a walk, with its lines ended in the way given for its place. -/
def endLines (endings : List String → LineEnding) (found : List String × Entry) :
    List String × Entry :=
  (found.1, found.2.withLineEnding (endings found.1))

section Endings

variable (store : FileStore) (endings : List String → LineEnding)

theorem withLineEndings_find (path : Path) :
    (store.withLineEndings endings).find path = (store.find path).map (endLines endings) :=
  store.withContents_find (fun place => (endings place).rewrite) path

theorem withLineEndings_isFile (path : Path) :
    (store.withLineEndings endings).isFile path = store.isFile path :=
  store.withContents_isFile (fun place => (endings place).rewrite) path

theorem withLineEndings_isDirectory (path : Path) :
    (store.withLineEndings endings).isDirectory path = store.isDirectory path :=
  store.withContents_isDirectory (fun place => (endings place).rewrite) path

theorem withLineEndings_children (path : Path) :
    (store.withLineEndings endings).children path = store.children path :=
  store.withContents_children (fun place => (endings place).rewrite) path

end Endings

end FileStore

theorem withLineEndings_siblings (store : FileStore) (endings : List String → LineEnding) :
    siblings (store.withLineEndings endings) = siblings store := by
  funext target
  unfold siblings isSibling
  simp only [FileStore.withLineEndings_isDirectory, FileStore.withLineEndings_isFile,
    FileStore.withLineEndings_children]

/-- A file is read alike if it had no carriage returns of its own, or kept its line feeds. -/
theorem withLineEndings_readSource {store : FileStore} {endings : List String → LineEnding}
    (plain : ∀ file ∈ store.files, endings file.1 = .lineFeed ∨ 0x0D ∉ file.2) :
    readSource (store.withLineEndings endings) = readSource store := by
  funext path
  unfold readSource FileStore.bytes
  rw [FileStore.withLineEndings_find]
  cases reached : store.find path with
  | error cause => rfl
  | ok found =>
      obtain ⟨components, entry⟩ := found
      cases entry with
      | directory => rfl
      | file bytes =>
          show Except.ok (sourceText ((endings components).rewrite bytes)) =
            Except.ok (sourceText bytes)
          have present : store.entry? components = some (.file bytes) :=
            (FileStore.find_eq_ok reached).2
          rcases plain _ (FileStore.mem_files_of_entry present) with kept | lacking
          · rw [kept, LineEnding.rewrite_lineFeed]
          · rw [sourceText_rewrite _ lacking]

/-! ### The analysis -/

/-- An analysis depends on a store only through the sources that it gives and the siblings that it
lists. -/
theorem analyze_congr {reading other : Reading} (sources : other.source = reading.source)
    (listings : siblings other.store = siblings reading.store) :
    analyze other = analyze reading := by
  have declared : other.declaredSheets = reading.declaredSheets := by
    unfold Reading.declaredSheets
    rw [sources]
  have shared : other.sharedKeys = reading.sharedKeys := by
    unfold Reading.sharedKeys
    rw [sources]
  have references : other.siblingReferences = reading.siblingReferences := by
    unfold Reading.siblingReferences
    rw [sources, listings]
  unfold analyze
  rw [declared, shared, references]

/-- An analysis ends the same way, with the same notices, however the lines of the files end that
hold no carriage returns of their own. -/
theorem analyze_line_endings (parse : Parse) (settings : Settings) (store : FileStore)
    (endings : List String → LineEnding) (target : Path) (shared : Option Path)
    (plain : ∀ file ∈ store.files, endings file.1 = .lineFeed ∨ 0x0D ∉ file.2) :
    analyze ⟨store.withLineEndings endings, parse⟩ settings target shared =
      analyze ⟨store, parse⟩ settings target shared := by
  have sources : Reading.source ⟨store.withLineEndings endings, parse⟩ =
      Reading.source ⟨store, parse⟩ := by
    unfold Reading.source
    rw [withLineEndings_readSource plain]
  rw [analyze_congr sources (withLineEndings_siblings store endings)]

namespace Sample

/-- A file whose first line ends within a character. -/
def cutView : List UInt8 :=
  "s.a; //".toUTF8.toList ++ [0xE2, 0x82, 0x0A] ++ "s.x; t.y;".toUTF8.toList

/-- The component with a damaged file beside it. -/
def cutStore : FileStore :=
  ⟨[(["Card.js"], "const s =\nStyleSheet.create({ a: {} });".toUTF8.toList),
    (["View.js"], cutView)], [], []⟩

/-- Carriage returns alone in the component, carriage returns and line feeds beside it. -/
def mixedEndings (components : List String) : LineEnding :=
  if components = ["Card.js"] then .carriageReturn else .both

end Sample

theorem sample_line_endings :
    (∀ file ∈ Sample.cutStore.files,
      Sample.mixedEndings file.1 = .lineFeed ∨ 0x0D ∉ file.2) ∧
    (∀ file ∈ (Sample.cutStore.withLineEndings Sample.mixedEndings).files, 0x0D ∈ file.2) ∧
    readSource (Sample.cutStore.withLineEndings Sample.mixedEndings) ⟨.here, ["View.js"]⟩ =
      .ok "s.a; //\uFFFD\ns.x; t.y;" ∧
    analyze ⟨Sample.cutStore.withLineEndings Sample.mixedEndings, Script.readers.parse⟩ .standard
        Sample.card none =
      analyze ⟨Sample.cutStore, Script.readers.parse⟩ .standard Sample.card none := by
  have plain : ∀ file ∈ Sample.cutStore.files,
      Sample.mixedEndings file.1 = .lineFeed ∨ 0x0D ∉ file.2 := by
    decide +kernel
  exact ⟨plain, by decide +kernel, by decide +kernel,
    analyze_line_endings Script.readers.parse .standard Sample.cutStore Sample.mixedEndings
      Sample.card none plain⟩

end StyleAudit
