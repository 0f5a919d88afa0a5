import StyleAudit.Proofs.Decoding
import StyleAudit.Proofs.Inside
import StyleAudit.Proofs.Precedence

/-!
Loading the message files of a directory.

Files are read in the order of their paths. A file that holds no JSON value is passed over, and the
others go on. A file that holds a table adds its members, in place of those that earlier files have
under the same names. A file that holds any other value ends the loading.
-/

set_option autoImplicit false

namespace StyleAudit

/-! ### What a file holds -/

/-- The JSON value that a file holds, if it can be opened, is UTF-8 throughout and says one. -/
def FileStore.jsonIn? (store : FileStore) (path : Path) : Option Value := do
  let bytes ← (store.bytes path).toOption
  let characters ← Text.Utf8.decode? bytes
  (Json.parse (String.ofList (Text.normalizeNewlines characters))).toOption

namespace MessageFile

/-- The members of a table as messages. -/
def messagesOf (members : List (String × Value)) : Messages :=
  members.map fun (key, value) => (key, value.display)

theorem lookup_messagesOf (members : List (String × Value)) (key : String) :
    (messagesOf members).lookup key = (members.lookup key).map Value.display := by
  induction members with
  | nil => rfl
  | cons member rest ih =>
      obtain ⟨name, value⟩ := member
      rw [messagesOf, List.map_cons, List.lookup_cons, List.lookup_cons]
      cases key == name
      · exact ih
      · rfl

/-- What becomes of a file is told by the value in it. -/
theorem read_of_jsonIn (store : FileStore) (path : Path) :
    match store.jsonIn? path with
    | some (.table members) => read store path = .messages (messagesOf members)
    | some _ => read store path = .notTable
    | none => ∃ reason, read store path = .skipped reason := by
  unfold read FileStore.jsonIn?
  cases opened : store.bytes path with
  | error cause => exact ⟨_, rfl⟩
  | ok bytes =>
      cases damage : Text.Utf8.damage? bytes with
      | some found =>
          have unread : Text.Utf8.decode? bytes = none := by
            rw [Option.eq_none_iff_forall_ne_some]
            intro characters decoded
            rw [((Text.Utf8.decode?_eq_some_iff bytes characters).mp decoded).1] at damage
            cases damage
          simp only [Except.toOption, Option.bind_eq_bind, Option.bind_some, unread,
            Option.bind_none, ofBytes, damage]
          exact ⟨_, rfl⟩
      | none =>
          have decoded := (Text.Utf8.decode?_eq_some_iff bytes _).mpr ⟨damage, rfl⟩
          simp only [Except.toOption, Option.bind_eq_bind, Option.bind_some, decoded, ofBytes,
            damage, ofText]
          cases parsed : Json.parse
              (String.ofList (Text.normalizeNewlines (Text.Utf8.decode bytes))) with
          | error error => exact ⟨_, rfl⟩
          | ok value => cases value <;> rfl

end MessageFile

/-! ### Which files are read -/

/-- Whether a path goes on from a directory by ordinary names to a regular file whose suffix, in
whatever case, is that of JSON. -/
structure Path.IsMessageFileIn (path : Path) (store : FileStore) (directory : Path) : Prop where
  inside : ∃ names, names ≠ [] ∧ ".." ∉ names ∧ path = directory.below names
  file : store.isFile path = true
  suffix : path.suffix.toLower = ".json"

namespace Loading

variable {store : FileStore}

theorem mem_filesInside_iff (ordinary : store.IsOrdinary) (directory path : Path) :
    path ∈ filesInside store directory ↔ path.IsMessageFileIn store directory := by
  rw [filesInside, Path.mem_sort, List.mem_filter, FileStore.mem_allInside_iff ordinary,
    Bool.and_eq_true, isMessageName, beq_iff_eq]
  constructor
  · rintro ⟨⟨names, occupied, plain, below, _⟩, file, suffix⟩
    exact ⟨⟨names, occupied, plain, below⟩, file, suffix⟩
  · rintro ⟨⟨names, occupied, plain, below⟩, file, suffix⟩
    refine ⟨⟨names, occupied, plain, below, ?_⟩, file, suffix⟩
    unfold FileStore.isFile at file
    split at file
    · rename_i found
      exact ⟨_, found⟩
    · cases file

theorem filesInside_increasing (store : FileStore) (directory : Path) :
    Path.Increasing (filesInside store directory) := by
  refine Path.sort_increasing ((store.allInside_keys_nodup directory).sublist ?_)
  exact List.filter_sublist.map Path.sortKey

/-! ### Loads one after the other -/

/-- Loads that come to their end pass over what each of them passes over. -/
theorem foldl_append_skipped {loadings : List Loading} {start : Loading}
    (startWhole : start.IsWhole) (each : ∀ loading ∈ loadings, loading.IsWhole) :
    (loadings.foldl append start).skipped =
      start.skipped ++ loadings.flatMap (·.skipped) := by
  induction loadings generalizing start with
  | nil => simp
  | cons loading rest ih =>
      have whole := append_isWhole startWhole (each loading List.mem_cons_self)
      obtain ⟨base, loaded⟩ := startWhole
      rw [List.foldl_cons, ih whole fun other member => each other (List.mem_cons_of_mem _ member),
        append, loaded, List.flatMap_cons, List.append_assoc]

theorem append_isWhole_iff (first second : Loading) :
    (first.append second).IsWhole ↔ first.IsWhole ∧ second.IsWhole := by
  constructor
  · rintro ⟨messages, loaded⟩
    unfold append at loaded
    split at loaded
    · rename_i ended
      rw [ended] at loaded
      cases loaded
    · rename_i base before
      obtain ⟨later, after, _⟩ := Option.map_eq_some_iff.mp loaded
      exact ⟨⟨base, before⟩, ⟨later, after⟩⟩
  · rintro ⟨firstWhole, secondWhole⟩
    exact append_isWhole firstWhole secondWhole

/-- A load that does not come to its end ends the loading as a whole. -/
theorem foldl_append_isWhole_iff (loadings : List Loading) (start : Loading) :
    (loadings.foldl append start).IsWhole ↔
      start.IsWhole ∧ ∀ loading ∈ loadings, loading.IsWhole := by
  induction loadings generalizing start with
  | nil => simp
  | cons loading rest ih =>
      rw [List.foldl_cons, ih, append_isWhole_iff, List.forall_mem_cons, and_assoc]

theorem ofFile_isWhole_iff (path : Path) :
    (ofFile store path).IsWhole ↔ MessageFile.read store path ≠ .notTable := by
  refine ⟨fun whole ended => ?_, fun table => (ofFile_of_table table).1⟩
  obtain ⟨messages, loaded⟩ := whole
  rw [ofFile, ended] at loaded
  cases loaded

theorem ofDirectory_isWhole_iff (directory : Path) :
    (ofDirectory store directory).IsWhole ↔
      ∀ path ∈ filesInside store directory, MessageFile.read store path ≠ .notTable := by
  show (List.foldl append empty _).IsWhole ↔ _
  rw [foldl_append_isWhole_iff, List.forall_mem_map]
  simp only [ofFile_isWhole_iff, empty_isWhole, true_and]
  rfl

end Loading

/-! ### Texts one over the other -/

section Overlays

variable {α : Type} (textsOf : α → Texts) (key : String)

theorem foldl_overlay_eq_none_iff (places : List α) :
    places.foldl (fun base place => overlay base (textsOf place)) (fun _ => none) key = none ↔
      ∀ place ∈ places, textsOf place key = none := by
  induction places with
  | nil => simp
  | cons place rest ih =>
      rw [Catalogue.foldl_overlay_cons, overlay, Option.or_eq_none_iff, ih, List.forall_mem_cons,
        and_comm]

/-- Among texts that lie one over the other, that of the last place that has one counts. -/
theorem foldl_overlay_eq_some_iff (places : List α) (text : String) :
    places.foldl (fun base place => overlay base (textsOf place)) (fun _ => none) key = some text ↔
      ∃ before place after, places = before ++ place :: after ∧ textsOf place key = some text ∧
        ∀ later ∈ after, textsOf later key = none := by
  induction places with
  | nil => simp
  | cons first rest ih =>
      rw [Catalogue.foldl_overlay_cons, overlay, Option.or_eq_some_iff, ih,
        foldl_overlay_eq_none_iff]
      constructor
      · rintro (⟨before, place, after, rfl, held, silent⟩ | ⟨silent, held⟩)
        · exact ⟨first :: before, place, after, rfl, held, silent⟩
        · exact ⟨[], first, rest, rfl, held, silent⟩
      · rintro ⟨before, place, after, split, held, silent⟩
        cases before with
        | nil =>
            obtain ⟨rfl, rfl⟩ := List.cons.inj split
            exact Or.inr ⟨silent, held⟩
        | cons other more =>
            exact Or.inl ⟨more, place, after, (List.cons.inj split).2, held, silent⟩

end Overlays

/-! ### Loading a directory -/

namespace MessageFile

variable (store : FileStore)

theorem read_ne_notTable_iff (path : Path) :
    read store path ≠ .notTable ↔
      ∀ value, store.jsonIn? path = some value → ∃ members, value = .table members := by
  have told := read_of_jsonIn store path
  cases held : store.jsonIn? path with
  | none =>
      rw [held] at told
      obtain ⟨reason, skipped⟩ := told
      simp [skipped]
  | some value =>
      rw [held] at told
      cases value <;> simp_all

/-- The texts of a file are those of the table in it. -/
theorem texts_read_eq_some_iff (path : Path) (key text : String) :
    (read store path).texts key = some text ↔
      ∃ members value, store.jsonIn? path = some (.table members) ∧
        members.lookup key = some value ∧ text = value.display := by
  have told := read_of_jsonIn store path
  cases held : store.jsonIn? path with
  | none =>
      rw [held] at told
      obtain ⟨reason, skipped⟩ := told
      simp [skipped, texts]
  | some value =>
      rw [held] at told
      cases value with
      | table members =>
          dsimp only at told
          simp [told, texts, lookup_messagesOf, eq_comm]
      | _ =>
          dsimp only at told
          simp [told, texts]

theorem texts_read_eq_none_iff (path : Path) (key : String) :
    (read store path).texts key = none ↔
      ∀ members, store.jsonIn? path = some (.table members) → members.lookup key = none := by
  rw [Option.eq_none_iff_forall_ne_some]
  simp only [ne_eq, texts_read_eq_some_iff, not_exists, not_and]
  constructor
  · intro silent members held
    rw [Option.eq_none_iff_forall_ne_some]
    exact fun value found => silent value.display members value held found rfl
  · intro silent text members value held found
    rw [silent members held] at found
    cases found

end MessageFile

namespace Loading

variable {store : FileStore}

/-- A file that does not end the loading is passed over when it holds no value. -/
theorem ofFile_skipped {path : Path} (table : MessageFile.read store path ≠ .notTable) :
    (ofFile store path).skipped.map (·.path) =
      [path].filter fun path => (store.jsonIn? path).isNone := by
  have told := MessageFile.read_of_jsonIn store path
  cases held : store.jsonIn? path with
  | none =>
      rw [held] at told
      obtain ⟨reason, skipped⟩ := told
      simp [ofFile, skipped, held]
  | some value =>
      rw [held] at told
      cases value with
      | table members => simp [ofFile, told, held]
      | _ => exact absurd told table

theorem flatMap_skipped {files : List Path}
    (tables : ∀ path ∈ files, MessageFile.read store path ≠ .notTable) :
    files.flatMap (fun path => (ofFile store path).skipped.map (·.path)) =
      files.filter fun path => (store.jsonIn? path).isNone := by
  induction files with
  | nil => rfl
  | cons path rest ih =>
      rw [List.forall_mem_cons] at tables
      rw [List.flatMap_cons, ofFile_skipped tables.1, ih tables.2, ← List.filter_append]
      rfl

theorem ofDirectory_skipped {directory : Path}
    (tables : ∀ path ∈ filesInside store directory, MessageFile.read store path ≠ .notTable) :
    (ofDirectory store directory).skipped.map (·.path) =
      (filesInside store directory).filter fun path => (store.jsonIn? path).isNone := by
  have each : ∀ loading ∈ (filesInside store directory).map (ofFile store), loading.IsWhole := by
    rw [List.forall_mem_map]
    exact fun path inside => (ofFile_isWhole_iff path).mpr (tables path inside)
  have together : (ofDirectory store directory).skipped =
      ((filesInside store directory).map (ofFile store)).flatMap (·.skipped) :=
    foldl_append_skipped empty_isWhole each
  rw [together, List.flatMap_map, List.map_flatMap, flatMap_skipped tables]

end Loading

namespace Sample

/-- A folder with English messages in two files. A third file is broken, and a fourth one is no
message file. -/
def messageFolder : FileStore :=
  ⟨[(["r", "z.json"], "\x7b".toUTF8.toList),
    (["r", "sub", "B.JSON"], "\x7b\"k\": \"two\"\x7d".toUTF8.toList),
    (["r", "a.json"], "\x7b\"k\": \"one\", \"n\": [1, null]\x7d".toUTF8.toList),
    (["r", "notes.txt"], "[]".toUTF8.toList)], [], []⟩

theorem messageFolder_files : Loading.filesInside messageFolder ⟨.root, ["r"]⟩ =
    [⟨.root, ["r", "a.json"]⟩, ⟨.root, ["r", "sub", "B.JSON"]⟩, ⟨.root, ["r", "z.json"]⟩] :=
  Path.sort_eq_of_perm (by decide +kernel) (by decide +kernel)

/-- A folder with a list in a message file before one that holds a message. -/
def listFolder : FileStore :=
  ⟨[(["r", "a.json"], "[]".toUTF8.toList),
    (["r", "b.json"], "\x7b\"k\": \"v\"\x7d".toUTF8.toList)], [], []⟩

theorem listFolder_files : Loading.filesInside listFolder ⟨.root, ["r"]⟩ =
    [⟨.root, ["r", "a.json"]⟩, ⟨.root, ["r", "b.json"]⟩] :=
  Path.sort_eq_of_perm (by decide +kernel) (by decide +kernel)

end Sample

end StyleAudit
