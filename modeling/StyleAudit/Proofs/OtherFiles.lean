import StyleAudit.Proofs.Requirements

/-!
What a file of another suffix changes.

Two stores that differ in one file agree on every path that does not lead through its place. So an
analysis ends the same way in both when the pattern of the target's suffix does not match the name
of this file: it is not listed beside the target, and all that is read is read alike.
-/

set_option autoImplicit false

namespace StyleAudit

/-! ### Stores that differ in one file -/

namespace Path

/-- The places that a path leads through, seen from a directory. -/
def places (directory : List String) (path : Path) : List (List String) :=
  path.components.scanl step (if path.isAbsolute then [] else directory)

end Path

namespace FileStore

/-- Two stores that are alike everywhere but at one place, which is no directory in either. A file
there may have been written, removed, or given other content. -/
structure DifferOnlyAt (place : List String) (store other : FileStore) : Prop where
  current : other.current = store.current
  elsewhere : ∀ components, components ≠ place → other.entry? components = store.entry? components
  before : store.entry? place ≠ some .directory
  after : other.entry? place ≠ some .directory

theorem DifferOnlyAt.symm {place : List String} {store other : FileStore}
    (differ : store.DifferOnlyAt place other) : other.DifferOnlyAt place store where
  current := differ.current.symm
  elsewhere := fun components apart => (differ.elsewhere components apart).symm
  before := differ.after
  after := differ.before

/-- A file written where nothing was is the only difference. -/
theorem Vacant.differOnlyAt {store : FileStore} {path : Path} (vacant : store.Vacant path)
    (bytes : List UInt8) :
    store.DifferOnlyAt (path.resolveFrom store.current) (store.write path bytes) where
  current := rfl
  elsewhere := fun _ apart => vacant.write_entry bytes apart
  before := by simp [vacant.empty]
  after := by
    have written : (store.write path bytes).files.lookup (path.resolveFrom store.current) =
        some bytes := Keyed.lookup_put_self _ _ _
    unfold entry?
    simp [written]

/-- A walk that reaches a directory has passed directories only. -/
theorem directory_of_mem_scanl {store : FileStore} {here components place : List String}
    {directory : List String} (reached : store.walk here components = .ok (directory, .directory))
    (passed : place ∈ components.scanl Path.step here) : store.entry? place = some .directory := by
  induction components generalizing here with
  | nil =>
      rw [List.scanl_nil, List.mem_singleton] at passed
      obtain ⟨ended, present⟩ := walk_eq_ok reached
      have here_eq : directory = here := ended
      rw [passed, ← here_eq]
      exact present
  | cons component rest ih =>
      rw [List.scanl_cons, List.mem_cons] at passed
      simp only [walk] at reached
      split at reached
      · rename_i present
        rcases passed with rfl | later
        · exact present
        · exact ih reached later
      · cases reached
      · cases reached

section Differ

variable {store other : FileStore} {place : List String} (differ : store.DifferOnlyAt place other)

include differ

theorem DifferOnlyAt.walk {here components : List String}
    (avoids : place ∉ components.scanl Path.step here) :
    other.walk here components = store.walk here components := by
  induction components generalizing here with
  | nil =>
      rw [List.scanl_nil, List.mem_singleton] at avoids
      simp only [FileStore.walk, differ.elsewhere here (Ne.symm avoids)]
  | cons component rest ih =>
      rw [List.scanl_cons, List.mem_cons, not_or] at avoids
      simp only [FileStore.walk, differ.elsewhere here (Ne.symm avoids.1), ih avoids.2]

theorem DifferOnlyAt.find {path : Path} (avoids : place ∉ path.places store.current) :
    other.find path = store.find path := by
  unfold FileStore.find
  rw [differ.current]
  exact differ.walk avoids

theorem DifferOnlyAt.find_directory {path : Path} (directory : store.isDirectory path = true) :
    other.find path = store.find path := by
  apply differ.find
  intro passed
  exact differ.before
    (directory_of_mem_scanl ((isDirectory_iff store path).mp directory) passed)

theorem DifferOnlyAt.isDirectory {path : Path} (directory : store.isDirectory path = true) :
    other.isDirectory path = true := by
  unfold FileStore.isDirectory
  rw [differ.find_directory directory]
  exact directory

/-- In the directory of the place only one name leads elsewhere. -/
theorem DifferOnlyAt.find_child {path : Path} {name child : String}
    (directory : store.isDirectory path = true)
    (changed : place = path.resolveFrom store.current ++ [name]) (apart : child ≠ name) :
    other.find (path.child child) = store.find (path.child child) := by
  have reached := (isDirectory_iff store path).mp directory
  have kept : other.entry? (Path.step (path.resolveFrom store.current) child) =
      store.entry? (Path.step (path.resolveFrom store.current) child) := by
    apply differ.elsewhere
    rw [changed]
    exact step_ne apart
  rw [FileStore.find_child store path child _ reached,
    FileStore.find_child other path child _ ((differ.find_directory directory).trans reached), kept]

theorem DifferOnlyAt.mem_names {path : Path} {name child : String}
    (changed : place = path.resolveFrom store.current ++ [name]) (apart : child ≠ name) :
    child ∈ other.names (path.resolveFrom other.current) ↔
      child ∈ store.names (path.resolveFrom store.current) := by
  have elsewhere : path.resolveFrom store.current ++ [child] ≠ place := by
    rw [changed]
    intro same
    exact apart (List.singleton_inj.mp (List.append_cancel_left same))
  rw [differ.current, mem_names_iff_entry, mem_names_iff_entry, differ.elsewhere _ elsewhere]

end Differ

end FileStore

/-! ### Siblings -/

section Unlisted

variable {store other : FileStore} {place : List String} {target : Path} {name : String}

theorem accepts_of_isSibling {pattern : Pattern} {child : String}
    (listed : isSibling store target pattern (target.parent.child child) = true) :
    pattern.accepts child = true := by
  simp only [isSibling, Bool.and_eq_true, Path.name_child] at listed
  exact listed.1.1

theorem ne_of_accepts {pattern : Pattern} {child : String} (matched : pattern.accepts child = true)
    (unmatched : pattern.accepts name = false) : child ≠ name := by
  rintro rfl
  rw [unmatched] at matched
  cases matched

/-- What is listed in one store is listed in the other. -/
theorem mem_siblings_of_differ {files others : List Path}
    (differ : store.DifferOnlyAt place other)
    (changed : place = target.parent.resolveFrom store.current ++ [name])
    (unmatched : ∀ pattern, Pattern.ofText? ("*" ++ target.suffix) = some pattern →
      pattern.accepts name = false)
    (success : siblings store target = .ok files) (after : siblings other target = .ok others)
    {path : Path} (listed : path ∈ files) : path ∈ others := by
  obtain ⟨directory, pattern, usable, _⟩ := (siblings_eq_ok_iff store target files).mp success
  have directory' := differ.isDirectory directory
  obtain ⟨child, present, rfl, matching⟩ := (mem_siblings_iff directory usable success).mp listed
  have apart : child ≠ name :=
    ne_of_accepts (accepts_of_isSibling matching) (unmatched pattern usable)
  refine (mem_siblings_iff directory' usable after).mpr ⟨child, ?_, rfl, ?_⟩
  · exact (differ.mem_names changed apart).mpr present
  · simpa only [isSibling, FileStore.isFile, differ.find_child directory changed apart] using
      matching

theorem siblings_of_differ (differ : store.DifferOnlyAt place other)
    (changed : place = target.parent.resolveFrom store.current ++ [name])
    (unmatched : ∀ pattern, Pattern.ofText? ("*" ++ target.suffix) = some pattern →
      pattern.accepts name = false)
    (directory : store.isDirectory target.parent = true) :
    siblings other target = siblings store target := by
  have directory' := differ.isDirectory directory
  cases usable : Pattern.ofText? ("*" ++ target.suffix) with
  | none => simp only [siblings, directory, directory', usable]
  | some pattern =>
      obtain ⟨files, success⟩ : ∃ files, siblings store target = .ok files :=
        ⟨_, (siblings_eq_ok_iff store target _).mpr ⟨directory, pattern, usable, rfl⟩⟩
      obtain ⟨others, after⟩ : ∃ others, siblings other target = .ok others :=
        ⟨_, (siblings_eq_ok_iff other target _).mpr ⟨directory', pattern, usable, rfl⟩⟩
      have changed' : place = target.parent.resolveFrom other.current ++ [name] := by
        rw [differ.current]
        exact changed
      rw [success, after]
      congr 1
      refine (siblings_increasing after).eq_of_perm (siblings_increasing success) ?_
      rw [List.perm_ext_iff_of_nodup (siblings_nodup after) (siblings_nodup success)]
      intro path
      constructor
      · exact mem_siblings_of_differ differ.symm changed' unmatched after success
      · exact mem_siblings_of_differ differ changed unmatched success after

end Unlisted

/-! ### The analysis -/

theorem Reading.source_congr {store other : FileStore} {parse : Parse} {path : Path}
    (same : other.find path = store.find path) :
    Reading.source ⟨other, parse⟩ path = Reading.source ⟨store, parse⟩ path := by
  simp only [Reading.source, readSource, FileStore.bytes, same]

section Unread

variable {store other : FileStore} {target : Path} {name : String} (parse : Parse)
  (differ : store.DifferOnlyAt (target.parent.resolveFrom store.current ++ [name]) other)
  (directory : store.isDirectory target.parent = true)

include differ directory

/-- Every other file beside the target is read alike. -/
theorem source_child_of_differ {child : String} (apart : child ≠ name) :
    Reading.source ⟨other, parse⟩ (target.parent.child child) =
      Reading.source ⟨store, parse⟩ (target.parent.child child) :=
  Reading.source_congr (differ.find_child directory rfl apart)

theorem siblingReferences_of_differ (stylesNames : List String)
    (unmatched : ∀ pattern, Pattern.ofText? ("*" ++ target.suffix) = some pattern →
      pattern.accepts name = false) :
    Reading.siblingReferences ⟨other, parse⟩ target stylesNames =
      Reading.siblingReferences ⟨store, parse⟩ target stylesNames := by
  simp only [Reading.siblingReferences, siblings_of_differ differ rfl unmatched directory]
  cases listed : siblings store target with
  | error fault => rfl
  | ok files =>
      have sources : files.map (Reading.source ⟨other, parse⟩) =
          files.map (Reading.source ⟨store, parse⟩) := by
        apply List.map_congr_left
        intro path member
        obtain ⟨_, pattern, usable, _⟩ := (siblings_eq_ok_iff store target files).mp listed
        obtain ⟨child, _, rfl, matching⟩ := (mem_siblings_iff directory usable listed).mp member
        exact source_child_of_differ parse differ directory
          (ne_of_accepts (accepts_of_isSibling matching) (unmatched pattern usable))
      show (collectReferences stylesNames (files.map _)).mapError Fault.failure =
        (collectReferences stylesNames (files.map _)).mapError Fault.failure
      rw [sources]

/-- An analysis ends the same way in two stores that differ in one file beside the target, if the
pattern of the target's suffix does not match its name. -/
theorem analyze_of_differ (settings : Settings) {shared : Option Path}
    (beside : ∃ own, target = target.parent.child own ∧ own ≠ name)
    (apart : ∀ path ∈ shared,
      target.parent.resolveFrom store.current ++ [name] ∉ path.places store.current)
    (unmatched : ∀ pattern, Pattern.ofText? ("*" ++ target.suffix) = some pattern →
      pattern.accepts name = false) :
    analyze ⟨other, parse⟩ settings target shared =
      analyze ⟨store, parse⟩ settings target shared := by
  have targetSource : Reading.source ⟨other, parse⟩ target =
      Reading.source ⟨store, parse⟩ target := by
    obtain ⟨own, place, different⟩ := beside
    rw [place]
    exact source_child_of_differ parse differ directory different
  have declared : Reading.declaredSheets ⟨other, parse⟩ settings target =
      Reading.declaredSheets ⟨store, parse⟩ settings target := by
    simp only [Reading.declaredSheets, targetSource]
  have sharedKeys : Reading.sharedKeys ⟨other, parse⟩ shared =
      Reading.sharedKeys ⟨store, parse⟩ shared := by
    cases shared with
    | none => rfl
    | some path =>
        simp only [Reading.sharedKeys, Reading.source_congr (differ.find (apart path rfl))]
  simp only [analyze, declared, sharedKeys,
    siblingReferences_of_differ parse differ directory _ unmatched]

end Unread

/-- For a target with a suffix that holds no sign of a pattern, a file of another suffix beside it
changes neither the result nor the fault nor what is noticed, whether this file is written, changed
or removed. The pattern also matches a dot file that has the target's suffix for its whole name,
which is left out here. -/
theorem analyze_other_suffix (parse : Parse) (settings : Settings) (store other : FileStore)
    (target : Path) (shared : Option Path) (name : String)
    (directory : store.isDirectory target.parent = true)
    (differ : store.DifferOnlyAt (target.parent.resolveFrom store.current ++ [name]) other)
    (apart : ∀ path ∈ shared,
      target.parent.resolveFrom store.current ++ [name] ∉ path.places store.current)
    (suffixed : target.suffix ≠ "")
    (literal : ∀ character ∈ target.suffix.toList, Pattern.IsLiteral character)
    (unlike : (target.parent.child name).suffix ≠ target.suffix) (visible : name ≠ target.suffix) :
    analyze ⟨other, parse⟩ settings target shared =
      analyze ⟨store, parse⟩ settings target shared := by
  have unlikeName : (Path.stemAndSuffix name).2 ≠ target.suffix := by
    simpa only [Path.suffix, Path.name_child] using unlike
  refine analyze_of_differ parse differ directory settings ?_ apart ?_
  · refine ⟨target.name, (Path.parent_child_name ?_).symm, ?_⟩
    · exact Path.components_ne_nil_of_suffix suffixed
    · rintro rfl
      exact unlikeName rfl
  · intro pattern spelled
    rw [Pattern.ofText?_star_literals _ literal] at spelled
    cases spelled
    rw [Bool.eq_false_iff, ne_eq, Pattern.accepts_star_literals_iff]
    intro within
    exact unlikeName (Path.suffix_of_endsWith suffixed within visible)

namespace Sample

/-- A file beside the component that is no program. -/
def notes : Path :=
  ⟨.here, ["notes.txt"]⟩

def notesBytes : List UInt8 :=
  "function (".toUTF8.toList

end Sample

/-- The file can be added next to the component, and the analysis with the shared style file does
not notice it. -/
theorem sample_other_suffix :
    Sample.store.DifferOnlyAt ["notes.txt"] (Sample.store.write Sample.notes Sample.notesBytes) ∧
    FileStore.entry? (Sample.store.write Sample.notes Sample.notesBytes) ["notes.txt"] =
      some (.file Sample.notesBytes) ∧
    analyze ⟨Sample.store.write Sample.notes Sample.notesBytes, Script.readers.parse⟩ .standard
        Sample.card (some Sample.theme) =
      analyze ⟨Sample.store, Script.readers.parse⟩ .standard Sample.card (some Sample.theme) := by
  have vacant : Sample.store.Vacant Sample.notes := ⟨by decide +kernel, by decide +kernel⟩
  have differ := vacant.differOnlyAt Sample.notesBytes
  refine ⟨differ, by decide +kernel, ?_⟩
  refine analyze_other_suffix _ _ _ _ Sample.card (some Sample.theme) "notes.txt"
    (by decide +kernel) differ ?_ (by decide) Sample.card_suffix_literal (by decide) (by decide)
  rintro path ⟨⟩
  decide

namespace Sample

/-- The component under a name without a suffix. -/
def bareCard : Path :=
  ⟨.here, ["Card"]⟩

def bareStore : FileStore :=
  ⟨[(["Card"], cardText.toUTF8.toList)], [], []⟩

theorem siblings_bareCard : siblings bareStore bareCard = .ok [] := by
  rw [siblings_eq_ok_iff]
  exact ⟨by decide +kernel, ⟨[.anything]⟩, by decide +kernel,
    Path.sort_eq_of_perm (by decide +kernel) (by decide +kernel)⟩

theorem siblings_bareCard_notes :
    siblings (bareStore.write notes notesBytes) bareCard = .ok [notes] := by
  rw [siblings_eq_ok_iff]
  exact ⟨by decide +kernel, ⟨[.anything]⟩, by decide +kernel,
    Path.sort_eq_of_perm (by decide +kernel) (by decide +kernel)⟩

theorem declaredSheets_bareCard (store : FileStore)
    (present : store.bytes bareCard = .ok cardText.toUTF8.toList) :
    (Reading.declaredSheets ⟨store, Script.readers.parse⟩ .standard bareCard).result =
      .ok cardExtraction := by
  have text : sourceText cardText.toUTF8.toList = cardText := by decide +kernel
  have read : Reading.source ⟨store, Script.readers.parse⟩ bareCard =
      .ok (sourceOf "Card" cardText) := by
    apply source_plain
    · simp only [readSource, present, text]
    · decide +kernel
  rw [Reading.declaredSheets_eq_ok_iff]
  exact ⟨_, .standard, cardExtraction.sheets, read, rfl, by decide +kernel, by decide +kernel⟩

theorem siblingSources_bareCard :
    Reading.siblingSources ⟨bareStore, Script.readers.parse⟩ bareCard = .ok [] :=
  (Reading.siblingSources_eq_ok_iff _ _ _).mpr ⟨[], siblings_bareCard, .nil⟩

theorem siblingSources_bareCard_notes : ∃ position,
    Reading.siblingSources ⟨bareStore.write notes notesBytes, Script.readers.parse⟩ bareCard =
      .error (.failure (.syntaxError "notes.txt" position)) := by
  obtain ⟨position, parsed⟩ : ∃ position, Script.readers.parse (sourceText notesBytes) "notes.txt" =
      .error (.syntaxError "notes.txt" position) :=
    parse_eq_error Script.readers _ _ (by decide +kernel) (by decide +kernel)
  have present : FileStore.bytes (bareStore.write notes notesBytes) notes = .ok notesBytes := by
    decide +kernel
  have read : Reading.source ⟨bareStore.write notes notesBytes, Script.readers.parse⟩ notes =
      .error (.syntaxError "notes.txt" position) := by
    rw [Reading.source_of_bytes _ present, Parse.source]
    show Except.map _ (Script.readers.parse (sourceText notesBytes) "notes.txt") = _
    rw [parsed]
    rfl
  refine ⟨position, ?_⟩
  rw [Reading.siblingSources, siblings_bareCard_notes]
  show ([notes].mapM _ : Except Failure (List Source)).mapError Fault.failure = _
  rw [List.mapM_cons, read]
  rfl

end Sample

/-- The pattern of a target without a suffix matches every name. A file with a suffix is read along,
and when it is no program the analysis, which had a result without it, fails at it. -/
theorem unsuffixed_reads_suffixed :
    Sample.bareStore.DifferOnlyAt ["notes.txt"]
      (Sample.bareStore.write Sample.notes Sample.notesBytes) ∧
    Sample.notes.suffix ≠ Sample.bareCard.suffix ∧
    (∃ result, (analyze ⟨Sample.bareStore, Script.readers.parse⟩ .standard Sample.bareCard
      none).result = .ok result) ∧
    ∃ position, (analyze ⟨Sample.bareStore.write Sample.notes Sample.notesBytes,
      Script.readers.parse⟩ .standard Sample.bareCard none).result =
        .error (.failure (.syntaxError "notes.txt" position)) := by
  have vacant : Sample.bareStore.Vacant Sample.notes := ⟨by decide +kernel, by decide +kernel⟩
  refine ⟨vacant.differOnlyAt Sample.notesBytes, by decide, ?_, ?_⟩
  · rw [analyze_result, Sample.declaredSheets_bareCard _ (by decide +kernel),
      Reading.sharedKeys_none_result, Sample.siblingSources_bareCard]
    exact ⟨_, rfl⟩
  · obtain ⟨position, failed⟩ := Sample.siblingSources_bareCard_notes
    refine ⟨position, ?_⟩
    rw [analyze_result, Sample.declaredSheets_bareCard _ (by decide +kernel),
      Reading.sharedKeys_none_result, failed]
    rfl

end StyleAudit
