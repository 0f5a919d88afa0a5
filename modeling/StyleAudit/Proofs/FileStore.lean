import StyleAudit.FileStore
import StyleAudit.Proofs.Keyed

/-!
Walking a file store, and writing a new file to it.

A walk ends where its components lead, one step for each. A file written where nothing was adds one
name to its directory; all that could be reached before is reached as before.
-/

set_option autoImplicit false

namespace StyleAudit.FileStore

/-! ### Directories and what lies in them -/

theorem isWithin_iff (outer inner : List String) :
    isWithin outer inner = true ↔ outer <+: inner := by
  rw [isWithin, List.isPrefixOf_iff_prefix]

theorem hasDirectory_iff (store : FileStore) (components : List String) :
    store.hasDirectory components = true ↔
      components <+: store.current ∨
      (∃ directory ∈ store.directories, components <+: directory) ∨
      ∃ file ∈ store.files, components <+: file.1 ∧ file.1 ≠ components := by
  simp only [hasDirectory, Bool.or_eq_true, isWithin_iff, List.any_eq_true, Bool.and_eq_true,
    bne_iff_ne, or_assoc]

/-- Whatever a directory lies in is a directory. -/
theorem hasDirectory_of_prefix (store : FileStore) {outer inner : List String}
    (within : outer <+: inner) (present : store.hasDirectory inner = true) :
    store.hasDirectory outer = true := by
  rw [hasDirectory_iff] at *
  rcases present with current | ⟨directory, member, inside⟩ | ⟨file, member, inside, different⟩
  · exact Or.inl (within.trans current)
  · exact Or.inr (Or.inl ⟨directory, member, within.trans inside⟩)
  · refine Or.inr (Or.inr ⟨file, member, within.trans inside, ?_⟩)
    intro same
    have equal : outer = inner := within.eq_of_length_le (same ▸ inside.length_le)
    exact different (same.trans equal)

theorem entry_eq_none_iff (store : FileStore) (components : List String) :
    store.entry? components = none ↔
      store.files.lookup components = none ∧ store.hasDirectory components = false := by
  unfold entry?
  cases store.files.lookup components <;> simp

theorem hasDirectory_of_entry {store : FileStore} {components : List String}
    (found : store.entry? components = some .directory) : store.hasDirectory components = true := by
  unfold entry? at found
  split at found
  · cases found
  · split at found
    · assumption
    · cases found

theorem afterComponents?_eq_some_iff (directory inner rest : List String) :
    Path.afterComponents? directory inner = some rest ↔ inner = directory ++ rest := by
  induction directory generalizing inner with
  | nil => simp [Path.afterComponents?]
  | cons expected others ih =>
      cases inner with
      | nil => simp [Path.afterComponents?]
      | cons component more =>
          by_cases same : expected = component
          · simp [Path.afterComponents?, same, ih]
          · simp [Path.afterComponents?, same, Ne.symm same]

theorem nameInside?_eq_some_iff (directory inner : List String) (name : String) :
    nameInside? directory inner = some name ↔ directory ++ [name] <+: inner := by
  simp only [nameInside?, Option.bind_eq_some_iff, afterComponents?_eq_some_iff,
    List.head?_eq_some_iff]
  constructor
  · rintro ⟨rest, rfl, more, rfl⟩
    exact ⟨more, by simp⟩
  · rintro ⟨more, rfl⟩
    exact ⟨name :: more, by simp, more, rfl⟩

theorem mem_names_iff (store : FileStore) (directory : List String) (name : String) :
    name ∈ store.names directory ↔
      ∃ inner, (inner ∈ store.files.map (·.1) ∨ inner ∈ store.directories ∨
        inner = store.current) ∧ directory ++ [name] <+: inner := by
  simp only [names, List.mem_eraseDups, List.mem_filterMap, List.mem_append, List.mem_singleton,
    nameInside?_eq_some_iff, or_assoc]

/-- A name stands in a directory exactly when something is at its place. -/
theorem mem_names_iff_entry (store : FileStore) (directory : List String) (name : String) :
    name ∈ store.names directory ↔ store.entry? (directory ++ [name]) ≠ none := by
  rw [mem_names_iff, ne_eq, entry_eq_none_iff, not_and_or, Bool.not_eq_false, hasDirectory_iff]
  constructor
  · rintro ⟨inner, file | inside | rfl, within⟩
    · obtain ⟨entry, member, rfl⟩ := List.mem_map.mp file
      by_cases same : entry.1 = directory ++ [name]
      · obtain ⟨bytes, present⟩ := Keyed.exists_lookup_of_mem (same ▸ file)
        exact Or.inl (Option.ne_none_iff_exists'.mpr ⟨bytes, present⟩)
      · exact Or.inr (Or.inr (Or.inr ⟨entry, member, within, same⟩))
    · exact Or.inr (Or.inr (Or.inl ⟨inner, inside, within⟩))
    · exact Or.inr (Or.inl within)
  · rintro (present | current | ⟨inner, inside, within⟩ | ⟨file, member, within, _⟩)
    · obtain ⟨bytes, found⟩ := Option.ne_none_iff_exists'.mp present
      have member := List.mem_map_of_mem (f := (·.1)) (Keyed.mem_of_lookup_eq_some found)
      exact ⟨_, Or.inl member, List.prefix_rfl⟩
    · exact ⟨_, Or.inr (Or.inr rfl), current⟩
    · exact ⟨inner, Or.inr (Or.inl inside), within⟩
    · exact ⟨file.1, Or.inl (List.mem_map_of_mem member), within⟩

theorem names_nodup (store : FileStore) (directory : List String) :
    (store.names directory).Nodup :=
  Keyed.nodup_eraseDups _

/-! ### Walks -/

theorem step_ne {directory : List String} {name other : String} (different : other ≠ name) :
    Path.step directory other ≠ directory ++ [name] := by
  unfold Path.step
  split
  · intro same
    have lengths := congrArg List.length same
    simp only [List.length_dropLast, List.length_append, List.length_cons, List.length_nil]
      at lengths
    omega
  · intro same
    exact different (List.singleton_inj.mp (List.append_cancel_left same))

theorem walk_eq_ok {store : FileStore} {here components : List String}
    {found : List String × Entry} (success : store.walk here components = .ok found) :
    found.1 = components.foldl Path.step here ∧ store.entry? found.1 = some found.2 := by
  induction components generalizing here with
  | nil =>
      simp only [walk] at success
      split at success
      · rename_i entry present
        cases success
        exact ⟨rfl, present⟩
      · cases success
  | cons component rest ih =>
      simp only [walk] at success
      split at success
      · exact ih success
      · cases success
      · cases success

theorem find_eq_ok {store : FileStore} {path : Path} {found : List String × Entry}
    (success : store.find path = .ok found) :
    found.1 = path.resolveFrom store.current ∧ store.entry? found.1 = some found.2 :=
  walk_eq_ok success

/-- Walking into a name of a directory looks at one more entry. -/
theorem walk_append_name (store : FileStore) (here components : List String) (name : String)
    (directory : List String) (reached : store.walk here components = .ok (directory, .directory)) :
    store.walk here (components ++ [name]) =
      match store.entry? (Path.step directory name) with
      | some entry => .ok (Path.step directory name, entry)
      | none => .error .notFound := by
  induction components generalizing here with
  | nil =>
      simp only [walk] at reached
      split at reached
      · rename_i entry present
        cases reached
        cases next : store.entry? (Path.step directory name) with
        | none => simp only [List.nil_append, walk, present, next]
        | some entry => simp only [List.nil_append, walk, present, next]
      · cases reached
  | cons component rest ih =>
      simp only [walk] at reached
      split at reached
      · rename_i present
        rw [List.cons_append, walk, present]
        exact ih _ reached
      · cases reached
      · cases reached

theorem find_child (store : FileStore) (path : Path) (name : String) (directory : List String)
    (reached : store.find path = .ok (directory, .directory)) :
    store.find (path.child name) =
      match store.entry? (Path.step directory name) with
      | some entry => .ok (Path.step directory name, entry)
      | none => .error .notFound :=
  walk_append_name store _ path.components name directory reached

theorem isDirectory_iff (store : FileStore) (path : Path) :
    store.isDirectory path = true ↔
      store.find path = .ok (path.resolveFrom store.current, .directory) := by
  unfold isDirectory
  split
  · rename_i components success
    have place := (find_eq_ok success).1
    simp only [success, true_iff]
    rw [show components = _ from place]
  · rename_i other
    simp only [Bool.false_eq_true, false_iff]
    intro success
    exact other _ success

theorem isFile_iff (store : FileStore) (path : Path) :
    store.isFile path = true ↔ ∃ bytes, store.bytes path = .ok bytes := by
  unfold isFile bytes
  cases store.find path with
  | error cause => simp [bind, Except.bind]
  | ok found =>
      obtain ⟨components, entry⟩ := found
      cases entry with
      | file bytes => simp [bind, Except.bind, pure, Except.pure]
      | directory => simp [bind, Except.bind, throw, throwThe, MonadExceptOf.throw]

theorem mem_files_of_entry {store : FileStore} {components : List String} {content : List UInt8}
    (placed : store.entry? components = some (.file content)) :
    (components, content) ∈ store.files := by
  unfold entry? at placed
  split at placed
  · rename_i written known
    cases placed
    exact Keyed.mem_of_lookup_eq_some known
  · split at placed <;> cases placed

/-- Bytes come from one of the files. -/
theorem exists_file_of_bytes {store : FileStore} {path : Path} {content : List UInt8}
    (opened : store.bytes path = .ok content) :
    ∃ components, (components, content) ∈ store.files := by
  unfold bytes at opened
  cases reached : store.find path with
  | error cause =>
      rw [reached] at opened
      cases opened
  | ok found =>
      obtain ⟨components, entry⟩ := found
      rw [reached] at opened
      cases entry with
      | directory => cases opened
      | file present =>
          cases opened
          exact ⟨components, mem_files_of_entry (find_eq_ok reached).2⟩

theorem entry_of_isFile {store : FileStore} {path : Path} (file : store.isFile path = true) :
    ∃ bytes, store.entry? (path.resolveFrom store.current) = some (.file bytes) := by
  unfold isFile at file
  split at file
  · rename_i components bytes success
    obtain ⟨place, present⟩ := find_eq_ok success
    exact ⟨bytes, place ▸ present⟩
  · cases file

/-! ### Other contents -/

end FileStore

/-- What a path leads to when the bytes of files are changed. -/
def Entry.withContent (change : List UInt8 → List UInt8) : Entry → Entry
  | .file bytes => .file (change bytes)
  | .directory => .directory

namespace FileStore

/-- A store in which every file holds other bytes, made from its own ones as its place says. -/
def withContents (store : FileStore) (change : List String → List UInt8 → List UInt8) :
    FileStore :=
  { store with files := store.files.map fun file => (file.1, change file.1 file.2) }

section Contents

variable (store : FileStore) (change : List String → List UInt8 → List UInt8)

theorem withContents_names (directory : List String) :
    (store.withContents change).names directory = store.names directory := by
  have places : (store.withContents change).files.map (·.1) = store.files.map (·.1) := by
    rw [withContents, List.map_map]
    rfl
  rw [names, places]
  rfl

theorem withContents_hasDirectory (components : List String) :
    (store.withContents change).hasDirectory components = store.hasDirectory components := by
  simp only [hasDirectory, withContents, List.any_map, Function.comp_def]

theorem withContents_lookup (components : List String) :
    (store.withContents change).files.lookup components =
      (store.files.lookup components).map (change components) := by
  unfold withContents
  dsimp only
  induction store.files with
  | nil => rfl
  | cons file rest ih =>
      rw [List.map_cons, List.lookup_cons, List.lookup_cons]
      cases here : components == file.1 with
      | false => exact ih
      | true => rw [eq_of_beq here, Option.map_some]

theorem withContents_entry (components : List String) :
    FileStore.entry? (store.withContents change) components =
      (store.entry? components).map (Entry.withContent (change components)) := by
  unfold entry?
  rw [withContents_lookup, withContents_hasDirectory]
  cases store.files.lookup components with
  | some bytes => rfl
  | none =>
      dsimp only [Option.map_none]
      split <;> rfl

theorem withContents_walk (here components : List String) :
    (store.withContents change).walk here components =
      (store.walk here components).map fun found =>
        (found.1, found.2.withContent (change found.1)) := by
  induction components generalizing here with
  | nil =>
      simp only [walk, withContents_entry]
      cases store.entry? here <;> rfl
  | cons component rest ih =>
      simp only [walk, withContents_entry]
      cases store.entry? here with
      | none => rfl
      | some entry =>
          cases entry with
          | file bytes => rfl
          | directory => exact ih _

theorem withContents_find (path : Path) :
    (store.withContents change).find path =
      (store.find path).map fun found => (found.1, found.2.withContent (change found.1)) :=
  store.withContents_walk change _ _

theorem withContents_isFile (path : Path) :
    (store.withContents change).isFile path = store.isFile path := by
  unfold isFile
  rw [withContents_find]
  rcases store.find path with _ | ⟨_, _ | _⟩ <;> rfl

theorem withContents_isDirectory (path : Path) :
    (store.withContents change).isDirectory path = store.isDirectory path := by
  unfold isDirectory
  rw [withContents_find]
  rcases store.find path with _ | ⟨_, _ | _⟩ <;> rfl

theorem withContents_children (path : Path) :
    (store.withContents change).children path = store.children path := by
  unfold children
  rw [withContents_find]
  rcases store.find path with _ | ⟨_, _ | _⟩
  · rfl
  · rfl
  · simp only [Except.map, Entry.withContent, withContents_names]

theorem withContents_bytes {store : FileStore} {path : Path} {bytes : List UInt8}
    (held : store.bytes path = .ok bytes) :
    (store.withContents change).bytes path =
      .ok (change (path.resolveFrom store.current) bytes) := by
  unfold FileStore.bytes at *
  rw [withContents_find]
  cases reached : store.find path with
  | error cause =>
      rw [reached] at held
      cases held
  | ok found =>
      obtain ⟨components, entry⟩ := found
      have place : components = path.resolveFrom store.current := (find_eq_ok reached).1
      rw [reached] at held
      cases entry with
      | directory => cases held
      | file content =>
          cases held
          rw [← place]
          rfl

end Contents

/-! ### A new file -/

/-- A place where a file can be written anew: nothing is there, and it lies in a directory. -/
structure Vacant (store : FileStore) (path : Path) : Prop where
  empty : store.entry? (path.resolveFrom store.current) = none
  home : store.hasDirectory (path.resolveFrom store.current).dropLast = true

variable {store : FileStore} {path : Path}

theorem Vacant.write_files (vacant : store.Vacant path) (bytes : List UInt8) :
    (store.write path bytes).files = store.files ++ [(path.resolveFrom store.current, bytes)] :=
  Keyed.put_of_lookup_eq_none _ _ _ ((entry_eq_none_iff _ _).mp vacant.empty).1

theorem write_current (store : FileStore) (path : Path) (bytes : List UInt8) :
    (store.write path bytes).current = store.current := rfl

theorem write_directories (store : FileStore) (path : Path) (bytes : List UInt8) :
    (store.write path bytes).directories = store.directories := rfl

theorem Vacant.write_hasDirectory (vacant : store.Vacant path) (bytes : List UInt8)
    {components : List String} (different : components ≠ path.resolveFrom store.current) :
    (store.write path bytes).hasDirectory components = store.hasDirectory components := by
  rw [Bool.eq_iff_iff]
  constructor
  · intro present
    rw [hasDirectory_iff, write_current, write_directories, vacant.write_files] at present
    rcases present with current | directory | ⟨file, member, inside, other⟩
    · exact (hasDirectory_iff _ _).mpr (Or.inl current)
    · exact (hasDirectory_iff _ _).mpr (Or.inr (Or.inl directory))
    · rcases List.mem_append.mp member with old | new
      · exact (hasDirectory_iff _ _).mpr (Or.inr (Or.inr ⟨file, old, inside, other⟩))
      · rw [List.mem_singleton] at new
        subst new
        -- What the new file lies in, its directory lies in or is.
        have within : components <+: (path.resolveFrom store.current).dropLast := by
          obtain ⟨rest, whole⟩ := inside
          dsimp only at whole
          rcases List.eq_nil_or_concat rest with rfl | ⟨front, last, rfl⟩
          · exact absurd (by simpa using whole) different
          · rw [← whole, List.concat_eq_append, ← List.append_assoc, List.dropLast_concat]
            exact List.prefix_append _ _
        exact hasDirectory_of_prefix store within vacant.home
  · intro present
    rw [hasDirectory_iff] at present
    rw [hasDirectory_iff, write_current, write_directories, vacant.write_files]
    rcases present with current | directory | ⟨file, member, inside, other⟩
    · exact Or.inl current
    · exact Or.inr (Or.inl directory)
    · exact Or.inr (Or.inr ⟨file, List.mem_append_left _ member, inside, other⟩)

/-- Everywhere else the store is as before. -/
theorem Vacant.write_entry (vacant : store.Vacant path) (bytes : List UInt8)
    {components : List String} (different : components ≠ path.resolveFrom store.current) :
    FileStore.entry? (store.write path bytes) components = store.entry? components := by
  have untouched : (store.write path bytes).files.lookup components =
      store.files.lookup components := Keyed.lookup_put_other different _ _
  unfold entry?
  rw [untouched, vacant.write_hasDirectory bytes different]

theorem Vacant.write_entry_of_some (vacant : store.Vacant path) (bytes : List UInt8)
    {components : List String} {entry : Entry} (present : store.entry? components = some entry) :
    FileStore.entry? (store.write path bytes) components = some entry := by
  rw [vacant.write_entry bytes, present]
  rintro rfl
  rw [vacant.empty] at present
  cases present

theorem Vacant.write_walk_of_ok (vacant : store.Vacant path) (bytes : List UInt8)
    {here components : List String} {found : List String × Entry}
    (success : store.walk here components = .ok found) :
    (store.write path bytes).walk here components = .ok found := by
  induction components generalizing here with
  | nil =>
      simp only [walk] at success ⊢
      split at success
      · rename_i entry present
        rw [vacant.write_entry_of_some bytes present]
        exact success
      · cases success
  | cons component rest ih =>
      simp only [walk] at success ⊢
      split at success
      · rename_i present
        rw [vacant.write_entry_of_some bytes present]
        exact ih success
      · cases success
      · cases success

/-- What could be reached before can be reached as before. -/
theorem Vacant.write_find_of_ok (vacant : store.Vacant path) (bytes : List UInt8) {other : Path}
    {found : List String × Entry} (success : store.find other = .ok found) :
    (store.write path bytes).find other = .ok found :=
  vacant.write_walk_of_ok bytes success

theorem Vacant.write_bytes_of_ok (vacant : store.Vacant path) (bytes : List UInt8) {other : Path}
    {content : List UInt8} (success : store.bytes other = .ok content) :
    (store.write path bytes).bytes other = .ok content := by
  unfold FileStore.bytes at success ⊢
  cases reached : store.find other with
  | error cause =>
      rw [reached] at success
      cases success
  | ok found =>
      rw [reached] at success
      rw [vacant.write_find_of_ok bytes reached]
      exact success

theorem Vacant.mem_write_names (vacant : store.Vacant path) (bytes : List UInt8)
    {directory : List String} {name : String}
    (place : path.resolveFrom store.current = directory ++ [name]) (other : String) :
    other ∈ (store.write path bytes).names directory ↔
      other = name ∨ other ∈ store.names directory := by
  rw [mem_names_iff, mem_names_iff, vacant.write_files, write_directories, write_current]
  simp only [List.map_append, List.map_cons, List.map_nil, List.mem_append, List.mem_singleton]
  constructor
  · rintro ⟨inner, (old | rfl) | rest, within⟩
    · exact Or.inr ⟨inner, Or.inl old, within⟩
    · have same := within.eq_of_length (by rw [place]; simp)
      rw [place] at same
      exact Or.inl (List.singleton_inj.mp (List.append_cancel_left same))
    · exact Or.inr ⟨inner, Or.inr rest, within⟩
  · rintro (rfl | ⟨inner, old | rest, within⟩)
    · exact ⟨_, Or.inl (Or.inr rfl), place ▸ List.prefix_rfl⟩
    · exact ⟨inner, Or.inl (Or.inl old), within⟩
    · exact ⟨inner, Or.inr rest, within⟩

end StyleAudit.FileStore
