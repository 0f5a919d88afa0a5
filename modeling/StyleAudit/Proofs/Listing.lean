import StyleAudit.Proofs.Requirements

/-!
The files beside a target are listed exactly.

For a target with a suffix that holds no sign of a pattern, what is listed are the regular files of
its directory whose names end in this suffix, the target's own stem aside. They stand in the one
increasing order, so it does not matter in which order the directory is read.
-/

set_option autoImplicit false

namespace StyleAudit

/-- Whether a path is that of a regular file directly in a target's directory, its name ending in
the target's suffix and its stem being another one. -/
structure Path.IsBeside (path : Path) (store : FileStore) (target : Path) : Prop where
  home : path = target.parent.child path.name
  file : ∃ bytes, store.entry? (target.parent.resolveFrom store.current ++ [path.name]) =
    some (.file bytes)
  suffix : target.suffix.toList <:+ path.name.toList
  stem : path.stem ≠ target.stem

/-! ### Names that end in a suffix -/

namespace Path

/-- The way back to the directory above ends in no suffix. -/
theorem ne_back_of_suffix {target : Path} {name : String} (suffixed : target.suffix ≠ "")
    (within : target.suffix.toList <:+ name.toList) : name ≠ ".." := by
  obtain ⟨front, rest, _, rest_ne, last, _, cut⟩ := exists_dot_of_suffix_ne suffixed
  rw [suffix, cut, String.toList_ofList] at within
  rintro rfl
  obtain ⟨before, final, rfl⟩ := (List.eq_nil_or_concat rest).resolve_left rest_ne
  obtain ⟨start, whole⟩ := within
  have split : (start ++ '.' :: before) ++ [final] = ['.'] ++ ['.'] := by
    simpa using whole
  have dot : [final] = ['.'] := List.append_inj_right' split rfl
  apply last
  rw [List.singleton_inj.mp dot]
  simp

theorem suffix_isSuffix_name {target : Path} (suffixed : target.suffix ≠ "") :
    target.suffix.toList <:+ target.name.toList := by
  obtain ⟨front, rest, _, _, _, whole, cut⟩ := exists_dot_of_suffix_ne suffixed
  rw [suffix, cut, String.toList_ofList, whole]
  exact List.suffix_append front _

theorem resolveFrom_child_of_ne {name : String} (ordinary : name ≠ "..") (directory : List String)
    (path : Path) :
    (path.child name).resolveFrom directory = path.resolveFrom directory ++ [name] := by
  rw [resolveFrom_child, step]
  simp only [ordinary, ↓reduceIte]

theorem parent_child (directory : Path) (name : String) :
    (directory.child name).parent = directory := by
  simp [parent, child]

end Path

/-! ### Files in a directory -/

namespace FileStore

variable {store other : FileStore} {path : Path}

/-- An ordinary name leads to a file exactly when one lies at its place in the directory. -/
theorem isFile_child_iff {name : String} (directory : store.isDirectory path = true)
    (ordinary : name ≠ "..") :
    store.isFile (path.child name) = true ↔
      ∃ bytes, store.entry? (path.resolveFrom store.current ++ [name]) = some (.file bytes) := by
  have reached := (isDirectory_iff store path).mp directory
  have place : Path.step (path.resolveFrom store.current) name =
      path.resolveFrom store.current ++ [name] := by
    rw [Path.step]
    simp only [ordinary, ↓reduceIte]
  rw [isFile, find_child store path name _ reached, place]
  cases store.entry? (path.resolveFrom store.current ++ [name]) with
  | none => simp
  | some entry => cases entry <;> simp

theorem isDirectory_of_isFile (file : store.isFile path = true) :
    store.isDirectory path = false := by
  unfold isFile at file
  split at file
  · rename_i found
    simp only [isDirectory, found]
  · cases file

/-- Stores in which the same lies everywhere are walked alike. -/
theorem walk_congr (same : ∀ components, other.entry? components = store.entry? components)
    (here components : List String) : other.walk here components = store.walk here components := by
  induction components generalizing here with
  | nil => rw [walk, walk, same]
  | cons component rest ih => simp only [walk, same, ih]

theorem isDirectory_congr (current : other.current = store.current)
    (same : ∀ components, other.entry? components = store.entry? components) (path : Path) :
    other.isDirectory path = store.isDirectory path := by
  simp only [isDirectory, find, current, walk_congr same]

end FileStore

/-! ### The listing -/

section Listing

variable {store : FileStore} {target : Path} {files : List Path}

/-- What is listed of a directory lies beside the target, and nothing else does. -/
theorem mem_siblings_iff_isBeside (directory : store.isDirectory target.parent = true)
    (suffixed : target.suffix ≠ "")
    (literal : ∀ character ∈ target.suffix.toList, Pattern.IsLiteral character)
    (success : siblings store target = .ok files) (path : Path) :
    path ∈ files ↔ path.IsBeside store target := by
  have usable := Pattern.ofText?_star_literals target.suffix literal
  rw [mem_siblings_iff directory usable success]
  constructor
  · rintro ⟨name, _, rfl, listed⟩
    simp only [isSibling, Bool.and_eq_true, bne_iff_ne, Pattern.accepts_star_literals_iff] at listed
    obtain ⟨⟨within, file⟩, stem⟩ := listed
    have own := Path.name_child target.parent name
    have ordinary := Path.ne_back_of_suffix suffixed within
    rw [own] at ordinary
    refine ⟨?_, ?_, within, stem⟩
    · rw [own]
    · rw [own]
      exact (FileStore.isFile_child_iff directory ordinary).mp file
  · rintro ⟨home, file, within, stem⟩
    have ordinary := Path.ne_back_of_suffix suffixed within
    refine ⟨path.name, ?_, home.symm, ?_⟩
    · obtain ⟨bytes, present⟩ := file
      rw [FileStore.mem_names_iff_entry, present]
      exact Option.some_ne_none _
    · have isFile := (FileStore.isFile_child_iff directory ordinary).mpr file
      rw [← home] at isFile
      simp only [isSibling, Bool.and_eq_true, bne_iff_ne, Pattern.accepts_star_literals_iff]
      exact ⟨⟨within, isFile⟩, stem⟩

/-- Nothing that lies beside a target is the target, however the paths are spelled. -/
theorem Path.IsBeside.resolveFrom_ne {path : Path} (beside : path.IsBeside store target)
    (suffixed : target.suffix ≠ "") (here : List String) :
    path.resolveFrom here ≠ target.resolveFrom here := by
  have own : target.parent.child target.name = target :=
    Path.parent_child_name (Path.components_ne_nil_of_suffix suffixed)
  have ordinary := Path.ne_back_of_suffix suffixed beside.suffix
  have ordinaryTarget := Path.ne_back_of_suffix suffixed (Path.suffix_isSuffix_name suffixed)
  intro same
  rw [beside.home, ← own, Path.parent_child,
    Path.resolveFrom_child_of_ne ordinary, Path.resolveFrom_child_of_ne ordinaryTarget] at same
  have names : path.name = target.name := List.singleton_inj.mp (List.append_cancel_left same)
  apply beside.stem
  rw [Path.stem, Path.stem, names]

/-- In whatever order a directory is read, the sorted list is the same. -/
theorem siblings_of_enumeration {pattern : Pattern}
    (usable : Pattern.ofText? ("*" ++ target.suffix) = some pattern)
    (success : siblings store target = .ok files) {enumeration : List Path}
    (same : enumeration.Perm (store.children target.parent)) :
    Path.sort (enumeration.filter (isSibling store target pattern)) = files := by
  obtain ⟨_, other, found, sorted⟩ := (siblings_eq_ok_iff store target files).mp success
  rw [usable] at found
  cases found
  apply Path.sort_eq_of_perm (siblings_increasing success)
  have listed := Path.sort_perm ((store.children target.parent).filter
    (isSibling store target pattern))
  rw [sorted] at listed
  exact (same.filter _).trans listed.symm

/-- Stores in which the same lies everywhere have the same listing. -/
theorem siblings_congr {other : FileStore} (current : other.current = store.current)
    (same : ∀ components, other.entry? components = store.entry? components)
    (directory : store.isDirectory target.parent = true) (suffixed : target.suffix ≠ "")
    (literal : ∀ character ∈ target.suffix.toList, Pattern.IsLiteral character) :
    siblings other target = siblings store target := by
  have usable := Pattern.ofText?_star_literals target.suffix literal
  have directory' : other.isDirectory target.parent = true := by
    rw [FileStore.isDirectory_congr current same]
    exact directory
  have success := (siblings_eq_ok_iff store target _).mpr ⟨directory, _, usable, rfl⟩
  have after := (siblings_eq_ok_iff other target _).mpr ⟨directory', _, usable, rfl⟩
  rw [success, after]
  congr 1
  refine (siblings_increasing after).eq_of_perm (siblings_increasing success) ?_
  rw [List.perm_ext_iff_of_nodup (siblings_nodup after) (siblings_nodup success)]
  intro path
  rw [mem_siblings_iff_isBeside directory' suffixed literal after,
    mem_siblings_iff_isBeside directory suffixed literal success]
  constructor
  · rintro ⟨home, file, within, stem⟩
    rw [current, same] at file
    exact ⟨home, file, within, stem⟩
  · rintro ⟨home, file, within, stem⟩
    rw [← current, ← same] at file
    exact ⟨home, file, within, stem⟩

end Listing

/-- Beside a target with a suffix that holds no sign of a pattern, the regular files of its
directory whose names end in the suffix are listed, each once and in increasing order, but no file
of the target's stem. Neither a directory nor the target is among them, and the order in which the
directory, or the store, holds its files plays no part. -/
theorem siblings_exact (store : FileStore) (target : Path)
    (directory : store.isDirectory target.parent = true) (suffixed : target.suffix ≠ "")
    (literal : ∀ character ∈ target.suffix.toList, Pattern.IsLiteral character) :
    ∃ files, siblings store target = .ok files ∧ Path.Increasing files ∧ files.Nodup ∧
      (∀ path, path ∈ files ↔ path.IsBeside store target) ∧
      (∀ path ∈ files, path.parent = target.parent ∧ store.isFile path = true ∧
        store.isDirectory path = false ∧
        path.resolveFrom store.current ≠ target.resolveFrom store.current) ∧
      target ∉ files ∧
      (∃ pattern, Pattern.ofText? ("*" ++ target.suffix) = some pattern ∧
        ∀ enumeration : List Path, enumeration.Perm (store.children target.parent) →
          Path.sort (enumeration.filter (isSibling store target pattern)) = files) ∧
      ∀ other : FileStore, other.current = store.current →
        (∀ components, other.entry? components = store.entry? components) →
        siblings other target = .ok files := by
  have usable := Pattern.ofText?_star_literals target.suffix literal
  obtain ⟨files, success⟩ : ∃ files, siblings store target = .ok files :=
    ⟨_, (siblings_eq_ok_iff store target _).mpr ⟨directory, _, usable, rfl⟩⟩
  have members := mem_siblings_iff_isBeside directory suffixed literal success
  refine ⟨files, success, siblings_increasing success, siblings_nodup success, members, ?_, ?_,
    ⟨_, usable, fun _ => siblings_of_enumeration usable success⟩, ?_⟩
  · intro path listed
    have beside := (members path).mp listed
    have file := isFile_of_mem_siblings success listed
    refine ⟨?_, file, FileStore.isDirectory_of_isFile file, beside.resolveFrom_ne suffixed _⟩
    rw [beside.home, Path.parent_child]
  · intro listed
    exact ((members target).mp listed).stem rfl
  · intro other current same
    rw [siblings_congr current same directory suffixed literal]
    exact success

namespace Sample

/-- A directory with names that end in the component's suffix, in every way that a name can. -/
def crowdedStore : FileStore :=
  ⟨[(["View.js"], []), (["Card.js"], []), (["Card.test.js"], []), (["notes.txt"], []),
    ([".js"], []), (["lib.js", "inner.js"], []), (["Card.jsx"], [])], [], []⟩

theorem siblings_crowded : siblings crowdedStore card =
    .ok [⟨.here, [".js"]⟩, ⟨.here, ["Card.test.js"]⟩, ⟨.here, ["View.js"]⟩] := by
  rw [siblings_eq_ok_iff]
  exact ⟨by decide +kernel, suffixPattern, by decide +kernel,
    Path.sort_eq_of_perm (by decide +kernel) (by decide +kernel)⟩

end Sample

/-- A dot file and a name with two dots are listed; a directory that is named like a file, and what
lies in it, are not. -/
theorem sample_listing :
    Sample.crowdedStore.isDirectory Sample.card.parent = true ∧ Sample.card.suffix ≠ "" ∧
    (∀ character ∈ Sample.card.suffix.toList, Pattern.IsLiteral character) ∧
    ∃ files, siblings Sample.crowdedStore Sample.card = .ok files ∧
      files = [⟨.here, [".js"]⟩, ⟨.here, ["Card.test.js"]⟩, ⟨.here, ["View.js"]⟩] ∧
      Path.Increasing files ∧ Sample.card ∉ files ∧
      ∀ path, path ∈ files ↔ path.IsBeside Sample.crowdedStore Sample.card := by
  have directory : Sample.crowdedStore.isDirectory Sample.card.parent = true := by decide +kernel
  have suffixed : Sample.card.suffix ≠ "" := by decide
  obtain ⟨files, success, increasing, _, members, _, apart, _⟩ := siblings_exact
    Sample.crowdedStore Sample.card directory suffixed Sample.card_suffix_literal
  refine ⟨directory, suffixed, Sample.card_suffix_literal, files, success, ?_, increasing, apart,
    members⟩
  rw [Sample.siblings_crowded] at success
  exact (Except.ok.inj success).symm

end StyleAudit
