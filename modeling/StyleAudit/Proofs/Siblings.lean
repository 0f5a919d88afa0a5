import StyleAudit.Proofs.Audit
import StyleAudit.Proofs.FileStore
import StyleAudit.Proofs.Path
import StyleAudit.Sources

/-!
The files beside a target.

They are regular files directly in the target's directory, no two of them of one text, and a new
file among them changes nothing but that it is listed too.
-/

set_option autoImplicit false

namespace StyleAudit

variable {store : FileStore} {target path : Path} {files : List Path}

theorem siblings_eq_ok_iff (store : FileStore) (target : Path) (files : List Path) :
    siblings store target = .ok files ↔
      store.isDirectory target.parent = true ∧
        ∃ pattern, Pattern.ofText? ("*" ++ target.suffix) = some pattern ∧
          Path.sort ((store.children target.parent).filter (isSibling store target pattern)) =
            files := by
  simp only [siblings]
  cases store.isDirectory target.parent with
  | false => simp
  | true => cases Pattern.ofText? ("*" ++ target.suffix) <;> simp

theorem children_of_isDirectory (store : FileStore) (path : Path)
    (directory : store.isDirectory path = true) :
    store.children path = (store.names (path.resolveFrom store.current)).map path.child := by
  rw [FileStore.children, (FileStore.isDirectory_iff store path).mp directory]

/-- What is listed: the names of the target's directory that belong to siblings. -/
theorem mem_siblings_iff {pattern : Pattern} (directory : store.isDirectory target.parent = true)
    (usable : Pattern.ofText? ("*" ++ target.suffix) = some pattern)
    (success : siblings store target = .ok files) :
    path ∈ files ↔ ∃ name ∈ store.names (target.parent.resolveFrom store.current),
      target.parent.child name = path ∧ isSibling store target pattern path = true := by
  obtain ⟨_, other, found, rfl⟩ := (siblings_eq_ok_iff store target files).mp success
  rw [usable] at found
  cases found
  rw [Path.mem_sort, List.mem_filter, children_of_isDirectory store _ directory, List.mem_map]
  constructor
  · rintro ⟨⟨name, member, place⟩, listed⟩
    exact ⟨name, member, place, listed⟩
  · rintro ⟨name, member, place, listed⟩
    exact ⟨⟨name, member, place⟩, listed⟩

theorem exists_child_of_mem_siblings (success : siblings store target = .ok files)
    (member : path ∈ files) : ∃ name, path = target.parent.child name := by
  obtain ⟨directory, pattern, usable, _⟩ := (siblings_eq_ok_iff store target files).mp success
  obtain ⟨name, _, place, _⟩ := (mem_siblings_iff directory usable success).mp member
  exact ⟨name, place.symm⟩

theorem isFile_of_mem_siblings (success : siblings store target = .ok files)
    (member : path ∈ files) : store.isFile path = true := by
  obtain ⟨directory, pattern, usable, _⟩ := (siblings_eq_ok_iff store target files).mp success
  obtain ⟨_, _, _, listed⟩ := (mem_siblings_iff directory usable success).mp member
  simp only [isSibling, Bool.and_eq_true] at listed
  exact listed.1.2

theorem siblings_increasing (success : siblings store target = .ok files) :
    Path.Increasing files := by
  obtain ⟨directory, pattern, _, rfl⟩ := (siblings_eq_ok_iff store target files).mp success
  rw [children_of_isDirectory store _ directory]
  apply Path.sort_increasing
  have apart : (((store.names (target.parent.resolveFrom store.current)).map
      target.parent.child).map Path.sortKey).Nodup := by
    rw [List.map_map]
    exact List.Nodup.map (fun _ _ same => Path.child_sortKey_injective _ _ _ same)
      (store.names_nodup _)
  exact apart.sublist (List.filter_sublist.map _)

theorem siblings_nodup (success : siblings store target = .ok files) : files.Nodup :=
  List.Nodup.of_map _ (siblings_increasing success).keys_nodup

/-- Siblings can be told apart by the texts of their paths. -/
theorem siblings_texts_nodup (success : siblings store target = .ok files) :
    (files.map Path.text).Nodup := by
  refine List.Nodup.map_on ?_ (siblings_nodup success)
  intro path member other otherMember same
  obtain ⟨name, rfl⟩ := exists_child_of_mem_siblings success member
  obtain ⟨otherName, rfl⟩ := exists_child_of_mem_siblings success otherMember
  rw [Path.child_text_injective _ _ _ same]

/-! ### A new sibling -/

theorem resolveFrom_child (directory : List String) (path : Path) (name : String) :
    (path.child name).resolveFrom directory = Path.step (path.resolveFrom directory) name := by
  show List.foldl Path.step _ (path.components ++ [name]) = _
  rw [List.foldl_append]
  rfl

/-- A vacant place in a directory is an ordinary name of it: where `..` leads, something is. -/
theorem vacant_child (name : String) (directory : store.isDirectory path = true)
    (empty : store.entry? ((path.child name).resolveFrom store.current) = none) :
    store.Vacant (path.child name) ∧
      (path.child name).resolveFrom store.current = path.resolveFrom store.current ++ [name] := by
  have present : store.hasDirectory (path.resolveFrom store.current) = true :=
    FileStore.hasDirectory_of_entry
      (FileStore.find_eq_ok ((FileStore.isDirectory_iff store path).mp directory)).2
  have place : (path.child name).resolveFrom store.current =
      path.resolveFrom store.current ++ [name] := by
    rw [resolveFrom_child, Path.step]
    split
    · rename_i back
      rw [resolveFrom_child, Path.step, back] at empty
      have absent := ((FileStore.entry_eq_none_iff _ _).mp empty).2
      have above := FileStore.hasDirectory_of_prefix store (List.dropLast_prefix _) present
      simp only [↓reduceIte] at absent
      rw [above] at absent
      cases absent
    · rfl
  refine ⟨⟨empty, ?_⟩, place⟩
  rw [place, List.dropLast_concat]
  exact present

theorem write_isFile_child {name other : String} (bytes : List UInt8)
    (vacant : store.Vacant (path.child name)) (directory : store.isDirectory path = true)
    (place : (path.child name).resolveFrom store.current = path.resolveFrom store.current ++ [name])
    (different : other ≠ name) :
    (store.write (path.child name) bytes).isFile (path.child other) =
      store.isFile (path.child other) := by
  have reached := (FileStore.isDirectory_iff store path).mp directory
  have same : FileStore.entry? (store.write (path.child name) bytes)
      (Path.step (path.resolveFrom store.current) other) =
      store.entry? (Path.step (path.resolveFrom store.current) other) := by
    apply vacant.write_entry
    rw [place]
    exact FileStore.step_ne different
  simp only [FileStore.isFile, FileStore.find_child store path other _ reached,
    FileStore.find_child _ path other _ (vacant.write_find_of_ok bytes reached), same]

/-- A new file among the siblings is the only change of the list. -/
theorem siblings_write {files' : List Path} {bytes : List UInt8}
    (success : siblings store target = .ok files)
    (after : siblings (store.write path bytes) target = .ok files') (listed : path ∈ files')
    (empty : store.entry? (path.resolveFrom store.current) = none) :
    files = files'.filter (· ≠ path) := by
  obtain ⟨directory, pattern, usable, _⟩ := (siblings_eq_ok_iff store target files).mp success
  obtain ⟨directory', _, _, _⟩ := (siblings_eq_ok_iff _ target files').mp after
  obtain ⟨name, rfl⟩ := exists_child_of_mem_siblings after listed
  obtain ⟨vacant, place⟩ := vacant_child name directory empty
  refine (siblings_increasing success).eq_of_perm ((siblings_increasing after).filter _) ?_
  rw [List.perm_ext_iff_of_nodup (siblings_nodup success) ((siblings_nodup after).filter _)]
  intro other
  rw [List.mem_filter, decide_eq_true_eq, mem_siblings_iff directory usable success,
    mem_siblings_iff directory' usable after]
  constructor
  · rintro ⟨otherName, member, rfl, accepted⟩
    have different : otherName ≠ name := by
      rintro rfl
      simp only [isSibling, Bool.and_eq_true] at accepted
      obtain ⟨content, present⟩ := FileStore.entry_of_isFile accepted.1.2
      rw [empty] at present
      cases present
    refine ⟨⟨otherName, (vacant.mem_write_names bytes place _).mpr (Or.inr member), rfl, ?_⟩, ?_⟩
    · simpa only [isSibling, write_isFile_child bytes vacant directory place different] using
        accepted
    · exact fun same => different (Path.child_text_injective _ _ _ (congrArg Path.text same))
  · rintro ⟨⟨otherName, member, rfl, accepted⟩, apart⟩
    have different : otherName ≠ name := by
      rintro rfl
      exact apart rfl
    rcases (vacant.mem_write_names bytes place _).mp member with same | old
    · exact absurd same different
    · refine ⟨otherName, old, rfl, ?_⟩
      simpa only [isSibling, write_isFile_child bytes vacant directory place different] using
        accepted

end StyleAudit
