import Mathlib.Data.List.Sort
import Mathlib.Data.String.Basic
import StyleAudit.Path

/-!
The order of paths, and the names and texts of paths in one directory.

Paths are ordered by their components, so in one directory they are ordered by name, and there is
only one increasing order of given paths.
-/

set_option autoImplicit false

namespace StyleAudit.Path

theorem before_iff_lt (first second : List String) :
    before first second = true ↔ first < second := by
  induction first generalizing second with
  | nil => cases second <;> simp [before]
  | cons component rest ih =>
      cases second with
      | nil => simp [before]
      | cons other others =>
          rw [List.cons_lt_cons_iff, before]
          by_cases same : component = other
          · simp [same, ih]
          · simp [same]

theorem notAfter_iff_le (path other : Path) :
    notAfter path other = true ↔ path.sortKey ≤ other.sortKey := by
  rw [notAfter, Bool.not_eq_true', Bool.eq_false_iff, ne_eq, before_iff_lt, not_lt]

theorem notAfter_trans (first second third : Path) (early : notAfter first second = true)
    (late : notAfter second third = true) : notAfter first third = true := by
  rw [notAfter_iff_le] at *
  exact le_trans early late

theorem notAfter_total (first second : Path) :
    (notAfter first second || notAfter second first) = true := by
  rw [Bool.or_eq_true, notAfter_iff_le, notAfter_iff_le]
  exact le_total _ _

theorem sort_perm (paths : List Path) : (sort paths).Perm paths :=
  List.mergeSort_perm paths notAfter

theorem mem_sort {paths : List Path} {path : Path} : path ∈ sort paths ↔ path ∈ paths :=
  (sort_perm paths).mem_iff

theorem sort_pairwise (paths : List Path) :
    (sort paths).Pairwise fun path other => notAfter path other = true :=
  List.pairwise_mergeSort notAfter_trans notAfter_total paths

/-- Paths in strictly increasing order. -/
def Increasing (paths : List Path) : Prop :=
  paths.Pairwise fun path other => path.sortKey < other.sortKey

instance (paths : List Path) : Decidable (Increasing paths) :=
  inferInstanceAs (Decidable (paths.Pairwise _))

theorem Increasing.keys_nodup {paths : List Path} (increasing : Increasing paths) :
    (paths.map sortKey).Nodup :=
  List.pairwise_map.mpr (increasing.imp ne_of_lt)

theorem sort_increasing {paths : List Path} (apart : (paths.map sortKey).Nodup) :
    Increasing (sort paths) := by
  have sortedApart : ((sort paths).map sortKey).Nodup :=
    ((sort_perm paths).map sortKey).nodup_iff.mpr apart
  refine (sort_pairwise paths).imp₂ ?_ (List.pairwise_map.mp sortedApart)
  intro path other early different
  exact lt_of_le_of_ne ((notAfter_iff_le path other).mp early) different

/-- There is only one increasing order. -/
theorem Increasing.eq_of_perm {paths others : List Path} (increasing : Increasing paths)
    (othersIncreasing : Increasing others) (same : paths.Perm others) : paths = others :=
  List.Perm.eq_of_pairwise (fun _ _ _ _ early late => absurd late (lt_asymm early)) increasing
    othersIncreasing same

theorem sort_eq_of_perm {paths others : List Path} (increasing : Increasing others)
    (same : paths.Perm others) : sort paths = others := by
  refine (sort_increasing ?_).eq_of_perm increasing ((sort_perm paths).trans same)
  exact (same.map sortKey).nodup_iff.mpr increasing.keys_nodup

theorem name_child (directory : Path) (name : String) : (directory.child name).name = name := by
  simp [Path.name, child]

theorem parent_child_name {path : Path} (occupied : path.components ≠ []) :
    path.parent.child path.name = path := by
  obtain ⟨front, last, split⟩ := (List.eq_nil_or_concat path.components).resolve_left occupied
  obtain ⟨anchor, components⟩ := path
  dsimp only at split
  subst split
  simp [parent, child, name]

theorem child_sortKey (directory : Path) (name : String) :
    (directory.child name).sortKey = directory.sortKey ++ [name] := by
  show (if directory.isAbsolute then _ else _) = (if directory.isAbsolute then _ else _) ++ [name]
  split <;> rfl

theorem child_sortKey_injective (directory : Path) (name other : String)
    (same : (directory.child name).sortKey = (directory.child other).sortKey) : name = other := by
  rw [child_sortKey, child_sortKey] at same
  exact List.singleton_inj.mp (List.append_cancel_left same)

/-- The paths in one directory share the start of their texts. -/
theorem exists_text_child (directory : Path) :
    ∃ start : String, ∀ name, (directory.child name).text = start ++ name := by
  obtain ⟨anchor, components⟩ := directory
  have rendered : ∀ name, (child ⟨anchor, components⟩ name).text =
      anchorText anchor ++ "/".intercalate (components ++ [name]) := by
    intro name
    unfold text child
    split
    · rename_i empty
      simp at empty
    · rename_i anchor' components' _ same
      cases same
      rfl
  by_cases empty : components = []
  · refine ⟨anchorText anchor, fun name => ?_⟩
    rw [rendered, empty, List.nil_append, String.intercalate_singleton]
  · refine ⟨anchorText anchor ++ ("/".intercalate components ++ "/"), fun name => ?_⟩
    rw [rendered, String.intercalate_append_of_ne_nil empty (List.cons_ne_nil _ _),
      String.intercalate_singleton]
    simp only [String.append_assoc]

theorem child_text_injective (directory : Path) (name other : String)
    (same : (directory.child name).text = (directory.child other).text) : name = other := by
  obtain ⟨start, rendered⟩ := exists_text_child directory
  rw [rendered, rendered] at same
  exact String.append_right_inj start |>.mp same

end StyleAudit.Path
