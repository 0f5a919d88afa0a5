import Mathlib.Data.String.Basic
import StyleAudit.Checker
import StyleAudit.Proofs.Inside
import StyleAudit.Proofs.Lines

/-!
Shown paths are faithful.

A file below the current directory is shown by what follows this directory, any other one as it was
given. What is shown names the file that was given, so two paths that look alike are one file; and
a relative path without `..` is shown just for the files below the current directory.
-/

set_option autoImplicit false

namespace StyleAudit

/-! ### Reading a path that was written -/

theorem Text.not_of_mem_splitWhere {test : Char → Bool} {text piece : List Char}
    (member : piece ∈ splitWhere test text) : ∀ character ∈ piece, test character = false := by
  induction text generalizing piece with
  | nil => simp_all [splitWhere]
  | cons first rest ih =>
      rw [splitWhere] at member
      cases mark : test first with
      | true =>
          rw [if_pos mark] at member
          cases member with
          | head => simp
          | tail _ later => exact ih later
      | false =>
          simp only [mark, Bool.false_eq_true, ↓reduceIte] at member
          cases pieces : splitWhere test rest with
          | nil => exact absurd pieces (splitWhere_ne_nil test rest)
          | cons next others =>
              rw [pieces] at member ih
              cases member with
              | head =>
                  have plain := ih (List.mem_cons_self ..)
                  simpa [mark] using plain
              | tail _ later => exact ih (List.mem_cons_of_mem _ later)

namespace Path

/-- A component as it stands in paths that were read. -/
structure IsName (name : String) : Prop where
  real : isComponent name = true
  whole : '/' ∉ name.toList

instance (name : String) : Decidable (IsName name) :=
  decidable_of_iff (isComponent name = true ∧ '/' ∉ name.toList)
    ⟨fun both => ⟨both.1, both.2⟩, fun name => ⟨name.real, name.whole⟩⟩

theorem isName_of_mem_ofText {text name : String} (member : name ∈ (ofText text).components) :
    IsName name := by
  obtain ⟨listed, real⟩ := List.mem_filter.mp member
  obtain ⟨piece, split, rfl⟩ := List.mem_map.mp listed
  refine ⟨real, fun slash => ?_⟩
  have plain := Text.not_of_mem_splitWhere split '/' (by simpa using slash)
  simp at plain

theorem IsName.exists_cons {name : String} (valid : IsName name) :
    ∃ first rest, name.toList = first :: rest ∧ first ≠ '/' := by
  cases spelled : name.toList with
  | nil =>
      have empty : name = "" := String.toList_inj.mp spelled
      have real := valid.real
      rw [empty] at real
      exact absurd real (by decide)
  | cons first rest =>
      refine ⟨first, rest, rfl, ?_⟩
      have whole := valid.whole
      rw [spelled] at whole
      exact Ne.symm (List.ne_of_not_mem_cons whole)

/-- Cutting names that were joined. -/
theorem split_intercalate {names : List String} (valid : ∀ name ∈ names, IsName name)
    (occupied : names ≠ []) :
    (Text.splitWhere (· = '/') ("/".intercalate names).toList).map String.ofList = names := by
  have apart : ∀ piece ∈ names.map String.toList, '/' ∉ piece := by
    intro piece member
    obtain ⟨name, listed, rfl⟩ := List.mem_map.mp member
    exact (valid name listed).whole
  have cut := List.splitOn_intercalate '/' apart (by simpa using occupied)
  have same : (fun character : Char => decide (character = '/')) = (· == '/') := rfl
  rw [String.toList_intercalate, Text.splitWhere_eq_splitOnP, same, ← List.splitOn_eq_splitOnP]
  simp [cut, Function.comp_def]

/-- Names, written as a path from the current directory, are read back. -/
theorem ofText_text {names : List String} (valid : ∀ name ∈ names, IsName name) :
    ofText (text ⟨.here, names⟩) = ⟨.here, names⟩ := by
  cases names with
  | nil => decide
  | cons name others =>
      have written : text ⟨.here, name :: others⟩ = "/".intercalate (name :: others) := by
        simp [text, anchorText]
      have front : anchorOf ("/".intercalate (name :: others)).toList = .here := by
        obtain ⟨first, rest, spelled, plain⟩ := (valid name (List.mem_cons_self ..)).exists_cons
        rw [String.toList_intercalate, List.map_cons, spelled]
        cases others <;> simp [anchorOf, plain]
      have kept : (name :: others).filter isComponent = name :: others :=
        List.filter_eq_self.mpr fun other member => (valid other member).real
      rw [ofText, written, front, split_intercalate valid (List.cons_ne_nil _ _), kept]

/-! ### Where paths lead -/

/-- What follows a directory in the place of a file comes from the path that names the file. -/
theorem of_resolveFrom_eq_append {path : Path} {directory names : List String}
    (below : path.resolveFrom directory = directory ++ names) :
    ∀ name ∈ names, name ∈ path.components ∧ name ≠ ".." := by
  obtain ⟨kept, own, reached, within, known⟩ :=
    exists_foldl_step path.components (if path.isAbsolute then [] else directory)
  have short : kept <+: directory := by
    split at within
    · rw [List.prefix_nil.mp within]
      exact List.nil_prefix
    · exact within
  have same : kept ++ own = directory ++ names := reached.symm.trans below
  obtain ⟨rest, whole⟩ := short
  have cut : own = rest ++ names := by
    rw [← whole, List.append_assoc] at same
    exact List.append_cancel_left same
  intro name member
  exact known name (cut ▸ List.mem_append_right _ member)

theorem relativeTo?_resolve (path root : Path) (directory : List String) :
    (path.resolve directory).relativeTo? (root.resolve directory) =
      (afterComponents? (root.resolveFrom directory) (path.resolveFrom directory)).map
        (⟨.here, ·⟩) :=
  rfl

end Path

/-! ### The two forms -/

namespace Viewpoint

/-- Whether shown paths start from the current directory. -/
def IsHome (viewpoint : Viewpoint) : Prop :=
  viewpoint.root.resolveFrom viewpoint.current = viewpoint.current

instance (viewpoint : Viewpoint) : Decidable viewpoint.IsHome :=
  inferInstanceAs (Decidable (_ = _))

variable {viewpoint : Viewpoint}

theorem display_inside (home : viewpoint.IsHome) {path : String} {names : List String}
    (below : (Path.ofText path).resolveFrom viewpoint.current = viewpoint.current ++ names) :
    viewpoint.display path = Path.text ⟨.here, names⟩ := by
  have found := (FileStore.afterComponents?_eq_some_iff _ _ names).mpr below
  rw [display, Path.relativeTo?_resolve, home, found]
  rfl

theorem display_outside (home : viewpoint.IsHome) {path : String}
    (outside : ¬ viewpoint.current <+: (Path.ofText path).resolveFrom viewpoint.current) :
    viewpoint.display path = path := by
  rw [display, Path.relativeTo?_resolve, home]
  cases found : Path.afterComponents? viewpoint.current
      ((Path.ofText path).resolveFrom viewpoint.current) with
  | none => rfl
  | some names =>
      have below := (FileStore.afterComponents?_eq_some_iff _ _ names).mp found
      exact absurd ⟨names, below.symm⟩ outside

/-- A file below the current directory is shown by the names that lead to it. -/
theorem ofText_display_inside (home : viewpoint.IsHome) {path : String} {names : List String}
    (below : (Path.ofText path).resolveFrom viewpoint.current = viewpoint.current ++ names) :
    Path.ofText (viewpoint.display path) = ⟨.here, names⟩ := by
  rw [display_inside home below]
  apply Path.ofText_text
  intro name member
  exact Path.isName_of_mem_ofText (Path.of_resolveFrom_eq_append below name member).1

theorem display_leadsDown_iff (home : viewpoint.IsHome) (path : String) :
    (Path.ofText (viewpoint.display path)).LeadsDown ↔
      viewpoint.current <+: (Path.ofText path).resolveFrom viewpoint.current := by
  constructor
  · intro down
    by_contra outside
    rw [display_outside home outside] at down
    exact outside ⟨_, (down.resolveFrom viewpoint.current).symm⟩
  · rintro ⟨names, below⟩
    rw [ofText_display_inside home below.symm]
    refine ⟨rfl, fun back => ?_⟩
    exact (Path.of_resolveFrom_eq_append below.symm ".." back).2 rfl

theorem resolve_display (home : viewpoint.IsHome) (path : String) :
    (Path.ofText (viewpoint.display path)).resolve viewpoint.current =
      (Path.ofText path).resolve viewpoint.current := by
  by_cases inside : viewpoint.current <+: (Path.ofText path).resolveFrom viewpoint.current
  · have down := (display_leadsDown_iff home path).mpr inside
    obtain ⟨names, below⟩ := inside
    have place := down.resolveFrom viewpoint.current
    rw [ofText_display_inside home below.symm] at place ⊢
    rw [Path.resolve, Path.resolve, place, below]
  · rw [display_outside home inside]

end Viewpoint

/-- The command line shows paths from the current directory. -/
theorem Checker.viewpoint_isHome {store : FileStore} {parse : Parse} {checker : Checker}
    (ordinary : ".." ∉ store.current)
    (made : ofProject ⟨store, parse⟩ ⟨.root, store.current⟩ = .ok checker) :
    checker.viewpoint.IsHome ∧ checker.viewpoint.current = store.current := by
  unfold ofProject at made
  cases found : Configuration.find store ⟨.root, store.current⟩ with
  | error cause =>
      rw [found] at made
      cases made
  | ok configuration =>
      rw [found] at made
      cases made
      refine ⟨?_, rfl⟩
      exact Path.foldl_step_of_ordinary ordinary []

/-- What is shown of a path names the same file, and it is a relative path without `..` just where
this file is the current directory or below it; so paths that look alike name one file. -/
theorem shown_paths_are_faithful (viewpoint : Viewpoint) (home : viewpoint.IsHome) :
    (∀ path, (Path.ofText (viewpoint.display path)).resolve viewpoint.current =
      (Path.ofText path).resolve viewpoint.current) ∧
    (∀ path, (Path.ofText (viewpoint.display path)).LeadsDown ↔
      viewpoint.current <+: (Path.ofText path).resolveFrom viewpoint.current) ∧
    ∀ path other, viewpoint.display path = viewpoint.display other →
      (Path.ofText path).resolve viewpoint.current =
        (Path.ofText other).resolve viewpoint.current := by
  refine ⟨Viewpoint.resolve_display home, Viewpoint.display_leadsDown_iff home, ?_⟩
  intro path other alike
  rw [← Viewpoint.resolve_display home path, alike, Viewpoint.resolve_display home other]

/-- A path that leaves the current directory and comes back, and an absolute one, look alike. -/
theorem shown_paths_returning :
    let viewpoint : Viewpoint := ⟨["home", "me"], ⟨.root, ["home", "me"]⟩⟩
    viewpoint.IsHome ∧
      viewpoint.display "../../../home//me/./src/../App.js" = viewpoint.display "/home/me/App.js" ∧
      (Path.ofText "../../../home//me/./src/../App.js").resolve viewpoint.current =
        (Path.ofText "/home/me/App.js").resolve viewpoint.current ∧
      ¬ (Path.ofText (viewpoint.display "src/../../you/App.js")).LeadsDown := by
  intro viewpoint
  have home : viewpoint.IsHome := by decide
  have alike : viewpoint.display "../../../home//me/./src/../App.js" =
      viewpoint.display "/home/me/App.js" := by decide +kernel
  have elsewhere : ¬ viewpoint.current <+:
      (Path.ofText "src/../../you/App.js").resolveFrom viewpoint.current := by decide +kernel
  obtain ⟨_, down, one⟩ := shown_paths_are_faithful viewpoint home
  exact ⟨home, alike, one _ _ alike, (down _).not.mpr elsewhere⟩

end StyleAudit
