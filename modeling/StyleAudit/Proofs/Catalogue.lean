import StyleAudit.Message.Catalogue
import StyleAudit.Proofs.Keyed

/-!
Looking for messages.

What a catalogue has loaded is what loading would give again, so a message does not depend on what
was looked for before. Where a project has no message files of its own, every message is the
packaged English one, and no file is passed over on the way.
-/

set_option autoImplicit false

namespace StyleAudit

namespace Catalogue

/-! ### Loaded languages -/

/-- Whether the languages loaded so far are as they are in the store. -/
def Faithful (store : FileStore) (catalogue : Catalogue) : Prop :=
  ∀ entry ∈ catalogue.loaded,
    (loadRoots store catalogue.roots entry.1).messages = some entry.2

/-- The message of a key as the roots have it, nothing being loaded before. -/
def messageIn (store : FileStore) (roots : List MessageRoot) (language key : String) :
    Option String :=
  match (loadRoots store roots language).messages with
  | none => none
  | some messages =>
    match messages.lookup key with
    | some text => some text
    | none =>
      if language = standardLanguage then some key
      else (loadRoots store roots standardLanguage).messages.map fun standard =>
        (standard.lookup key).getD key

theorem faithful_nil (store : FileStore) (roots : List MessageRoot) :
    Faithful store ⟨roots, []⟩ := by
  intro entry member
  cases member

section Lookups

variable {store : FileStore} {catalogue : Catalogue}

theorem ensure_roots (store : FileStore) (catalogue : Catalogue) (language : String) :
    (catalogue.ensure store language).1.roots = catalogue.roots := by
  unfold ensure
  split
  · rfl
  · dsimp only
    split <;> rfl

theorem Faithful.ensure_messages (faithful : Faithful store catalogue) (language : String) :
    (catalogue.ensure store language).2.messages =
      (loadRoots store catalogue.roots language).messages := by
  unfold ensure
  split
  · rename_i messages known
    exact (faithful _ (Keyed.mem_of_lookup_eq_some known)).symm
  · dsimp only
    split <;> rfl

theorem Faithful.ensure (faithful : Faithful store catalogue) (language : String) :
    Faithful store (catalogue.ensure store language).1 := by
  unfold Catalogue.ensure
  split
  · exact faithful
  · dsimp only
    split
    · rename_i messages loaded
      intro entry member
      rcases List.mem_cons.mp member with rfl | earlier
      · exact loaded
      · exact faithful entry earlier
    · exact faithful

/-- What is passed over is passed over in loading, if anything is loaded at all. -/
theorem ensure_skipped (store : FileStore) (catalogue : Catalogue) (language : String) :
    (catalogue.ensure store language).2.skipped ⊆
      (loadRoots store catalogue.roots language).skipped := by
  unfold ensure
  split
  · exact List.nil_subset _
  · dsimp only
    split <;> exact List.Subset.refl _

theorem get_roots (store : FileStore) (catalogue : Catalogue) (language key : String) :
    (catalogue.get store language key).catalogue.roots = catalogue.roots := by
  unfold get
  dsimp only
  split
  · exact ensure_roots store catalogue language
  · split
    · exact ensure_roots store catalogue language
    · split
      · exact ensure_roots store catalogue language
      · exact (ensure_roots store _ _).trans (ensure_roots store catalogue language)

theorem Faithful.get (faithful : Faithful store catalogue) (language key : String) :
    Faithful store (catalogue.get store language key).catalogue := by
  have first := faithful.ensure language
  unfold Catalogue.get
  dsimp only
  split
  · exact first
  · split
    · exact first
    · split
      · exact first
      · exact first.ensure standardLanguage

/-- A lookup gives what the roots have, whatever has been loaded. -/
theorem Faithful.get_text (faithful : Faithful store catalogue) (language key : String) :
    (catalogue.get store language key).text =
      messageIn store catalogue.roots language key := by
  have first := faithful.ensure_messages language
  have second := (faithful.ensure language).ensure_messages standardLanguage
  rw [ensure_roots] at second
  unfold Catalogue.get messageIn
  dsimp only
  rw [← first, ← second]
  cases (catalogue.ensure store language).2.messages with
  | none => rfl
  | some messages =>
      cases found : messages.lookup key with
      | some text => simp only [found]
      | none =>
          by_cases standard : language = standardLanguage
          · simp only [found, standard, ↓reduceIte]
          · simp only [found, standard, ↓reduceIte, getStandard]

theorem get_skipped (store : FileStore) (catalogue : Catalogue) (language key : String) :
    (catalogue.get store language key).skipped ⊆
      (loadRoots store catalogue.roots language).skipped ++
        (loadRoots store catalogue.roots standardLanguage).skipped := by
  have first := ensure_skipped store catalogue language
  have second := ensure_skipped store (catalogue.ensure store language).1 standardLanguage
  rw [ensure_roots] at second
  unfold get
  dsimp only
  split
  · exact List.subset_append_of_subset_left _ first
  · split
    · exact List.subset_append_of_subset_left _ first
    · split
      · exact List.subset_append_of_subset_left _ first
      · exact List.append_subset.mpr ⟨List.subset_append_of_subset_left _ first,
          List.subset_append_of_subset_right _ second⟩

end Lookups

end Catalogue

/-! ### Projects without messages -/

/-- Whether no message file lies inside a directory. -/
def HoldsNoMessages (store : FileStore) (directory : Path) : Prop :=
  ∀ path ∈ store.allInside directory,
    ¬ (store.isFile path = true ∧ Loading.isMessageName path = true)

instance (store : FileStore) (directory : Path) : Decidable (HoldsNoMessages store directory) :=
  inferInstanceAs (Decidable (∀ path ∈ store.allInside directory, _))

/-- Whether a project has no messages of its own in a language. -/
def OverridesNothing (store : FileStore) (root : Path) (language : String) : Prop :=
  HoldsNoMessages store ((root.child "needle").join (Path.ofText language)) ∧
    HoldsNoMessages store
      (((root.child ".sheetcheck").child "needle").join (Path.ofText language))

instance (store : FileStore) (root : Path) (language : String) :
    Decidable (OverridesNothing store root language) :=
  inferInstanceAs (Decidable (_ ∧ _))

namespace Loading

theorem ofDirectory_of_plain {store : FileStore} {directory : Path}
    (without : HoldsNoMessages store directory) : ofDirectory store directory = empty := by
  have nothing : (store.allInside directory).filter (fun path =>
      store.isFile path && isMessageName path) = [] := by
    rw [List.filter_eq_nil_iff]
    intro path member
    rw [Bool.and_eq_true]
    exact without path member
  rw [ofDirectory, nothing, Path.sort, List.mergeSort_nil]
  rfl

end Loading

namespace MessageRoot

theorem load_directory_of_plain {store : FileStore} {root : Path} {language : String}
    (plain : OverridesNothing store root language) :
    load store language (.directory root) = Loading.empty := by
  rw [load, loadDirectory, Loading.ofDirectory_of_plain plain.1,
    Loading.ofDirectory_of_plain plain.2]
  rfl

/-- An absolute language is one directory for every root, and so holds nothing either. -/
theorem load_packaged_of_plain {store : FileStore} {root : Path} {language : String}
    (plain : OverridesNothing store root language) :
    ∃ messages, load store language .packaged = ⟨[], some messages⟩ ∧
      (messages = [] ∨ messages = Packaged.english) := by
  rw [load]
  cases absolute : (Path.ofText language).isAbsolute with
  | true =>
      have whole : ∀ directory : Path, directory.join (Path.ofText language) =
          Path.ofText language := fun directory => by rw [Path.join, absolute]; rfl
      have nothing := plain.1
      rw [whole] at nothing
      refine ⟨[], ?_, Or.inl rfl⟩
      simp only [loadDirectory, whole, Loading.ofDirectory_of_plain nothing, ↓reduceIte]
      rfl
  | false =>
      refine ⟨Packaged.messages (Path.ofText language), rfl, ?_⟩
      unfold Packaged.messages
      split
      · exact Or.inr rfl
      · exact Or.inl rfl

end MessageRoot

namespace Catalogue

variable {store : FileStore} {root : Path} {language : String}

/-- Over a project that overrides nothing only the packaged messages are loaded. -/
theorem loadRoots_of_packaged (plain : OverridesNothing store root language) {messages : Messages}
    (packaged : MessageRoot.load store language .packaged = ⟨[], some messages⟩) :
    loadRoots store [.packaged, .directory root] language = ⟨[], some messages⟩ := by
  simp only [loadRoots, List.map_cons, List.map_nil, List.foldl_cons, List.foldl_nil, packaged,
    MessageRoot.load_directory_of_plain plain, Loading.append, Loading.empty, Option.map_some,
    List.append_nil, List.nil_append]

theorem loadRoots_of_plain (plain : OverridesNothing store root language) :
    ∃ messages, loadRoots store [.packaged, .directory root] language = ⟨[], some messages⟩ ∧
      (messages = [] ∨ messages = Packaged.english) := by
  obtain ⟨messages, packaged, known⟩ := MessageRoot.load_packaged_of_plain plain
  exact ⟨messages, loadRoots_of_packaged plain packaged, known⟩

theorem loadRoots_standard (plain : OverridesNothing store root standardLanguage) :
    loadRoots store [.packaged, .directory root] standardLanguage =
      ⟨[], some Packaged.english⟩ := by
  have packaged : MessageRoot.load store standardLanguage .packaged =
      ⟨[], some Packaged.english⟩ := by
    have relative : (Path.ofText standardLanguage).isAbsolute = false := by decide +kernel
    have own : Packaged.messages (Path.ofText standardLanguage) = Packaged.english := by
      decide +kernel
    simp only [MessageRoot.load, relative, own]
    rfl
  exact loadRoots_of_packaged plain packaged

/-- Without overrides a message is the packaged English one, in every language. -/
theorem messageIn_of_plain (plain : OverridesNothing store root language)
    (standardPlain : OverridesNothing store root standardLanguage) (key : String) :
    messageIn store [.packaged, .directory root] language key =
      some ((Packaged.english.lookup key).getD key) := by
  obtain ⟨messages, loaded, known⟩ := loadRoots_of_plain plain
  have standard := loadRoots_standard standardPlain
  unfold messageIn
  by_cases same : language = standardLanguage
  · subst same
    rw [standard]
    cases found : Packaged.english.lookup key with
    | some text => simp only [found, Option.getD_some]
    | none => simp only [found, ↓reduceIte, Option.getD_none]
  · simp only [loaded, standard, same, ↓reduceIte]
    rcases known with rfl | rfl
    · rfl
    · cases found : Packaged.english.lookup key with
      | some text => simp only [Option.getD_some]
      | none => simp only [Option.map_some, found, Option.getD_none]

end Catalogue

end StyleAudit
