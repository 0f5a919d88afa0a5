import StyleAudit.Proofs.Encoding
import StyleAudit.Proofs.Inside
import StyleAudit.Proofs.NearestProject
import StyleAudit.Proofs.TomlDocument

/-!
A project that was laid out is found again with the configuration it was given.

The project file is written first, and no source takes its place or lies on the way to it. No other
project file comes to lie below it either, so it is the nearest one for all that is in the project;
and reading it gives the table that it was written from.
-/

set_option autoImplicit false

namespace StyleAudit

/-! ### Walking down by names -/

namespace FileStore

/-- Names lead down through directories to what lies behind them. -/
theorem walk_names {store : FileStore} {names : List String} (ordinary : ".." ∉ names)
    {here : List String} (passed : ∀ front, front <+: names → front ≠ names →
      store.entry? (here ++ front) = some .directory) {entry : Entry}
    (present : store.entry? (here ++ names) = some entry) :
    store.walk here names = .ok (here ++ names, entry) := by
  induction names generalizing here with
  | nil =>
      rw [List.append_nil] at present ⊢
      rw [walk, present]
  | cons name rest ih =>
      rw [List.mem_cons, not_or] at ordinary
      have whole : here ++ name :: rest = (here ++ [name]) ++ rest := by simp
      have opened := passed [] List.nil_prefix (List.cons_ne_nil _ _).symm
      rw [List.append_nil] at opened
      rw [whole] at present ⊢
      rw [walk, opened, Path.step, if_neg (Ne.symm ordinary.1)]
      refine ih ordinary.2 ?_ present
      intro front within different
      have deeper := passed (name :: front) (List.cons_prefix_cons.mpr ⟨rfl, within⟩)
        (fun same => different (List.cons.inj same).2)
      rw [List.append_assoc]
      exact deeper

/-- Whatever a file lies in, and is no file, is a directory. -/
theorem entry_of_above {store : FileStore} {place directory : List String} {bytes : List UInt8}
    (written : store.files.lookup place = some bytes) (within : directory <+: place)
    (different : directory ≠ place) (free : store.files.lookup directory = none) :
    store.entry? directory = some .directory := by
  have home : store.hasDirectory directory = true := by
    rw [hasDirectory_iff]
    exact Or.inr (Or.inr ⟨_, Keyed.mem_of_lookup_eq_some written, within, different.symm⟩)
  unfold entry?
  rw [free]
  simp only [home, if_true]

end FileStore

theorem Path.ordinary_resolveFrom {directory : List String} (ordinary : ".." ∉ directory)
    (path : Path) : ".." ∉ path.resolveFrom directory := by
  obtain ⟨kept, names, reached, within, own⟩ :=
    exists_foldl_step path.components (if path.isAbsolute then [] else directory)
  have start : ".." ∉ (if path.isAbsolute then [] else directory) := by
    split
    · exact List.not_mem_nil
    · exact ordinary
  rw [Path.resolveFrom, reached, List.mem_append, not_or]
  exact ⟨fun member => start (within.subset member), fun member => (own ".." member).2 rfl⟩

/-! ### A project file and what is written below it -/

namespace Project

/-- Whether a directory has a project file with some bytes, and neither a file on the way to it nor
one with the name of a project file anywhere below it. -/
structure Describes (directory : List String) (bytes : List UInt8) (store : FileStore) : Prop where
  file : store.files.lookup (directory ++ [fileName]) = some bytes
  above : ∀ outer, outer <+: directory → store.files.lookup outer = none
  single : ∀ names, fileName ∈ names → names ≠ [fileName] →
    store.files.lookup (directory ++ names) = none

variable {directory : List String} {bytes : List UInt8} {store : FileStore}

theorem Describes.congr {other : FileStore} (describes : Describes directory bytes store)
    (same : other.files = store.files) : Describes directory bytes other := by
  obtain ⟨file, above, single⟩ := describes
  constructor <;> rw [same] <;> assumption

theorem Describes.entry_above (describes : Describes directory bytes store) {outer : List String}
    (within : outer <+: directory) : store.entry? outer = some .directory := by
  refine FileStore.entry_of_above describes.file (within.trans (List.prefix_append _ _)) ?_
    (describes.above outer within)
  intro same
  have longer := within.length_le
  rw [same, List.length_append, List.length_singleton] at longer
  omega

/-- A file written below the directory under another name, where no directory is. -/
theorem Describes.write (describes : Describes directory bytes store) {path : Path}
    {names : List String} (place : path.resolveFrom store.current = directory ++ names)
    (plain : fileName ∉ names) (free : store.entry? (directory ++ names) ≠ some .directory)
    (content : List UInt8) : Describes directory bytes (store.write path content) := by
  have other : ∀ components, components ≠ directory ++ names →
      (store.write path content).files.lookup components = store.files.lookup components := by
    intro components different
    rw [← place] at different
    exact Keyed.lookup_put_other different _ _
  constructor
  · rw [other, describes.file]
    intro same
    have equal := List.append_cancel_left same
    exact plain (equal ▸ List.mem_singleton_self _)
  · intro outer within
    rw [other, describes.above outer within]
    rintro rfl
    exact free (describes.entry_above within)
  · intro own listed different
    rw [other, describes.single own listed different]
    intro same
    exact plain (List.append_cancel_left same ▸ listed)

theorem Describes.held (describes : Describes directory bytes store) (ordinary : ".." ∉ directory) :
    store.bytes (fileIn directory) = .ok bytes := by
  have present : store.entry? (directory ++ [fileName]) = some (.file bytes) := by
    unfold FileStore.entry?
    rw [describes.file]
  have plain : ".." ∉ directory ++ [fileName] := by
    rw [List.mem_append, not_or]
    exact ⟨ordinary, by decide⟩
  have reached : store.find (fileIn directory) =
      .ok (directory ++ [fileName], .file bytes) := by
    refine @FileStore.walk_names store _ plain [] ?_ _ present
    intro front within different
    exact describes.entry_above ((List.prefix_concat_iff.mp within).resolve_left different)
  rw [FileStore.bytes, reached]
  rfl

/-- For all that is in the directory its project file is the nearest one. -/
theorem Describes.isNearest (describes : Describes directory bytes store) (notRoot : directory ≠ [])
    {place : List String} (ordinary : ".." ∉ place) (below : directory <+: place) :
    IsNearest store place directory bytes where
  above := below
  notRoot := notRoot
  held := describes.held fun back => ordinary (below.subset back)
  first := fun closer within longer => by
    obtain ⟨names, rfl⟩ := List.prefix_of_prefix_length_le below within longer.le
    have plain : ".." ∉ (directory ++ names) ++ [fileName] := by
      rw [List.mem_append, not_or]
      exact ⟨fun back => ordinary (within.subset back), by decide⟩
    have occupied : names ≠ [] := by
      rintro rfl
      rw [List.append_nil] at longer
      exact absurd longer (lt_irrefl _)
    rw [Bool.eq_false_iff]
    intro file
    obtain ⟨content, present⟩ := FileStore.entry_of_isFile file
    have target : (fileIn (directory ++ names)).resolveFrom store.current =
        directory ++ (names ++ [fileName]) := by
      rw [← List.append_assoc]
      exact Path.foldl_step_of_ordinary plain []
    have nothing := describes.single (names ++ [fileName]) (by simp) (by simpa using occupied)
    rw [target, FileStore.entry?, nothing] at present
    dsimp only at present
    split at present <;> cases present

end Project

/-! ### Laying out -/

/-- A store as file systems are: names lead to the current directory, and no file lies in the place
of a directory. -/
structure FileStore.IsProper (store : FileStore) : Prop where
  named : ".." ∉ store.current
  apart : ∀ file ∈ store.files, store.hasDirectory file.1 = false

theorem FileStore.IsProper.lookup_of_hasDirectory {store : FileStore} (proper : store.IsProper)
    {components : List String} (home : store.hasDirectory components = true) :
    store.files.lookup components = none := by
  rw [Option.eq_none_iff_forall_ne_some]
  intro bytes present
  have free := proper.apart _ (Keyed.mem_of_lookup_eq_some present)
  rw [home] at free
  cases free

/-- A directory for a new project: nothing is in it. -/
structure Path.IsFresh (root : Path) (store : FileStore) : Prop where
  present : store.isDirectory root = true
  empty : store.children root = []

theorem Path.IsFresh.lookup_above {root : Path} {store : FileStore} (fresh : root.IsFresh store)
    (proper : store.IsProper) {outer : List String}
    (within : outer <+: root.resolveFrom store.current) : store.files.lookup outer = none := by
  have reached := (FileStore.isDirectory_iff store root).mp fresh.present
  have home := FileStore.hasDirectory_of_entry (FileStore.find_eq_ok reached).2
  exact proper.lookup_of_hasDirectory (store.hasDirectory_of_prefix within home)

theorem Path.IsFresh.lookup_below {root : Path} {store : FileStore} (fresh : root.IsFresh store)
    {names : List String} (occupied : names ≠ []) :
    store.files.lookup (root.resolveFrom store.current ++ names) = none := by
  have listed := fresh.empty
  rw [FileStore.children, (FileStore.isDirectory_iff store root).mp fresh.present] at listed
  have nothing : store.names (root.resolveFrom store.current) = [] := List.map_eq_nil_iff.mp listed
  rw [Option.eq_none_iff_forall_ne_some]
  intro bytes present
  cases names with
  | nil => exact occupied rfl
  | cons name rest =>
      have member : name ∈ store.names (root.resolveFrom store.current) := by
        rw [FileStore.mem_names_iff]
        refine ⟨_, Or.inl (List.mem_map_of_mem (Keyed.mem_of_lookup_eq_some present)), rest, ?_⟩
        rw [List.append_assoc]
        rfl
      rw [nothing] at member
      cases member

theorem Path.parent_eq_self {path : Path} (top : path.components = []) : path.parent = path := by
  obtain ⟨anchor, components⟩ := path
  obtain rfl : components = [] := top
  rfl

namespace Workspace

theorem makeDirectories_files {store made : FileStore} {here components : List String}
    (success : makeDirectories store here components = .ok made) :
    made.files = store.files ∧ made.current = store.current := by
  induction components generalizing store here with
  | nil =>
      cases success
      exact ⟨rfl, rfl⟩
  | cons component rest ih =>
      rw [makeDirectories] at success
      split at success
      · cases success
      · exact ih success
      · obtain ⟨files, current⟩ := ih success
        exact ⟨files, current⟩

/-- A file is written only where no directory is. -/
theorem createFile_eq_ok {store written : FileStore} {path : Path} {text : String}
    (success : createFile store path text = .ok written) :
    written = store.write path (bytesOf text) ∧
      store.entry? (path.resolveFrom store.current) ≠ some .directory := by
  unfold createFile at success
  cases reached : store.find path.parent with
  | error cause =>
      rw [reached] at success
      cases success
  | ok found =>
      obtain ⟨directory, entry⟩ := found
      rw [reached] at success
      cases entry with
      | file content => cases success
      | directory =>
          dsimp only at success
          split at success
          · cases success
          · rename_i free
            refine ⟨(Except.ok.inj success).symm, fun present => free ?_⟩
            rw [FileStore.isDirectory_iff]
            by_cases top : path.components = []
            · rw [Path.parent_eq_self top] at reached
              have place : directory = path.resolveFrom store.current :=
                (FileStore.find_eq_ok reached).1
              rw [reached, place]
            · have inside := Path.parent_child_name top
              have place : path.resolveFrom store.current = Path.step directory path.name := by
                have passed : directory = path.parent.resolveFrom store.current :=
                  (FileStore.find_eq_ok reached).1
                rw [passed]
                conv => lhs; rw [← inside]
                simp [Path.resolveFrom, Path.child, Path.isAbsolute]
              have next := store.find_child path.parent path.name directory reached
              rw [inside, ← place, present] at next
              exact next

section Sources

variable {store : FileStore} {root : Path} {bytes : List UInt8}

/-- The project file of a fresh directory describes it. -/
theorem describes_of_createFile (proper : store.IsProper) (fresh : root.IsFresh store)
    {text : String} {written : FileStore}
    (success : createFile store (root.child Project.fileName) text = .ok written) :
    Project.Describes (root.resolveFrom store.current) (bytesOf text) written := by
  have place : (root.child Project.fileName).resolveFrom store.current =
      root.resolveFrom store.current ++ [Project.fileName] :=
    Path.resolveFrom_below (by decide) root store.current
  obtain ⟨rfl, _⟩ := createFile_eq_ok success
  have own : (store.write (root.child Project.fileName) (bytesOf text)).files =
      Keyed.put (·.1) (root.resolveFrom store.current ++ [Project.fileName], bytesOf text)
        store.files := by
    rw [FileStore.write, place]
  constructor
  · rw [own]
    exact Keyed.lookup_put_self _ _ _
  · intro outer within
    have shorter := within.length_le
    rw [own, Keyed.lookup_put_other, fresh.lookup_above proper within]
    rintro rfl
    rw [List.length_append, List.length_singleton] at shorter
    omega
  · intro names listed different
    rw [own, Keyed.lookup_put_other]
    · exact fresh.lookup_below (List.ne_nil_of_mem listed)
    · exact fun same => different (List.append_cancel_left same)

/-- A source leaves the project file and the current directory as they are. -/
theorem describes_of_writeFile
    (describes : Project.Describes (root.resolveFrom store.current) bytes store) {path : Path}
    (down : path.LeadsDown) (plain : Project.fileName ∉ path.components) {text : String}
    {written : FileStore} (success : writeFile store (root.join path) text = .ok written) :
    written.current = store.current ∧
      Project.Describes (root.resolveFrom store.current) bytes written := by
  unfold writeFile at success
  obtain ⟨made, directories, success⟩ := (bind_eq_ok_iff ..).mp success
  obtain ⟨files, current⟩ := makeDirectories_files directories
  have place : (root.join path).resolveFrom made.current =
      root.resolveFrom store.current ++ path.components := by
    rw [Path.join, down.relative, if_neg Bool.false_ne_true, current]
    exact Path.resolveFrom_below down.forward root store.current
  obtain ⟨rfl, free⟩ := createFile_eq_ok success
  rw [place] at free
  exact ⟨current, (describes.congr files).write place plain free _⟩

/-- The path of a source leads down from the directory of the project, and no component of it has
the name of a project file. -/
structure IsSourcePath (path : Path) : Prop where
  down : path.LeadsDown
  plain : Project.fileName ∉ path.components

theorem describes_of_sources {sources : List (Path × String)}
    (ordinary : ∀ source ∈ sources, IsSourcePath source.1)
    (describes : Project.Describes (root.resolveFrom store.current) bytes store)
    {built : FileStore} (success : sources.foldlM (fun store (path, quoted) =>
      writeFile store (root.join path) (sourceContent quoted)) store = .ok built) :
    built.current = store.current ∧
      Project.Describes (root.resolveFrom store.current) bytes built := by
  induction sources generalizing store with
  | nil =>
      cases success
      exact ⟨rfl, describes⟩
  | cons source rest ih =>
      rw [List.forall_mem_cons] at ordinary
      rw [List.foldlM_cons] at success
      obtain ⟨written, first, later⟩ := (bind_eq_ok_iff ..).mp success
      obtain ⟨current, kept⟩ :=
        describes_of_writeFile describes ordinary.1.down ordinary.1.plain first
      rw [← current] at kept ⊢
      exact ih ordinary.2 kept later

end Sources

/-- After a project with a configuration is laid out, its project file describes it. -/
theorem describes_of_build {workspace : Workspace} {store built : FileStore} {root : Path}
    (proper : store.IsProper) (fresh : root.IsFresh store)
    (ordinary : ∀ source ∈ workspace.sources, IsSourcePath source.1)
    {table : Toml.Members} (configured : workspace.configuration = some table) {text : String}
    (spelled : projectText table = some text) (success : workspace.build store root = .ok built) :
    built.current = store.current ∧
      Project.Describes (root.resolveFrom store.current) (bytesOf text) built := by
  unfold build at success
  simp only [configured, spelled] at success
  obtain ⟨written, first, later⟩ := (bind_eq_ok_iff ..).mp success
  have describes := describes_of_createFile proper fresh first
  have current : written.current = store.current := by
    rw [(createFile_eq_ok first).1]
    rfl
  rw [← current] at describes ⊢
  exact describes_of_sources ordinary describes later

/-! ### Calls -/

theorem exists_call_of_source {calls : List Call} {source : Path × String}
    (listed : source ∈ (ofCalls calls).sources) :
    ∃ path quoted, .addSource path quoted ∈ calls ∧ source = (Path.ofText path, quoted) := by
  induction calls using List.reverseRecOn with
  | nil => cases listed
  | append_singleton before call ih =>
      rw [ofCalls, List.foldl_append, List.foldl_cons, List.foldl_nil, ← ofCalls] at listed
      cases call with
      | configure table =>
          obtain ⟨path, quoted, member, same⟩ := ih listed
          exact ⟨path, quoted, List.mem_append_left _ member, same⟩
      | addSource path quoted =>
          rcases List.mem_append.mp listed with earlier | last
          · obtain ⟨path, quoted, member, same⟩ := ih earlier
            exact ⟨path, quoted, List.mem_append_left _ member, same⟩
          · exact ⟨path, quoted, by simp, List.mem_singleton.mp last⟩

/-- The last table given is the one that counts. -/
theorem ofCalls_configuration (before : List Call) (table : Toml.Members) {after : List Call}
    (last : ∀ other, .configure other ∉ after) :
    (ofCalls (before ++ .configure table :: after)).configuration = some table := by
  induction after using List.reverseRecOn with
  | nil => simp [ofCalls, add]
  | append_singleton front call ih =>
      have earlier := ih fun other member => last other (List.mem_append_left _ member)
      have whole : before ++ .configure table :: (front ++ [call]) =
          (before ++ .configure table :: front) ++ [call] := by simp
      rw [whole, ofCalls, List.foldl_append, List.foldl_cons, List.foldl_nil, ← ofCalls]
      cases call with
      | configure other => exact absurd (by simp) (last other)
      | addSource path quoted => exact earlier

end Workspace

/-! ### Reading the settings again -/

namespace Configuration

/-- A table of settings: lists of names and a text for the shared style file, each at most once. -/
structure IsSettings (table : Toml.Members) : Prop where
  apart : (table.map (·.1)).Nodup
  each : ∀ member ∈ table,
    (member.1 ∈ ["factory_names", "factory_methods", "styles_names"] ∧
      ∃ names, member.2 = listOf names) ∨
    member.1 = "global_style_file" ∧ ∃ text, member.2 = .text text

variable {table : Toml.Members}

theorem IsSettings.plain (settings : IsSettings table) :
    ∀ member ∈ table, Toml.IsPlain member.2 := by
  intro member listed
  rcases settings.each member listed with ⟨_, names, same⟩ | ⟨_, text, same⟩
  · rw [same]
    exact .texts names
  · rw [same]
    exact .text text

theorem IsSettings.shared (settings : IsSettings table) {value : Value}
    (set : table.lookup "global_style_file" = some value) : ∃ text, value = .text text := by
  rcases settings.each _ (Keyed.mem_of_lookup_eq_some set) with ⟨listed, _⟩ | ⟨_, text⟩
  · exact absurd listed (by simp)
  · exact text

/-- The bytes of a project file that was written for some settings hold just these. -/
theorem IsSettings.holdsTable (settings : IsSettings table) :
    ∃ text, Workspace.projectText table = some text ∧
      HoldsTable (Workspace.bytesOf text) table := by
  obtain ⟨text, spelled, read⟩ := Toml.parse_projectText settings.plain settings.apart
  have known : document (Workspace.bytesOf text) =
      .ok [("tool", .table [("sheetcheck", .table table)])] := by
    rw [document, Workspace.bytesOf, Text.Utf8.decode?_toUTF8]
    dsimp only
    rw [String.ofList_toList, read]
  exact ⟨text, spelled, _, _, known, rfl, rfl⟩

/-- What settings give to the project in a directory. -/
theorem IsSettings.exists_ofTable (settings : IsSettings table) (directory : Path) :
    ∃ configuration, ofTable directory table = .ok configuration ∧
      configuration.factoryNames = (table.lookup "factory_names").getD standard.factoryNames ∧
      configuration.factoryMethods =
        (table.lookup "factory_methods").getD standard.factoryMethods ∧
      configuration.stylesNames = (table.lookup "styles_names").getD standard.stylesNames ∧
      (∀ text, table.lookup "global_style_file" = some (.text text) → text ≠ "" →
        configuration.sharedFile = some (directory.join (Path.ofText text))) ∧
      (table.lookup "global_style_file" = none ∨
          table.lookup "global_style_file" = some (.text "") →
        configuration.sharedFile = none) := by
  obtain ⟨configuration, follows⟩ := (exists_follows_iff directory table).mpr
    fun value set => Or.inr (settings.shared set)
  have shared := (sharesFile_iff ..).mp follows.sharedFile
  refine ⟨configuration, (ofTable_eq_ok_iff ..).mpr follows,
    ((isSetting_iff ..).mp follows.factoryNames).symm,
    ((isSetting_iff ..).mp follows.factoryMethods).symm,
    ((isSetting_iff ..).mp follows.stylesNames).symm, ?_, ?_⟩
  · intro text set occupied
    have named : (Value.text text).isBlank = false := by simpa [Value.isBlank] using occupied
    rw [set, Option.getD_some, pathFrom, named, if_neg Bool.false_ne_true] at shared
    exact (Except.ok.inj shared).symm
  · rintro (unset | set)
    · rw [unset] at shared
      exact (Except.ok.inj shared).symm
    · rw [set] at shared
      exact (Except.ok.inj shared).symm

end Configuration

namespace Sample

/-- An empty directory beside the current one, inside another project. -/
def emptyProject : FileStore :=
  ⟨[(["work", "pyproject.toml"], [])], [["work", "app"]], ["work", "here"]⟩

/-- Settings with marks, control characters, characters of every length, and nothing at all. -/
def trickySettings : Toml.Members :=
  [("styles_names", Configuration.listOf ["a\"b\\", "\n\r\t\x00\x7f", "é漢😀", ""]),
    ("factory_names", Configuration.listOf []),
    ("global_style_file", .text "src/\"theme\".js")]

/-- What is said before the settings are given for the last time. -/
def firstCalls : List Workspace.Call :=
  [.configure [("factory_methods", Configuration.listOf ["make"])],
    .addSource "src/Card.js" "  const a = 1;\n"]

/-- What is said afterwards. -/
def lastCalls : List Workspace.Call :=
  [.addSource "src/./deep//List.js" ""]

theorem emptyProject_isProper : emptyProject.IsProper where
  named := by decide
  apart := by decide +kernel

theorem emptyProject_isFresh : Path.IsFresh ⟨.here, ["..", "app"]⟩ emptyProject where
  present := by decide +kernel
  empty := by decide +kernel

theorem trickySettings_isSettings : Configuration.IsSettings trickySettings where
  apart := by decide
  each := by
    rw [trickySettings, List.forall_mem_cons, List.forall_mem_cons, List.forall_mem_cons]
    exact ⟨Or.inl ⟨by decide, _, rfl⟩, Or.inl ⟨by decide, _, rfl⟩, Or.inr ⟨rfl, _, rfl⟩,
      fun _ absent => absurd absent List.not_mem_nil⟩

end Sample

/-- Laid out in a fresh directory, together with sources below it, the settings given last are found
again from everywhere in the project, and nothing about them has changed. -/
theorem laid_out_settings_are_found {store : FileStore} (proper : store.IsProper) {root : Path}
    (fresh : root.IsFresh store) (notTop : root.resolveFrom store.current ≠ [])
    {before after : List Workspace.Call} {table : Toml.Members}
    (settings : Configuration.IsSettings table) (last : ∀ other, .configure other ∉ after)
    (sources : ∀ path quoted, .addSource path quoted ∈ before ++ after →
      Workspace.IsSourcePath (Path.ofText path))
    {built : FileStore}
    (success : (Workspace.ofCalls (before ++ .configure table :: after)).build store root =
      .ok built)
    {search : Path}
    (below : root.resolveFrom store.current <+: search.resolveFrom store.current) :
    ∃ configuration, Configuration.find built search = .ok configuration ∧
      configuration.factoryNames =
        (table.lookup "factory_names").getD Configuration.standard.factoryNames ∧
      configuration.factoryMethods =
        (table.lookup "factory_methods").getD Configuration.standard.factoryMethods ∧
      configuration.stylesNames =
        (table.lookup "styles_names").getD Configuration.standard.stylesNames ∧
      (∀ text, table.lookup "global_style_file" = some (.text text) → text ≠ "" →
        configuration.sharedFile =
          some ((root.resolve store.current).join (Path.ofText text))) ∧
      (table.lookup "global_style_file" = none ∨
          table.lookup "global_style_file" = some (.text "") →
        configuration.sharedFile = none) := by
  obtain ⟨text, spelled, holds⟩ := settings.holdsTable
  have ordinary : ∀ source ∈ (Workspace.ofCalls (before ++ .configure table :: after)).sources,
      Workspace.IsSourcePath source.1 := by
    intro source listed
    obtain ⟨path, quoted, member, rfl⟩ := Workspace.exists_call_of_source listed
    exact sources path quoted (by simpa using member)
  obtain ⟨current, describes⟩ := Workspace.describes_of_build proper fresh ordinary
    (Workspace.ofCalls_configuration before table last) spelled success
  have inside : root.resolveFrom store.current <+: search.resolveFrom built.current := by
    rw [current]
    exact below
  have outward : ".." ∉ search.resolveFrom built.current := by
    rw [current]
    exact Path.ordinary_resolveFrom proper.named search
  have nearest := describes.isNearest notTop outward inside
  obtain ⟨configuration, given, fields⟩ :=
    settings.exists_ofTable (root.resolve store.current)
  refine ⟨configuration, ?_, fields⟩
  rw [Configuration.find_of_nearest nearest, Configuration.ofBytes_of_table holds]
  exact given

/-- The second table replaces the first one, and is found from a directory that is not there. -/
theorem sample_layout :
    ∃ built, (Workspace.ofCalls
        (Sample.firstCalls ++ .configure Sample.trickySettings :: Sample.lastCalls)).build
          Sample.emptyProject ⟨.here, ["..", "app"]⟩ = .ok built ∧
      ∃ configuration,
        Configuration.find built ⟨.root, ["work", "app", "src", "gone"]⟩ = .ok configuration ∧
        configuration.stylesNames =
          Configuration.listOf ["a\"b\\", "\n\r\t\x00\x7f", "é漢😀", ""] ∧
        configuration.factoryNames = Configuration.listOf [] ∧
        configuration.factoryMethods = Configuration.standard.factoryMethods ∧
        configuration.sharedFile = some ⟨.root, ["work", "app", "src", "\"theme\".js"]⟩ := by
  obtain ⟨built, success, _⟩ := exists_ok_of_toOption_map (show
    ((Workspace.ofCalls
      (Sample.firstCalls ++ .configure Sample.trickySettings :: Sample.lastCalls)).build
        Sample.emptyProject ⟨.here, ["..", "app"]⟩).toOption.map (fun _ => ()) = some () by
      decide +kernel)
  have sources : ∀ path quoted, .addSource path quoted ∈ Sample.firstCalls ++ Sample.lastCalls →
      Workspace.IsSourcePath (Path.ofText path) := by
    intro path quoted member
    simp only [Sample.firstCalls, Sample.lastCalls, List.cons_append, List.nil_append,
      List.mem_cons, reduceCtorEq, Workspace.Call.addSource.injEq, List.not_mem_nil, or_false,
      false_or] at member
    rcases member with ⟨rfl, _⟩ | ⟨rfl, _⟩
    · exact ⟨by decide +kernel, by decide +kernel⟩
    · exact ⟨by decide +kernel, by decide +kernel⟩
  have below : Path.resolveFrom Sample.emptyProject.current ⟨.here, ["..", "app"]⟩ <+:
      Path.resolveFrom Sample.emptyProject.current ⟨.root, ["work", "app", "src", "gone"]⟩ := by
    decide
  obtain ⟨configuration, found, factories, methods, styles, shared, _⟩ :=
    laid_out_settings_are_found Sample.emptyProject_isProper Sample.emptyProject_isFresh (by decide)
      Sample.trickySettings_isSettings (by simp [Sample.lastCalls]) sources success below
  refine ⟨built, success, configuration, found, styles, factories, methods, ?_⟩
  rw [shared "src/\"theme\".js" rfl (by decide)]
  decide +kernel

end StyleAudit
