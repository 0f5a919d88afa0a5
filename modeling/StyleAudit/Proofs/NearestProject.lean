import Mathlib.Data.List.Infix
import StyleAudit.Configuration
import StyleAudit.Proofs.Audit
import StyleAudit.Proofs.FileStore

/-!
Which project file configures a path.

It is the one of the nearest directory, on the way up from the place that the path names, in which
there is such a file; the root of the file system is left out. Nothing else counts: no other project
file, not the current directory, and not how the path is spelled.
-/

set_option autoImplicit false

namespace StyleAudit

/-! ### The way up -/

namespace Project

/-- The project file of the directory with the given components. -/
def fileIn (directory : List String) : Path :=
  (⟨.root, directory⟩ : Path).child fileName

/-- Whether no directory on the way up from a place holds a project file. -/
def IsBare (store : FileStore) (place : List String) : Prop :=
  ∀ directory, directory <+: place → directory ≠ [] → store.isFile (fileIn directory) = false

/-- Whether a directory is the first one with a project file on the way up from a place, and what
this file holds. -/
structure IsNearest (store : FileStore) (place directory : List String) (bytes : List UInt8) :
    Prop where
  above : directory <+: place
  notRoot : directory ≠ []
  held : store.bytes (fileIn directory) = .ok bytes
  first : ∀ closer, closer <+: place → directory.length < closer.length →
    store.isFile (fileIn closer) = false

theorem mem_upwards_iff (place directory : List String) :
    directory ∈ upwards place ↔ directory <+: place ∧ directory ≠ [] := by
  simp only [upwards, List.mem_map, List.mem_range]
  constructor
  · rintro ⟨count, inside, rfl⟩
    refine ⟨List.take_prefix _ _, fun empty => ?_⟩
    have length := congrArg List.length empty
    rw [List.length_take, List.length_nil] at length
    omega
  · rintro ⟨above, occupied⟩
    have shorter := above.length_le
    have positive := List.length_pos_iff.mpr occupied
    refine ⟨place.length - directory.length, by omega, ?_⟩
    rw [Nat.sub_sub_self shorter]
    exact (List.prefix_iff_eq_take.mp above).symm

/-- The way up leads from longer paths to shorter ones. -/
theorem upwards_pairwise (place : List String) :
    (upwards place).Pairwise fun inner outer => outer.length < inner.length := by
  rw [upwards, List.pairwise_map]
  refine List.pairwise_lt_range.imp_of_mem ?_
  intro early late _ inside less
  have bound := List.mem_range.mp inside
  rw [List.length_take, List.length_take]
  omega

/-- There is only one nearest directory. -/
theorem IsNearest.unique {store : FileStore} {place directory other : List String}
    {bytes others : List UInt8} (nearest : IsNearest store place directory bytes)
    (second : IsNearest store place other others) : other = directory ∧ others = bytes := by
  have notCloser : ¬ directory.length < other.length := fun longer => by
    have file := (FileStore.isFile_iff _ _).mpr ⟨others, second.held⟩
    rw [nearest.first other second.above longer] at file
    cases file
  have notFurther : ¬ other.length < directory.length := fun longer => by
    have file := (FileStore.isFile_iff _ _).mpr ⟨bytes, nearest.held⟩
    rw [second.first directory nearest.above longer] at file
    cases file
  have same : other = directory :=
    (List.prefix_of_prefix_length_le second.above nearest.above (by omega)).eq_of_length (by omega)
  subst same
  refine ⟨rfl, ?_⟩
  have held := second.held
  rw [nearest.held] at held
  exact (Except.ok.inj held).symm

/-- Which directory is the nearest does not depend on what the files hold. -/
theorem IsNearest.withContents {store : FileStore} {place directory : List String}
    {bytes : List UInt8} (nearest : IsNearest store place directory bytes)
    (change : List String → List UInt8 → List UInt8) :
    IsNearest (store.withContents change) place directory
      (change ((fileIn directory).resolveFrom store.current) bytes) where
  above := nearest.above
  notRoot := nearest.notRoot
  held := FileStore.withContents_bytes change nearest.held
  first := fun closer within longer => by
    rw [FileStore.withContents_isFile, nearest.first closer within longer]

theorem isBare_withContents_iff (store : FileStore) (place : List String)
    (change : List String → List UInt8 → List UInt8) :
    IsBare (store.withContents change) place ↔ IsBare store place := by
  simp only [IsBare, FileStore.withContents_isFile]

variable {store : FileStore} {search : Path}

theorem described?_eq (store : FileStore) (search : Path) :
    described? store search =
      ((upwards (search.resolveFrom store.current)).find? fun directory =>
        store.isFile (fileIn directory)).map fun directory => ⟨.root, directory⟩ := by
  rw [described?, candidates, List.find?_map]
  rfl

theorem described?_eq_none_iff (store : FileStore) (search : Path) :
    described? store search = none ↔ IsBare store (search.resolveFrom store.current) := by
  simp only [described?_eq, Option.map_eq_none_iff, List.find?_eq_none, mem_upwards_iff, IsBare,
    and_imp, Bool.not_eq_true]

theorem IsNearest.described? {directory : List String} {bytes : List UInt8}
    (nearest : IsNearest store (search.resolveFrom store.current) directory bytes) :
    Project.described? store search = some ⟨.root, directory⟩ := by
  have listed := (mem_upwards_iff _ _).mpr ⟨nearest.above, nearest.notRoot⟩
  obtain ⟨inner, outer, split⟩ := List.append_of_mem listed
  have order := upwards_pairwise (search.resolveFrom store.current)
  rw [split, List.pairwise_append] at order
  have found : (upwards (search.resolveFrom store.current)).find? (fun directory =>
      store.isFile (fileIn directory)) = some directory := by
    rw [List.find?_eq_some_iff_append]
    refine ⟨(FileStore.isFile_iff _ _).mpr ⟨bytes, nearest.held⟩, inner, outer, split, ?_⟩
    intro closer member
    have within : closer ∈ upwards (search.resolveFrom store.current) := by simp [split, member]
    rw [nearest.first closer ((mem_upwards_iff _ _).mp within).1
      (order.2.2 closer member directory List.mem_cons_self)]
    rfl
  rw [described?_eq, found]
  rfl

/-- Where some directory on the way up holds a project file, one of them is the nearest. -/
theorem exists_nearest {place : List String} (occupied : ¬ IsBare store place) :
    ∃ directory bytes, IsNearest store place directory bytes := by
  cases found : (upwards place).find? fun directory => store.isFile (fileIn directory) with
  | none =>
      refine absurd ?_ occupied
      intro directory above notRoot
      have rejected := List.find?_eq_none.mp found directory
        ((mem_upwards_iff _ _).mpr ⟨above, notRoot⟩)
      exact Bool.eq_false_iff.mpr rejected
  | some directory =>
      obtain ⟨file, inner, outer, split, rejected⟩ := List.find?_eq_some_iff_append.mp found
      obtain ⟨bytes, held⟩ := (FileStore.isFile_iff _ _).mp file
      have listed : directory ∈ upwards place := by simp [split]
      obtain ⟨above, notRoot⟩ := (mem_upwards_iff _ _).mp listed
      refine ⟨directory, bytes, above, notRoot, held, ?_⟩
      intro closer within longer
      have order := upwards_pairwise place
      have member : closer ∈ upwards place := by
        refine (mem_upwards_iff _ _).mpr ⟨within, ?_⟩
        rintro rfl
        exact absurd longer (Nat.not_lt_zero _)
      rw [split, List.pairwise_append, List.pairwise_cons] at order
      rw [split] at member
      rcases List.mem_append.mp member with early | late
      · have free := rejected closer early
        rwa [Bool.not_eq_true'] at free
      · rcases List.mem_cons.mp late with rfl | further
        · exact absurd longer (lt_irrefl _)
        · exact absurd longer (Nat.not_lt.mpr (order.2.1.1 closer further).le)

end Project

/-! ### The table -/

namespace Configuration

/-- The configuration that the bytes of a project file give to the project in a directory. -/
def ofBytes (directory : Path) (bytes : List UInt8) : Except ConfigurationError Configuration := do
  let tools ← tableIn "tool" (← document bytes)
  ofTable directory (← tableIn "sheetcheck" tools)

/-- Whether bytes hold a document with a table for the tool. -/
def HoldsTable (bytes : List UInt8) (table : Toml.Members) : Prop :=
  ∃ members tools, document bytes = .ok members ∧ members.lookup "tool" = some (.table tools) ∧
    tools.lookup "sheetcheck" = some (.table table)

/-- Whether a value is the one that a table has under a name, or the standard one where the table
has none. -/
def IsSetting (table : Toml.Members) (name : String) (standard value : Value) : Prop :=
  table.lookup name = some value ∨ table.lookup name = none ∧ value = standard

/-- The shared style file that a table names, as seen from the directory of its project file. -/
inductive SharesFile (table : Toml.Members) (directory : Path) : Option Path → Prop where
  | absent (unset : table.lookup "global_style_file" = none) : SharesFile table directory none
  | blank {value : Value} (set : table.lookup "global_style_file" = some value)
      (blank : value.isBlank = true) : SharesFile table directory none
  | absolute {text : String} (set : table.lookup "global_style_file" = some (.text text))
      (occupied : text ≠ "") (absolute : (Path.ofText text).isAbsolute = true) :
      SharesFile table directory (some (Path.ofText text))
  | relative {text : String} (set : table.lookup "global_style_file" = some (.text text))
      (occupied : text ≠ "") (relative : (Path.ofText text).isAbsolute = false) :
      SharesFile table directory
        (some ⟨directory.anchor, directory.components ++ (Path.ofText text).components⟩)

/-- Whether a configuration is the one that a table gives to the project in a directory. -/
structure Follows (configuration : Configuration) (directory : Path) (table : Toml.Members) :
    Prop where
  factoryNames : IsSetting table "factory_names" standard.factoryNames configuration.factoryNames
  factoryMethods :
    IsSetting table "factory_methods" standard.factoryMethods configuration.factoryMethods
  stylesNames : IsSetting table "styles_names" standard.stylesNames configuration.stylesNames
  sharedFile : SharesFile table directory configuration.sharedFile

theorem isSetting_iff (table : Toml.Members) (name : String) (standard value : Value) :
    IsSetting table name standard value ↔ (table.lookup name).getD standard = value := by
  unfold IsSetting
  cases table.lookup name with
  | none => simp [eq_comm]
  | some own => simp

theorem sharesFile_iff (table : Toml.Members) (directory : Path) (shared : Option Path) :
    SharesFile table directory shared ↔
      pathFrom directory ((table.lookup "global_style_file").getD .null) = .ok shared := by
  unfold pathFrom
  constructor
  · intro shares
    cases shares with
    | absent unset =>
        rw [unset]
        rfl
    | blank set blank => rw [set, Option.getD_some, if_pos blank]
    | absolute set occupied absolute =>
        simp [set, Value.isBlank, occupied, Path.join, absolute]
    | relative set occupied relative =>
        simp [set, Value.isBlank, occupied, Path.join, relative]
  · intro given
    cases set : table.lookup "global_style_file" with
    | none =>
        rw [set] at given
        cases given
        exact .absent set
    | some value =>
        rw [set, Option.getD_some] at given
        split at given
        · rename_i blank
          cases given
          exact .blank set blank
        · rename_i named
          cases value with
          | text text =>
              have occupied : text ≠ "" := by
                simpa [Value.isBlank] using named
              cases given
              unfold Path.join
              split
              · rename_i absolute
                exact .absolute set occupied absolute
              · rename_i relative
                exact .relative set occupied (Bool.eq_false_iff.mpr relative)
          | _ => cases given

theorem ofTable_eq_ok_iff (directory : Path) (table : Toml.Members)
    (configuration : Configuration) :
    ofTable directory table = .ok configuration ↔ configuration.Follows directory table := by
  obtain ⟨factoryNames, factoryMethods, stylesNames, sharedFile⟩ := configuration
  rw [ofTable]
  simp only [bind_eq_ok_iff, pure, Except.pure, Except.ok.injEq, mk.injEq]
  constructor
  · rintro ⟨shared, given, rfl, rfl, rfl, rfl⟩
    exact ⟨(isSetting_iff ..).mpr rfl, (isSetting_iff ..).mpr rfl, (isSetting_iff ..).mpr rfl,
      (sharesFile_iff ..).mpr given⟩
  · rintro ⟨names, methods, styles, shared⟩
    exact ⟨sharedFile, (sharesFile_iff ..).mp shared, (isSetting_iff ..).mp names,
      (isSetting_iff ..).mp methods, (isSetting_iff ..).mp styles, rfl⟩

theorem ofBytes_of_table {bytes : List UInt8} {table : Toml.Members}
    (holds : HoldsTable bytes table) (directory : Path) :
    ofBytes directory bytes = ofTable directory table := by
  obtain ⟨members, tools, read, tool, own⟩ := holds
  simp only [ofBytes, read, tableIn, tool, own, bind, Except.bind]

/-- A table gives a configuration unless it names the shared style file by something other than a
text. -/
theorem exists_follows_iff (directory : Path) (table : Toml.Members) :
    (∃ configuration : Configuration, configuration.Follows directory table) ↔
      ∀ value, table.lookup "global_style_file" = some value →
        value.isBlank = true ∨ ∃ text, value = .text text := by
  constructor
  · rintro ⟨⟨_, _, _, shared⟩, ⟨_, _, _, shares⟩⟩ value set
    cases shares with
    | absent unset =>
        rw [unset] at set
        cases set
    | blank own blank =>
        rw [own] at set
        cases set
        exact Or.inl blank
    | absolute own _ _ =>
        rw [own] at set
        cases set
        exact Or.inr ⟨_, rfl⟩
    | relative own _ _ =>
        rw [own] at set
        cases set
        exact Or.inr ⟨_, rfl⟩
  · intro named
    have shares : ∃ shared, SharesFile table directory shared := by
      cases set : table.lookup "global_style_file" with
      | none => exact ⟨none, .absent set⟩
      | some value =>
          rcases named value set with blank | ⟨text, rfl⟩
          · exact ⟨none, .blank set blank⟩
          · by_cases occupied : text = ""
            · exact ⟨none, .blank set (by rw [occupied]; rfl)⟩
            · cases absolute : (Path.ofText text).isAbsolute with
              | true => exact ⟨_, .absolute set occupied absolute⟩
              | false => exact ⟨_, .relative set occupied absolute⟩
    obtain ⟨shared, given⟩ := shares
    exact ⟨⟨_, _, _, shared⟩, (isSetting_iff ..).mpr rfl, (isSetting_iff ..).mpr rfl,
      (isSetting_iff ..).mpr rfl, given⟩

theorem find_of_bare {store : FileStore} {search : Path}
    (bare : Project.IsBare store (search.resolveFrom store.current)) :
    find store search = .ok standard := by
  rw [find, (Project.described?_eq_none_iff store search).mpr bare]

theorem find_of_nearest {store : FileStore} {search : Path} {directory : List String}
    {bytes : List UInt8}
    (nearest : Project.IsNearest store (search.resolveFrom store.current) directory bytes) :
    find store search = ofBytes ⟨.root, directory⟩ bytes := by
  have held : store.bytes ((⟨.root, directory⟩ : Path).child Project.fileName) = .ok bytes :=
    nearest.held
  rw [find, nearest.described?]
  show read store ⟨.root, directory⟩ = _
  rw [read, held]
  rfl

/-- Bytes that are no text give no configuration. -/
theorem ofBytes_undecodable (directory : Path) :
    ofBytes directory [0xFF] = .error .undecodable := rfl

/-- The standard configuration applies, whatever the files hold, only where there is no project
file. -/
theorem find_standard_iff (store : FileStore) (search : Path) :
    (∀ change, find (store.withContents change) search = .ok standard) ↔
      Project.IsBare store (search.resolveFrom store.current) := by
  constructor
  · intro always
    by_contra occupied
    obtain ⟨directory, bytes, nearest⟩ := Project.exists_nearest occupied
    have damaged := nearest.withContents fun _ _ => [0xFF]
    have given := always fun _ _ => [0xFF]
    rw [find_of_nearest damaged, ofBytes_undecodable] at given
    cases given
  · intro bare change
    exact find_of_bare ((Project.isBare_withContents_iff store _ change).mpr bare)

/-- A configuration depends on the path searched from only by the place that it names. -/
theorem find_congr {store : FileStore} {search other : Path}
    (same : other.resolveFrom store.current = search.resolveFrom store.current) :
    find store other = find store search := by
  simp only [find, Project.described?, Project.candidates, same]

/-- Going into a directory and back leads nowhere. -/
theorem resolveFrom_detour {path : Path} {front back : List String} {name : String}
    (spelled : path.components = front ++ name :: ".." :: back) (ordinary : name ≠ "..")
    (directory : List String) :
    ({ path with components := front ++ back } : Path).resolveFrom directory =
      path.resolveFrom directory := by
  have returned : ∀ here, Path.step (Path.step here name) ".." = here := fun here => by
    simp [Path.step, ordinary]
  show (front ++ back).foldl Path.step (if path.isAbsolute then [] else directory) = _
  rw [Path.resolveFrom, spelled, List.foldl_append, List.foldl_append, List.foldl_cons,
    List.foldl_cons, returned]

end Configuration

/-- The configuration of a path is that of its nearest project file, and nothing else counts. Where
no directory on the way up from the place that the path names has such a file, the root of the file
system aside, the standard configuration applies; and only there does it apply whatever the files
hold. Otherwise exactly one directory is the nearest, and the bytes of its file decide: if they hold
a table for the tool, the configuration follows this table, and there is one unless the table names
the shared style file by something other than a text. In another store, from another current
directory and from another path the outcome is the same as long as the nearest file lies in the same
directory and holds the same bytes; and a path may go into a directory and back on its way. -/
theorem configured_by_nearest (store : FileStore) (search : Path) :
    (Project.IsBare store (search.resolveFrom store.current) →
      Configuration.find store search = .ok .standard) ∧
    ((∀ change, Configuration.find (store.withContents change) search = .ok .standard) ↔
      Project.IsBare store (search.resolveFrom store.current)) ∧
    (¬ Project.IsBare store (search.resolveFrom store.current) →
      ∃ directory bytes,
        Project.IsNearest store (search.resolveFrom store.current) directory bytes ∧
        ∀ other others, Project.IsNearest store (search.resolveFrom store.current) other others →
          other = directory ∧ others = bytes) ∧
    (∀ directory bytes,
      Project.IsNearest store (search.resolveFrom store.current) directory bytes →
      Configuration.find store search = Configuration.ofBytes ⟨.root, directory⟩ bytes ∧
      (∀ table, Configuration.HoldsTable bytes table →
        (∀ configuration : Configuration, Configuration.find store search = .ok configuration ↔
          configuration.Follows ⟨.root, directory⟩ table) ∧
        ((∃ configuration, Configuration.find store search = .ok configuration) ↔
          ∀ value, table.lookup "global_style_file" = some value →
            value.isBlank = true ∨ ∃ text, value = .text text)) ∧
      ∀ (other : FileStore) (path : Path),
        Project.IsNearest other (path.resolveFrom other.current) directory bytes →
        Configuration.find other path = Configuration.find store search) ∧
    ∀ front name back, name ≠ ".." → search.components = front ++ name :: ".." :: back →
      Configuration.find store { search with components := front ++ back } =
        Configuration.find store search := by
  refine ⟨Configuration.find_of_bare, Configuration.find_standard_iff store search, ?_, ?_, ?_⟩
  · intro occupied
    obtain ⟨directory, bytes, nearest⟩ := Project.exists_nearest occupied
    exact ⟨directory, bytes, nearest, fun _ _ => nearest.unique⟩
  · intro directory bytes nearest
    have found := Configuration.find_of_nearest nearest
    refine ⟨found, fun table holds => ?_, fun other path second => ?_⟩
    · have given := found.trans (Configuration.ofBytes_of_table holds ⟨.root, directory⟩)
      simp only [given, Configuration.ofTable_eq_ok_iff, Configuration.exists_follows_iff,
        implies_true, and_self]
    · rw [found, Configuration.find_of_nearest second]
  · intro front name back ordinary spelled
    exact Configuration.find_congr (Configuration.resolveFrom_detour spelled ordinary _)

namespace Sample

def innerBytes : List UInt8 :=
  "[tool.sheetcheck]\nstyles_names = [\"css\"]\nglobal_style_file = \"theme.js\"".toUTF8.toList

/-- A project inside another one. Beside its sources lies a directory that is named like a project
file. -/
def nestedProjects : FileStore :=
  ⟨[(["outer", "pyproject.toml"], "[tool.sheetcheck]\nfactory_names = []".toUTF8.toList),
    (["outer", "inner", "pyproject.toml"], innerBytes)],
    [["outer", "inner", "src", "pyproject.toml"]], ["outer"]⟩

theorem nestedProjects_nearest : Project.IsNearest nestedProjects ["outer", "inner", "src"]
    ["outer", "inner"] innerBytes where
  above := by decide
  notRoot := by decide
  held := by decide +kernel
  first := fun closer within longer => by
    have free : ∀ closer ∈ ["outer", "inner", "src"].inits,
        ["outer", "inner"].length < closer.length →
          nestedProjects.isFile (Project.fileIn closer) = false := by
      decide +kernel
    exact free closer ((List.mem_inits _ _).mpr within) longer

theorem nestedProjects_bare : Project.IsBare nestedProjects ["elsewhere"] := by
  have free : ∀ directory ∈ ["elsewhere"].inits, directory ≠ [] →
      nestedProjects.isFile (Project.fileIn directory) = false := by
    decide +kernel
  exact fun directory above => free directory ((List.mem_inits _ _).mpr above)

theorem member?_eq_some {value member : Value} {name : String}
    (found : value.member? name = some member) :
    ∃ members, value = .table members ∧ members.lookup name = some member := by
  cases value with
  | table members => exact ⟨members, rfl, found⟩
  | _ => cases found

theorem innerBytes_holdsTable : ∃ table, Configuration.HoldsTable innerBytes table := by
  have seen : ((Configuration.document innerBytes).toOption.bind fun members =>
      ((members.lookup "tool").bind (·.member? "sheetcheck")).bind
        (·.member? "styles_names")).isSome = true := by
    decide +kernel
  obtain ⟨styles, seen⟩ := Option.isSome_iff_exists.mp seen
  obtain ⟨members, read, seen⟩ := Option.bind_eq_some_iff.mp seen
  obtain ⟨own, seen, inside⟩ := Option.bind_eq_some_iff.mp seen
  obtain ⟨tool, found, seen⟩ := Option.bind_eq_some_iff.mp seen
  obtain ⟨tools, rfl, nested⟩ := member?_eq_some seen
  obtain ⟨table, rfl, _⟩ := member?_eq_some inside
  refine ⟨table, members, tools, ?_, found, nested⟩
  cases outcome : Configuration.document innerBytes with
  | error cause =>
      rw [outcome] at read
      cases read
  | ok known =>
      rw [outcome] at read
      cases read
      rfl

end Sample

/-- From its sources the inner project is configured by its own file, however they are reached; next
to both projects nothing is configured. -/
theorem sample_configured :
    Project.IsNearest Sample.nestedProjects ["outer", "inner", "src"] ["outer", "inner"]
      Sample.innerBytes ∧
    (∃ table configuration, Configuration.HoldsTable Sample.innerBytes table ∧
      Configuration.find Sample.nestedProjects ⟨.here, ["inner", "src"]⟩ = .ok configuration ∧
      configuration.Follows ⟨.root, ["outer", "inner"]⟩ table ∧
      configuration.settings = ⟨.listed ["StyleSheet", "MediaQueryStyleSheet"], .listed ["create"],
        .listed ["css"]⟩ ∧
      configuration.sharedFile = some ⟨.root, ["outer", "inner", "theme.js"]⟩) ∧
    Configuration.find Sample.nestedProjects ⟨.here, ["inner", "src"]⟩ =
      Configuration.find Sample.nestedProjects ⟨.here, ["inner", "..", "inner", "src"]⟩ ∧
    Project.IsBare Sample.nestedProjects ["elsewhere"] ∧
    Configuration.find Sample.nestedProjects ⟨.root, ["elsewhere"]⟩ = .ok .standard := by
  have nearest := Sample.nestedProjects_nearest
  have bare := Sample.nestedProjects_bare
  obtain ⟨table, holds⟩ := Sample.innerBytes_holdsTable
  obtain ⟨_, _, _, given, _⟩ :=
    configured_by_nearest Sample.nestedProjects ⟨.here, ["inner", "src"]⟩
  obtain ⟨own, follows, _⟩ := given _ _ nearest
  obtain ⟨configuration, read, settings, shared⟩ : ∃ configuration,
      Configuration.ofBytes ⟨.root, ["outer", "inner"]⟩ Sample.innerBytes = .ok configuration ∧
      configuration.settings = ⟨.listed ["StyleSheet", "MediaQueryStyleSheet"],
        .listed ["create"], .listed ["css"]⟩ ∧
      configuration.sharedFile = some ⟨.root, ["outer", "inner", "theme.js"]⟩ := by
    obtain ⟨configuration, read, seen⟩ := exists_ok_of_toOption_map (show
      (Configuration.ofBytes ⟨.root, ["outer", "inner"]⟩ Sample.innerBytes).toOption.map
        (fun configuration => (configuration.settings, configuration.sharedFile)) =
          some (⟨.listed ["StyleSheet", "MediaQueryStyleSheet"], .listed ["create"],
            .listed ["css"]⟩, some ⟨.root, ["outer", "inner", "theme.js"]⟩) by decide +kernel)
    exact ⟨configuration, read, congrArg Prod.fst seen, congrArg Prod.snd seen⟩
  have found := own.trans read
  have detour := (configured_by_nearest Sample.nestedProjects
    ⟨.here, ["inner", "..", "inner", "src"]⟩).2.2.2.2 [] "inner" ["inner", "src"] (by decide) rfl
  have plain := (configured_by_nearest Sample.nestedProjects ⟨.root, ["elsewhere"]⟩).1 bare
  exact ⟨nearest, ⟨table, configuration, holds, found, ((follows table holds).1 _).mp found,
    settings, shared⟩, detour, bare, plain⟩

end StyleAudit
