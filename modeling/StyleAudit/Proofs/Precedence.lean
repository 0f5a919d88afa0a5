import StyleAudit.Proofs.Catalogue
import StyleAudit.Proofs.FileStore
import StyleAudit.Proofs.Path

/-!
Which message counts.

A message is that of the last place that has one: of the later roots, of a project's own directory
inside a root, of the later files inside a directory. A language comes before the standard one, and
what neither has is its own text. A catalogue that loads languages as they are asked for, and again
when roots are added, gives the same answers as one that looks at all files each time.
-/

set_option autoImplicit false

namespace StyleAudit

/-! ### Texts by their keys -/

/-- The texts that some place has for keys. -/
abbrev Texts := String → Option String

/-- The texts of two places together, where those of the second one count if both have one. -/
def overlay (base later : Texts) : Texts :=
  fun key => (later key).or (base key)

/-- The texts of a message file. -/
def MessageFile.texts : MessageFile → Texts
  | messages found => fun key => found.lookup key
  | _ => fun _ => none

namespace Loading

/-- The message files inside a directory in the order in which they are read. -/
def filesInside (store : FileStore) (directory : Path) : List Path :=
  Path.sort ((store.allInside directory).filter fun path =>
    store.isFile path && isMessageName path)

/-- The texts of a directory: those of its message files, one over the other. -/
def textsInside (store : FileStore) (directory : Path) : Texts :=
  (filesInside store directory).foldl
    (fun base path => overlay base (MessageFile.read store path).texts) fun _ => none

end Loading

theorem Loading.textsInside_singleton {store : FileStore} {directory path : Path}
    (single : Loading.filesInside store directory = [path]) :
    Loading.textsInside store directory = (MessageFile.read store path).texts := by
  rw [Loading.textsInside, single]
  funext key
  exact Option.or_none

/-- The texts of a root in a language. Those of a project's own directory lie over the others. -/
def MessageRoot.texts (store : FileStore) (language : String) : MessageRoot → Texts
  | directory path =>
    overlay (Loading.textsInside store ((path.child "needle").join (Path.ofText language)))
      (Loading.textsInside store
        (((path.child ".sheetcheck").child "needle").join (Path.ofText language)))
  | packaged =>
    if (Path.ofText language).isAbsolute then Loading.textsInside store (Path.ofText language)
    else fun key => (Packaged.messages (Path.ofText language)).lookup key

/-- The text of the only file in a project's own directory comes before all others of the
project. -/
theorem MessageRoot.texts_of_hidden {store : FileStore} {root path : Path}
    {language key text : String}
    (single : Loading.filesInside store
      (((root.child ".sheetcheck").child "needle").join (Path.ofText language)) = [path])
    (found : (MessageFile.read store path).texts key = some text) :
    (MessageRoot.directory root).texts store language key = some text := by
  rw [MessageRoot.texts, overlay, Loading.textsInside_singleton single, found, Option.some_or]

namespace Catalogue

/-- The texts of roots in a language, those of each root over those of the roots before it. -/
def texts (store : FileStore) (roots : List MessageRoot) (language : String) : Texts :=
  roots.foldl (fun base root => overlay base (root.texts store language)) fun _ => none

/-- The message of a key as the files of the roots have it: in a language, else in the standard one,
else the key itself. -/
def plainText (store : FileStore) (roots : List MessageRoot) (language key : String) : String :=
  ((texts store roots language key).or (texts store roots standardLanguage key)).getD key

end Catalogue

/-- Whether no message file holds something other than a table. Those that cannot be read are let
pass. -/
def FileStore.HoldsTables (store : FileStore) : Prop :=
  ∀ directory, ∀ path ∈ Loading.filesInside store directory,
    MessageFile.read store path ≠ .notTable

theorem FileStore.holdsTables_of_files {store : FileStore}
    (each : ∀ file ∈ store.files, MessageFile.ofBytes file.2 ≠ .notTable) : store.HoldsTables := by
  intro directory path _
  unfold MessageFile.read
  cases opened : store.bytes path with
  | error cause => exact MessageFile.noConfusion
  | ok bytes =>
      obtain ⟨components, member⟩ := FileStore.exists_file_of_bytes opened
      exact each _ member

/-! ### Loading -/

namespace Loading

/-- The texts that were loaded. -/
def texts (loading : Loading) : Texts :=
  fun key => loading.messages.bind (·.lookup key)

/-- Whether loading came to its end. -/
def IsWhole (loading : Loading) : Prop :=
  ∃ messages, loading.messages = some messages

theorem empty_isWhole : empty.IsWhole :=
  ⟨[], rfl⟩

theorem append_isWhole {first second : Loading} (firstWhole : first.IsWhole)
    (secondWhole : second.IsWhole) : (first.append second).IsWhole := by
  obtain ⟨base, loaded⟩ := firstWhole
  obtain ⟨later, after⟩ := secondWhole
  rw [append, loaded, after]
  exact ⟨later ++ base, rfl⟩

theorem append_texts {first second : Loading} (firstWhole : first.IsWhole)
    (secondWhole : second.IsWhole) :
    (first.append second).texts = overlay first.texts second.texts := by
  obtain ⟨base, loaded⟩ := firstWhole
  obtain ⟨later, after⟩ := secondWhole
  funext key
  simp only [texts, overlay, append, loaded, after, Option.map_some, Option.bind_some,
    List.lookup_append]

/-- Loads one after the other have the texts of the single loads, one over the other. -/
theorem foldl_append {loadings : List Loading} {start : Loading} (startWhole : start.IsWhole)
    (each : ∀ loading ∈ loadings, loading.IsWhole) :
    (loadings.foldl append start).IsWhole ∧
      (loadings.foldl append start).texts =
        loadings.foldl (fun base loading => overlay base loading.texts) start.texts := by
  induction loadings generalizing start with
  | nil => exact ⟨startWhole, rfl⟩
  | cons loading rest ih =>
      have whole := each loading List.mem_cons_self
      have later := ih (append_isWhole startWhole whole) fun other member =>
        each other (List.mem_cons_of_mem loading member)
      rw [append_texts startWhole whole] at later
      exact later

end Loading

namespace Loading

variable {store : FileStore}

theorem ofFile_of_table {path : Path} (table : MessageFile.read store path ≠ .notTable) :
    (ofFile store path).IsWhole ∧
      (ofFile store path).texts = (MessageFile.read store path).texts := by
  unfold ofFile
  cases read : MessageFile.read store path with
  | messages found => exact ⟨⟨found, rfl⟩, rfl⟩
  | skipped reason => exact ⟨⟨[], rfl⟩, rfl⟩
  | notTable => exact absurd read table

theorem ofDirectory_of_tables {directory : Path}
    (tables : ∀ path ∈ filesInside store directory, MessageFile.read store path ≠ .notTable) :
    (ofDirectory store directory).IsWhole ∧
      (ofDirectory store directory).texts = textsInside store directory := by
  have each : ∀ loading ∈ (filesInside store directory).map (ofFile store), loading.IsWhole := by
    intro loading member
    obtain ⟨path, inside, rfl⟩ := List.mem_map.mp member
    exact (ofFile_of_table (tables path inside)).1
  obtain ⟨whole, texts⟩ := foldl_append empty_isWhole each
  refine ⟨whole, texts.trans ?_⟩
  rw [List.foldl_map]
  exact List.foldl_ext _ _ _ fun base path inside => by
    rw [(ofFile_of_table (tables path inside)).2]

end Loading

section Tables

variable {store : FileStore} (tables : store.HoldsTables)

include tables

theorem MessageRoot.load_of_tables (language : String) (root : MessageRoot) :
    (root.load store language).IsWhole ∧
      (root.load store language).texts = root.texts store language := by
  have both : ∀ directory other : Path,
      ((Loading.ofDirectory store directory).append (Loading.ofDirectory store other)).IsWhole ∧
      ((Loading.ofDirectory store directory).append (Loading.ofDirectory store other)).texts =
        overlay (Loading.textsInside store directory) (Loading.textsInside store other) := by
    intro directory other
    obtain ⟨whole, texts⟩ := Loading.ofDirectory_of_tables (tables directory)
    obtain ⟨otherWhole, otherTexts⟩ := Loading.ofDirectory_of_tables (tables other)
    rw [Loading.append_texts whole otherWhole, texts, otherTexts]
    exact ⟨Loading.append_isWhole whole otherWhole, rfl⟩
  cases root with
  | directory path => exact both _ _
  | packaged =>
      cases absolute : (Path.ofText language).isAbsolute with
      | false =>
          simp only [MessageRoot.load, MessageRoot.texts, absolute, Bool.false_eq_true, ↓reduceIte]
          exact ⟨⟨_, rfl⟩, rfl⟩
      | true =>
          -- An absolute language is one directory, which then lies over itself.
          have whole : ∀ directory : Path, directory.join (Path.ofText language) =
              Path.ofText language := fun directory => by rw [Path.join, absolute]; rfl
          have twice : ∀ texts : Texts, overlay texts texts = texts := by
            intro texts
            funext key
            exact Option.or_self
          have own := both (Path.ofText language) (Path.ofText language)
          rw [twice] at own
          simp only [MessageRoot.load, MessageRoot.texts, MessageRoot.loadDirectory, whole,
            absolute, ↓reduceIte]
          exact own

/-- Loading a language gives the texts that the roots have in it. -/
theorem Catalogue.loadRoots_of_tables (roots : List MessageRoot) (language : String) :
    (Catalogue.loadRoots store roots language).IsWhole ∧
      (Catalogue.loadRoots store roots language).texts = Catalogue.texts store roots language := by
  have each : ∀ loading ∈ roots.map (MessageRoot.load store language), loading.IsWhole := by
    intro loading member
    obtain ⟨root, _, rfl⟩ := List.mem_map.mp member
    exact (MessageRoot.load_of_tables tables language root).1
  obtain ⟨whole, texts⟩ := Loading.foldl_append Loading.empty_isWhole each
  refine ⟨whole, texts.trans ?_⟩
  rw [List.foldl_map]
  exact List.foldl_ext _ _ _ fun base root _ => by
    rw [(MessageRoot.load_of_tables tables language root).2]

theorem Catalogue.messageIn_of_tables (roots : List MessageRoot) (language key : String) :
    Catalogue.messageIn store roots language key =
      some (Catalogue.plainText store roots language key) := by
  obtain ⟨⟨messages, loaded⟩, texts⟩ := Catalogue.loadRoots_of_tables tables roots language
  obtain ⟨⟨standard, standardLoaded⟩, standardTexts⟩ :=
    Catalogue.loadRoots_of_tables tables roots Catalogue.standardLanguage
  have found : messages.lookup key = Catalogue.texts store roots language key := by
    rw [← texts, Loading.texts, loaded]
    rfl
  have standardFound : standard.lookup key =
      Catalogue.texts store roots Catalogue.standardLanguage key := by
    rw [← standardTexts, Loading.texts, standardLoaded]
    rfl
  unfold Catalogue.messageIn Catalogue.plainText
  rw [loaded, standardLoaded, ← found, ← standardFound]
  cases known : messages.lookup key with
  | some text => simp only [known, Option.some_or, Option.getD_some]
  | none =>
      by_cases same : language = Catalogue.standardLanguage
      · subst same
        have equal : messages = standard := Option.some.inj (loaded.symm.trans standardLoaded)
        simp only [known, ← equal, ↓reduceIte, Option.or_none, Option.getD_none]
      · simp only [known, same, ↓reduceIte, Option.map_some, Option.none_or]

end Tables

/-! ### Calls -/

namespace Catalogue

/-- Something that a catalogue is asked to do. -/
inductive Call where
  | addRoot (root : MessageRoot)
  /-- Looks for the message of a key in a language, if one is asked for. -/
  | get (asked : Option String) (key : String)

section Calls

variable (store : FileStore) (environment : Option String)

/-- A catalogue after a call. -/
def afterCall (catalogue : Catalogue) : Call → Catalogue
  | .addRoot root => catalogue.addRoot root
  | .get asked key => (catalogue.get store (languageOf environment asked) key).catalogue

/-- A catalogue after calls. -/
def after (catalogue : Catalogue) (calls : List Call) : Catalogue :=
  calls.foldl (afterCall store environment) catalogue

/-- The answers to the lookups among calls. -/
def answers : Catalogue → List Call → List (Option String)
  | _, [] => []
  | catalogue, .addRoot root :: rest => answers (catalogue.addRoot root) rest
  | catalogue, .get asked key :: rest =>
    let found := catalogue.get store (languageOf environment asked) key
    found.text :: answers found.catalogue rest

/-- Roots with one more in front of them, unless it is one of them. -/
def withRoot (roots : List MessageRoot) (root : MessageRoot) : List MessageRoot :=
  if root ∈ roots then roots else root :: roots

/-- The answers that the files give, all of them being looked at for each lookup. -/
def plainAnswers : List MessageRoot → List Call → List String
  | _, [] => []
  | roots, .addRoot root :: rest => plainAnswers (withRoot roots root) rest
  | roots, .get asked key :: rest =>
    plainText store roots (languageOf environment asked) key :: plainAnswers roots rest

/-- The roots that calls add, in order. -/
def addedRoots (calls : List Call) : List MessageRoot :=
  calls.filterMap fun
    | .addRoot root => some root
    | .get _ _ => none

end Calls

variable {store : FileStore} {environment : Option String} {catalogue : Catalogue}

theorem addRoot_roots (catalogue : Catalogue) (root : MessageRoot) :
    (catalogue.addRoot root).roots = withRoot catalogue.roots root := by
  unfold addRoot withRoot
  by_cases known : root ∈ catalogue.roots
  · rw [if_pos (List.contains_iff_mem.mpr known), if_pos known]
  · rw [if_neg (mt List.contains_iff_mem.mp known), if_neg known]

/-- A new root makes a catalogue forget what it has loaded. -/
theorem Faithful.addRoot (faithful : Faithful store catalogue) (root : MessageRoot) :
    Faithful store (catalogue.addRoot root) := by
  unfold Catalogue.addRoot
  split
  · exact faithful
  · exact faithful_nil store _

theorem Faithful.afterCall (faithful : Faithful store catalogue) (call : Call) :
    Faithful store (catalogue.afterCall store environment call) := by
  cases call with
  | addRoot root => exact faithful.addRoot root
  | get asked key => exact faithful.get _ key

theorem Faithful.after (faithful : Faithful store catalogue) (calls : List Call) :
    Faithful store (catalogue.after store environment calls) := by
  induction calls generalizing catalogue with
  | nil => exact faithful
  | cons call rest ih => exact ih (faithful.afterCall call)

/-- Only added roots change the roots. -/
theorem after_roots (catalogue : Catalogue) (calls : List Call) :
    (catalogue.after store environment calls).roots =
      (addedRoots calls).foldl withRoot catalogue.roots := by
  induction calls generalizing catalogue with
  | nil => rfl
  | cons call rest ih =>
      cases call with
      | addRoot root =>
          have step := ih (catalogue.addRoot root)
          rw [addRoot_roots] at step
          exact step
      | get asked key =>
          have step := ih (catalogue.get store (languageOf environment asked) key).catalogue
          rw [get_roots] at step
          exact step

theorem Faithful.get_plainText (faithful : Faithful store catalogue) (tables : store.HoldsTables)
    (language key : String) :
    (catalogue.get store language key).text =
      some (plainText store catalogue.roots language key) := by
  rw [faithful.get_text, messageIn_of_tables tables]

theorem Faithful.answers_eq (faithful : Faithful store catalogue) (tables : store.HoldsTables)
    (calls : List Call) :
    answers store environment catalogue calls =
      (plainAnswers store environment catalogue.roots calls).map some := by
  induction calls generalizing catalogue with
  | nil => rfl
  | cons call rest ih =>
      cases call with
      | addRoot root =>
          rw [answers, plainAnswers, ih (faithful.addRoot root), addRoot_roots]
      | get asked key =>
          rw [answers, plainAnswers, List.map_cons, faithful.get_plainText tables,
            ih (faithful.get _ key), get_roots]

/-! ### A root more -/

theorem foldl_overlay {α : Type} (items : List α) (texts : α → Texts) (base : Texts) :
    items.foldl (fun base item => overlay base (texts item)) base =
      overlay base (items.foldl (fun base item => overlay base (texts item)) fun _ => none) := by
  induction items generalizing base with
  | nil =>
      funext key
      rfl
  | cons item rest ih =>
      rw [List.foldl_cons, List.foldl_cons, ih (overlay base (texts item)),
        ih (overlay (fun _ => none) (texts item))]
      funext key
      simp only [overlay, Option.or_none, Option.or_assoc]

theorem foldl_overlay_cons {α : Type} (item : α) (rest : List α) (texts : α → Texts) :
    (item :: rest).foldl (fun base item => overlay base (texts item)) (fun _ => none) =
      overlay (texts item)
        (rest.foldl (fun base item => overlay base (texts item)) fun _ => none) := by
  rw [List.foldl_cons, foldl_overlay]
  funext key
  simp only [overlay, Option.or_none]

theorem texts_cons (store : FileStore) (root : MessageRoot) (roots : List MessageRoot)
    (language : String) :
    texts store (root :: roots) language =
      overlay (root.texts store language) (texts store roots language) :=
  foldl_overlay_cons root roots fun root => root.texts store language

/-- A text that a project has is its own, whatever the package has. -/
theorem plainText_of_project {store : FileStore} {root : Path} {language key text : String}
    (own : (MessageRoot.directory root).texts store language key = some text) :
    plainText store [.packaged, .directory root] language key = text := by
  simp only [plainText, texts_cons, overlay, own]
  rfl

/-- A text that one of the roots has is among those of all roots. -/
theorem texts_isSome {roots : List MessageRoot} {root : MessageRoot} {language key : String}
    (member : root ∈ roots) (defined : (root.texts store language key).isSome = true) :
    (texts store roots language key).isSome = true := by
  induction roots with
  | nil => cases member
  | cons first rest ih =>
      rw [texts_cons, overlay, Option.isSome_or, Bool.or_eq_true]
      rcases List.mem_cons.mp member with rfl | later
      · exact Or.inr defined
      · exact Or.inl (ih later)

/-- A root that is added does not change what another root has in a language. -/
theorem plainText_withRoot {roots : List MessageRoot} {known : MessageRoot}
    {language key : String} (member : known ∈ roots)
    (defined : (known.texts store language key).isSome = true) (root : MessageRoot) :
    plainText store (withRoot roots root) language key = plainText store roots language key := by
  unfold withRoot
  split
  · rfl
  · obtain ⟨text, found⟩ := Option.isSome_iff_exists.mp (texts_isSome member defined)
    simp only [plainText, texts_cons, overlay, found, Option.some_or, Option.getD_some]

end Catalogue

/-- However lookups in any languages and new roots follow one another, a catalogue of at least one
root answers every lookup as all files of its roots together do, no lookup being remembered. So two
runs that add the same roots answer alike, whatever they looked for before; and a root that is added
changes no message that another root already has in the language asked for. -/
theorem catalogue_answers_plainly (store : FileStore) (environment : Option String)
    (roots : List MessageRoot) (calls : List Catalogue.Call) (some_root : roots ≠ [])
    (tables : store.HoldsTables) :
    Catalogue.answers store environment (.ofRoots store roots) calls =
      (Catalogue.plainAnswers store environment roots calls).map some ∧
    (∀ others asked key, Catalogue.addedRoots others = Catalogue.addedRoots calls →
      (((Catalogue.ofRoots store roots).after store environment others).get store
          (Catalogue.languageOf environment asked) key).text =
        (((Catalogue.ofRoots store roots).after store environment calls).get store
          (Catalogue.languageOf environment asked) key).text) ∧
    ∀ root known asked key,
      known ∈ ((Catalogue.ofRoots store roots).after store environment calls).roots →
      (known.texts store (Catalogue.languageOf environment asked) key).isSome = true →
      ((((Catalogue.ofRoots store roots).after store environment calls).addRoot root).get store
          (Catalogue.languageOf environment asked) key).text =
        (((Catalogue.ofRoots store roots).after store environment calls).get store
          (Catalogue.languageOf environment asked) key).text := by
  have start : Catalogue.ofRoots store roots = ⟨roots, []⟩ := by
    rw [Catalogue.ofRoots, if_neg (by simpa using some_root)]
  have faithful := Catalogue.faithful_nil store roots
  rw [start]
  refine ⟨faithful.answers_eq tables calls, ?_, ?_⟩
  · intro others asked key same
    rw [(faithful.after others).get_plainText tables, (faithful.after calls).get_plainText tables,
      Catalogue.after_roots, Catalogue.after_roots, same]
  · intro root known asked key member defined
    have reached : Catalogue.Faithful store (Catalogue.after store environment ⟨roots, []⟩ calls) :=
      faithful.after calls
    rw [(reached.addRoot root).get_plainText tables, reached.get_plainText tables,
      Catalogue.addRoot_roots, Catalogue.plainText_withRoot member defined]

namespace Sample

/-- A package with English messages, and a project that says some of them in its own words and has
French ones. One of its files is no JSON. -/
def messageStore : FileStore :=
  ⟨[(["package", "needle", "en", "m.json"],
      "\x7b\"a\": \"one\", \"b\": \"two\"\x7d".toUTF8.toList),
    (["project", ".sheetcheck", "needle", "en", "own.json"],
      "\x7b\"b\": \"three\"\x7d".toUTF8.toList),
    (["project", ".sheetcheck", "needle", "en", "broken.json"], "\x7b".toUTF8.toList),
    (["project", "needle", "fr", "m.json"], "\x7b\"a\": \"un\"\x7d".toUTF8.toList)], [], []⟩

def projectRoot : MessageRoot :=
  .directory ⟨.root, ["project"]⟩

def packageRoot : MessageRoot :=
  .directory ⟨.root, ["package"]⟩

theorem messageStore_holdsTables : messageStore.HoldsTables :=
  FileStore.holdsTables_of_files (by decide +kernel)

theorem projectRoot_texts : projectRoot.texts messageStore "fr" "a" = some "un" := by
  have language : Path.ofText "fr" = ⟨.here, ["fr"]⟩ := by decide +kernel
  have own : Loading.filesInside messageStore ⟨.root, ["project", "needle", "fr"]⟩ =
      [⟨.root, ["project", "needle", "fr", "m.json"]⟩] :=
    Path.sort_eq_of_perm (by decide +kernel) (by decide +kernel)
  have hidden : Loading.filesInside messageStore
      ⟨.root, ["project", ".sheetcheck", "needle", "fr"]⟩ = [] :=
    Path.sort_eq_of_perm (by decide +kernel) (by decide +kernel)
  have found : (MessageFile.read messageStore
      ⟨.root, ["project", "needle", "fr", "m.json"]⟩).texts "a" = some "un" := by decide +kernel
  simp only [MessageRoot.texts, projectRoot, language, Loading.textsInside]
  show overlay (List.foldl _ _ (Loading.filesInside messageStore
    ⟨.root, ["project", "needle", "fr"]⟩)) (List.foldl _ _ (Loading.filesInside messageStore
    ⟨.root, ["project", ".sheetcheck", "needle", "fr"]⟩)) "a" = some "un"
  rw [own, hidden]
  simp only [overlay, List.foldl_cons, List.foldl_nil, found, Option.none_or, Option.or_none]

theorem plainText_projectRoot :
    Catalogue.plainText messageStore [projectRoot] "fr" "a" = "un" := by
  simp only [Catalogue.plainText, Catalogue.texts_cons, overlay, projectRoot_texts]
  rfl

end Sample

/-- A project gives its own French message, and still does when the package is added. -/
theorem sample_catalogue_answers :
    [Sample.projectRoot] ≠ [] ∧ Sample.messageStore.HoldsTables ∧
    Catalogue.answers Sample.messageStore none (.ofRoots Sample.messageStore [Sample.projectRoot])
      [.get (some "fr") "a"] = [some "un"] ∧
    (((Catalogue.ofRoots Sample.messageStore [Sample.projectRoot]).addRoot
      Sample.packageRoot).get Sample.messageStore "fr" "a").text = some "un" := by
  have occupied : [Sample.projectRoot] ≠ [] := List.cons_ne_nil _ _
  have tables := Sample.messageStore_holdsTables
  obtain ⟨once, _, _⟩ := catalogue_answers_plainly Sample.messageStore none [Sample.projectRoot]
    [.get (some "fr") "a"] occupied tables
  obtain ⟨_, _, added⟩ := catalogue_answers_plainly Sample.messageStore none [Sample.projectRoot]
    [] occupied tables
  have answer : Catalogue.plainAnswers Sample.messageStore none [Sample.projectRoot]
      [.get (some "fr") "a"] = ["un"] := by
    rw [← Sample.plainText_projectRoot]
    rfl
  rw [answer] at once
  have kept := added Sample.packageRoot Sample.projectRoot (some "fr") "a" List.mem_cons_self
    (by simp only [show Catalogue.languageOf none (some "fr") = "fr" from rfl,
      Sample.projectRoot_texts, Option.isSome_some])
  exact ⟨occupied, tables, once, kept.trans (List.cons.inj once).1⟩

end StyleAudit
