import StyleAudit.Proofs.Analysis
import StyleAudit.Proofs.Suffix
import StyleAudit.Proofs.Traversal

/-!
What an analysis needs, in order.

An outcome is decided by checks when it is a value as long as all of them hold, and otherwise the
failure that the first one to fail stands for. Steps that are decided by their checks are decided,
one after the other, by all of these in sequence. So is the analysis as a whole.
-/

set_option autoImplicit false

namespace StyleAudit

/-! ### Checks in sequence -/

section Checks

variable {ρ α β : Type} {holds : ρ → Prop} {blames : ρ → Failure → Prop} {checks others : List ρ}

/-- A failure that stands for the first of some checks that does not hold. -/
def IsFirstFailure (holds : ρ → Prop) (blames : ρ → Failure → Prop) (checks : List ρ)
    (failure : Failure) : Prop :=
  ∃ before check after, checks = before ++ check :: after ∧ (∀ earlier ∈ before, holds earlier) ∧
    ¬ holds check ∧ blames check failure

/-- An outcome that is a value when all checks hold, and their first failure when they do not. -/
def DecidedBy (holds : ρ → Prop) (blames : ρ → Failure → Prop) (checks : List ρ) :
    Except Fault α → Prop
  | .ok _ => ∀ check ∈ checks, holds check
  | .error fault => ∃ failure, fault = .failure failure ∧ IsFirstFailure holds blames checks failure

theorem IsFirstFailure.append_right {failure : Failure}
    (first : IsFirstFailure holds blames checks failure) (others : List ρ) :
    IsFirstFailure holds blames (checks ++ others) failure := by
  obtain ⟨before, check, after, rfl, earlier, fails, blamed⟩ := first
  exact ⟨before, check, after ++ others, by simp, earlier, fails, blamed⟩

theorem IsFirstFailure.append_left {failure : Failure}
    (first : IsFirstFailure holds blames others failure) (hold : ∀ check ∈ checks, holds check) :
    IsFirstFailure holds blames (checks ++ others) failure := by
  obtain ⟨before, check, after, rfl, earlier, fails, blamed⟩ := first
  refine ⟨checks ++ before, check, after, by simp, ?_, fails, blamed⟩
  intro known member
  rcases List.mem_append.mp member with front | back
  · exact hold known front
  · exact earlier known back

theorem IsFirstFailure.not_all {failure : Failure}
    (first : IsFirstFailure holds blames checks failure) : ¬ ∀ check ∈ checks, holds check := by
  obtain ⟨before, check, after, rfl, _, fails, _⟩ := first
  intro all
  exact fails (all check (by simp))

theorem DecidedBy.exists_ok_iff {outcome : Except Fault α}
    (decided : DecidedBy holds blames checks outcome) :
    (∃ value, outcome = .ok value) ↔ ∀ check ∈ checks, holds check := by
  cases outcome with
  | ok value => exact ⟨fun _ => decided, fun _ => ⟨value, rfl⟩⟩
  | error fault =>
      obtain ⟨failure, _, first⟩ := decided
      constructor
      · rintro ⟨value, impossible⟩
        cases impossible
      · intro all
        exact absurd all first.not_all

theorem DecidedBy.first_failure {outcome : Except Fault α} {fault : Fault}
    (decided : DecidedBy holds blames checks outcome) (failed : outcome = .error fault) :
    ∃ failure, fault = .failure failure ∧ IsFirstFailure holds blames checks failure := by
  subst failed
  exact decided

theorem DecidedBy.nil (value : α) : DecidedBy holds blames [] (.ok value) :=
  fun _ absent => absurd absent List.not_mem_nil

theorem DecidedBy.single {check : ρ} (met : holds check) (value : α) :
    DecidedBy holds blames [check] (.ok value) := by
  intro other member
  cases List.mem_singleton.mp member
  exact met

theorem DecidedBy.failed {check : ρ} {failure : Failure} (fails : ¬ holds check)
    (blamed : blames check failure) (rest : List ρ) :
    DecidedBy holds blames (check :: rest) (.error (.failure failure) : Except Fault α) :=
  ⟨failure, rfl, [], check, rest, rfl, by simp, fails, blamed⟩

theorem DecidedBy.bind {first : Except Fault α} {next : α → Except Fault β}
    (decided : DecidedBy holds blames checks first)
    (later : ∀ value, first = .ok value → DecidedBy holds blames others (next value)) :
    DecidedBy holds blames (checks ++ others) (first >>= next) := by
  cases first with
  | error fault =>
      obtain ⟨failure, rfl, found⟩ := decided
      exact ⟨failure, rfl, found.append_right others⟩
  | ok value =>
      have following := later value rfl
      show DecidedBy holds blames (checks ++ others) (next value)
      cases outcome : next value with
      | error fault =>
          rw [outcome] at following
          obtain ⟨failure, rfl, found⟩ := following
          exact ⟨failure, rfl, found.append_left decided⟩
      | ok final =>
          rw [outcome] at following
          intro check member
          rcases List.mem_append.mp member with front | back
          · exact decided check front
          · exact following check back

theorem DecidedBy.map {outcome : Except Fault α} (decided : DecidedBy holds blames checks outcome)
    (change : α → β) : DecidedBy holds blames checks (outcome.map change) := by
  cases outcome with
  | error fault => exact decided
  | ok value => exact decided

theorem DecidedBy.mapM {step : α → Except Fault β} {needed : α → List ρ} {items : List α}
    (each : ∀ item ∈ items, DecidedBy holds blames (needed item) (step item)) :
    DecidedBy holds blames (items.flatMap needed) (items.mapM step) := by
  induction items with
  | nil => exact .nil []
  | cons item rest ih =>
      rw [List.flatMap_cons, List.mapM_cons]
      refine (each item List.mem_cons_self).bind fun value _ => ?_
      have others := ih fun other member => each other (List.mem_cons_of_mem item member)
      have whole := others.map (value :: ·)
      cases remaining : rest.mapM step with
      | error fault =>
          rw [remaining] at whole
          exact whole
      | ok values =>
          rw [remaining] at whole
          exact whole

end Checks

/-! ### The requirements of an analysis -/

/-- The factory calls of a source in the order of the recursive listing of its tree. -/
def Source.calls (factories : Factories) (source : Source) : List Site :=
  source.root.sites.filter fun site =>
    site.isCreationCall factories source.text.toList && site.node.named

theorem Source.calls_eq (factories : Factories) (source : Source) :
    creationCalls factories source.text.toList source.root = source.calls factories := by
  rw [creationCalls, Node.namedSites_eq, List.filter_filter]
  rfl

/-- Whether every factory call of a source is bound by a declarator that has a name. -/
def Source.NamesBindings (factories : Factories) (source : Source) : Prop :=
  ∀ call ∈ source.calls factories, (call.parent?.bind (·.node.child? "name")).isSome = true

/-- Something that an analysis needs of a file or a directory. -/
inductive Requirement where
  | readable (path : Path)
  | parseable (path : Path)
  /-- Every factory call of the file is given an object literal. -/
  | givenLiterals (path : Path)
  | directory (path : Path)

namespace Requirement

/-- The file or directory in question. -/
def path : Requirement → Path
  | readable path => path
  | parseable path => path
  | givenLiterals path => path
  | directory path => path

/-- Whether a requirement is met. -/
def Holds (readers : Readers) (store : FileStore) (factories : Factories) : Requirement → Prop
  | readable path => ∃ bytes, store.bytes path = .ok bytes
  | parseable path => ∃ bytes, store.bytes path = .ok bytes ∧
      ((readers.plain (sourceText bytes)).hasError = false ∨
        (readers.typed (sourceText bytes)).hasError = false)
  | givenLiterals path => ∃ source, Reading.source ⟨store, readers.parse⟩ path = .ok source ∧
      ∀ call ∈ source.calls factories, call.node.IsGivenLiteral
  | directory path => store.isDirectory path = true

/-- The failure that stands for a requirement that is not met. Of the factory calls the first one
that is not given a literal is to blame. -/
def Blames (readers : Readers) (store : FileStore) (factories : Factories) :
    Requirement → Failure → Prop
  | readable path, failure => ∃ cause, store.bytes path = .error cause ∧
      failure = .unreadable path.text (accessReason cause path)
  | parseable path, failure => ∃ position, failure = .syntaxError path.text position
  | givenLiterals path, failure =>
      ∃ source, Reading.source ⟨store, readers.parse⟩ path = .ok source ∧
        IsFirstFailure (·.node.IsGivenLiteral)
          (fun call blamed => blamed = unsupportedCall path.text source.text.toList call.node)
          (source.calls factories) failure
  | directory path, failure => failure = .unreadable path.text "directory not found"

theorem Blames.path {readers : Readers} {store : FileStore} {factories : Factories}
    {requirement : Requirement} {failure : Failure}
    (blamed : requirement.Blames readers store factories failure) :
    failure.path = requirement.path.text := by
  cases requirement with
  | readable path =>
      obtain ⟨_, _, rfl⟩ := blamed
      rfl
  | parseable path =>
      obtain ⟨_, rfl⟩ := blamed
      rfl
  | givenLiterals path =>
      obtain ⟨_, _, _, _, _, _, _, _, rfl⟩ := blamed
      rfl
  | directory path =>
      cases blamed
      rfl

/-- What reading a source needs. -/
def ofSource (path : Path) : List Requirement :=
  [.readable path, .parseable path]

end Requirement

/-- What an analysis needs, in the order in which it is looked at. -/
def requirements (store : FileStore) (target : Path) (shared : Option Path) : List Requirement :=
  Requirement.ofSource target ++ .givenLiterals target ::
    (shared.toList.flatMap Requirement.ofSource ++ .directory target.parent ::
      ((siblings store target).toOption.getD []).flatMap Requirement.ofSource)

/-! ### The steps and their requirements -/

section Steps

variable (readers : Readers) (store : FileStore) (factories : Factories)

theorem parse_eq_error (text path : String)
    (plain : (readers.plain text).hasError = true) (typed : (readers.typed text).hasError = true) :
    ∃ position, readers.parse text path = .error (.syntaxError path position) := by
  rw [Readers.parse, Readers.read_of_refused path plain typed]
  exact ⟨_, rfl⟩

theorem parse_eq_ok (text path : String)
    (accepted : (readers.plain text).hasError = false ∨ (readers.typed text).hasError = false) :
    ∃ root, readers.parse text path = .ok root := by
  rw [Readers.parse]
  cases plain : (readers.plain text).hasError with
  | false =>
      rw [Readers.read_of_plain path plain]
      exact ⟨_, rfl⟩
  | true =>
      have typed := accepted.resolve_left (by simp [plain])
      rw [Readers.read_of_typed path plain typed]
      exact ⟨_, rfl⟩

theorem parseable_iff {path : Path} {bytes : List UInt8} (found : store.bytes path = .ok bytes) :
    (Requirement.parseable path).Holds readers store factories ↔
      (readers.plain (sourceText bytes)).hasError = false ∨
        (readers.typed (sourceText bytes)).hasError = false := by
  simp only [Requirement.Holds, found, Except.ok.injEq, exists_eq_left']

theorem source_decided (path : Path) :
    DecidedBy (Requirement.Holds readers store factories)
      (Requirement.Blames readers store factories) (Requirement.ofSource path)
      ((Reading.source ⟨store, readers.parse⟩ path).mapError Fault.failure) := by
  cases found : store.bytes path with
  | error cause =>
      rw [Reading.source_of_unreadable _ found]
      refine DecidedBy.failed ?_ ?_ _
      · rintro ⟨bytes, present⟩
        rw [found] at present
        cases present
      · exact ⟨cause, found, rfl⟩
  | ok bytes =>
      have readable : (Requirement.readable path).Holds readers store factories := ⟨bytes, found⟩
      have accepted := parseable_iff readers store factories found
      rw [Reading.source_of_bytes _ found]
      by_cases fits : (Requirement.parseable path).Holds readers store factories
      · obtain ⟨root, parsed⟩ := parse_eq_ok readers (sourceText bytes) path.text (accepted.mp fits)
        simp only [Parse.source, parsed]
        intro requirement member
        simp only [Requirement.ofSource, List.mem_cons, List.not_mem_nil, or_false] at member
        rcases member with rfl | rfl
        · exact readable
        · exact fits
      · have refused := mt accepted.mpr fits
        simp only [not_or, Bool.not_eq_false] at refused
        obtain ⟨position, parsed⟩ :=
          parse_eq_error readers (sourceText bytes) path.text refused.1 refused.2
        simp only [Parse.source, parsed]
        exact ⟨_, rfl, [.readable path], .parseable path, [], rfl, by simpa using readable, fits,
          position, rfl⟩

/-- Extracting the sheets of a source fails at the first call without a literal. -/
theorem declaredSheets_decided {path : Path} {source : Source}
    (read : Reading.source ⟨store, readers.parse⟩ path = .ok source)
    (named : source.NamesBindings factories) :
    DecidedBy (Requirement.Holds readers store factories)
      (Requirement.Blames readers store factories) [.givenLiterals path]
      (declaredSheets source.path source.text.toList factories source.root).result := by
  have calls : DecidedBy (fun call : Site => call.node.IsGivenLiteral)
      (fun call failure => failure = unsupportedCall path.text source.text.toList call.node)
      ((source.calls factories).flatMap fun call => [call])
      (declaredSheets source.path source.text.toList factories source.root).result := by
    rw [declaredSheets, Source.calls_eq, Audit.mapM_result]
    refine .mapM fun call member => ?_
    by_cases literal : call.node.IsGivenLiteral
    · obtain ⟨sheet, extracted⟩ := sheetOfCall_of_literal source.path source.text.toList call
        literal (named call member)
      rw [extracted]
      apply DecidedBy.single
      exact literal
    · rw [sheetOfCall_of_not_literal _ _ call literal]
      refine DecidedBy.failed ?_ ?_ []
      · exact literal
      · show unsupportedCall _ _ _ = unsupportedCall _ _ _
        rw [Reading.source_path read]
  rw [List.flatMap_singleton'] at calls
  cases outcome : (declaredSheets source.path source.text.toList factories source.root).result with
  | ok sheets =>
      rw [outcome] at calls
      exact .single ⟨source, read, calls⟩ sheets
  | error fault =>
      rw [outcome] at calls
      obtain ⟨failure, rfl, first⟩ := calls
      refine DecidedBy.failed ?_ ?_ []
      · rintro ⟨other, same, literals⟩
        rw [read] at same
        cases same
        exact first.not_all literals
      · exact ⟨source, read, first⟩

theorem sharedKeys_decided (shared : Option Path) :
    DecidedBy (Requirement.Holds readers store factories)
      (Requirement.Blames readers store factories) (shared.toList.flatMap Requirement.ofSource)
      (Reading.sharedKeys ⟨store, readers.parse⟩ shared).result := by
  cases shared with
  | none => exact .nil []
  | some path =>
      simp only [Reading.sharedKeys, Audit.bind_result, Audit.ofFailing_result,
        extractSheets_shared_result, Option.toList_some, List.flatMap_cons, List.flatMap_nil]
      exact (source_decided readers store factories path).bind fun _ _ => .nil _

theorem siblings_decided (target : Path) (plain : '*' ∉ target.suffix.toList) :
    DecidedBy (Requirement.Holds readers store factories)
      (Requirement.Blames readers store factories) [.directory target.parent]
      (siblings store target) := by
  have usable : ∃ pattern, Pattern.ofText? ("*" ++ target.suffix) = some pattern := by
    have single : Pattern.hasDoubleStar ("*" ++ target.suffix).toList = false := by
      rw [String.toList_append]
      exact Pattern.hasDoubleStar_of_not_mem _ plain
    rw [Pattern.ofText?, single]
    exact ⟨_, rfl⟩
  obtain ⟨pattern, spelled⟩ := usable
  simp only [siblings, spelled]
  cases directory : store.isDirectory target.parent with
  | false =>
      refine DecidedBy.failed ?_ ?_ []
      · simp only [Requirement.Holds, directory, Bool.false_eq_true, not_false_eq_true]
      · rfl
  | true =>
      apply DecidedBy.single
      exact directory

/-- What is listed beside a target is a file that can be read. -/
theorem readable_of_mem_siblings {target path : Path} {files : List Path}
    (listed : siblings store target = .ok files) (member : path ∈ files) :
    (Requirement.readable path).Holds readers store factories :=
  (FileStore.isFile_iff store path).mp (isFile_of_mem_siblings listed member)

theorem siblingSources_decided (target : Path) (plain : '*' ∉ target.suffix.toList) :
    DecidedBy (Requirement.Holds readers store factories)
      (Requirement.Blames readers store factories)
      (.directory target.parent ::
        ((siblings store target).toOption.getD []).flatMap Requirement.ofSource)
      (Reading.siblingSources ⟨store, readers.parse⟩ target) := by
  refine (siblings_decided readers store factories target plain).bind fun files listed => ?_
  rw [listed, mapM_mapError]
  exact .mapM fun path _ => source_decided readers store factories path

theorem readDeclaredSheets_decided (names methods stylesNames : List String) (target : Path)
    (named : ∀ source, Reading.source ⟨store, readers.parse⟩ target = .ok source →
      source.NamesBindings ⟨names, methods⟩) :
    DecidedBy (Requirement.Holds readers store ⟨names, methods⟩)
      (Requirement.Blames readers store ⟨names, methods⟩)
      (Requirement.ofSource target ++ [.givenLiterals target])
      (Reading.declaredSheets ⟨store, readers.parse⟩
        ⟨.listed names, .listed methods, .listed stylesNames⟩ target).result := by
  simp only [Reading.declaredSheets, Audit.bind_result, Audit.ofFailing_result,
    Audit.ofExcept_result, extractSheets_declared_result]
  refine (source_decided readers store ⟨names, methods⟩ target).bind fun source found => ?_
  have read := (mapError_eq_ok_iff _ _ _).mp found
  exact (declaredSheets_decided readers store ⟨names, methods⟩ read (named source read)).map _

/-- The analysis as a whole is decided by its requirements. -/
theorem analyze_decided (names methods stylesNames : List String) (target : Path)
    (shared : Option Path) (plain : '*' ∉ target.suffix.toList)
    (named : ∀ source, Reading.source ⟨store, readers.parse⟩ target = .ok source →
      source.NamesBindings ⟨names, methods⟩) :
    DecidedBy (Requirement.Holds readers store ⟨names, methods⟩)
      (Requirement.Blames readers store ⟨names, methods⟩) (requirements store target shared)
      (analyze ⟨store, readers.parse⟩
        ⟨.listed names, .listed methods, .listed stylesNames⟩ target shared).result := by
  have phases : requirements store target shared =
      (Requirement.ofSource target ++ [.givenLiterals target]) ++
        (shared.toList.flatMap Requirement.ofSource ++ ([] ++ ((.directory target.parent ::
          ((siblings store target).toOption.getD []).flatMap Requirement.ofSource) ++ []))) := by
    simp [requirements]
  rw [phases, analyze_result]
  refine (readDeclaredSheets_decided readers store names methods stylesNames target named).bind
    fun extraction _ => ?_
  refine (sharedKeys_decided readers store ⟨names, methods⟩ shared).bind fun sharedKeys _ => ?_
  refine DecidedBy.bind (.nil stylesNames) fun configured _ => ?_
  exact (siblingSources_decided readers store ⟨names, methods⟩ target plain).bind
    fun sources _ => .nil _

end Steps

namespace Sample

/-- No file of the project. -/
def gone : Path :=
  ⟨.here, ["gone.js"]⟩

theorem card_suffix_literal : ∀ character ∈ card.suffix.toList, Pattern.IsLiteral character := by
  have suffix : card.suffix.toList = ['.', 'j', 's'] := by decide +kernel
  rw [suffix]
  simp [Pattern.IsLiteral]

theorem source_card : Reading.source ⟨store, Script.readers.parse⟩ card =
    .ok (sourceOf card.text cardText) :=
  source_plain (by decide +kernel) (by decide +kernel)

theorem source_card_namesBindings (source : Source)
    (read : Reading.source ⟨store, Script.readers.parse⟩ card = .ok source) :
    source.NamesBindings .standard := by
  rw [source_card] at read
  cases read
  unfold Source.NamesBindings
  decide +kernel

theorem analyze_card_gone : (analyze reading .standard card (some gone)).result =
    .error (.failure (.unreadable gone.text (accessReason .notFound gone))) := by
  have missing : (reading.sharedKeys (some gone)).result =
      .error (.failure (.unreadable gone.text (accessReason .notFound gone))) := by
    decide +kernel
  rw [analyze_result, declaredSheets_card, missing]
  rfl

end Sample

end StyleAudit
