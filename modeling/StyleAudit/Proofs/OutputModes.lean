import StyleAudit.Proofs.Batch
import StyleAudit.Proofs.Payload
import StyleAudit.Proofs.Requirements
import StyleAudit.Proofs.Session

/-!
The two output modes of a check.

Both end with the same code. What the text mode tells about findings is what the payload of the JSON
mode holds, and where a target cannot be analyzed both tell the same failure and nothing else.
-/

set_option autoImplicit false

namespace StyleAudit

namespace CommandLine

/-! ### Arguments -/

/-- A request as it can be spelled, with its targets behind the options. -/
def spelled (verbose : Bool) (request : CheckRequest) : List String :=
  (if verbose then ["--verbose"] else []) ++ "check" :: "--format" :: request.format ::
    ((request.shared.map fun shared => ["--global", shared]).getD [] ++ "--" :: request.targets)

/-- Every request for at least one target can be spelled, whatever its targets and values look
like. -/
theorem readInvocation_spelled (verbose : Bool) {request : CheckRequest}
    (some_target : request.targets ≠ []) :
    readInvocation false (spelled verbose request) = some ⟨verbose, request⟩ := by
  have named : request.targets.isEmpty = false := by
    rw [Bool.eq_false_iff, ne_eq, List.isEmpty_iff]
    exact some_target
  have read : readRequest ("--format" :: request.format ::
      ((request.shared.map fun shared => ["--global", shared]).getD [] ++
        "--" :: request.targets)) = some request := by
    obtain ⟨targets, shared, format⟩ := request
    have all : readArguments none emptyRequest ("--format" :: format ::
        ((shared.map fun value => ["--global", value]).getD [] ++ "--" :: targets)) =
        some ⟨targets, shared, format⟩ := by
      cases shared <;> rfl
    rw [readRequest, all]
    simp only [named, Bool.false_eq_true, ↓reduceIte]
  cases verbose with
  | false =>
      show (readRequest _).map _ = _
      rw [read]
      rfl
  | true =>
      show (readRequest _).map _ = _
      rw [read]
      rfl

/-! ### Runs -/

section Runs

variable {environment : Environment} {root : Path} {parse : Parse}

theorem run_eq_of_tells {arguments output errors : List String} {code : Nat}
    (tells : Session.Tells environment (Project.root environment.store Path.current)
      (session environment parse arguments) code output errors) :
    run environment parse arguments = ⟨output, errors, .exit code⟩ := by
  have ready : Session.Ready environment (Project.root environment.store Path.current)
      ⟨catalogueOf environment.store, [], []⟩ := ⟨rfl, Catalogue.faithful_nil _ _⟩
  obtain ⟨after, _, written, failed, ended⟩ := tells _ ready
  rw [List.append_nil] at written failed
  simp only [run, ended, written, failed, List.reverse_reverse]

/-- The texts that explain the program are looked for in silence. -/
theorem tells_help (plain : Session.Unadorned environment root) :
    Session.Tells environment root (helpAddresses.forM fun id => do
      let _ ← Session.template environment false id) () [] [] := by
  have each : Session.Tells environment root (helpAddresses.forM fun id => do
      let _ ← Session.template environment false id) () (helpAddresses.flatMap fun _ => [])
      (helpAddresses.flatMap fun _ => []) :=
    Session.Tells.forM fun id _ => (Session.tells_template plain false id).bind (.pure ())
  rw [List.flatMap_eq_nil_iff.mpr fun _ _ => rfl] at each
  exact each

/-- A session with well-formed arguments looks for the texts that explain the program, and then
checks. -/
theorem session_eq {arguments : List String} {verbose : Bool} {request : CheckRequest}
    (read : readInvocation false arguments = some ⟨verbose, request⟩)
    (files : ∀ target ∈ request.targets, isDirectoryTarget environment.store target = false) :
    session environment parse arguments = (do
      helpAddresses.forM fun id => do
        let _ ← Session.template environment false id
      check environment parse ⟨verbose, request⟩) := by
  have noDirectory : request.targets.any (isDirectoryTarget environment.store) = false := by
    rw [List.any_eq_false]
    intro target member
    rw [files target member]
    exact Bool.false_ne_true
  simp only [session, read, noDirectory, Bool.false_eq_true, ↓reduceIte]

/-- A session with well-formed arguments tells what its check tells. -/
theorem tells_session (plain : Session.Unadorned environment root) {arguments : List String}
    {verbose : Bool} {request : CheckRequest} {format : OutputFormat} {checker : Checker}
    {output errors : List String} {code : Nat}
    (read : readInvocation false arguments = some ⟨verbose, request⟩)
    (files : ∀ target ∈ request.targets, isDirectoryTarget environment.store target = false)
    (known : outputFormat? request.format = some format)
    (project : Checker.ofProject ⟨environment.store, parse⟩
      ⟨.root, environment.store.current⟩ = .ok checker)
    (tells : Session.Tells environment root
      (checkWith environment verbose format request checker) code output errors) :
    Session.Tells environment root (session environment parse arguments) code output errors := by
  have checked : Session.Tells environment root (check environment parse ⟨verbose, request⟩) code
      output errors := by
    simp only [check, known, project]
    exact tells
  rw [session_eq read files]
  exact (tells_help plain).andThen checked

/-! ### Checks -/

theorem failureMessage_packaged (failure : Failure) : (failureMessage failure).IsPackaged := by
  cases failure <;> simp [Message.IsPackaged, failureMessage, failureAddress, Packaged.sent]

variable {request : CheckRequest} {checker : Checker} {results : Results}

/-- In every format a failure is logged and told, and that is all. -/
theorem tells_failure (plain : Session.Unadorned environment root) (verbose : Bool)
    (format : OutputFormat) {failure : Failure}
    (failed : (checker.analyzeAll (request.shared.map Path.ofText)
      (request.targets.map Path.ofText)).result = .error (.failure failure)) :
    Session.Tells environment root (checkWith environment verbose format request checker)
      failureCode []
      (Session.logLines verbose (checker.analyzeAll (request.shared.map Path.ofText)
        (request.targets.map Path.ofText)).notices ++
        [Session.shown environment .error (failureMessage failure).text]) := by
  have said := Session.tells_say plain verbose (failureMessage_packaged failure).english_eq_text
  rw [checkWith_of_failure environment verbose format request checker failed]
  exact (Session.tells_log verbose _).andThen (said.andThen (.pure failureCode))

theorem tells_messages (plain : Session.Unadorned environment root) (verbose : Bool)
    (checker : Checker) (placed : results.Placed) :
    Session.Tells environment root (showMessages environment verbose checker results)
      (resultCode results.areClean)
      ((Report.told checker.viewpoint results).flatMap (Session.outputOf environment verbose))
      ((Report.told checker.viewpoint results).flatMap (Session.errorsOf environment)) := by
  have said : Session.Tells environment root
      ((Report.told checker.viewpoint results).forM (Session.say environment verbose)) ()
      ((Report.told checker.viewpoint results).flatMap (Session.outputOf environment verbose))
      ((Report.told checker.viewpoint results).flatMap (Session.errorsOf environment)) :=
    Session.Tells.forM fun message member =>
      Session.tells_say plain verbose (Report.told_packaged _ _ message member).english_eq_text
  have whole := said.andThen (Session.Tells.pure (resultCode (Report.isSuccess results)))
  rw [List.append_nil, List.append_nil, isSuccess_eq_areClean] at whole
  simp only [showMessages, Report.messages_eq checker.viewpoint placed, isSuccess_eq_areClean]
  exact whole

/-- A check with results logs what was noticed, and then shows the results. -/
theorem tells_results (verbose : Bool) (format : OutputFormat) {output errors : List String}
    {code : Nat}
    (success : (checker.analyzeAll (request.shared.map Path.ofText)
      (request.targets.map Path.ofText)).result = .ok results)
    (tells : Session.Tells environment root
      (showResults environment verbose format checker results) code output errors) :
    Session.Tells environment root (checkWith environment verbose format request checker) code
      output
      (Session.logLines verbose (checker.analyzeAll (request.shared.map Path.ofText)
        (request.targets.map Path.ofText)).notices ++ errors) := by
  have logged := (Session.tells_log verbose (checker.analyzeAll (request.shared.map Path.ofText)
    (request.targets.map Path.ofText)).notices).andThen tells
  simp only [checkWith, success]
  exact logged

theorem tells_document (verbose : Bool)
    (success : (checker.analyzeAll (request.shared.map Path.ofText)
      (request.targets.map Path.ofText)).result = .ok results) :
    Session.Tells environment root (checkWith environment verbose .json request checker)
      (resultCode results.areClean) [results.document.render]
      (Session.logLines verbose (checker.analyzeAll (request.shared.map Path.ofText)
        (request.targets.map Path.ofText)).notices) := by
  have payload : Session.Tells environment root
      (showResults environment verbose .json checker results) (resultCode results.areClean)
      [results.document.render] [] :=
    (Session.tells_writeOutput results.document.render).andThen (.pure _)
  have told := tells_results verbose .json success payload
  rw [List.append_nil] at told
  exact told

end Runs

/-! ### The two modes -/

/-- What a check is made of: a workspace whose configuration, if there is one, gives lists of names,
and which overrides no message; and targets that are not directories, have no sign of a pattern in
their suffixes, and bind factory calls by declarators that have a name. -/
structure Checkable (readers : Readers) (environment : Environment) (configuration : Configuration)
    (factories : Factories) (stylesNames targets : List String) : Prop where
  configured : Configuration.find environment.store ⟨.root, environment.store.current⟩ =
    .ok configuration
  factoryNames : configuration.factoryNames = Configuration.listOf factories.names
  factoryMethods : configuration.factoryMethods = Configuration.listOf factories.methods
  stylesNames : configuration.stylesNames = Configuration.listOf stylesNames
  unadorned : Session.Unadorned environment (Project.root environment.store Path.current)
  files : ∀ target ∈ targets, isDirectoryTarget environment.store target = false
  literal : ∀ target ∈ targets, ∀ character ∈ (Path.ofText target).suffix.toList,
    Pattern.IsLiteral character
  named : ∀ target ∈ targets, ∀ source,
    Reading.source ⟨environment.store, readers.parse⟩ (Path.ofText target) = .ok source →
      source.NamesBindings factories

theorem names_listOf (names : List String) :
    Configuration.names (Configuration.listOf names) = .listed names := by
  rw [Configuration.listOf, Configuration.names, List.filterMap_map]
  simp

/-- The checker of a workspace with a configuration. -/
def checkerOf (readers : Readers) (environment : Environment) (configuration : Configuration) :
    Checker :=
  ⟨⟨environment.store, readers.parse⟩, ⟨.root, environment.store.current⟩, configuration⟩

/-- The analysis of all targets in a workspace. -/
def batch (readers : Readers) (environment : Environment) (configuration : Configuration)
    (shared : Option String) (targets : List String) : Audit Results :=
  (checkerOf readers environment configuration).analyzeAll (shared.map Path.ofText)
    (targets.map Path.ofText)

section Modes

variable {readers : Readers} {environment : Environment} {configuration : Configuration}
  {factories : Factories} {stylesNames targets : List String} {shared : Option String}

theorem Checkable.project
    (checkable : Checkable readers environment configuration factories stylesNames targets) :
    Checker.ofProject ⟨environment.store, readers.parse⟩ ⟨.root, environment.store.current⟩ =
      .ok (checkerOf readers environment configuration) := by
  rw [Checker.ofProject, checkable.configured]
  rfl

theorem Checkable.settings
    (checkable : Checkable readers environment configuration factories stylesNames targets) :
    configuration.settings =
      ⟨.listed factories.names, .listed factories.methods, .listed stylesNames⟩ := by
  rw [Configuration.settings, checkable.factoryNames, checkable.factoryMethods,
    checkable.stylesNames, names_listOf, names_listOf, names_listOf]

/-- Only a failure that the user is told can end the analysis. -/
theorem Checkable.exists_failure
    (checkable : Checkable readers environment configuration factories stylesNames targets)
    {fault : Fault}
    (failed : (batch readers environment configuration shared targets).result = .error fault) :
    ∃ failure, fault = .failure failure := by
  obtain ⟨before, file, after, order, _, stopped⟩ :=
    ((checkerOf readers environment configuration).analyzeAll_eq_error_iff _ _ fault).mp failed
  have member : file ∈ targets.map Path.ofText := by simp [order]
  obtain ⟨target, named, rfl⟩ := List.mem_map.mp member
  have single : '*' ∉ (Path.ofText target).suffix.toList :=
    fun star => (checkable.literal target named '*' star).1 rfl
  have decided := analyze_decided readers environment.store factories.names factories.methods
    stylesNames (Path.ofText target)
    ((checkerOf readers environment configuration).sharedFile (shared.map Path.ofText)) single
    (checkable.named target named)
  rw [← checkable.settings] at decided
  obtain ⟨failure, same, _⟩ := decided.first_failure stopped
  exact ⟨failure, same⟩

/-- A single target with a result has this result. -/
theorem batch_singleton {target : String} {result : AnalysisResult}
    (alone : (checkerOf readers environment configuration).outcome (shared.map Path.ofText)
      (Path.ofText target) = .ok result) :
    (batch readers environment configuration shared [target]).result =
      .ok [(Path.ofText target, result)] := by
  rw [batch, Checker.analyzeAll_result, List.map_singleton, List.mapM_cons, alone]
  rfl

theorem batch_placed {results : Results}
    (success : (batch readers environment configuration shared targets).result = .ok results) :
    results.Placed := by
  obtain ⟨_, each⟩ := Checker.analyzeAll_eq_ok _ _ _ success
  intro entry member
  exact analyze_placed (each entry member)

theorem resultCode_eq (results : Results) :
    resultCode results.areClean = if results.findings = [] then 0 else 1 := by
  rw [resultCode]
  by_cases clean : results.findings = []
  · rw [(Results.areClean_iff results).mpr clean, if_pos clean]
    rfl
  · have dirty : results.areClean = false := by
      rw [Bool.eq_false_iff, ne_eq, Results.areClean_iff]
      exact clean
    rw [dirty, if_neg clean]
    rfl

end Modes

end CommandLine

namespace Sample

/-- A run in the project, in no language and without colors. -/
def environment : Environment :=
  ⟨store, none, false⟩

theorem spelled_card : Path.ofText "Card.js" = card := by
  decide +kernel

theorem checkable : CommandLine.Checkable Script.readers environment .standard .standard
    standardStylesNames ["Card.js"] where
  configured := by
    have bare : Project.described? store ⟨.root, []⟩ = none := by decide +kernel
    show Configuration.find store ⟨.root, []⟩ = _
    rw [Configuration.find, bare]
  factoryNames := rfl
  factoryMethods := rfl
  stylesNames := rfl
  unadorned := ⟨by decide +kernel, by decide +kernel⟩
  files := by decide +kernel
  literal := by
    intro target member
    rw [List.mem_singleton.mp member, spelled_card]
    exact card_suffix_literal
  named := by
    intro target member source read
    rw [List.mem_singleton.mp member, spelled_card] at read
    exact source_card_namesBindings source read

/-- The component is analyzed with findings, and with a missing shared style file it is not. -/
theorem batch_card : ∃ results, (CommandLine.batch Script.readers environment .standard none
    ["Card.js"]).result = .ok results ∧ results.findings ≠ [] := by
  obtain ⟨result, success, keys⟩ := analyze_card
  have alone : (CommandLine.checkerOf Script.readers environment .standard).outcome none
      (Path.ofText "Card.js") = .ok result := by
    rw [spelled_card]
    exact success
  refine ⟨_, CommandLine.batch_singleton alone, ?_⟩
  intro nothing
  have clean : ∀ sheet ∈ result.sheets, sheet.findings = [] := by
    have own : result.findings = [] := by simpa [Results.findings] using nothing
    rw [AnalysisResult.findings, List.flatMap_eq_nil_iff] at own
    exact own
  have blank : ∀ names ∈ missingKeys result, names = [] := by
    intro names member
    obtain ⟨sheet, inside, rfl⟩ := List.mem_map.mp member
    have both := clean sheet inside
    rw [SheetReport.findings, List.append_eq_nil_iff] at both
    rw [both.2, List.map_nil]
  rw [keys] at blank
  exact absurd (blank _ List.mem_cons_self) (by decide)

theorem batch_card_gone : (CommandLine.batch Script.readers environment .standard (some "gone.js")
    ["Card.js"]).result = .error (.failure goneFailure) := by
  have spelled : ["Card.js"].map Path.ofText = [card] := by
    rw [List.map_singleton, spelled_card]
  have file : (some "gone.js").map Path.ofText = some gone := by decide +kernel
  have alone : (CommandLine.checkerOf Script.readers environment .standard).outcome (some gone)
      card = .error (.failure goneFailure) := analyze_card_gone
  rw [CommandLine.batch, Checker.analyzeAll_result, spelled, file, List.mapM_cons, alone]
  rfl

end Sample

end StyleAudit
