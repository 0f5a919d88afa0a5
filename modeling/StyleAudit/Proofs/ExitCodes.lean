import StyleAudit.Main
import StyleAudit.Proofs.Ends
import StyleAudit.Proofs.OutputModes
import StyleAudit.Proofs.Precedence

/-!
Exit codes.

A check that does not break off ends with code 0 and no finding, with code 1 and findings, or with
code 2 after one error message. It breaks off for few causes, all of which lie in the workspace: a
message that the project overrides cannot be found or filled in, the project file gives no
configuration, or an analysis ends in something other than a failure.
-/

set_option autoImplicit false

namespace StyleAudit

namespace CommandLine

/-- The results that a check has. -/
def Gives (readers : Readers) (environment : Environment) (request : CheckRequest)
    (results : Results) : Prop :=
  ∃ format configuration, outputFormat? request.format = some format ∧
    Configuration.find environment.store ⟨.root, environment.store.current⟩ = .ok configuration ∧
    (batch readers environment configuration request.shared request.targets).result = .ok results

/-! ### Texts -/

/-- The texts of a project's messages, as they are found from the current directory. -/
def textAt (environment : Environment) (id : String) : Except Escape String :=
  Session.textAt environment (Project.root environment.store Path.current) id

/-- A message filled in, as it is found from the current directory. -/
def rendered (environment : Environment) (message : Message) : Except Escape String :=
  Session.rendered environment (Project.root environment.store Path.current) message

/-- Where every message file is a table, every text is found. -/
theorem textAt_of_tables {environment : Environment} (tables : environment.store.HoldsTables)
    (id : String) :
    textAt environment id = .ok (Catalogue.plainText environment.store
      [.packaged, .directory (Project.root environment.store Path.current)]
      (Catalogue.languageOf environment.language none) id) := by
  rw [textAt, Session.textAt, Catalogue.messageIn_of_tables tables]

/-- A project's own text is found before the packaged one. -/
theorem textAt_of_override {environment : Environment} (tables : environment.store.HoldsTables)
    {id text : String}
    (own : (MessageRoot.directory (Project.root environment.store Path.current)).texts
      environment.store (Catalogue.languageOf environment.language none) id = some text) :
    textAt environment id = .ok text := by
  rw [textAt_of_tables tables, Catalogue.plainText_of_project own]

/-- Where a project overrides nothing, messages have their English texts. -/
theorem textAt_of_plain {environment : Environment}
    (plain : Session.Unadorned environment (Project.root environment.store Path.current))
    (id : String) : textAt environment id = .ok ((Packaged.english.lookup id).getD id) := by
  rw [textAt, Session.textAt, Catalogue.messageIn_of_plain plain.preferred plain.standard]

theorem rendered_of_textAt {environment : Environment} {message : Message} {template : String}
    (found : textAt environment message.id = .ok template) :
    rendered environment message =
      (Message.render template message.id message.parameters).mapError .template := by
  rw [textAt] at found
  rw [rendered, Session.rendered, found]
  rfl

theorem rendered_of_english {environment : Environment}
    (plain : Session.Unadorned environment (Project.root environment.store Path.current))
    {message : Message} {text : String} (shown : message.english = .ok text) :
    rendered environment message = .ok text := by
  rw [rendered_of_textAt (textAt_of_plain plain message.id)]
  exact congrArg (Except.mapError Escape.template) shown

theorem rendered_of_plain {environment : Environment}
    (plain : Session.Unadorned environment (Project.root environment.store Path.current))
    {message : Message} (packaged : message.IsPackaged) :
    rendered environment message = .ok message.text :=
  rendered_of_english plain packaged.english_eq_text

/-! ### What a check comes to -/

/-- The messages that results are told in. A document is told as a whole. -/
def resultMessages (format : OutputFormat) (viewpoint : Viewpoint) (results : Results) :
    List Message :=
  match format with
  | .text => Report.told viewpoint results
  | .json => []

/-- The code of a check with the messages that it sends, unless it breaks off before sending
any. -/
def conclusion (readers : Readers) (environment : Environment) (request : CheckRequest) :
    Except Escape (Nat × List Message) :=
  match outputFormat? request.format with
  | none => .ok (failureCode, [formatMessage request.format])
  | some format =>
    match Configuration.find environment.store ⟨.root, environment.store.current⟩ with
    | .error cause => .error (.configuration cause)
    | .ok configuration =>
      match (batch readers environment configuration request.shared request.targets).result with
      | .error (.failure failure) => .ok (failureCode, [failureMessage failure])
      | .error fault => .error (.fault fault)
      | .ok results => .ok (resultCode results.areClean,
          resultMessages format (checkerOf readers environment configuration).viewpoint results)

/-- The courses that a check can take, each with what it comes to. -/
inductive Course (readers : Readers) (environment : Environment) (request : CheckRequest) :
    Except Escape (Nat × List Message) → Prop where
  | format (unknown : outputFormat? request.format = none) :
      Course readers environment request (.ok (failureCode, [formatMessage request.format]))
  | configuration {format : OutputFormat} {cause : ConfigurationError}
      (known : outputFormat? request.format = some format)
      (failed : Configuration.find environment.store ⟨.root, environment.store.current⟩ =
        .error cause) :
      Course readers environment request (.error (.configuration cause))
  | failure {format : OutputFormat} {configuration : Configuration} {failure : Failure}
      (known : outputFormat? request.format = some format)
      (configured : Configuration.find environment.store ⟨.root, environment.store.current⟩ =
        .ok configuration)
      (failed : (batch readers environment configuration request.shared request.targets).result =
        .error (.failure failure)) :
      Course readers environment request (.ok (failureCode, [failureMessage failure]))
  | fault {format : OutputFormat} {configuration : Configuration} {fault : Fault}
      (known : outputFormat? request.format = some format)
      (configured : Configuration.find environment.store ⟨.root, environment.store.current⟩ =
        .ok configuration)
      (failed : (batch readers environment configuration request.shared request.targets).result =
        .error fault)
      (untold : ∀ failure, fault ≠ .failure failure) :
      Course readers environment request (.error (.fault fault))
  | results {format : OutputFormat} {configuration : Configuration} {results : Results}
      (known : outputFormat? request.format = some format)
      (configured : Configuration.find environment.store ⟨.root, environment.store.current⟩ =
        .ok configuration)
      (success : (batch readers environment configuration request.shared request.targets).result =
        .ok results) :
      Course readers environment request (.ok (resultCode results.areClean,
        resultMessages format (checkerOf readers environment configuration).viewpoint results))

/-- Causes for which a check breaks off. -/
inductive BreaksOff (readers : Readers) (environment : Environment) (request : CheckRequest) :
    Escape → Prop where
  /-- There is no text that explains the program. -/
  | help {id : String} {cause : Escape} (looked : id ∈ helpAddresses)
      (absent : textAt environment id = .error cause) :
      BreaksOff readers environment request cause
  /-- The check ends before there is anything to tell. -/
  | course {cause : Escape} (course : Course readers environment request (.error cause)) :
      BreaksOff readers environment request cause
  /-- A message that is sent cannot be found or filled in. -/
  | message {code : Nat} {messages : List Message} {message : Message} {cause : Escape}
      (course : Course readers environment request (.ok (code, messages)))
      (sent : message ∈ messages) (failed : rendered environment message = .error cause) :
      BreaksOff readers environment request cause

section Conclusion

variable {readers : Readers} {environment : Environment} {request : CheckRequest}

theorem course_conclusion (readers : Readers) (environment : Environment)
    (request : CheckRequest) :
    Course readers environment request (conclusion readers environment request) := by
  unfold conclusion
  split
  · rename_i unknown
    exact .format unknown
  · rename_i format known
    split
    · rename_i cause failed
      exact .configuration known failed
    · rename_i configuration configured
      split
      · rename_i failure failed
        exact .failure known configured failed
      · rename_i fault untold failed
        exact .fault known configured failed untold
      · rename_i results success
        exact .results known configured success

/-- Only one course can be taken. -/
theorem Course.eq_conclusion {outcome : Except Escape (Nat × List Message)}
    (course : Course readers environment request outcome) :
    conclusion readers environment request = outcome := by
  cases course with
  | format unknown => simp only [conclusion, unknown]
  | configuration known failed => simp only [conclusion, known, failed]
  | failure known configured failed => simp only [conclusion, known, configured, failed]
  | fault known configured failed untold => simp only [conclusion, known, configured, failed]
  | results known configured success => simp only [conclusion, known, configured, success]

theorem course_of_conclusion {outcome : Except Escape (Nat × List Message)}
    (concluded : conclusion readers environment request = outcome) :
    Course readers environment request outcome :=
  concluded ▸ course_conclusion readers environment request

theorem Gives.unique {results others : Results}
    (first : Gives readers environment request results)
    (second : Gives readers environment request others) : results = others := by
  obtain ⟨_, configuration, _, configured, success⟩ := first
  obtain ⟨_, other, _, same, again⟩ := second
  rw [configured] at same
  cases same
  rw [success] at again
  exact Except.ok.inj again

/-- A check comes to one error message and no results, or to results and their code. -/
theorem code_of_conclusion {code : Nat} {messages : List Message}
    (concluded : conclusion readers environment request = .ok (code, messages)) :
    (code = failureCode ∧ (∃ message, messages = [message]) ∧
      ∀ results, ¬ Gives readers environment request results) ∨
    ∃ results, Gives readers environment request results ∧
      code = if results.findings = [] then 0 else 1 := by
  cases course_of_conclusion concluded with
  | format unknown =>
      refine Or.inl ⟨rfl, ⟨_, rfl⟩, ?_⟩
      rintro results ⟨format, _, known, _⟩
      rw [unknown] at known
      cases known
  | failure known configured failed =>
      refine Or.inl ⟨rfl, ⟨_, rfl⟩, ?_⟩
      rintro results ⟨_, other, _, same, success⟩
      rw [configured] at same
      cases same
      rw [failed] at success
      cases success
  | results known configured success =>
      exact Or.inr ⟨_, ⟨_, _, known, configured, success⟩, resultCode_eq _⟩

/-- Nothing breaks off a check that comes to messages that can be filled in. -/
theorem not_breaksOff {code : Nat} {messages : List Message}
    (explained : ∀ id ∈ helpAddresses, ∃ text, textAt environment id = .ok text)
    (concluded : conclusion readers environment request = .ok (code, messages))
    (filled : ∀ message ∈ messages, ∃ text, rendered environment message = .ok text)
    (cause : Escape) : ¬ BreaksOff readers environment request cause := by
  intro broken
  cases broken with
  | help looked absent =>
      obtain ⟨text, found⟩ := explained _ looked
      rw [found] at absent
      cases absent
  | course course =>
      rw [course.eq_conclusion] at concluded
      cases concluded
  | message course sent failed =>
      rw [course.eq_conclusion] at concluded
      cases concluded
      obtain ⟨text, found⟩ := filled _ sent
      rw [found] at failed
      cases failed

end Conclusion

/-! ### Runs -/

section Runs

variable {readers : Readers} {environment : Environment} {request : CheckRequest} {verbose : Bool}

/-- How a run ends with a code, once its messages are filled in. -/
def endingWith (code : Nat) (texts : Except Escape (List String)) : Except Ending Nat :=
  match texts with
  | .ok _ => .ok code
  | .error cause => .error (.escaped cause)

/-- The only text of a check that cannot be made was shown as an error, after the log. -/
def TellsFailure (environment : Environment) (verbose : Bool) (code : Nat)
    (texts : Except Escape (List String)) (output errors : List String) : Prop :=
  code = failureCode → ∀ text, texts = .ok [text] →
    Session.Shows environment verbose .error text output errors

theorem tellsFailure_after_log {code : Nat} {texts : Except Escape (List String)}
    {output errors moreOutput moreErrors : List String} (first : Session.OnlyLog output errors)
    (second : TellsFailure environment verbose code texts moreOutput moreErrors) :
    TellsFailure environment verbose code texts (output ++ moreOutput) (errors ++ moreErrors) :=
  fun failed text only => first.shows (second failed text only)

theorem tellsFailure_of_result (clean : Bool) (texts : Except Escape (List String))
    (output errors : List String) :
    TellsFailure environment verbose (resultCode clean) texts output errors := by
  intro failed
  cases clean <;> cases failed

/-- A single error message is all that is told before the code. -/
theorem ends_failure (root : Path) {message : Message} (level : message.level = .error) :
    Session.Ends environment root (do Session.say environment verbose message; return failureCode)
      (endingWith failureCode ([message].mapM (Session.rendered environment root)))
      (TellsFailure environment verbose failureCode
        ([message].mapM (Session.rendered environment root))) := by
  cases filled : Session.rendered environment root message with
  | error cause =>
      have texts : [message].mapM (Session.rendered environment root) = .error cause := by
        rw [List.mapM_cons, filled]
        rfl
      rw [texts]
      exact (Session.ends_say_of_error verbose filled).stop.weaken
        fun _ _ _ _ _ only => by cases only
  | ok text =>
      have texts : [message].mapM (Session.rendered environment root) = .ok [text] := by
        rw [List.mapM_cons, filled]
        rfl
      have shown : Session.Ends environment root (Session.say environment verbose message)
          (.ok ()) (Session.Shows environment verbose message.level text) :=
        Session.ends_say_of_ok verbose filled
      rw [level] at shown
      rw [texts]
      refine (shown.andReturn failureCode).weaken ?_
      rintro output errors shows _ other only
      cases only
      exact shows

/-- Results are shown as messages, or as a document that cannot fail. -/
theorem ends_showResults (root : Path) (format : OutputFormat) {checker : Checker}
    {results : Results} (placed : results.Placed) :
    Session.Ends environment root (showResults environment verbose format checker results)
      (endingWith (resultCode results.areClean)
        ((resultMessages format checker.viewpoint results).mapM
          (Session.rendered environment root))) Session.Anything := by
  cases format with
  | json =>
      exact ((Session.tells_writeOutput results.document.render).ends trivial).andReturn _
  | text =>
      have said : Session.Ends environment root
          ((Report.told checker.viewpoint results).forM (Session.say environment verbose))
          (Session.endingOf ((Report.told checker.viewpoint results).mapM
            (Session.rendered environment root))) Session.Anything :=
        Session.Ends.forM (fun message _ => Session.ends_say verbose message) trivial
          fun _ _ _ _ _ _ => trivial
      simp only [showResults, showMessages, resultMessages,
        Report.messages_eq checker.viewpoint placed, isSuccess_eq_areClean]
      cases texts : (Report.told checker.viewpoint results).mapM
          (Session.rendered environment root) with
      | ok shown =>
          rw [texts] at said
          exact said.andReturn _
      | error cause =>
          rw [texts] at said
          exact said.stop

/-- What a check does once it knows its configuration. -/
theorem check_eq {format : OutputFormat} {configuration : Configuration}
    (known : outputFormat? request.format = some format)
    (configured : Configuration.find environment.store ⟨.root, environment.store.current⟩ =
      .ok configuration) :
    check environment readers.parse ⟨verbose, request⟩ =
      checkWith environment verbose format request
        (checkerOf readers environment configuration) := by
  have project : Checker.ofProject ⟨environment.store, readers.parse⟩
      ⟨.root, environment.store.current⟩ = .ok (checkerOf readers environment configuration) := by
    rw [Checker.ofProject, configured]
    rfl
  simp only [check, known, project]

/-- A check that comes to a code sends its messages, and ends with the code if they can all be
filled in. -/
theorem ends_check {code : Nat} {messages : List Message}
    (concluded : conclusion readers environment request = .ok (code, messages)) :
    Session.Ends environment (Project.root environment.store Path.current)
      (check environment readers.parse ⟨verbose, request⟩)
      (endingWith code (messages.mapM (rendered environment)))
      (TellsFailure environment verbose code (messages.mapM (rendered environment))) := by
  cases course_of_conclusion concluded with
  | format unknown =>
      simp only [check, unknown]
      exact ends_failure _ rfl
  | failure known configured failed =>
      rw [check_eq known configured, checkWith_of_failure _ _ _ _ _ failed]
      exact (Session.ends_log verbose _).bind (ends_failure _ rfl)
        fun _ _ _ _ => tellsFailure_after_log
  | @results format configuration results known configured success =>
      have analyzed : ((checkerOf readers environment configuration).analyzeAll
        (request.shared.map Path.ofText) (request.targets.map Path.ofText)).result =
          .ok results := success
      rw [check_eq known configured]
      simp only [checkWith, analyzed]
      exact (Session.ends_log verbose _).bind (ends_showResults _ format (batch_placed success))
        fun _ _ _ _ _ _ => tellsFailure_of_result _ _ _ _

theorem ends_check_of_error {cause : Escape}
    (concluded : conclusion readers environment request = .error cause) :
    Session.Ends environment (Project.root environment.store Path.current)
      (check environment readers.parse ⟨verbose, request⟩) (.error (.escaped cause))
      Session.Anything := by
  cases course_of_conclusion concluded with
  | configuration known failed =>
      simp only [check, known, Checker.ofProject, failed]
      exact Session.ends_throw _ trivial
  | @fault format configuration fault known configured failed untold =>
      have analyzed : ((checkerOf readers environment configuration).analyzeAll
        (request.shared.map Path.ofText) (request.targets.map Path.ofText)).result =
          .error fault := failed
      have escaped : Session.Ends environment (Project.root environment.store Path.current)
          (Session.escape (.fault fault) : Session Nat) (.error (.escaped (.fault fault)))
          Session.Anything := Session.ends_throw _ trivial
      rw [check_eq known configured]
      simp only [checkWith, analyzed]
      exact (Session.ends_log verbose _).bind escaped fun _ _ _ _ _ _ => trivial

/-- The texts that explain the program are looked for before anything else. -/
theorem ends_help (environment : Environment) :
    Session.Ends environment (Project.root environment.store Path.current)
      (helpAddresses.forM fun id => do
        let _ ← Session.template environment false id)
      (Session.endingOf (helpAddresses.mapM (textAt environment))) Session.OnlyLog := by
  refine Session.Ends.forM (fun id _ => ?_) Session.onlyLog_nil
    fun _ _ _ _ => Session.OnlyLog.append
  have looked : Session.Ends environment (Project.root environment.store Path.current)
      (Session.template environment false id) ((textAt environment id).mapError .escaped)
      Session.OnlyLog :=
    Session.ends_template false id
  cases found : textAt environment id with
  | error cause =>
      rw [found] at looked
      exact looked.stop
  | ok text =>
      rw [found] at looked
      exact looked.bind ((Session.Tells.pure ()).ends Session.onlyLog_nil)
        fun _ _ _ _ => Session.OnlyLog.append

theorem ends_session_of_unexplained {arguments : List String} {cause : Escape}
    (read : readInvocation false arguments = some ⟨verbose, request⟩)
    (files : ∀ target ∈ request.targets, isDirectoryTarget environment.store target = false)
    (unexplained : helpAddresses.mapM (textAt environment) = .error cause) :
    Session.Ends environment (Project.root environment.store Path.current)
      (session environment readers.parse arguments) (.error (.escaped cause))
      Session.OnlyLog := by
  have help := ends_help environment
  rw [unexplained] at help
  rw [session_eq read files]
  exact help.stop

theorem ends_session {arguments texts : List String} {result : Except Ending Nat}
    {wrote whole : List String → List String → Prop}
    (read : readInvocation false arguments = some ⟨verbose, request⟩)
    (files : ∀ target ∈ request.targets, isDirectoryTarget environment.store target = false)
    (explained : helpAddresses.mapM (textAt environment) = .ok texts)
    (checked : Session.Ends environment (Project.root environment.store Path.current)
      (check environment readers.parse ⟨verbose, request⟩) result wrote)
    (together : ∀ output errors moreOutput moreErrors, Session.OnlyLog output errors →
      wrote moreOutput moreErrors → whole (output ++ moreOutput) (errors ++ moreErrors)) :
    Session.Ends environment (Project.root environment.store Path.current)
      (session environment readers.parse arguments) result whole := by
  have help := ends_help environment
  rw [explained] at help
  rw [session_eq read files]
  exact help.bind checked together

/-- How a run ends whose session comes to a code or breaks off. -/
def endOf : Except Ending Nat → Ending
  | .ok code => .exit code
  | .error ending => ending

theorem run_of_ends {arguments : List String} {result : Except Ending Nat}
    {wrote : List String → List String → Prop}
    (ends : Session.Ends environment (Project.root environment.store Path.current)
      (session environment readers.parse arguments) result wrote) :
    wrote (run environment readers.parse arguments).output
        (run environment readers.parse arguments).errors ∧
      (run environment readers.parse arguments).ending = endOf result := by
  have ready : Session.Ready environment (Project.root environment.store Path.current)
      ⟨catalogueOf environment.store, [], []⟩ := ⟨rfl, Catalogue.faithful_nil _ _⟩
  obtain ⟨after, output, errors, _, lines, written, failed, ended⟩ := ends _ ready
  rw [List.append_nil] at written failed
  simp only [run, ended, written, failed, List.reverse_reverse]
  exact ⟨lines, by cases result <;> rfl⟩

theorem run_of_conclusion {arguments texts : List String} {code : Nat} {messages : List Message}
    (read : readInvocation false arguments = some ⟨verbose, request⟩)
    (files : ∀ target ∈ request.targets, isDirectoryTarget environment.store target = false)
    (explained : helpAddresses.mapM (textAt environment) = .ok texts)
    (concluded : conclusion readers environment request = .ok (code, messages)) :
    TellsFailure environment verbose code (messages.mapM (rendered environment))
        (run environment readers.parse arguments).output
        (run environment readers.parse arguments).errors ∧
      (run environment readers.parse arguments).ending =
        endOf (endingWith code (messages.mapM (rendered environment))) :=
  run_of_ends (ends_session read files explained (ends_check concluded)
    fun _ _ _ _ => tellsFailure_after_log)

/-- The text of a message that was told of a failure is all that was told. -/
theorem told_of_failure {message : Message} {texts output errors : List String}
    (filled : [message].mapM (rendered environment) = .ok texts)
    (told : TellsFailure environment verbose failureCode (.ok texts) output errors) :
    ∃ text log, rendered environment message = .ok text ∧
      (∀ line ∈ log, Session.IsLogLine line) ∧ output = [] ∧
      errors = log ++ [Session.shown environment .error text] := by
  obtain ⟨text, own⟩ := exists_ok_of_mapM filled message List.mem_cons_self
  have only : texts = [text] := by
    rw [List.mapM_cons, own] at filled
    exact (Except.ok.inj filled).symm
  obtain ⟨nothing, log, logged, lines⟩ := told rfl text (congrArg Except.ok only)
  exact ⟨text, log, own, logged, nothing, lines⟩

end Runs

end CommandLine

/-- A check of the component. -/
def Sample.cardRequest : CheckRequest :=
  ⟨["Card.js"], none, "text"⟩

namespace Sample

/-- A component without findings, in a project whose message about success cannot be filled in. -/
def bracedStore : FileStore :=
  ⟨[(["Card.js"], "const s = StyleSheet.create({});".toUTF8.toList),
    ([".sheetcheck", "needle", "en", "check.json"],
      "\x7b\"check.run.success\": \"\x7b\"\x7d".toUTF8.toList)], [], []⟩

def bracedEnvironment : Environment :=
  ⟨bracedStore, none, false⟩

theorem bracedStore_holdsTables : bracedStore.HoldsTables :=
  FileStore.holdsTables_of_files (by decide +kernel)

theorem textAt_success :
    CommandLine.textAt bracedEnvironment "check.run.success" = .ok "\x7b" := by
  have root : Project.root bracedStore Path.current = ⟨.root, []⟩ := by decide +kernel
  have language : Path.ofText "en" = ⟨.here, ["en"]⟩ := by decide +kernel
  have own : Loading.filesInside bracedStore ⟨.root, [".sheetcheck", "needle", "en"]⟩ =
      [⟨.root, [".sheetcheck", "needle", "en", "check.json"]⟩] :=
    Path.sort_eq_of_perm (by decide +kernel) (by decide +kernel)
  have found : (MessageFile.read bracedStore
      ⟨.root, [".sheetcheck", "needle", "en", "check.json"]⟩).texts "check.run.success" =
        some "\x7b" := by decide +kernel
  refine CommandLine.textAt_of_override bracedStore_holdsTables
    (MessageRoot.texts_of_hidden ?_ found)
  show Loading.filesInside bracedStore ((((Project.root bracedStore Path.current).child
    ".sheetcheck").child "needle").join (Path.ofText "en")) = _
  rw [root, language]
  exact own

theorem siblings_braced : siblings bracedStore card = .ok [] := by
  rw [siblings_eq_ok_iff]
  exact ⟨by decide +kernel, suffixPattern, by decide +kernel,
    Path.sort_eq_of_perm (by decide +kernel) (by decide +kernel)⟩

theorem analyze_braced : ∃ result,
    (analyze ⟨bracedStore, Script.readers.parse⟩ .standard card none).result = .ok result ∧
      result.findings = [] := by
  have declared : (Reading.declaredSheets ⟨bracedStore, Script.readers.parse⟩ .standard
      card).result =
        .ok ⟨[⟨"s", some ⟨⟨1, 6⟩, ⟨1, 7⟩⟩, []⟩], ["const s = StyleSheet.create({});"]⟩ := by
    decide +kernel
  have listed : Reading.siblingSources ⟨bracedStore, Script.readers.parse⟩ card = .ok [] := by
    rw [Reading.siblingSources_eq_ok_iff]
    exact ⟨_, siblings_braced, .nil⟩
  apply exists_ok_of_toOption_map
  rw [analyze_result, declared, Reading.sharedKeys_none_result, listed]
  decide +kernel

theorem configured_braced : Configuration.find bracedStore ⟨.root, []⟩ = .ok .standard := by
  have bare : Project.described? bracedStore ⟨.root, []⟩ = none := by decide +kernel
  rw [Configuration.find, bare]

theorem batch_braced : ∃ results, (CommandLine.batch Script.readers bracedEnvironment .standard
    none ["Card.js"]).result = .ok results ∧ results.findings = [] := by
  obtain ⟨result, success, clean⟩ := analyze_braced
  have alone : (CommandLine.checkerOf Script.readers bracedEnvironment .standard).outcome none
      (Path.ofText "Card.js") = .ok result := by
    rw [spelled_card]
    exact success
  refine ⟨_, CommandLine.batch_singleton alone, ?_⟩
  simp [Results.findings, clean]

end Sample

end StyleAudit
