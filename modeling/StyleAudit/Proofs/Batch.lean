import StyleAudit.CommandLine
import StyleAudit.Proofs.Analysis
import StyleAudit.Proofs.Keyed

/-!
Analyzing several targets.

A batch has results for all of its targets, each of them the one that the target has by itself, or
it ends in the fault of the first target that has none. In that case nothing is told of the targets
before it.
-/

set_option autoImplicit false

namespace StyleAudit

theorem Results.ofList_files (entries : List (Path × AnalysisResult)) :
    (Results.ofList entries).map (·.1) = (entries.map (·.1)).eraseDups :=
  Keyed.foldl_put_keys (·.1) entries

theorem Results.mem_ofList {entries : List (Path × AnalysisResult)} {entry : Path × AnalysisResult}
    (member : entry ∈ Results.ofList entries) : entry ∈ entries :=
  Keyed.mem_foldl_put (fun entry : Path × AnalysisResult => entry.1) member

/-- Entries are known from their keys, when each key yields the value that stands with it. -/
theorem entries_eq {ε κ ν : Type} (yields : κ → Except ε ν) {entries others : List (κ × ν)}
    (keys : entries.map (·.1) = others.map (·.1))
    (each : ∀ entry ∈ entries, yields entry.1 = .ok entry.2)
    (othersEach : ∀ entry ∈ others, yields entry.1 = .ok entry.2) : entries = others := by
  induction entries generalizing others with
  | nil => exact (List.map_eq_nil_iff.mp keys.symm).symm
  | cons first rest ih =>
      cases others with
      | nil => cases keys
      | cons second more =>
          obtain ⟨key, tails⟩ : first.1 = second.1 ∧ rest.map (·.1) = more.map (·.1) :=
            List.cons.inj keys
          have yielded := othersEach second List.mem_cons_self
          rw [← key, each first List.mem_cons_self] at yielded
          have value : first.2 = second.2 := Except.ok.inj yielded
          have same := ih tails (fun entry member => each entry (List.mem_cons_of_mem _ member))
            fun entry member => othersEach entry (List.mem_cons_of_mem _ member)
          rw [Prod.ext key value, same]

namespace Checker

variable (checker : Checker) (given : Option Path) (files : List Path)

/-- What becomes of a single file. -/
def outcome (file : Path) : Except Fault AnalysisResult :=
  (checker.analyzeOne given file).result

theorem analyzeAll_result :
    (checker.analyzeAll given files).result =
      (files.mapM fun file => (checker.outcome given file).map fun result => (file, result)).map
        Results.ofList := by
  have step : ∀ file, (do
      let result ← checker.analyzeOne given file
      pure (file, result) : Audit (Path × AnalysisResult)).result =
        (checker.outcome given file).map fun result => (file, result) := by
    intro file
    rw [Audit.bind_result, outcome]
    cases (checker.analyzeOne given file).result <;> rfl
  rw [analyzeAll, Audit.bind_result, Audit.mapM_result]
  simp only [step]
  cases files.mapM fun file => (checker.outcome given file).map fun result => (file, result) <;> rfl

theorem analyzeAll_eq_ok {results : Results}
    (success : (checker.analyzeAll given files).result = .ok results) :
    results.map (·.1) = files.eraseDups ∧
      ∀ entry ∈ results, checker.outcome given entry.1 = .ok entry.2 := by
  rw [analyzeAll_result, map_eq_ok_iff] at success
  obtain ⟨entries, each, rfl⟩ := success
  rw [mapM_eq_ok_iff] at each
  have known : entries.map (·.1) = files ∧
      ∀ entry ∈ entries, checker.outcome given entry.1 = .ok entry.2 := by
    induction each with
    | nil => exact ⟨rfl, by simp⟩
    | cons first rest ih =>
        obtain ⟨result, analyzed, rfl⟩ := (map_eq_ok_iff _ _ _).mp first
        refine ⟨by rw [List.map_cons, ih.1], ?_⟩
        intro entry member
        rcases List.mem_cons.mp member with rfl | later
        · exact analyzed
        · exact ih.2 entry later
  refine ⟨?_, fun entry member => known.2 entry (Results.mem_ofList member)⟩
  rw [Results.ofList_files, known.1]

theorem analyzeAll_eq_error_iff (fault : Fault) :
    (checker.analyzeAll given files).result = .error fault ↔
      ∃ before file after, files = before ++ file :: after ∧
        (∀ earlier ∈ before, ∃ result, checker.outcome given earlier = .ok result) ∧
        checker.outcome given file = .error fault := by
  have single : ∀ file, (∃ entry, (checker.outcome given file).map (fun result => (file, result)) =
      .ok entry) ↔ ∃ result, checker.outcome given file = .ok result := by
    intro file
    cases checker.outcome given file <;> simp [Except.map]
  have failing : ∀ file, (checker.outcome given file).map (fun result => (file, result)) =
      .error fault ↔ checker.outcome given file = .error fault := by
    intro file
    cases checker.outcome given file <;> simp [Except.map]
  have batch : (checker.analyzeAll given files).result = .error fault ↔
      (files.mapM fun file => (checker.outcome given file).map fun result => (file, result)) =
        .error fault := by
    rw [analyzeAll_result]
    cases files.mapM fun file => (checker.outcome given file).map fun result => (file, result) <;>
      simp [Except.map]
  rw [batch, mapM_eq_error_iff]
  simp only [single, failing]

theorem exists_mem_of_analyzeAll {results : Results} {file : Path} (member : file ∈ files)
    (success : (checker.analyzeAll given files).result = .ok results) :
    ∃ result, checker.outcome given file = .ok result ∧ (file, result) ∈ results := by
  obtain ⟨keys, each⟩ := checker.analyzeAll_eq_ok given files success
  have place : file ∈ results.map (·.1) := by
    rw [keys, List.mem_eraseDups]
    exact member
  obtain ⟨entry, inside, rfl⟩ := List.mem_map.mp place
  exact ⟨entry.2, each entry inside, inside⟩

theorem exists_analyzeAll_iff :
    (∃ results, (checker.analyzeAll given files).result = .ok results) ↔
      ∀ file ∈ files, ∃ result, checker.outcome given file = .ok result := by
  constructor
  · rintro ⟨results, success⟩ file member
    obtain ⟨result, analyzed, _⟩ := checker.exists_mem_of_analyzeAll given files member success
    exact ⟨result, analyzed⟩
  · intro all
    cases batch : (checker.analyzeAll given files).result with
    | ok results => exact ⟨results, rfl⟩
    | error fault =>
        obtain ⟨before, file, after, rfl, _, failed⟩ :=
          (checker.analyzeAll_eq_error_iff given files fault).mp batch
        obtain ⟨result, success⟩ := all file (by simp)
        rw [success] at failed
        cases failed

/-- The results are known from the order of the files and from the result of each file. -/
theorem analyzeAll_eq_ok_iff (results : Results) :
    (checker.analyzeAll given files).result = .ok results ↔
      results.map (·.1) = files.eraseDups ∧
      ∀ file ∈ files, ∃ result, checker.outcome given file = .ok result ∧
        (file, result) ∈ results := by
  constructor
  · intro success
    exact ⟨(checker.analyzeAll_eq_ok given files success).1,
      fun file member => checker.exists_mem_of_analyzeAll given files member success⟩
  · rintro ⟨keys, each⟩
    obtain ⟨known, success⟩ := (checker.exists_analyzeAll_iff given files).mpr fun file member =>
      (each file member).imp fun result found => found.1
    obtain ⟨knownKeys, knownEach⟩ := checker.analyzeAll_eq_ok given files success
    -- As keys do not repeat, the entry of a key is the one that is known to be there.
    have own : ∀ entry ∈ results, checker.outcome given entry.1 = .ok entry.2 := by
      intro entry member
      have place : entry.1 ∈ files := by
        rw [← List.mem_eraseDups, ← keys]
        exact List.mem_map_of_mem member
      obtain ⟨result, analyzed, inside⟩ := each entry.1 place
      have apart : (results.map (·.1)).Nodup := by
        rw [keys]
        exact Keyed.nodup_eraseDups _
      have equal : entry = (entry.1, result) :=
        List.inj_on_of_nodup_map apart member inside rfl
      rw [equal]
      exact analyzed
    rw [success]
    congr 1
    exact entries_eq _ (knownKeys.trans keys.symm) knownEach own

/-- A fault of the batch is one of the whole check. -/
theorem run_eq_error {fault : Fault}
    (failed : (checker.analyzeAll given files).result = .error fault) :
    (checker.run given files).result = .error fault := by
  rw [run, Audit.bind_result, failed]
  rfl

end Checker

/-- What the command does when targets cannot be analyzed: it logs what was noticed, and the message
about the failure is all that it tells. -/
theorem CommandLine.checkWith_of_failure (environment : Environment) (verbose : Bool)
    (format : OutputFormat) (request : CheckRequest) (checker : Checker) {failure : Failure}
    (failed : (checker.analyzeAll (request.shared.map Path.ofText)
      (request.targets.map Path.ofText)).result = .error (.failure failure)) :
    checkWith environment verbose format request checker = (do
      Session.log verbose (checker.analyzeAll (request.shared.map Path.ofText)
        (request.targets.map Path.ofText)).notices
      Session.say environment verbose (failureMessage failure)
      return failureCode) := by
  simp only [checkWith, failed]

/-- The analysis of one target by itself, with the given shared style file, else the configured
one. -/
def Checker.alone (checker : Checker) (override : Option String) (target : String) :
    Except Fault AnalysisResult :=
  (analyze checker.reading checker.configuration.settings (Path.ofText target)
    ((override.map Path.ofText).or checker.configuration.sharedFile)).result

/-- A batch of targets gives all results or none. It gives them exactly when each target has one by
itself; they stand in the order in which the files are first named, once for each file however its
path is spelled, and are the results that the targets have by themselves. Otherwise the batch, and
the check of these targets, ends in the fault of the first target that has no result. A command then
tells nothing but this failure. -/
theorem analyzeAll_exact (checker : Checker) (request : CheckRequest) :
    (∀ results, (checker.analyzeAll (request.shared.map Path.ofText)
        (request.targets.map Path.ofText)).result = .ok results ↔
      results.map (·.1) = (request.targets.map Path.ofText).eraseDups ∧
      ∀ target ∈ request.targets, ∃ result, checker.alone request.shared target = .ok result ∧
        (Path.ofText target, result) ∈ results) ∧
    ((∃ results, (checker.analyzeAll (request.shared.map Path.ofText)
        (request.targets.map Path.ofText)).result = .ok results) ↔
      ∀ target ∈ request.targets, ∃ result, checker.alone request.shared target = .ok result) ∧
    (∀ fault, (checker.analyzeAll (request.shared.map Path.ofText)
        (request.targets.map Path.ofText)).result = .error fault ↔
      ∃ before target after, request.targets = before ++ target :: after ∧
        (∀ earlier ∈ before, ∃ result, checker.alone request.shared earlier = .ok result) ∧
        checker.alone request.shared target = .error fault) ∧
    ∀ fault, (checker.analyzeAll (request.shared.map Path.ofText)
        (request.targets.map Path.ofText)).result = .error fault →
      (checker.run (request.shared.map Path.ofText) (request.targets.map Path.ofText)).result =
        .error fault ∧
      ∀ failure, fault = .failure failure → ∀ environment verbose format,
        CommandLine.checkWith environment verbose format request checker = (do
          Session.log verbose (checker.analyzeAll (request.shared.map Path.ofText)
            (request.targets.map Path.ofText)).notices
          Session.say environment verbose (CommandLine.failureMessage failure)
          return CommandLine.failureCode) := by
  refine ⟨fun results => ?_, ?_, fun fault => ?_, ?_⟩
  · rw [checker.analyzeAll_eq_ok_iff, List.forall_mem_map]
    rfl
  · rw [checker.exists_analyzeAll_iff, List.forall_mem_map]
    rfl
  · rw [checker.analyzeAll_eq_error_iff]
    constructor
    · rintro ⟨before, file, after, split, earlier, failed⟩
      obtain ⟨front, rest, named, rfl, behind⟩ := List.map_eq_append_iff.mp split
      obtain ⟨target, back, rfl, rfl, rfl⟩ := List.map_eq_cons_iff.mp behind
      refine ⟨front, target, back, named, ?_, failed⟩
      intro known member
      exact earlier _ (List.mem_map_of_mem member)
    · rintro ⟨before, target, after, named, earlier, failed⟩
      refine ⟨before.map Path.ofText, Path.ofText target, after.map Path.ofText, ?_, ?_, failed⟩
      · rw [named, List.map_append, List.map_cons]
      · exact List.forall_mem_map.mpr earlier
  · intro fault failed
    refine ⟨checker.run_eq_error _ _ failed, ?_⟩
    rintro failure rfl environment verbose format
    exact CommandLine.checkWith_of_failure environment verbose format request checker failed

namespace Sample

/-- What the project is checked with. -/
def checker : Checker :=
  ⟨reading, Path.current, .standard⟩

/-- The component, by two spellings of its path. -/
def twice : CheckRequest :=
  ⟨["Card.js", "./Card.js"], some "shared/theme.js", "text"⟩

/-- The component, and a file that is not there. -/
def withGone : CheckRequest :=
  ⟨["./Card.js", "gone.js"], some "shared/theme.js", "text"⟩

def goneFailure : Failure :=
  .unreadable "gone.js" (accessReason .notFound ⟨.here, ["gone.js"]⟩)

theorem alone_card (target : String) (spelled : Path.ofText target = card) :
    ∃ result, checker.alone (some "shared/theme.js") target = .ok result := by
  obtain ⟨result, success, _⟩ := analyze_card_theme
  have settings : checker.configuration.settings = .standard := by decide
  have shared : Path.ofText "shared/theme.js" = theme := by decide +kernel
  refine ⟨result, ?_⟩
  rw [Checker.alone, spelled, settings, Option.map_some, shared]
  exact success

theorem alone_gone : checker.alone (some "shared/theme.js") "gone.js" =
    .error (.failure goneFailure) := by
  decide +kernel

end Sample

/-- Two spellings of the component give one result, and the missing file ends the check. -/
theorem sample_batch :
    (∃ results, (Sample.checker.analyzeAll (some Sample.theme) [Sample.card, Sample.card]).result =
        .ok results ∧ results.map (·.1) = [Sample.card]) ∧
    (Sample.checker.run (some Sample.theme) [Sample.card, ⟨.here, ["gone.js"]⟩]).result =
      .error (.failure Sample.goneFailure) ∧
    ∀ environment verbose format,
      CommandLine.checkWith environment verbose format Sample.withGone Sample.checker = (do
        Session.log verbose (Sample.checker.analyzeAll (some Sample.theme)
          [Sample.card, ⟨.here, ["gone.js"]⟩]).notices
        Session.say environment verbose (CommandLine.failureMessage Sample.goneFailure)
        return CommandLine.failureCode) := by
  have shared : Sample.twice.shared.map Path.ofText = some Sample.theme := by decide +kernel
  have spelled : Sample.twice.targets.map Path.ofText = [Sample.card, Sample.card] := by
    decide +kernel
  have goneShared : Sample.withGone.shared.map Path.ofText = some Sample.theme := by decide +kernel
  have goneSpelled : Sample.withGone.targets.map Path.ofText =
      [Sample.card, ⟨.here, ["gone.js"]⟩] := by
    decide +kernel
  have first := analyzeAll_exact Sample.checker Sample.twice
  have second := analyzeAll_exact Sample.checker Sample.withGone
  rw [shared, spelled] at first
  rw [goneShared, goneSpelled] at second
  have both : ∀ target ∈ Sample.twice.targets, Path.ofText target = Sample.card := by
    decide +kernel
  have before : ∀ earlier ∈ ["./Card.js"], ∃ result,
      Sample.checker.alone Sample.withGone.shared earlier = .ok result := by
    intro earlier member
    rw [List.mem_singleton.mp member]
    exact Sample.alone_card _ (both _ (by decide))
  have failed := (second.2.2.1 (.failure Sample.goneFailure)).mpr
    ⟨["./Card.js"], "gone.js", [], rfl, before, Sample.alone_gone⟩
  refine ⟨?_, (second.2.2.2 _ failed).1, (second.2.2.2 _ failed).2 _ rfl⟩
  obtain ⟨results, success⟩ := first.2.1.mpr fun target member =>
    Sample.alone_card target (both target member)
  refine ⟨results, success, ?_⟩
  rw [((first.1 results).mp success).1]
  decide

end StyleAudit
