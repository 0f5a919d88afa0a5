import StyleAudit.Proofs.Audit
import StyleAudit.Proofs.Session

/-!
How parts of a run end.

Whatever messages a project has, a part of a run ends the same way from every terminal that knows
them: with a value, or by ending the run. Looking for texts may log message files that are passed
over, so that of the lines that a part writes only a property is stated.
-/

set_option autoImplicit false

namespace StyleAudit

namespace Session

/-- Lines of the log: about message files that are passed over, and about notices. -/
inductive IsLogLine : String → Prop where
  | skipped (logReady : Bool) (file : SkippedFile) : IsLogLine (skippedLine logReady file)
  | noticed {verbose : Bool} {notice : Notice} {line : String}
      (written : noticeLine? verbose notice = some line) : IsLogLine line

/-- A part ends in a result, whatever has been loaded before, after writing lines to the standard
output and to the standard error that have a property. -/
def Ends {α : Type} (environment : Environment) (root : Path) (part : Session α)
    (result : Except Ending α) (wrote : List String → List String → Prop) : Prop :=
  ∀ terminal, Ready environment root terminal → ∃ after output errors,
    Ready environment root after ∧ wrote output errors ∧
    after.output = output.reverse ++ terminal.output ∧
    after.errors = errors.reverse ++ terminal.errors ∧
    (part.run terminal).run = (result, after)

/-- Only the log was written. -/
def OnlyLog (output errors : List String) : Prop :=
  output = [] ∧ ∀ line ∈ errors, IsLogLine line

/-- Whatever was written. -/
def Anything (_output _errors : List String) : Prop :=
  True

/-- A text was shown, after lines of the log. -/
def Shows (environment : Environment) (verbose : Bool) (level : Level) (text : String)
    (output errors : List String) : Prop :=
  output = outputLines environment verbose level text ∧
  ∃ log, (∀ line ∈ log, IsLogLine line) ∧ errors = log ++ errorLines environment level text

theorem onlyLog_nil : OnlyLog [] [] :=
  ⟨rfl, fun _ member => absurd member List.not_mem_nil⟩

theorem OnlyLog.append {output errors moreOutput moreErrors : List String}
    (first : OnlyLog output errors) (second : OnlyLog moreOutput moreErrors) :
    OnlyLog (output ++ moreOutput) (errors ++ moreErrors) := by
  obtain ⟨rfl, logged⟩ := first
  obtain ⟨rfl, moreLogged⟩ := second
  exact ⟨rfl, List.forall_mem_append.mpr ⟨logged, moreLogged⟩⟩

/-- The log may go on before a text is shown. -/
theorem OnlyLog.shows {environment : Environment} {verbose : Bool} {level : Level} {text : String}
    {output errors moreOutput moreErrors : List String} (first : OnlyLog output errors)
    (second : Shows environment verbose level text moreOutput moreErrors) :
    Shows environment verbose level text (output ++ moreOutput) (errors ++ moreErrors) := by
  obtain ⟨rfl, logged⟩ := first
  obtain ⟨shown, log, moreLogged, rfl⟩ := second
  exact ⟨shown, errors ++ log, List.forall_mem_append.mpr ⟨logged, moreLogged⟩,
    (List.append_assoc ..).symm⟩

variable {environment : Environment} {root : Path} {α β : Type}
  {wrote more whole : List String → List String → Prop}

/-! ### Sequences -/

theorem run_bind_of_error {part : Session α} {next : α → Session β} {terminal between : Terminal}
    {ending : Ending} (ended : (part.run terminal).run = (.error ending, between)) :
    ((part >>= next).run terminal).run = (.error ending, between) := by
  show (ExceptT.bindCont next (part.run terminal).run.1 (part.run terminal).run.2).run = _
  rw [ended]
  rfl

theorem Ends.weaken {part : Session α} {result : Except Ending α}
    (ends : Ends environment root part result wrote)
    (implied : ∀ output errors, wrote output errors → whole output errors) :
    Ends environment root part result whole := by
  intro terminal ready
  obtain ⟨after, output, errors, afterReady, lines, rest⟩ := ends terminal ready
  exact ⟨after, output, errors, afterReady, implied _ _ lines, rest⟩

theorem Ends.anything {part : Session α} {result : Except Ending α}
    (ends : Ends environment root part result wrote) :
    Ends environment root part result Anything :=
  ends.weaken fun _ _ _ => trivial

theorem Tells.ends {part : Session α} {value : α} {output errors : List String}
    (tells : Tells environment root part value output errors) (lines : wrote output errors) :
    Ends environment root part (.ok value) wrote := by
  intro terminal ready
  obtain ⟨after, afterReady, rest⟩ := tells terminal ready
  exact ⟨after, output, errors, afterReady, lines, rest⟩

theorem ends_throw (ending : Ending) (nothing : wrote [] []) :
    Ends environment root (throw ending : Session α) (.error ending) wrote :=
  fun terminal ready => ⟨terminal, [], [], ready, nothing, rfl, rfl, rfl⟩

theorem Ends.bind {part : Session α} {next : α → Session β} {value : α} {result : Except Ending β}
    (first : Ends environment root part (.ok value) wrote)
    (second : Ends environment root (next value) result more)
    (together : ∀ output errors moreOutput moreErrors, wrote output errors →
      more moreOutput moreErrors → whole (output ++ moreOutput) (errors ++ moreErrors)) :
    Ends environment root (part >>= next) result whole := by
  intro terminal ready
  obtain ⟨between, output, errors, betweenReady, lines, written, failed, ended⟩ :=
    first terminal ready
  obtain ⟨after, moreOutput, moreErrors, afterReady, moreLines, moreWritten, moreFailed,
    moreEnded⟩ := second between betweenReady
  refine ⟨after, output ++ moreOutput, errors ++ moreErrors, afterReady,
    together _ _ _ _ lines moreLines, ?_, ?_, ?_⟩
  · rw [moreWritten, written, List.reverse_append, List.append_assoc]
  · rw [moreFailed, failed, List.reverse_append, List.append_assoc]
  · rw [run_bind_of_ok ended]
    exact moreEnded

/-- A part that ends the run leaves nothing to what follows. -/
theorem Ends.stop {part : Session α} {next : α → Session β} {ending : Ending}
    (first : Ends environment root part (.error ending) wrote) :
    Ends environment root (part >>= next) (.error ending) wrote := by
  intro terminal ready
  obtain ⟨after, output, errors, afterReady, lines, written, failed, ended⟩ := first terminal ready
  exact ⟨after, output, errors, afterReady, lines, written, failed, run_bind_of_error ended⟩

/-- A part may be followed by nothing but a value. -/
theorem Ends.andReturn {part : Session Unit} (ends : Ends environment root part (.ok ()) wrote)
    (value : α) : Ends environment root (do part; return value) (.ok value) wrote := by
  intro terminal ready
  obtain ⟨after, output, errors, afterReady, lines, written, failed, ended⟩ := ends terminal ready
  exact ⟨after, output, errors, afterReady, lines, written, failed, run_bind_of_ok ended⟩

/-- How a part ends that comes to a value or breaks the run off. -/
def endingOf (outcome : Except Escape α) : Except Ending Unit :=
  match outcome with
  | .ok _ => .ok ()
  | .error cause => .error (.escaped cause)

/-- Of parts one after the other, the first one that breaks the run off is the last one. -/
theorem Ends.forM {items : List α} {part : α → Session Unit} {check : α → Except Escape β}
    (each : ∀ item ∈ items, Ends environment root (part item) (endingOf (check item)) wrote)
    (nothing : wrote [] [])
    (together : ∀ output errors moreOutput moreErrors, wrote output errors →
      wrote moreOutput moreErrors → wrote (output ++ moreOutput) (errors ++ moreErrors)) :
    Ends environment root (items.forM part) (endingOf (items.mapM check)) wrote := by
  induction items with
  | nil => exact (Tells.pure ()).ends nothing
  | cons item rest ih =>
      have first := each item List.mem_cons_self
      have others := ih fun other member => each other (List.mem_cons_of_mem item member)
      rw [List.mapM_cons]
      show Ends environment root (part item >>= fun _ => rest.forM part) _ wrote
      cases outcome : check item with
      | error cause =>
          rw [outcome] at first
          exact first.stop
      | ok value =>
          rw [outcome] at first
          have same : endingOf (do return (← Except.ok value) :: (← rest.mapM check)) =
              endingOf (rest.mapM check) := by
            cases rest.mapM check <;> rfl
          rw [same]
          exact first.bind others together

/-! ### Messages -/

/-- The template of an address; there is none where a message file is no table. -/
def textAt (environment : Environment) (root : Path) (id : String) : Except Escape String :=
  match Catalogue.messageIn environment.store [.packaged, .directory root]
      (Catalogue.languageOf environment.language none) id with
  | some text => .ok text
  | none => .error .messageFile

/-- The text of a message, as the messages of a project have it. -/
def rendered (environment : Environment) (root : Path) (message : Message) :
    Except Escape String := do
  (Message.render (← textAt environment root message.id) message.id message.parameters).mapError
    .template

theorem ends_log (verbose : Bool) (notices : List Notice) :
    Ends environment root (log verbose notices) (.ok ()) OnlyLog := by
  refine (tells_log verbose notices).ends ⟨rfl, fun line member => ?_⟩
  obtain ⟨notice, _, written⟩ := List.mem_filterMap.mp member
  exact .noticed written

theorem ends_template (logReady : Bool) (id : String) :
    Ends environment root (template environment logReady id)
      ((textAt environment root id).mapError .escaped) OnlyLog := by
  intro terminal ready
  have text := ready.faithful.get_text (Catalogue.languageOf environment.language none) id
  rw [ready.roots] at text
  have kept : Ready environment root { terminal with catalogue := (terminal.catalogue.get
      environment.store (Catalogue.languageOf environment.language none) id).catalogue } :=
    ⟨(Catalogue.get_roots _ _ _ _).trans ready.roots, ready.faithful.get _ _⟩
  have logged : ∀ files : List SkippedFile, Ends environment root
      (files.forM fun file => writeError (skippedLine logReady file)) (.ok ()) OnlyLog := by
    intro files
    have each : Tells environment root
        (files.forM fun file => writeError (skippedLine logReady file)) ()
        (files.flatMap fun _ => []) (files.flatMap fun file => [skippedLine logReady file]) :=
      Tells.forM fun file _ => tells_writeError (skippedLine logReady file)
    refine each.ends ⟨by simp, fun line member => ?_⟩
    obtain ⟨file, _, own⟩ := List.mem_flatMap.mp member
    rw [List.mem_singleton.mp own]
    exact .skipped logReady file
  rw [template_run_eq, text]
  unfold textAt
  cases Catalogue.messageIn environment.store [.packaged, .directory root]
      (Catalogue.languageOf environment.language none) id with
  | some found =>
      exact (logged _).bind ((Tells.pure found).ends onlyLog_nil)
        (fun _ _ _ _ => OnlyLog.append) _ kept
  | none =>
      exact (logged _).bind (ends_throw _ onlyLog_nil) (fun _ _ _ _ => OnlyLog.append) _ kept

theorem ends_say_of_ok (verbose : Bool) {message : Message} {text : String}
    (filled : rendered environment root message = .ok text) :
    Ends environment root (say environment verbose message) (.ok ())
      (Shows environment verbose message.level text) := by
  obtain ⟨template, found, inserted⟩ := (bind_eq_ok_iff _ _ _).mp filled
  have complete := (mapError_eq_ok_iff _ _ _).mp inserted
  have looked : Ends environment root (Session.template environment true message.id)
      ((textAt environment root message.id).mapError .escaped) OnlyLog :=
    ends_template true message.id
  have shows : Ends environment root (writeShown environment verbose message.level text) (.ok ())
      (Shows environment verbose message.level text) :=
    (tells_writeShown verbose message.level text).ends
      ⟨rfl, [], fun _ member => absurd member List.not_mem_nil, rfl⟩
  rw [found] at looked
  unfold say
  refine looked.bind ?_ fun _ _ _ _ => OnlyLog.shows
  simp only [complete]
  exact shows

theorem ends_say_of_error (verbose : Bool) {message : Message} {cause : Escape}
    (failed : rendered environment root message = .error cause) :
    Ends environment root (say environment verbose message) (.error (.escaped cause)) OnlyLog := by
  have looked : Ends environment root (Session.template environment true message.id)
      ((textAt environment root message.id).mapError .escaped) OnlyLog :=
    ends_template true message.id
  unfold rendered at failed
  unfold say
  cases found : textAt environment root message.id with
  | error absent =>
      rw [found] at looked failed
      cases failed
      exact looked.stop
  | ok template =>
      rw [found] at looked failed
      have inserted : (Message.render template message.id message.parameters).mapError
          Escape.template = .error cause := failed
      refine looked.bind ?_ fun _ _ _ _ => OnlyLog.append
      cases outcome : Message.render template message.id message.parameters with
      | ok text =>
          rw [outcome] at inserted
          cases inserted
      | error reason =>
          rw [outcome] at inserted
          cases inserted
          exact ends_throw _ onlyLog_nil

theorem ends_say (verbose : Bool) (message : Message) :
    Ends environment root (say environment verbose message)
      (endingOf (rendered environment root message)) Anything := by
  cases filled : rendered environment root message with
  | ok text => exact (ends_say_of_ok verbose filled).anything
  | error cause => exact (ends_say_of_error verbose filled).anything

end Session

end StyleAudit
