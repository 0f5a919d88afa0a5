import StyleAudit.CommandLine
import StyleAudit.Proofs.Catalogue
import StyleAudit.Proofs.Rendering

/-!
What parts of a run write.

A part of a run tells lines when it ends with a value after writing them, from every terminal whose
messages are those of a project that overrides none. What a sequence of parts tells is what its
parts tell, one after the other.
-/

set_option autoImplicit false

namespace StyleAudit

namespace Session

/-- Whether a project has no messages of its own in the language of a run and in the standard
one. -/
structure Unadorned (environment : Environment) (root : Path) : Prop where
  preferred : OverridesNothing environment.store root
    (Catalogue.languageOf environment.language none)
  standard : OverridesNothing environment.store root Catalogue.standardLanguage

/-- Whether a terminal knows the packaged messages and those of a project, and has loaded them as
they are. -/
structure Ready (environment : Environment) (root : Path) (terminal : Terminal) : Prop where
  roots : terminal.catalogue.roots = [.packaged, .directory root]
  faithful : terminal.catalogue.Faithful environment.store

/-- Whether a part of a run ends with a value after writing lines to the standard output and to the
standard error. -/
def Tells {α : Type} (environment : Environment) (root : Path) (part : Session α) (value : α)
    (output errors : List String) : Prop :=
  ∀ terminal, Ready environment root terminal → ∃ after, Ready environment root after ∧
    after.output = output.reverse ++ terminal.output ∧
    after.errors = errors.reverse ++ terminal.errors ∧
    (part.run terminal).run = (.ok value, after)

variable {environment : Environment} {root : Path} {α β : Type}

/-! ### Sequences -/

/-- A part that ends with a value hands it, and its terminal, to what follows. -/
theorem run_bind_of_ok {part : Session α} {next : α → Session β} {terminal between : Terminal}
    {value : α} (ended : (part.run terminal).run = (.ok value, between)) :
    ((part >>= next).run terminal).run = ((next value).run between).run := by
  show (ExceptT.bindCont next (part.run terminal).run.1 (part.run terminal).run.2).run = _
  rw [ended]
  rfl

theorem Tells.pure (value : α) :
    Tells environment root (pure value : Session α) value [] [] :=
  fun terminal ready => ⟨terminal, ready, rfl, rfl, rfl⟩

theorem Tells.bind {part : Session α} {next : α → Session β} {value : α} {final : β}
    {output errors moreOutput moreErrors : List String}
    (first : Tells environment root part value output errors)
    (second : Tells environment root (next value) final moreOutput moreErrors) :
    Tells environment root (part >>= next) final (output ++ moreOutput) (errors ++ moreErrors) := by
  intro terminal ready
  obtain ⟨between, betweenReady, written, failed, ended⟩ := first terminal ready
  obtain ⟨after, afterReady, moreWritten, moreFailed, moreEnded⟩ := second between betweenReady
  refine ⟨after, afterReady, ?_, ?_, ?_⟩
  · rw [moreWritten, written, List.reverse_append, List.append_assoc]
  · rw [moreFailed, failed, List.reverse_append, List.append_assoc]
  · rw [run_bind_of_ok ended]
    exact moreEnded

theorem Tells.andThen {part : Session Unit} {rest : Session β} {final : β}
    {output errors moreOutput moreErrors : List String}
    (first : Tells environment root part () output errors)
    (second : Tells environment root rest final moreOutput moreErrors) :
    Tells environment root (part >>= fun _ => rest) final (output ++ moreOutput)
      (errors ++ moreErrors) :=
  first.bind second

/-- Parts without a value of their own tell what they tell one after the other. -/
theorem Tells.forM {items : List α} {part : α → Session Unit} {output errors : α → List String}
    (each : ∀ item ∈ items, Tells environment root (part item) () (output item) (errors item)) :
    Tells environment root (items.forM part) () (items.flatMap output) (items.flatMap errors) := by
  induction items with
  | nil => exact Tells.pure ()
  | cons item rest ih =>
      rw [List.flatMap_cons, List.flatMap_cons]
      show Tells environment root (part item >>= fun _ => rest.forM part) () _ _
      exact (each item List.mem_cons_self).andThen
        (ih fun other member => each other (List.mem_cons_of_mem item member))

/-! ### Lines -/

theorem tells_writeOutput (line : String) :
    Tells environment root (writeOutput line) () [line] [] :=
  fun terminal ready => ⟨{ terminal with output := line :: terminal.output },
    ⟨ready.roots, ready.faithful⟩, rfl, rfl, rfl⟩

theorem tells_writeError (line : String) :
    Tells environment root (writeError line) () [] [line] :=
  fun terminal ready => ⟨{ terminal with errors := line :: terminal.errors },
    ⟨ready.roots, ready.faithful⟩, rfl, rfl, rfl⟩

/-- The lines that notices give the log. -/
def logLines (verbose : Bool) (notices : List Notice) : List String :=
  notices.filterMap (noticeLine? verbose)

theorem tells_log (verbose : Bool) (notices : List Notice) :
    Tells environment root (log verbose notices) () [] (logLines verbose notices) := by
  have each : Tells environment root ((logLines verbose notices).forM writeError) ()
      ((logLines verbose notices).flatMap fun _ => [])
      ((logLines verbose notices).flatMap fun line => [line]) :=
    Tells.forM fun line _ => tells_writeError line
  rw [List.flatMap_singleton', List.flatMap_eq_nil_iff.mpr fun _ _ => rfl] at each
  exact each

/-! ### Messages -/

/-- Looking for a template is looking in the catalogue, and then logging what was passed over. -/
theorem template_run_eq (environment : Environment) (logReady : Bool) (id : String)
    (terminal : Terminal) :
    ((template environment logReady id).run terminal).run =
      (((terminal.catalogue.get environment.store
          (Catalogue.languageOf environment.language none) id).skipped.forM
            (fun file => writeError (skippedLine logReady file)) >>= fun _ =>
        match (terminal.catalogue.get environment.store
          (Catalogue.languageOf environment.language none) id).text with
        | some text => return text
        | none => escape .messageFile : Session String).run
        { terminal with catalogue := (terminal.catalogue.get environment.store
          (Catalogue.languageOf environment.language none) id).catalogue }).run :=
  rfl

theorem template_run (environment : Environment) (logReady : Bool) (id : String)
    (terminal : Terminal) {text : String}
    (found : (terminal.catalogue.get environment.store
      (Catalogue.languageOf environment.language none) id).text = some text)
    (quiet : (terminal.catalogue.get environment.store
      (Catalogue.languageOf environment.language none) id).skipped = []) :
    ((template environment logReady id).run terminal).run =
      (.ok text, { terminal with catalogue := (terminal.catalogue.get environment.store
        (Catalogue.languageOf environment.language none) id).catalogue }) := by
  rw [template_run_eq, quiet, found]
  rfl

/-- Without overrides a template is the packaged one, and nothing is logged on the way to it. -/
theorem tells_template (plain : Unadorned environment root) (logReady : Bool) (id : String) :
    Tells environment root (template environment logReady id)
      ((Packaged.english.lookup id).getD id) [] [] := by
  intro terminal ready
  have text := ready.faithful.get_text (Catalogue.languageOf environment.language none) id
  rw [ready.roots, Catalogue.messageIn_of_plain plain.preferred plain.standard] at text
  have skipped : (terminal.catalogue.get environment.store
      (Catalogue.languageOf environment.language none) id).skipped = [] := by
    obtain ⟨_, loaded, _⟩ := Catalogue.loadRoots_of_plain plain.preferred
    have passed := Catalogue.get_skipped environment.store terminal.catalogue
      (Catalogue.languageOf environment.language none) id
    rw [ready.roots, loaded, Catalogue.loadRoots_standard plain.standard] at passed
    exact List.subset_nil.mp passed
  refine ⟨{ terminal with catalogue := (terminal.catalogue.get environment.store
    (Catalogue.languageOf environment.language none) id).catalogue }, ⟨?_, ?_⟩, rfl, rfl, ?_⟩
  · exact (Catalogue.get_roots _ _ _ _).trans ready.roots
  · exact ready.faithful.get _ _
  · exact template_run environment logReady id terminal text skipped

/-- The lines of the standard output that a text of a level is shown in. -/
def outputLines (environment : Environment) (verbose : Bool) (level : Level) (text : String) :
    List String :=
  match level with
  | .error => []
  | .debug => if verbose then [shown environment level text] else []
  | _ => [shown environment level text]

/-- The lines of the standard error that a text of a level is shown in. -/
def errorLines (environment : Environment) (level : Level) (text : String) : List String :=
  match level with
  | .error => [shown environment level text]
  | _ => []

theorem tells_writeShown (verbose : Bool) (level : Level) (text : String) :
    Tells environment root (writeShown environment verbose level text) ()
      (outputLines environment verbose level text) (errorLines environment level text) := by
  cases level with
  | error => exact tells_writeError _
  | debug =>
      cases verbose with
      | true => exact tells_writeOutput _
      | false => exact Tells.pure ()
  | info => exact tells_writeOutput _
  | success => exact tells_writeOutput _
  | warning => exact tells_writeOutput _

/-- The lines of the standard output that a message is shown in. -/
def outputOf (environment : Environment) (verbose : Bool) (message : Message) : List String :=
  outputLines environment verbose message.level message.text

/-- The lines of the standard error that a message is shown in. -/
def errorsOf (environment : Environment) (message : Message) : List String :=
  errorLines environment message.level message.text

theorem tells_say (plain : Unadorned environment root) (verbose : Bool) {message : Message}
    (rendered : message.english = .ok message.text) :
    Tells environment root (say environment verbose message) ()
      (outputOf environment verbose message) (errorsOf environment message) := by
  have filled : Message.render ((Packaged.english.lookup message.id).getD message.id) message.id
      message.parameters = .ok message.text := rendered
  unfold say
  refine (tells_template plain true message.id).bind ?_
  simp only [filled]
  exact tells_writeShown verbose message.level message.text

end Session

end StyleAudit
