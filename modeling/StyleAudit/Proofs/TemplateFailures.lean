import StyleAudit.Proofs.ExitCodes
import StyleAudit.Proofs.Rendering

/-!
Templates that cannot be filled in.

The pieces of a template are shown one by one, and the first one that cannot be shown says why the
template cannot be filled in. Only a name that is not known is told in place of the text; any other
cause leaves the message without a text and ends the run.
-/

set_option autoImplicit false

namespace StyleAudit

namespace Template

/-! ### Faults -/

section Faults

variable (parameters : Parameters)

/-- The part of a field's name in front of its indices and attributes. -/
def firstName (name : List Char) : List Char :=
  name.takeWhile (!startsStep ·)

/-- The indices and attributes in a field's name. -/
def steps (name : List Char) : List Char :=
  name.drop (firstName name).length

/-- Why a field's name leads to no value. -/
inductive NameFault (name : List Char) : TemplateError → Prop
  /-- The name starts with too large a number. -/
  | number {cause : TemplateError} (bad : keyOf (firstName name) = .error cause) :
      NameFault name cause
  /-- The name is a number: no parameter stands at a number. -/
  | positional {number : Nat} (first : keyOf (firstName name) = .ok (.number number)) :
      NameFault name .outOfRange
  | nameless (first : keyOf (firstName name) = .ok (.name "")) : NameFault name .outOfRange
  | unknown {key : String} (first : keyOf (firstName name) = .ok (.name key)) (named : key ≠ "")
      (absent : parameters.lookup key = none) : NameFault name .unknownName
  /-- An index or an attribute leads nowhere. -/
  | step {key : String} {value : Value} {cause : TemplateError}
      (first : keyOf (firstName name) = .ok (.name key)) (named : key ≠ "")
      (found : parameters.lookup key = some value)
      (lost : follow name.length value (steps name) = .error cause) : NameFault name cause

/-- A form as it is used: one that holds a field is filled in first. -/
def FormBecomes (gives : List Char → List Char → Prop) (written form : List Char) : Prop :=
  if '\x7b' ∈ written then gives written form else form = written

/-- What a piece is shown as. -/
inductive Piece.Shown (gives : List Char → List Char → Prop) : Piece → List Char → Prop
  | character (value : Char) : Piece.Shown gives (.character value) [value]
  | field {field : Field} {value made : Value} {form text : List Char}
      (named : valueOf parameters field.name = .ok value)
      (converted : convert field.conversion value = .ok made)
      (formed : FormBecomes gives field.form form) (shown : showValue form made = .ok text) :
      Piece.Shown gives (.field field) text

/-- Why a piece cannot be shown. -/
inductive Piece.Fault (gives : List Char → List Char → Prop)
    (stops : List Char → TemplateError → Prop) : Piece → TemplateError → Prop
  | malformed : Piece.Fault gives stops .malformed .malformed
  | name {field : Field} {cause : TemplateError} (fault : NameFault parameters field.name cause) :
      Piece.Fault gives stops (.field field) cause
  | conversion {field : Field} {value : Value} {cause : TemplateError}
      (named : valueOf parameters field.name = .ok value)
      (unknown : convert field.conversion value = .error cause) :
      Piece.Fault gives stops (.field field) cause
  /-- A field inside the form cannot be shown. -/
  | form {field : Field} {value made : Value} {cause : TemplateError}
      (named : valueOf parameters field.name = .ok value)
      (converted : convert field.conversion value = .ok made) (holds : '\x7b' ∈ field.form)
      (stopped : stops field.form cause) : Piece.Fault gives stops (.field field) cause
  /-- The form is malformed or does not suit the value. -/
  | unsuitable {field : Field} {value made : Value} {form : List Char} {cause : TemplateError}
      (named : valueOf parameters field.name = .ok value)
      (converted : convert field.conversion value = .ok made)
      (formed : FormBecomes gives field.form form) (failed : showValue form made = .error cause) :
      Piece.Fault gives stops (.field field) cause

/-- What a text with fields gives, within some levels of fields. -/
def Gives : (depth : Nat) → (text shown : List Char) → Prop
  | 0, _, _ => False
  | depth + 1, text, shown =>
    ∃ parts, List.Forall₂ (Piece.Shown parameters (Gives depth)) (pieces text) parts ∧
      shown = parts.flatten

/-- Why a text with fields gives nothing: the first piece that cannot be shown says so. -/
def Stops : (depth : Nat) → (text : List Char) → TemplateError → Prop
  | 0, _, cause => cause = .malformed
  | depth + 1, text, cause =>
    ∃ before piece after, pieces text = before ++ piece :: after ∧
      (∀ earlier ∈ before, ∃ shown, Piece.Shown parameters (Gives parameters depth) earlier shown) ∧
      Piece.Fault parameters (Gives parameters depth) (Stops depth) piece cause

end Faults

/-! ### Pieces -/

section Pieces

variable (parameters : Parameters)

theorem valueOf_eq_error_iff (name : List Char) (cause : TemplateError) :
    valueOf parameters name = .error cause ↔ NameFault parameters name cause := by
  have reads : valueOf parameters name = (parameter parameters (firstName name)).bind fun value =>
      follow name.length value (steps name) := rfl
  rw [reads]
  constructor
  · intro failed
    unfold parameter at failed
    cases first : keyOf (firstName name) with
    | error bad =>
        rw [first] at failed
        cases failed
        exact .number first
    | ok key =>
        cases key with
        | number number =>
            rw [first] at failed
            cases failed
            exact .positional first
        | name key =>
            by_cases empty : key = ""
            · subst empty
              rw [first] at failed
              cases failed
              exact .nameless first
            · have occupied : key.isEmpty = false := by simpa using empty
              cases found : parameters.lookup key with
              | none =>
                  simp only [first, bind, Except.bind, occupied, found, Bool.false_eq_true,
                    ↓reduceIte] at failed
                  cases failed
                  exact .unknown first empty found
              | some value =>
                  simp only [first, bind, Except.bind, occupied, found, Bool.false_eq_true,
                    ↓reduceIte] at failed
                  exact .step first empty found failed
  · intro fault
    unfold parameter
    cases fault with
    | number bad => rw [bad]; rfl
    | positional first => rw [first]; rfl
    | nameless first => rw [first]; rfl
    | unknown first named absent =>
        simp [first, bind, Except.bind, named, absent]
        rfl
    | step first named found lost =>
        simp [first, bind, Except.bind, named, found]
        exact lost

/-- The form that a written one becomes. -/
def formOf (inner : List Char → Except TemplateError (List Char)) (written : List Char) :
    Except TemplateError (List Char) :=
  if '\x7b' ∈ written then inner written else .ok written

/-- What becomes of a piece. -/
def Piece.outcome (inner : List Char → Except TemplateError (List Char)) :
    Piece → Except TemplateError (List Char)
  | .malformed => .error .malformed
  | .character value => .ok [value]
  | .field shape => do
    let value ← convert shape.conversion (← valueOf parameters shape.name)
    showValue (← formOf inner shape.form) value

theorem fillPieces_cons (inner : List Char → Except TemplateError (List Char)) (piece : Piece)
    (rest : List Piece) :
    fillPieces parameters inner (piece :: rest) =
      piece.outcome parameters inner >>= fun shown =>
        (fillPieces parameters inner rest).map fun others => shown ++ others := by
  cases piece with
  | malformed => rfl
  | character value => rfl
  | field shape =>
      rw [fillPieces, Piece.outcome, formOf]
      by_cases holds : '\x7b' ∈ shape.form
      · simp only [List.contains_iff_mem.mpr holds, holds, ↓reduceIte, bind_assoc]
        rfl
      · simp only [Bool.eq_false_iff.mpr (mt List.contains_iff_mem.mp holds), holds,
          Bool.false_eq_true, ↓reduceIte, bind_assoc]
        rfl

/-- Pieces are filled in one by one. -/
theorem fillPieces_eq_mapM (inner : List Char → Except TemplateError (List Char))
    (pieces : List Piece) :
    fillPieces parameters inner pieces =
      (pieces.mapM (Piece.outcome parameters inner)).map List.flatten := by
  induction pieces with
  | nil => rfl
  | cons piece rest ih =>
      rw [fillPieces_cons, ih, List.mapM_cons]
      cases piece.outcome parameters inner with
      | error cause => rfl
      | ok shown => cases rest.mapM (Piece.outcome parameters inner) <;> rfl

variable {inner : List Char → Except TemplateError (List Char)}
  {gives : List Char → List Char → Prop} {stops : List Char → TemplateError → Prop}
  (given : ∀ text shown, inner text = .ok shown ↔ gives text shown)

include given

theorem formOf_eq_ok_iff (written form : List Char) :
    formOf inner written = .ok form ↔ FormBecomes gives written form := by
  unfold formOf FormBecomes
  split
  · exact given written form
  · rw [Except.ok.injEq]
    exact eq_comm

theorem Piece.outcome_eq_ok_iff (piece : Piece) (text : List Char) :
    piece.outcome parameters inner = .ok text ↔ Piece.Shown parameters gives piece text := by
  constructor
  · intro success
    cases piece with
    | malformed => cases success
    | character value =>
        cases success
        exact .character value
    | field shape =>
        obtain ⟨value, named, rest⟩ := (bind_eq_ok_iff _ _ _).mp success
        obtain ⟨made, converted, rest⟩ := (bind_eq_ok_iff _ _ _).mp rest
        obtain ⟨form, formed, shown⟩ := (bind_eq_ok_iff _ _ _).mp rest
        exact .field named converted ((formOf_eq_ok_iff given _ _).mp formed) shown
  · intro shown
    cases shown with
    | character value => rfl
    | field named converted formed shown =>
        simp only [outcome, bind_eq_ok_iff]
        exact ⟨_, named, _, converted, _, (formOf_eq_ok_iff given _ _).mpr formed, shown⟩

theorem Piece.outcome_eq_error_iff
    (stopped : ∀ text cause, inner text = .error cause ↔ stops text cause) (piece : Piece)
    (cause : TemplateError) :
    piece.outcome parameters inner = .error cause ↔
      Piece.Fault parameters gives stops piece cause := by
  constructor
  · intro failed
    cases piece with
    | malformed =>
        cases failed
        exact .malformed
    | character value => cases failed
    | field shape =>
        rcases (bind_eq_error_iff _ _ _).mp failed with nameless | ⟨value, named, rest⟩
        · exact .name ((valueOf_eq_error_iff _ _ _).mp nameless)
        rcases (bind_eq_error_iff _ _ _).mp rest with unknown | ⟨made, converted, rest⟩
        · exact .conversion named unknown
        rcases (bind_eq_error_iff _ _ _).mp rest with formless | ⟨form, formed, failed⟩
        · unfold formOf at formless
          split at formless
          · rename_i holds
            exact .form named converted holds ((stopped _ _).mp formless)
          · cases formless
        · exact .unsuitable named converted ((formOf_eq_ok_iff given _ _).mp formed) failed
  · intro fault
    cases fault with
    | malformed => rfl
    | name fault =>
        exact (bind_eq_error_iff _ _ _).mpr (Or.inl ((valueOf_eq_error_iff _ _ _).mpr fault))
    | conversion named unknown =>
        simp only [outcome, bind_eq_error_iff]
        exact Or.inr ⟨_, named, Or.inl unknown⟩
    | form named converted holds failed =>
        simp only [outcome, bind_eq_error_iff]
        refine Or.inr ⟨_, named, Or.inr ⟨_, converted, Or.inl ?_⟩⟩
        rw [formOf, if_pos holds]
        exact (stopped _ _).mpr failed
    | unsuitable named converted formed failed =>
        simp only [outcome, bind_eq_error_iff]
        exact Or.inr ⟨_, named, Or.inr ⟨_, converted, Or.inr
          ⟨_, (formOf_eq_ok_iff given _ _).mpr formed, failed⟩⟩⟩

end Pieces

/-! ### Templates -/

/-- Filling in gives what the pieces are shown as, or stops at the first one that cannot be
shown. -/
theorem fillWithin_iff (parameters : Parameters) (depth : Nat) :
    (∀ text shown, fillWithin parameters depth text = .ok shown ↔
      Gives parameters depth text shown) ∧
    ∀ text cause, fillWithin parameters depth text = .error cause ↔
      Stops parameters depth text cause := by
  induction depth with
  | zero =>
      constructor
      · intro text shown
        exact ⟨(by intro success; cases success), False.elim⟩
      · intro text cause
        rw [fillWithin, Except.error.injEq]
        exact eq_comm
  | succ depth ih =>
      obtain ⟨given, stopped⟩ := ih
      constructor
      · intro text shown
        rw [fillWithin, fillPieces_eq_mapM, map_eq_ok_iff, Gives]
        simp only [mapM_eq_ok_iff, Piece.outcome_eq_ok_iff parameters given]
        exact exists_congr fun parts => and_congr_right fun _ => eq_comm
      · intro text cause
        rw [fillWithin, fillPieces_eq_mapM, map_eq_error_iff, mapM_eq_error_iff, Stops]
        simp only [Piece.outcome_eq_ok_iff parameters given,
          Piece.outcome_eq_error_iff parameters given stopped]

theorem fill_eq_ok_iff (template : String) (parameters : Parameters) (text : String) :
    fill template parameters = .ok text ↔ Gives parameters 2 template.toList text.toList := by
  rw [fill, map_eq_ok_iff]
  simp only [(fillWithin_iff parameters 2).1]
  constructor
  · rintro ⟨shown, given, rfl⟩
    rwa [String.toList_ofList]
  · intro given
    exact ⟨text.toList, given, String.ofList_toList⟩

theorem fill_eq_error_iff (template : String) (parameters : Parameters) (cause : TemplateError) :
    fill template parameters = .error cause ↔ Stops parameters 2 template.toList cause := by
  rw [fill, map_eq_error_iff, (fillWithin_iff parameters 2).2]

/-! ### Harmless templates -/

/-- The conversions that there are. -/
def conversions : List (Option Char) :=
  [none, some 's', some 'r', some 'a']

theorem convert_of_mem {conversion : Option Char} (known : conversion ∈ conversions)
    (value : Value) : ∃ made, convert conversion value = .ok made := by
  simp only [conversions, List.mem_cons, List.not_mem_nil, or_false] at known
  rcases known with rfl | rfl | rfl | rfl <;> exact ⟨_, rfl⟩

/-- Whether a piece is a character, or a field that is nothing but a plain name, perhaps with a
conversion. -/
def Piece.isHarmless : Piece → Bool
  | .character _ => true
  | .field shape =>
    isPlainName shape.name && conversions.contains shape.conversion && shape.form.isEmpty
  | .malformed => false

/-- Whether a template consists of characters and such fields. -/
def isHarmless (template : String) : Bool :=
  (pieces template.toList).all Piece.isHarmless

/-- A plain name can only be unknown. -/
theorem NameFault.of_plain {parameters : Parameters} {name : List Char} {cause : TemplateError}
    (plain : isPlainName name = true) (fault : NameFault parameters name cause) :
    cause = .unknownName := by
  have key := keyOf_plain plain
  have whole := takeWhile_plain plain
  have occupied : String.ofList name ≠ "" := by
    rw [ne_eq, String.ofList_eq_empty_iff]
    rintro rfl
    cases plain
  cases fault with
  | number bad =>
      rw [firstName, whole, key] at bad
      cases bad
  | positional first =>
      rw [firstName, whole, key] at first
      cases first
  | nameless first =>
      rw [firstName, whole, key] at first
      exact absurd (Key.name.inj (Except.ok.inj first)) occupied
  | unknown => rfl
  | step _ _ _ lost =>
      rw [steps, firstName, whole, List.drop_length] at lost
      cases name <;> cases lost

theorem Piece.Fault.of_harmless {parameters : Parameters} {gives : List Char → List Char → Prop}
    {stops : List Char → TemplateError → Prop} {piece : Piece} {cause : TemplateError}
    (harmless : piece.isHarmless = true) (fault : Piece.Fault parameters gives stops piece cause) :
    cause = .unknownName := by
  cases piece with
  | malformed => cases harmless
  | character value => cases fault
  | field shape =>
      rw [isHarmless, Bool.and_eq_true, Bool.and_eq_true, List.contains_iff_mem,
        List.isEmpty_iff] at harmless
      obtain ⟨⟨plain, known⟩, empty⟩ := harmless
      cases fault with
      | name fault => exact fault.of_plain plain
      | @conversion _ value _ _ unknown =>
          obtain ⟨made, converted⟩ := convert_of_mem known value
          rw [converted] at unknown
          cases unknown
      | form _ _ holds _ =>
          rw [empty] at holds
          cases holds
      | unsuitable _ _ formed failed =>
          rw [empty, FormBecomes, if_neg List.not_mem_nil] at formed
          rw [formed] at failed
          cases failed

/-- The only fault of a harmless template is a name that is not known. -/
theorem Stops.of_harmless {parameters : Parameters} {depth : Nat} {template : String}
    {cause : TemplateError} (harmless : isHarmless template = true)
    (stopped : Stops parameters (depth + 1) template.toList cause) : cause = .unknownName := by
  obtain ⟨before, piece, after, split, _, fault⟩ := stopped
  rw [isHarmless, split, List.all_append, List.all_cons] at harmless
  simp only [Bool.and_eq_true] at harmless
  exact fault.of_harmless harmless.2.1

end Template

/-! ### Messages -/

namespace Message

open Template

theorem render_of_unknown {template : String} (id : String) {parameters : Parameters}
    (unknown : fill template parameters = .error .unknownName) :
    render template id parameters = .ok (formattingError id) := by
  simp only [render, unknown]

theorem render_of_other {template : String} (id : String) {parameters : Parameters}
    (other : fill template parameters ≠ .error .unknownName) :
    render template id parameters = fill template parameters := by
  unfold render
  split
  · rename_i unknown
    exact absurd unknown other
  · rfl

theorem render_eq_error_iff (template id : String) (parameters : Parameters)
    (cause : TemplateError) :
    render template id parameters = .error cause ↔
      cause ≠ .unknownName ∧ Stops parameters 2 template.toList cause := by
  rw [← fill_eq_error_iff]
  by_cases unknown : fill template parameters = .error .unknownName
  · rw [render_of_unknown id unknown, unknown]
    simp [eq_comm]
  · rw [render_of_other id unknown]
    refine ⟨fun failed => ⟨?_, failed⟩, And.right⟩
    rintro rfl
    exact unknown failed

theorem render_eq_ok_iff (template id : String) (parameters : Parameters) (text : String) :
    render template id parameters = .ok text ↔
      Gives parameters 2 template.toList text.toList ∨
        Stops parameters 2 template.toList .unknownName ∧ text = formattingError id := by
  rw [← fill_eq_ok_iff, ← fill_eq_error_iff]
  by_cases unknown : fill template parameters = .error .unknownName
  · rw [render_of_unknown id unknown, unknown]
    simp [eq_comm]
  · rw [render_of_other id unknown]
    simp [unknown]

/-- A harmless template always gives a text. -/
theorem render_of_harmless {template : String} (harmless : isHarmless template = true)
    (id : String) (parameters : Parameters) : ∃ text, render template id parameters = .ok text := by
  cases rendered : render template id parameters with
  | ok text => exact ⟨text, rfl⟩
  | error cause =>
      obtain ⟨other, stopped⟩ := (render_eq_error_iff ..).mp rendered
      exact absurd (stopped.of_harmless harmless) other

end Message

/-! ### Runs -/

namespace CommandLine

section Runs

variable {environment : Environment} {request : CheckRequest} {verbose : Bool}

/-- Only a message file that is no table keeps a text from being found. -/
theorem eq_of_textAt_error {id : String} {cause : Escape}
    (absent : textAt environment id = .error cause) : cause = .messageFile := by
  unfold textAt Session.textAt at absent
  split at absent
  · cases absent
  · cases absent
    rfl

theorem rendered_eq_template_iff (message : Message) (cause : TemplateError) :
    rendered environment message = .error (.template cause) ↔
      ∃ template, textAt environment message.id = .ok template ∧
        Message.render template message.id message.parameters = .error cause := by
  constructor
  · intro failed
    rcases (bind_eq_error_iff _ _ _).mp failed with absent | ⟨template, found, unfilled⟩
    · exact Escape.noConfusion (eq_of_textAt_error absent)
    · obtain ⟨other, stopped, same⟩ := (mapError_eq_error_iff _ _ _).mp unfilled
      cases same
      exact ⟨template, found, stopped⟩
  · rintro ⟨template, found, stopped⟩
    rw [rendered_of_textAt found, stopped]
    rfl

theorem Course.ne_template {readers : Readers} {outcome : Except Escape (Nat × List Message)}
    (course : Course readers environment request outcome) (cause : TemplateError) :
    outcome ≠ .error (.template cause) := by
  cases course <;> exact fun same => by cases same

theorem endingWith_eq_escaped_iff (code : Nat) (texts : Except Escape (List String))
    (cause : Escape) : endOf (endingWith code texts) = .escaped cause ↔ texts = .error cause := by
  cases texts <;> simp [endOf, endingWith]

/-- A template ends a run exactly when it is that of the first message that cannot be filled in. -/
theorem ending_eq_template_iff (readers : Readers) {arguments : List String}
    (read : readInvocation false arguments = some ⟨verbose, request⟩)
    (files : ∀ target ∈ request.targets, isDirectoryTarget environment.store target = false)
    (cause : TemplateError) :
    (run environment readers.parse arguments).ending = .escaped (.template cause) ↔
      (∀ id ∈ helpAddresses, ∃ text, textAt environment id = .ok text) ∧
      ∃ code before message after template,
        Course readers environment request (.ok (code, before ++ message :: after)) ∧
        (∀ earlier ∈ before, ∃ text, rendered environment earlier = .ok text) ∧
        textAt environment message.id = .ok template ∧
        Message.render template message.id message.parameters = .error cause := by
  cases explained : helpAddresses.mapM (textAt environment) with
  | error other =>
      obtain ⟨front, id, back, order, _, absent⟩ := (mapM_eq_error_iff _ _ _).mp explained
      have ends : Session.Ends environment (Project.root environment.store Path.current)
          (session environment readers.parse arguments) (.error (.escaped other))
          Session.OnlyLog :=
        ends_session_of_unexplained read files explained
      rw [(run_of_ends ends).2, eq_of_textAt_error absent]
      constructor
      · intro same
        cases same
      · rintro ⟨explanations, _⟩
        obtain ⟨text, found⟩ := explanations id (by simp [order])
        rw [absent] at found
        cases found
  | ok texts =>
      cases concluded : conclusion readers environment request with
      | error other =>
          have ends : Session.Ends environment (Project.root environment.store Path.current)
              (session environment readers.parse arguments) (.error (.escaped other))
              Session.Anything :=
            ends_session read files explained (ends_check_of_error concluded)
              fun _ _ _ _ _ _ => trivial
          rw [(run_of_ends ends).2]
          constructor
          · intro same
            cases same
            exact absurd rfl ((course_of_conclusion concluded).ne_template cause)
          · rintro ⟨_, code, before, message, after, template, course, _⟩
            rw [course.eq_conclusion] at concluded
            cases concluded
      | ok known =>
          obtain ⟨code, messages⟩ := known
          rw [(run_of_conclusion read files explained concluded).2, endingWith_eq_escaped_iff,
            mapM_eq_error_iff]
          simp only [rendered_eq_template_iff]
          constructor
          · rintro ⟨before, message, after, rfl, earlier, template, found, stopped⟩
            exact ⟨exists_ok_of_mapM explained, code, before, message, after, template,
              course_of_conclusion concluded, earlier, found, stopped⟩
          · rintro ⟨_, other, before, message, after, template, course, earlier, found, stopped⟩
            rw [course.eq_conclusion] at concluded
            cases concluded
            exact ⟨before, message, after, rfl, earlier, template, found, stopped⟩

end Runs

end CommandLine

namespace Sample

/-- A project whose message about an unknown format asks for a parameter by number. -/
def numberedStore : FileStore :=
  ⟨[([".sheetcheck", "needle", "en", "cli.json"],
      "\x7b\"cli.error.bad_format\": \"\x7b0\x7d\"\x7d".toUTF8.toList)], [], []⟩

def numberedEnvironment : Environment :=
  ⟨numberedStore, none, false⟩

theorem numberedStore_holdsTables : numberedStore.HoldsTables :=
  FileStore.holdsTables_of_files (by decide +kernel)

theorem textAt_format :
    CommandLine.textAt numberedEnvironment "cli.error.bad_format" = .ok "\x7b0\x7d" := by
  have root : Project.root numberedStore Path.current = ⟨.root, []⟩ := by decide +kernel
  have language : Path.ofText "en" = ⟨.here, ["en"]⟩ := by decide +kernel
  have own : Loading.filesInside numberedStore ⟨.root, [".sheetcheck", "needle", "en"]⟩ =
      [⟨.root, [".sheetcheck", "needle", "en", "cli.json"]⟩] :=
    Path.sort_eq_of_perm (by decide +kernel) (by decide +kernel)
  have found : (MessageFile.read numberedStore
      ⟨.root, [".sheetcheck", "needle", "en", "cli.json"]⟩).texts "cli.error.bad_format" =
        some "\x7b0\x7d" := by decide +kernel
  refine CommandLine.textAt_of_override numberedStore_holdsTables
    (MessageRoot.texts_of_hidden ?_ found)
  show Loading.filesInside numberedStore ((((Project.root numberedStore Path.current).child
    ".sheetcheck").child "needle").join (Path.ofText "en")) = _
  rw [root, language]
  exact own

end Sample

end StyleAudit
