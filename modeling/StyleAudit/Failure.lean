import StyleAudit.Position

/-!
What can stop an analysis, what it notices on the way, and the computations that do both.

A `Failure` is what a user is told: a file that cannot be read, a file that is no program, a sheet
that is not declared the expected way. A `Fault` is a failure or one of the few causes that lie in
the caller's input. An `Audit` carries its notices beside its result, so that what was noticed
before a fault is not lost.
-/

set_option autoImplicit false

namespace StyleAudit

/-- A cause for which an analysis gives up on a file. -/
inductive Failure where
  /-- The file is no program; the place is known when the reader marked one. -/
  | syntaxError (path : String) (position : Option Position)
  | unreadable (path : String) (reason : String)
  | unsupported (path : String) (reason : String)
deriving DecidableEq, Repr

namespace Failure

/-- The file or directory at fault. -/
def path : Failure → String
  | syntaxError path _ => path
  | unreadable path _ => path
  | unsupported path _ => path

/-- What is wrong with it. -/
def detail : Failure → String
  | syntaxError _ none => "syntax error"
  | syntaxError _ (some ⟨line, column⟩) => s!"syntax error at line {line}, column {column}"
  | unreadable _ reason => reason
  | unsupported _ reason => reason

/-- The full text of a failure. -/
def message (failure : Failure) : String :=
  failure.path ++ ": " ++ failure.detail

end Failure

/-- A cause for which an analysis ends without a result. -/
inductive Fault where
  | failure (cause : Failure)
  /-- A factory call is bound by a declarator that has no name. -/
  | unnamedBinding
  /-- A reference lies in a file whose lines are not known. -/
  | unknownLines (file : String)
  /-- A setting that should list names holds a value that has no members. -/
  | unlistableNames
  /-- A suffix cannot be made into a file name pattern. -/
  | unusablePattern
  /-- A missing key is to be reported without the file that asks for it. -/
  | unplacedFinding (key : String)
deriving DecidableEq, Repr

/-- Something passed over during an extraction. -/
inductive Notice where
  /-- A member of a sheet that declares no key: a spread, a shorthand, a method. -/
  | skippedMember (file : String) (line : Int) (kind : String) (sheet : String)
  | skippedComputedKey (file : String) (line : Int) (sheet : String)
  | anonymousObject (file : String) (line : Int)
  | noFlatObjects (file : String)
deriving DecidableEq, Repr

namespace Notice

/-- Whether a notice is worth a warning and not only a trace. -/
def isWarning : Notice → Bool
  | noFlatObjects _ => true
  | _ => false

/-- The text of a notice. -/
def message : Notice → String
  | skippedMember file line kind sheet => s!"{file}:{line}: skipping {kind} in '{sheet}'"
  | skippedComputedKey file line sheet => s!"{file}:{line}: skipping computed key in '{sheet}'"
  | anonymousObject file line => s!"{file}:{line}: anonymous style object ignored"
  | noFlatObjects file => s!"{file} declares no flat style objects"

end Notice

/-- A computation that gathers notices and ends in a result or a fault. -/
structure Audit (α : Type) where
  notices : List Notice
  result : Except Fault α

namespace Audit

variable {α β : Type}

/-- A result without notices. -/
protected def pure (value : α) : Audit α :=
  ⟨[], .ok value⟩

/-- Goes on with a result; a fault ends the computation with the notices so far. -/
protected def bind (first : Audit α) (next : α → Audit β) : Audit β :=
  match first.result with
  | .error fault => ⟨first.notices, .error fault⟩
  | .ok value => ⟨first.notices ++ (next value).notices, (next value).result⟩

instance : Monad Audit where
  pure := Audit.pure
  bind := Audit.bind

/-- An outcome without notices. -/
def ofExcept (result : Except Fault α) : Audit α :=
  ⟨[], result⟩

/-- Ends with a failure. -/
def fail (cause : Failure) : Audit α :=
  ⟨[], .error (.failure cause)⟩

/-- An outcome that can only fail for a user's cause. -/
def ofFailing : Except Failure α → Audit α
  | .error cause => fail cause
  | .ok value => Audit.pure value

/-- Records notices. -/
def notify (notices : List Notice) : Audit Unit :=
  ⟨notices, .ok ()⟩

@[simp] theorem pure_result (value : α) : (pure value : Audit α).result = .ok value := rfl

theorem bind_result (first : Audit α) (next : α → Audit β) :
    (first >>= next).result = first.result.bind fun value => (next value).result := by
  show (Audit.bind first next).result = _
  unfold Audit.bind
  cases first.result <;> rfl

end Audit

end StyleAudit
