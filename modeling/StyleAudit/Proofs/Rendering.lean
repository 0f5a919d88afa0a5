import Mathlib.Data.List.TakeWhile
import StyleAudit.Message
import StyleAudit.Message.Packaged
import StyleAudit.Proofs.Keyed

/-!
Filling in templates whose fields are plain names.

A field that is nothing but the name of a parameter gives way to the text of the parameter, whatever
stands in this text; every character between the fields stays. All packaged templates are of this
kind, with the parameters of the messages that they are for.
-/

set_option autoImplicit false

namespace StyleAudit

namespace Template

/-- Whether a name in a field refers to the parameter of this very name: it is no number, and
nothing follows it. -/
def isPlainName : List Char → Bool
  | [] => false
  | first :: rest => (Text.digitValue? first).isNone && (first :: rest).all (!startsStep ·)

/-- Whether a piece is a character, or a field that is nothing but one of some names. -/
def Piece.isPlain (names : List String) : Piece → Bool
  | .character _ => true
  | .field shape =>
    shape.conversion.isNone && shape.form.isEmpty && isPlainName shape.name &&
      names.contains (String.ofList shape.name)
  | .malformed => false

/-- Whether a template consists of characters and plain fields of the given names. -/
def isPlain (names : List String) (template : String) : Bool :=
  (pieces template.toList).all (Piece.isPlain names)

/-- What a plain piece becomes: the text of its parameter as it is, or the character. -/
def Piece.substituted (parameters : Parameters) : Piece → List Char
  | .character value => [value]
  | .field shape =>
    ((parameters.lookup (String.ofList shape.name)).map fun value => value.display.toList).getD []
  | .malformed => []

/-- A plain template with its parameters in it. -/
def substituted (template : String) (parameters : Parameters) : String :=
  String.ofList ((pieces template.toList).flatMap (Piece.substituted parameters))

theorem keyOf_plain {name : List Char} (plain : isPlainName name = true) :
    keyOf name = .ok (.name (String.ofList name)) := by
  cases name with
  | nil => cases plain
  | cons first rest =>
      rw [isPlainName, Bool.and_eq_true, Option.isNone_iff_eq_none] at plain
      have ahead : numberAhead (first :: rest) = .ok (none, first :: rest) := by
        simp [numberAhead, plain.1]
      rw [keyOf, ahead]

theorem takeWhile_plain {name : List Char} (plain : isPlainName name = true) :
    name.takeWhile (!startsStep ·) = name := by
  cases name with
  | nil => rfl
  | cons first rest =>
      rw [isPlainName, Bool.and_eq_true, List.all_eq_true] at plain
      exact List.takeWhile_eq_self_iff.mpr plain.2

theorem valueOf_plain {parameters : Parameters} {name : List Char} {value : Value}
    (plain : isPlainName name = true)
    (found : parameters.lookup (String.ofList name) = some value) :
    valueOf parameters name = .ok value := by
  have named : parameter parameters name = .ok value := by
    have occupied : (String.ofList name).isEmpty = false := by
      rw [Bool.eq_false_iff, ne_eq, String.isEmpty_iff, String.ofList_eq_empty_iff]
      rintro rfl
      cases plain
    simp only [parameter, keyOf_plain plain, bind, Except.bind, occupied, Bool.false_eq_true,
      ↓reduceIte, found]
    rfl
  rw [valueOf, takeWhile_plain plain, named, List.drop_length]
  show follow name.length value [] = .ok value
  cases name.length <;> rfl

/-- Plain pieces are filled in one by one, and none of them can fail. -/
theorem fillPieces_plain (parameters : Parameters)
    (inner : List Char → Except TemplateError (List Char)) (pieces : List Piece)
    (plain : pieces.all (Piece.isPlain (parameters.map (·.1))) = true) :
    fillPieces parameters inner pieces =
      .ok (pieces.flatMap (Piece.substituted parameters)) := by
  induction pieces with
  | nil => rfl
  | cons piece rest ih =>
      rw [List.all_cons, Bool.and_eq_true] at plain
      have remaining := ih plain.2
      cases piece with
      | character value =>
          rw [fillPieces, remaining]
          rfl
      | malformed => cases plain.1
      | field field =>
          obtain ⟨name, conversion, form⟩ := field
          have shape := plain.1
          simp only [Piece.isPlain, Bool.and_eq_true, Option.isNone_iff_eq_none, List.isEmpty_iff]
            at shape
          obtain ⟨⟨⟨rfl, rfl⟩, named⟩, listed⟩ := shape
          obtain ⟨value, found⟩ := Keyed.exists_lookup_of_mem (List.contains_iff_mem.mp listed)
          rw [fillPieces, valueOf_plain named found, remaining]
          simp only [List.flatMap_cons, Piece.substituted, found, Option.map_some, Option.getD_some]
          rfl

/-- A plain template is filled in with the texts of its parameters. -/
theorem fill_plain {template : String} {parameters : Parameters}
    (plain : isPlain (parameters.map (·.1)) template = true) :
    fill template parameters = .ok (substituted template parameters) := by
  rw [fill, fillWithin, fillPieces_plain parameters _ _ plain]
  rfl

end Template

/-! ### Packaged messages -/

/-- The messages that the program sends: their addresses, and the names of their parameters. -/
def Packaged.sent : List (String × List String) :=
  [("check.sheet.header", ["path", "line", "name"]), ("check.sheet.clean", ["path", "name"]),
    ("check.issue.unused", ["key", "path", "line"]),
    ("check.issue.missing", ["key", "path", "line"]), ("check.issue.code", ["code"]),
    ("check.file.no_sheets", ["path"]), ("check.file.warn", ["path", "count"]),
    ("check.run.success", []), ("check.run.fail", ["count", "files"]),
    ("error.parse", ["path", "detail"]), ("error.missing_file", ["path", "detail"]),
    ("error.structure", ["path", "detail"]), ("cli.error.bad_format", ["value"])]

theorem Packaged.sent_plain : ∀ form ∈ Packaged.sent, ∃ template,
    Packaged.english.lookup form.1 = some template ∧ Template.isPlain form.2 template = true := by
  have all : (Packaged.sent.all fun form =>
      ((Packaged.english.lookup form.1).map (Template.isPlain form.2)).getD false) = true := by
    decide +kernel
  intro form member
  have plain := List.all_eq_true.mp all form member
  cases found : Packaged.english.lookup form.1 with
  | none =>
      rw [found] at plain
      cases plain
  | some template =>
      rw [found] at plain
      exact ⟨template, rfl, plain⟩

namespace Message

/-- Whether a message is one of those that the program sends. -/
def IsPackaged (message : Message) : Prop :=
  (message.id, message.parameters.map (·.1)) ∈ Packaged.sent

/-- The text of a message when its template is taken from the packaged English ones. -/
def english (message : Message) : Except TemplateError String :=
  render ((Packaged.english.lookup message.id).getD message.id) message.id message.parameters

/-- Every message that the program sends has its text: the packaged template with the parameters in
it as they are. -/
theorem IsPackaged.english_eq {message : Message} (packaged : message.IsPackaged) :
    ∃ template, Packaged.english.lookup message.id = some template ∧
      message.english = .ok (Template.substituted template message.parameters) := by
  obtain ⟨template, found, plain⟩ := Packaged.sent_plain _ packaged
  refine ⟨template, found, ?_⟩
  have filled := Template.fill_plain plain
  rw [english, found, Option.getD_some, render, filled]

/-- The English text of a message that can be rendered. -/
def text (message : Message) : String :=
  message.english.toOption.getD ""

theorem IsPackaged.english_eq_text {message : Message} (packaged : message.IsPackaged) :
    message.english = .ok message.text := by
  obtain ⟨_, _, rendered⟩ := packaged.english_eq
  rw [text, rendered]
  rfl

end Message

end StyleAudit
