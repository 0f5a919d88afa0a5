import StyleAudit.Proofs.ExitCodes
import StyleAudit.Proofs.Rendering

/-!
Data in messages.

A template can be spelled from characters and placeholders, where braces are written twice, and read
back into the same parts. Filled in, every part is a character as it is or the text of a parameter
as it is, which is not read again. All messages of a report and all messages about errors are made
in this way.
-/

set_option autoImplicit false

namespace StyleAudit

namespace Template

/-! ### Spelled templates -/

/-- A part of a template: a character of the text, or the place of a parameter. -/
inductive Part where
  | character (value : Char)
  | placeholder (name : List Char)
deriving DecidableEq, Repr

namespace Part

/-- How a part is written in a template. -/
def spelled : Part → List Char
  | character '\x7b' => ['\x7b', '\x7b']
  | character '\x7d' => ['\x7d', '\x7d']
  | character value => [value]
  | placeholder name => '\x7b' :: name ++ ['\x7d']

/-- What a part becomes: the character, or the text of the parameter. -/
def filled (parameters : Parameters) : Part → List Char
  | character value => [value]
  | placeholder name =>
    ((parameters.lookup (String.ofList name)).map fun value => value.display.toList).getD []

/-- The characters that do not stand in a field's name as they are. -/
def marks : List Char :=
  ['\x7b', '\x7d', ':', '!', '[']

/-- Whether a part can be written: a placeholder needs a name that is read as one. -/
def isPlain : Part → Bool
  | character _ => true
  | placeholder name => isPlainName name && name.all (!marks.contains ·)

/-- What a part is read as. -/
def piece : Part → Piece
  | character value => .character value
  | placeholder name => .field ⟨name, none, []⟩

end Part

theorem isPlain_placeholder {name : List Char} :
    (Part.placeholder name).isPlain = true ↔
      isPlainName name = true ∧ ∀ letter ∈ name, letter ∉ Part.marks := by
  rw [Part.isPlain, Bool.and_eq_true, List.all_eq_true]
  simp only [Bool.not_eq_eq_eq_not, Bool.not_true, ← Bool.not_eq_true,
    List.contains_iff_mem]

theorem nameAhead_of_plain {name : List Char} (plain : ∀ letter ∈ name, letter ∉ Part.marks)
    (rest : List Char) :
    nameAhead false (name ++ '\x7d' :: rest) = some (name, '\x7d', rest) := by
  induction name with
  | nil => simp [nameAhead]
  | cons first others ih =>
      rw [List.forall_mem_cons] at plain
      obtain ⟨apart, later⟩ := plain
      simp only [Part.marks, List.mem_cons, List.not_mem_nil, or_false, not_or] at apart
      obtain ⟨opening, closing, colon, exclamation, bracket⟩ := apart
      rw [List.cons_append, nameAhead]
      simp [opening, closing, colon, exclamation, beq_false_of_ne bracket, ih later]

theorem piecesWithin_character {value : Char} (opening : value ≠ '\x7b')
    (closing : value ≠ '\x7d') (fuel : Nat) (rest : List Char) :
    piecesWithin (fuel + 1) (value :: rest) = .character value :: piecesWithin fuel rest := by
  rw [piecesWithin]
  · exact fun _ same _ => opening same
  · exact fun _ same _ => closing same
  · exact opening
  · exact closing

theorem piecesWithin_field {text after : List Char} {shape : Field}
    (single : ∀ rest, text ≠ '\x7b' :: rest) (ahead : fieldAhead text = some (shape, after))
    (fuel : Nat) :
    piecesWithin (fuel + 1) ('\x7b' :: text) = .field shape :: piecesWithin fuel after := by
  rw [piecesWithin, ahead]
  exact single

theorem spelled_character {value : Char} (opening : value ≠ '\x7b') (closing : value ≠ '\x7d') :
    (Part.character value).spelled = [value] := by
  rw [Part.spelled]
  · exact opening
  · exact closing

/-- Reading a part that was written takes it off the front of the text. -/
theorem piecesWithin_spelled {part : Part} (plain : part.isPlain = true) (fuel : Nat)
    (rest : List Char) :
    piecesWithin (fuel + 1) (part.spelled ++ rest) = part.piece :: piecesWithin fuel rest := by
  cases part with
  | character value =>
      by_cases opening : value = '\x7b'
      · subst opening
        rfl
      by_cases closing : value = '\x7d'
      · subst closing
        rfl
      rw [spelled_character opening closing]
      exact piecesWithin_character opening closing fuel rest
  | placeholder name =>
      obtain ⟨named, apart⟩ := isPlain_placeholder.mp plain
      have text : (Part.placeholder name).spelled ++ rest =
          '\x7b' :: (name ++ '\x7d' :: rest) := by
        simp [Part.spelled]
      have ahead : fieldAhead (name ++ '\x7d' :: rest) = some (⟨name, none, []⟩, rest) := by
        rw [fieldAhead, nameAhead_of_plain apart]
        rfl
      have single : ∀ others, name ++ '\x7d' :: rest ≠ '\x7b' :: others := by
        intro others same
        cases name with
        | nil => cases named
        | cons first more =>
            have brace := apart first List.mem_cons_self
            rw [(List.cons.inj same).1] at brace
            exact brace List.mem_cons_self
      rw [text, piecesWithin_field single ahead]
      rfl

theorem length_spelled_pos (part : Part) : 0 < part.spelled.length := by
  unfold Part.spelled
  split <;> simp

/-- Any fuel that is enough for the text reads all parts. -/
theorem piecesWithin_flatMap {parts : List Part} (plain : ∀ part ∈ parts, part.isPlain = true)
    (fuel : Nat) (enough : (parts.flatMap Part.spelled).length ≤ fuel) :
    piecesWithin fuel (parts.flatMap Part.spelled) = parts.map Part.piece := by
  induction parts generalizing fuel with
  | nil => cases fuel <;> rfl
  | cons part rest ih =>
      rw [List.forall_mem_cons] at plain
      have positive := length_spelled_pos part
      rw [List.flatMap_cons, List.length_append] at enough
      obtain ⟨less, rfl⟩ : ∃ less, fuel = less + 1 := ⟨fuel - 1, by omega⟩
      rw [List.flatMap_cons, piecesWithin_spelled plain.1, ih plain.2 less (by omega),
        List.map_cons]

/-- A spelled template is read back into its parts. -/
theorem pieces_spelled {parts : List Part} (plain : ∀ part ∈ parts, part.isPlain = true) :
    pieces (parts.flatMap Part.spelled) = parts.map Part.piece :=
  piecesWithin_flatMap plain _ le_rfl

theorem substituted_piece (parameters : Parameters) (part : Part) :
    part.piece.substituted parameters = part.filled parameters := by
  cases part with
  | character value => rfl
  | placeholder name => rfl

/-- Filling in a spelled template changes no character of it but the placeholders, and puts the
texts of the parameters in their places as they are. -/
theorem fill_spelled {parts : List Part} {parameters : Parameters}
    (plain : ∀ part ∈ parts, part.isPlain = true)
    (supplied : ∀ name, .placeholder name ∈ parts → String.ofList name ∈ parameters.map (·.1)) :
    fill (String.ofList (parts.flatMap Part.spelled)) parameters =
      .ok (String.ofList (parts.flatMap (Part.filled parameters))) := by
  have known : isPlain (parameters.map (·.1))
      (String.ofList (parts.flatMap Part.spelled)) = true := by
    rw [isPlain, String.toList_ofList, pieces_spelled plain, List.all_map, List.all_eq_true]
    intro part member
    cases part with
    | character value => rfl
    | placeholder name =>
        have named := (isPlain_placeholder.mp (plain _ member)).1
        simp [Part.piece, Piece.isPlain, named, supplied name member]
  rw [fill_plain known, substituted, String.toList_ofList, pieces_spelled plain,
    List.flatMap_map]
  simp only [substituted_piece]

/-! ### Parts of templates -/

/-- The names of the placeholders among parts. -/
def placeholders (parts : List Part) : List String :=
  parts.filterMap fun
    | .character _ => none
    | .placeholder name => some (String.ofList name)

theorem mem_placeholders {parts : List Part} {name : String} :
    name ∈ placeholders parts ↔ .placeholder name.toList ∈ parts := by
  rw [placeholders, List.mem_filterMap]
  constructor
  · rintro ⟨part, member, named⟩
    cases part with
    | character value => cases named
    | placeholder other =>
        cases named
        rwa [String.toList_ofList]
  · intro member
    exact ⟨_, member, congrArg some String.ofList_toList⟩

/-- The parts that a template is read as, fields other than placeholders being left out. -/
def partsOf (template : String) : List Part :=
  (pieces template.toList).filterMap fun
    | .character value => some (.character value)
    | .field ⟨name, none, []⟩ => some (.placeholder name)
    | _ => none

/-- Whether parts begin or end with a character that is not the one of the text about a template
that cannot be filled in. -/
def areDistinct (parts : List Part) : Bool :=
  isOther '<' parts.head? || isOther '>' parts.getLast?
where
  isOther (mark : Char) : Option Part → Bool
  | some (.character value) => value != mark
  | _ => false

theorem formattingError_toList (id : String) :
    ∃ middle, (Message.formattingError id).toList = '<' :: middle ++ ['>'] := by
  obtain ⟨start, opening⟩ : ∃ start, "<formatting_error for '".toList = '<' :: start :=
    ⟨"formatting_error for '".toList, by decide +kernel⟩
  obtain ⟨quote, closing⟩ : ∃ quote, "'>".toList = quote ++ ['>'] := ⟨"'".toList, by decide +kernel⟩
  have whole : (Message.formattingError id).toList =
      "<formatting_error for '".toList ++ id.toList ++ "'>".toList := by
    unfold Message.formattingError
    rw [String.toList_append, String.toList_append]
  refine ⟨start ++ (id.toList ++ quote), ?_⟩
  rw [whole, opening, closing]
  simp only [List.cons_append, List.append_assoc]

/-- Text with parameters in it is told apart from the text about a missing one, whatever the
parameters are. -/
theorem filled_ne_formattingError {parts : List Part} (distinct : areDistinct parts = true)
    (parameters : Parameters) (id : String) :
    String.ofList (parts.flatMap (Part.filled parameters)) ≠ Message.formattingError id := by
  intro same
  obtain ⟨middle, letters⟩ := formattingError_toList id
  rw [← same, String.toList_ofList] at letters
  rw [areDistinct, Bool.or_eq_true] at distinct
  rcases distinct with first | last
  · cases parts with
    | nil => cases first
    | cons part rest =>
        cases part with
        | placeholder name => cases first
        | character value =>
            rw [List.flatMap_cons, Part.filled, List.cons_append, List.cons_append] at letters
            have equal := (List.cons.inj letters).1
            subst equal
            cases first
  · rcases List.eq_nil_or_concat parts with rfl | ⟨front, part, rfl⟩
    · cases last
    · rw [List.concat_eq_append, List.getLast?_concat] at last
      cases part with
      | placeholder name => cases last
      | character value =>
          rw [List.concat_eq_append, List.flatMap_append, List.flatMap_singleton,
            Part.filled] at letters
          have equal := (List.append_inj' letters rfl).2
          cases equal
          cases last

end Template

/-! ### Packaged templates -/

/-- The addresses of the messages about errors: the kinds of failures, and any other error. -/
def CommandLine.errorAddresses : List String :=
  ["error.parse", "error.missing_file", "error.structure", "error.generic"]

/-- The messages of the program with the names of their parameters, those about errors of no known
kind included. -/
def Packaged.told : List (String × List String) :=
  ("error.generic", ["path", "detail"]) :: Packaged.sent

/-- Whether a packaged template is spelled from plain parts that name the parameters of its message
and nothing else. Only the message about an error of no known kind does not show a parameter. -/
structure Packaged.Spells (form : String × List String) (parts : List Template.Part) : Prop where
  template : Packaged.english.lookup form.1 =
    some (String.ofList (parts.flatMap Template.Part.spelled))
  plain : ∀ part ∈ parts, part.isPlain = true
  supplied : ∀ name ∈ Template.placeholders parts, name ∈ form.2
  shown : ∀ name ∈ form.2,
    name ∈ Template.placeholders parts ∨ form.1 = "error.generic" ∧ name = "path"
  distinct : Template.areDistinct parts = true

/-- Whether the parts that a template is read as spell it for the parameters of a message. -/
def Packaged.isSpelled (form : String × List String) (template : String) : Bool :=
  let parts := Template.partsOf template
  template.toList == parts.flatMap Template.Part.spelled &&
    parts.all Template.Part.isPlain &&
    (Template.placeholders parts).all form.2.contains &&
    form.2.all (fun name => (Template.placeholders parts).contains name ||
      (form.1 == "error.generic" && name == "path")) &&
    Template.areDistinct parts

theorem Packaged.told_spells : ∀ form ∈ Packaged.told, ∃ parts, Packaged.Spells form parts := by
  have all : ∀ form ∈ Packaged.told,
      ((Packaged.english.lookup form.1).map (Packaged.isSpelled form)).getD false = true := by
    decide +kernel
  intro form member
  have spelled := all form member
  cases found : Packaged.english.lookup form.1 with
  | none =>
      rw [found] at spelled
      cases spelled
  | some template =>
      rw [found, Option.map_some, Option.getD_some] at spelled
      simp only [isSpelled, Bool.and_eq_true, beq_iff_eq, List.all_eq_true,
        List.contains_iff_mem, Bool.or_eq_true] at spelled
      obtain ⟨⟨⟨⟨text, plain⟩, supplied⟩, shown⟩, distinct⟩ := spelled
      refine ⟨Template.partsOf template, ?_, plain, supplied, shown, distinct⟩
      rw [found, ← text, String.ofList_toList]

theorem Packaged.told_free : ∀ form ∈ Packaged.told, ∀ name ∈ form.2,
    name ∉ "level" :: Message.reservedNames := by
  decide +kernel

theorem Message.leavesAlone_of_names {names : List String} {parameters : Template.Parameters}
    (apart : ∀ name ∈ parameters.map (·.1), name ∉ names) :
    leavesAlone names parameters = true := by
  rw [leavesAlone, List.all_eq_true]
  intro parameter member
  rw [Bool.not_eq_true', Bool.eq_false_iff, ne_eq, List.contains_iff_mem]
  exact apart _ (List.mem_map_of_mem member)

/-! ### Messages about errors -/

namespace CommandLine

/-- What an error says behind its path: its text without the path in front, if it starts with it. -/
def detailOf (path text : String) : String :=
  if (path ++ ": ").toList <+: text.toList then
    String.ofList (text.toList.drop (path ++ ": ").toList.length)
  else text

/-- The message about an error, of whatever kind, that has a path and a text. -/
def errorMessage (address path text : String) : Message :=
  ⟨.error, address, [("path", .text path), ("detail", .text (detailOf path text))]⟩

theorem detailOf_append (path detail : String) :
    detailOf path (path ++ ": " ++ detail) = detail := by
  have text : (path ++ ": " ++ detail).toList = (path ++ ": ").toList ++ detail.toList :=
    String.toList_append ..
  rw [detailOf, text, if_pos (List.prefix_append _ _), List.drop_left, String.ofList_toList]

/-- Of the text of an error nothing but its own path is left out. -/
theorem eq_detailOf (path text : String) :
    text = path ++ ": " ++ detailOf path text ∨ text = detailOf path text := by
  unfold detailOf
  split
  · rename_i starts
    obtain ⟨rest, whole⟩ := starts
    have joined : (path ++ ": " ++ String.ofList rest).toList = (path ++ ": ").toList ++ rest := by
      rw [String.toList_append, String.toList_ofList]
    left
    rw [← String.toList_inj, ← whole, List.drop_left, joined]
  · exact Or.inr rfl

/-- The failures of an analysis are such errors. -/
theorem failureMessage_eq (failure : Failure) :
    failureMessage failure =
      errorMessage (failureAddress failure) failure.path failure.message := by
  rw [failureMessage, errorMessage, Failure.message, detailOf_append]

end CommandLine

/-! ### Messages with data -/

/-- Whether a text is the packaged template of a message with the message's data, and nothing else,
in the places of the parameters. -/
structure Message.ShowsData (message : Message) (parts : List Template.Part) (text : String) :
    Prop where
  template : Packaged.english.lookup message.id =
    some (String.ofList (parts.flatMap Template.Part.spelled))
  plain : ∀ part ∈ parts, part.isPlain = true
  filled : text = String.ofList (parts.flatMap (Template.Part.filled message.parameters))
  /-- Every placeholder has its parameter, whose text stands in the whole text. -/
  kept : ∀ name, .placeholder name ∈ parts → ∃ value,
    message.parameters.lookup (String.ofList name) = some value ∧
    value.display.toList <:+: text.toList
  /-- Every parameter is asked for, but for the path of an error of no known kind. -/
  asked : ∀ name ∈ message.parameters.map (·.1),
    .placeholder name.toList ∈ parts ∨ message.id = "error.generic" ∧ name = "path"
  formatted : text ≠ Message.formattingError message.id
  /-- No parameter has a name that sending a message needs for itself. -/
  free : Message.leavesAlone ("level" :: Message.reservedNames) message.parameters = true

theorem Template.infix_of_placeholder {parts : List Part} {parameters : Parameters}
    {name : List Char} {value : Value} (member : .placeholder name ∈ parts)
    (found : parameters.lookup (String.ofList name) = some value) :
    value.display.toList <:+: parts.flatMap (Part.filled parameters) := by
  obtain ⟨before, after, rfl⟩ := List.append_of_mem member
  refine ⟨before.flatMap (Part.filled parameters), after.flatMap (Part.filled parameters), ?_⟩
  rw [List.flatMap_append, List.flatMap_cons, Part.filled, found, Option.map_some,
    Option.getD_some, List.append_assoc]

namespace Message

/-- A message of the program, with whatever data, is its template with the data in it. -/
theorem exists_showsData (message : Message)
    (known : (message.id, message.parameters.map (·.1)) ∈ Packaged.told) :
    ∃ parts text, message.ShowsData parts text ∧ message.english = .ok text := by
  obtain ⟨parts, template, plain, supplied, shown, distinct⟩ := Packaged.told_spells _ known
  have named : ∀ name, .placeholder name ∈ parts →
      String.ofList name ∈ message.parameters.map (·.1) := fun name member =>
    supplied _ (Template.mem_placeholders.mpr (String.toList_ofList.symm ▸ member))
  have filled := Template.fill_spelled plain named
  have different := Template.filled_ne_formattingError distinct message.parameters message.id
  refine ⟨parts, _, ⟨template, plain, rfl, ?_, ?_, different, ?_⟩, ?_⟩
  · intro name member
    obtain ⟨value, found⟩ := Keyed.exists_lookup_of_mem (named name member)
    rw [String.toList_ofList]
    exact ⟨value, found, Template.infix_of_placeholder member found⟩
  · exact fun name listed => (shown name listed).imp_left Template.mem_placeholders.mp
  · exact leavesAlone_of_names (Packaged.told_free _ known)
  · rw [english, template, Option.getD_some, render, filled]

end Message

/-- Trimming leaves out nothing but characters of the given kind at the two ends. -/
theorem Text.exists_trimWhere (test : Char → Bool) (text : List Char) : ∃ before after,
    text = before ++ Text.trimWhere test text ++ after ∧
      (∀ letter ∈ before, test letter = true) ∧ ∀ letter ∈ after, test letter = true := by
  refine ⟨text.takeWhile test, ((text.dropWhile test).reverse.takeWhile test).reverse, ?_, ?_, ?_⟩
  · have back : text.dropWhile test = ((text.dropWhile test).reverse.dropWhile test).reverse ++
        ((text.dropWhile test).reverse.takeWhile test).reverse := by
      rw [← List.reverse_append, List.takeWhile_append_dropWhile, List.reverse_reverse]
    rw [trimWhere, List.append_assoc, ← back, List.takeWhile_append_dropWhile]
  · exact fun letter member => List.mem_takeWhile_imp member
  · exact fun letter member => List.mem_takeWhile_imp (List.mem_reverse.mp member)

theorem Text.exists_trim (code : String) : ∃ before after,
    code.toList = before ++ (Text.trim code).toList ++ after ∧
      (∀ letter ∈ before, Text.isBlank letter = true) ∧
      ∀ letter ∈ after, Text.isBlank letter = true := by
  rw [trim, String.toList_ofList]
  exact exists_trimWhere isBlank code.toList

/-- Without overrides every message of a report, for whatever results and also where the report
breaks off, and every message about an error, of whatever kind, path and text, is shown as the
packaged template with the data in the places of the parameters, character by character. Of a code
only blanks at its ends are not told, and of the text of an error only the path in front. -/
theorem data_shown_as_it_is (environment : Environment)
    (plain : Session.Unadorned environment (Project.root environment.store Path.current)) :
    (∀ viewpoint results, ∀ message ∈ Report.sent viewpoint results, ∃ parts text,
      message.ShowsData parts text ∧ CommandLine.rendered environment message = .ok text) ∧
    (∀ viewpoint results messages, Report.messages viewpoint results = .ok messages →
      Report.sent viewpoint results = messages) ∧
    (∀ address ∈ CommandLine.errorAddresses, ∀ path full, ∃ parts text,
      (CommandLine.errorMessage address path full).ShowsData parts text ∧
      CommandLine.rendered environment (CommandLine.errorMessage address path full) = .ok text) ∧
    (∀ failure, CommandLine.failureMessage failure = CommandLine.errorMessage
      (CommandLine.failureAddress failure) failure.path failure.message) ∧
    (∀ path full, full = path ++ ": " ++ CommandLine.detailOf path full ∨
      full = CommandLine.detailOf path full) ∧
    (∀ code : String, ∃ before after, code.toList = before ++ (Text.trim code).toList ++ after ∧
      (∀ letter ∈ before, Text.isBlank letter = true) ∧
      ∀ letter ∈ after, Text.isBlank letter = true) := by
  refine ⟨?_, fun _ _ _ => Report.sent_of_messages, ?_, CommandLine.failureMessage_eq,
    CommandLine.eq_detailOf, Text.exists_trim⟩
  · intro viewpoint results message sent
    have packaged := Report.told_packaged viewpoint results message
      (Report.mem_told_of_mem_sent sent)
    obtain ⟨parts, text, shows, shown⟩ :=
      Message.exists_showsData message (List.mem_cons_of_mem _ packaged)
    exact ⟨parts, text, shows, CommandLine.rendered_of_english plain shown⟩
  · intro address known path full
    have told : (address, ["path", "detail"]) ∈ Packaged.told := by
      simp only [CommandLine.errorAddresses, List.mem_cons, List.not_mem_nil, or_false] at known
      rcases known with rfl | rfl | rfl | rfl <;> simp [Packaged.told, Packaged.sent]
    obtain ⟨parts, text, shows, shown⟩ :=
      Message.exists_showsData (CommandLine.errorMessage address path full) told
    exact ⟨parts, text, shows, CommandLine.rendered_of_english plain shown⟩

namespace Sample

/-- A sheet, a key and a code full of braces, and a missing key that breaks the report off. -/
def bracedResults : Results :=
  [(⟨.here, ["a.js"]⟩,
    ⟨[⟨"\x7bs\x7d", none, "", [⟨"\x7bkey!r\x7d\n", ⟨⟨1, 0⟩, ⟨1, 1⟩⟩, " \x7b0\x7d ", none⟩],
      [⟨"k", ⟨⟨2, 0⟩, ⟨2, 1⟩⟩, "", none⟩]⟩], []⟩)]

def bracedCode : Message :=
  ⟨.debug, "check.issue.code", [("code", .text (Text.trim " \x7b0\x7d "))]⟩

/-- An error of no known kind, which does not start with its path. -/
def bracedError : Message :=
  CommandLine.errorMessage "error.generic" "a.js" "\x7bpath\x7d: '\x7b'"

end Sample

/-- Braces are shown as they are, in a code whose report breaks off after it and in an error. -/
theorem sample_data_shown :
    Session.Unadorned Sample.environment
      (Project.root Sample.environment.store Path.current) ∧
    (∃ parts, Sample.bracedCode.ShowsData parts "      \x7b0\x7d") ∧
    ∃ parts, Sample.bracedError.ShowsData parts "Analysis failed: \x7bpath\x7d: '\x7b'" := by
  have plain := Sample.checkable.unadorned
  obtain ⟨sent, _, errors, _⟩ := data_shown_as_it_is Sample.environment plain
  have member : Sample.bracedCode ∈ Report.sent ⟨[], ⟨.here, []⟩⟩ Sample.bracedResults :=
    .tail _ (.tail _ (.head _))
  obtain ⟨parts, text, shows, shown⟩ := sent _ _ _ member
  obtain ⟨others, line, tells, told⟩ := errors "error.generic" (by decide) "a.js"
    "\x7bpath\x7d: '\x7b'"
  have code : Sample.bracedCode.english = .ok "      \x7b0\x7d" := by decide +kernel
  have error : Sample.bracedError.english = .ok "Analysis failed: \x7bpath\x7d: '\x7b'" := by
    decide +kernel
  rw [CommandLine.rendered_of_english plain code] at shown
  have same : CommandLine.rendered Sample.environment Sample.bracedError = .ok line := told
  rw [CommandLine.rendered_of_english plain error] at same
  cases shown
  cases same
  exact ⟨plain, ⟨parts, shows⟩, others, tells⟩

end StyleAudit
