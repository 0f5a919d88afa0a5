import StyleAudit.Proofs.Requirements
import StyleAudit.Proofs.Sites

/-!
The sheets that a component's own file declares.

Every factory call declares one sheet. Its keys are the pairs with a static key of the literal that
the call is given; of the other members a comment is passed over in silence, and each other one is
noted. The first call that is given no literal ends the extraction.
-/

set_option autoImplicit false

namespace StyleAudit

/-! ### Literals and their members -/

namespace Node

/-- Whether an object literal is the first argument of a call, comments aside. -/
def IsGiven (call literal : Node) : Prop :=
  literal.kind = "object" ∧ ∃ arguments comments rest,
    call.child? "arguments" = some arguments ∧
    arguments.namedChildren = comments ++ literal :: rest ∧
    ∀ comment ∈ comments, comment.kind = "comment"

/-- The key that a member of a literal declares: that of a pair, if it is static. -/
def declaredKey? (source : List Char) (member : Node) : Option KeyDeclaration :=
  if member.kind = "pair" then
    ((member.child? "key").bind (Node.keyName? source)).map
      (⟨·, member.span .characters source⟩)
  else
    none

/-- Whether a member of a literal is no comment and yet declares no key. -/
def isPassedOver (source : List Char) (member : Node) : Bool :=
  member.kind != "comment" && (member.declaredKey? source).isNone

theorem firstArgument?_eq_some_iff (call literal : Node) (object : literal.kind = "object") :
    call.firstArgument? = some literal ↔ call.IsGiven literal := by
  have accepted : (literal.kind ≠ "comment") := by simp [object]
  simp only [firstArgument?, Option.bind_eq_some_iff, List.find?_eq_some_iff_append, IsGiven,
    object, true_and]
  constructor
  · rintro ⟨arguments, held, _, comments, rest, split, skipped⟩
    exact ⟨arguments, comments, rest, held, split, by simpa using skipped⟩
  · rintro ⟨arguments, comments, rest, held, split, skipped⟩
    exact ⟨arguments, held, by simp, comments, rest, split, by simpa using skipped⟩

theorem isGivenLiteral_iff (call : Node) :
    call.IsGivenLiteral ↔ ∃ literal, call.IsGiven literal := by
  constructor
  · rintro ⟨literal, first, object⟩
    exact ⟨literal, (firstArgument?_eq_some_iff call literal object).mp first⟩
  · rintro ⟨literal, given⟩
    exact ⟨literal, (firstArgument?_eq_some_iff call literal given.1).mpr given, given.1⟩

end Node

/-- What is noted about a member of a sheet's literal that is passed over. -/
def Source.skipNotice (source : Source) (sheet : String) (member : Node) : Notice :=
  let line := (member.span .characters source.text.toList).start.line
  if member.kind = "pair" then .skippedComputedKey source.path line sheet
  else .skippedMember source.path line member.kind sheet

/-- The failure that tells of a call by what it calls and by the line on which it starts. -/
def Source.refusal (source : Source) (call : Site) (callee : Node) : Failure :=
  let line := (call.node.span .characters source.text.toList).start.line
  .unsupported source.path
    s!"{callee.text source.text.toList}() on line {line} is not given an object literal"

/-- Whether a factory call declares a sheet and notes what it passes over: the sheet has the name of
the call's binding, the keys that the members of its literal declare, and a notice for each member
that is passed over. -/
def Source.Declares (source : Source) (call : Site) (part : Sheet × List Notice) : Prop :=
  ∃ binding literal,
    call.parent?.bind (·.node.child? "name") = some binding ∧
    call.node.IsGiven literal ∧
    part.1.identifier = binding.text source.text.toList ∧
    part.1.span = some (binding.span .characters source.text.toList) ∧
    part.1.Merges (literal.namedChildren.filterMap (Node.declaredKey? source.text.toList)) ∧
    part.2 = (literal.namedChildren.filter (Node.isPassedOver source.text.toList)).map
      (source.skipNotice (binding.text source.text.toList))

namespace MemberReading

theorem ofMember_key? (path : String) (source : List Char) (sheet : String) (member : Node) :
    (ofMember path source sheet member).key? = member.declaredKey? source := by
  unfold ofMember Node.declaredKey?
  by_cases pair : member.kind = "pair"
  · simp only [pair, ↓reduceIte]
    cases (member.child? "key").bind (Node.keyName? source) <;> rfl
  · simp only [pair, ↓reduceIte]
    split <;> rfl

theorem ofMember_notice? (source : Source) (sheet : String) (member : Node) :
    (ofMember source.path source.text.toList sheet member).notice? =
      if member.isPassedOver source.text.toList then some (source.skipNotice sheet member)
      else none := by
  unfold ofMember Node.isPassedOver Node.declaredKey? Source.skipNotice
  rw [Node.line_eq]
  by_cases pair : member.kind = "pair"
  · simp only [pair, ↓reduceIte]
    cases (member.child? "key").bind (Node.keyName? source.text.toList) <;> rfl
  · by_cases comment : member.kind = "comment"
    · simp only [comment]
      rfl
    · simp only [pair, comment, ↓reduceIte]
      simp [notice?, comment]

end MemberReading

/-! ### Factory calls -/

theorem filterMap_ite_some {α β : Type} (test : α → Bool) (change : α → β) (items : List α) :
    (items.filterMap fun item => if test item then some (change item) else none) =
      (items.filter test).map change := by
  rw [← List.filterMap_eq_map, List.filterMap_filter]
  rfl

/-- A call that is given a literal and bound to a name declares a sheet. -/
theorem exists_declares_of_given (source : Source) (call : Site) {literal : Node}
    (given : call.node.IsGiven literal)
    (named : (call.parent?.bind (·.node.child? "name")).isSome = true) :
    ∃ part, source.Declares call part ∧
      sheetOfCall source.path source.text.toList call = ⟨part.2, .ok part.1⟩ := by
  obtain ⟨binding, bound⟩ := Option.isSome_iff_exists.mp named
  have object : literal.kind = "object" := given.1
  have first := (Node.firstArgument?_eq_some_iff call.node literal object).mpr given
  have filtered : call.node.firstArgument?.filter (·.kind == "object") = some literal := by
    simp [first, object]
  have keys : (literal.namedChildren.map (MemberReading.ofMember source.path source.text.toList
      (binding.text source.text.toList))).filterMap MemberReading.key? =
        literal.namedChildren.filterMap (Node.declaredKey? source.text.toList) := by
    rw [List.filterMap_map]
    exact List.filterMap_congr fun member _ => MemberReading.ofMember_key? _ _ _ member
  have notices : (literal.namedChildren.map (MemberReading.ofMember source.path source.text.toList
      (binding.text source.text.toList))).filterMap MemberReading.notice? =
        (literal.namedChildren.filter (Node.isPassedOver source.text.toList)).map
          (source.skipNotice (binding.text source.text.toList)) := by
    rw [List.filterMap_map, ← filterMap_ite_some]
    exact List.filterMap_congr fun member _ => MemberReading.ofMember_notice? source _ member
  refine ⟨(.ofDeclarations (binding.text source.text.toList)
      (some (binding.span .characters source.text.toList))
      (literal.namedChildren.filterMap (Node.declaredKey? source.text.toList)),
    (literal.namedChildren.filter (Node.isPassedOver source.text.toList)).map
      (source.skipNotice (binding.text source.text.toList))), ?_, ?_⟩
  · exact ⟨binding, literal, bound, given, Sheet.ofDeclarations_identifier _ _ _,
      Sheet.ofDeclarations_span _ _ _, Sheet.ofDeclarations_merges _ _ _, rfl⟩
  · simp only [sheetOfCall, filtered, bound]
    rw [keys, notices]
    show Audit.mk (_ ++ []) _ = _
    rw [List.append_nil]
    rfl

theorem exists_declares_of_forall (source : Source) (calls : List Site)
    (given : ∀ call ∈ calls, ∃ literal, call.node.IsGiven literal)
    (named : ∀ call ∈ calls, (call.parent?.bind (·.node.child? "name")).isSome = true) :
    ∃ parts, List.Forall₂ source.Declares calls parts ∧
      List.Forall₂ (fun call part =>
        sheetOfCall source.path source.text.toList call = ⟨part.2, .ok part.1⟩) calls parts := by
  induction calls with
  | nil => exact ⟨[], .nil, .nil⟩
  | cons call rest ih =>
      rw [List.forall_mem_cons] at given named
      obtain ⟨literal, first⟩ := given.1
      obtain ⟨part, declares, extracted⟩ := exists_declares_of_given source call first named.1
      obtain ⟨parts, others, remaining⟩ := ih given.2 named.2
      exact ⟨part :: parts, .cons declares others, .cons extracted remaining⟩

/-- A factory call is a member of some object, so that its text names what is called. -/
theorem exists_callee_of_isCreationCall {factories : Factories} {text : List Char} {call : Site}
    (creation : call.isCreationCall factories text = true) :
    ∃ callee, call.node.child? "function" = some callee := by
  cases found : call.node.child? "function" with
  | none => simp [Site.isCreationCall, found] at creation
  | some callee => exact ⟨callee, rfl⟩

theorem Source.isCreationCall_of_mem_calls {factories : Factories} {source : Source} {call : Site}
    (member : call ∈ source.calls factories) :
    call.isCreationCall factories source.text.toList = true := by
  have both := (List.mem_filter.mp member).2
  rw [Bool.and_eq_true] at both
  exact both.1

theorem sheetOfCall_of_not_given (source : Source) (call : Site) {callee : Node}
    (called : call.node.child? "function" = some callee)
    (missing : ¬ ∃ literal, call.node.IsGiven literal) :
    sheetOfCall source.path source.text.toList call =
      ⟨[], .error (.failure (source.refusal call callee))⟩ := by
  rw [← Node.isGivenLiteral_iff, ← filter_object_eq_none_iff] at missing
  simp only [sheetOfCall, missing, unsupportedCall, called, Node.line_eq]
  rfl

theorem extractSheets_declared_eq (source : Source) (factories : Factories)
    {notices : List Notice} {outcome : Except Fault (List Sheet)}
    (extracted : (source.calls factories).mapM (sheetOfCall source.path source.text.toList) =
      ⟨notices, outcome⟩) :
    extractSheets source (.declared factories) =
      ⟨notices, outcome.map (⟨·, Text.splitLines source.text⟩)⟩ := by
  have sheets : declaredSheets source.path source.text.toList factories source.root =
      ⟨notices, outcome⟩ := by
    rw [declaredSheets, Source.calls_eq, extracted]
  simp only [extractSheets, sheets]
  cases outcome with
  | error fault => rfl
  | ok found =>
      show Audit.mk (notices ++ []) _ = _
      rw [List.append_nil]
      rfl

/-! ### The extraction -/

theorem extractSheets_of_given (source : Source) (factories : Factories)
    (named : source.NamesBindings factories)
    (given : ∀ call ∈ source.calls factories, ∃ literal, call.node.IsGiven literal) :
    ∃ parts, List.Forall₂ source.Declares (source.calls factories) parts ∧
      extractSheets source (.declared factories) =
        ⟨parts.flatMap (·.2), .ok ⟨parts.map (·.1), Text.splitLines source.text⟩⟩ := by
  obtain ⟨parts, declared, each⟩ := exists_declares_of_forall source _ given named
  exact ⟨parts, declared, extractSheets_declared_eq source factories
    (Audit.mapM_eq_of_forall₂ each)⟩

/-- The first call that is given no literal ends the extraction; what was noted before is kept. -/
theorem extractSheets_of_not_given (source : Source) (factories : Factories)
    (named : source.NamesBindings factories) {before after : List Site} {call : Site}
    (order : source.calls factories = before ++ call :: after)
    (given : ∀ earlier ∈ before, ∃ literal, earlier.node.IsGiven literal)
    (missing : ¬ ∃ literal, call.node.IsGiven literal) :
    ∃ callee parts, call.node.child? "function" = some callee ∧
      List.Forall₂ source.Declares before parts ∧
      extractSheets source (.declared factories) =
        ⟨parts.flatMap (·.2), .error (.failure (source.refusal call callee))⟩ := by
  have member : call ∈ source.calls factories := by
    rw [order]
    exact List.mem_append_right before List.mem_cons_self
  have bound : ∀ earlier ∈ before,
      (earlier.parent?.bind (·.node.child? "name")).isSome = true := by
    intro earlier front
    apply named earlier
    rw [order]
    exact List.mem_append_left _ front
  obtain ⟨callee, called⟩ :=
    exists_callee_of_isCreationCall (Source.isCreationCall_of_mem_calls member)
  obtain ⟨parts, declared, each⟩ := exists_declares_of_forall source before given bound
  have refused := sheetOfCall_of_not_given source call called missing
  have ended := Audit.mapM_eq_of_error each refused after
  rw [← order] at ended
  exact ⟨callee, parts, called, declared, extractSheets_declared_eq source factories ended⟩

/-- Where not all members of a list have a property, there is a first one that does not. -/
theorem exists_first_not {α : Type} {holds : α → Prop} {items : List α}
    (some : ∃ item ∈ items, ¬ holds item) :
    ∃ before item after, items = before ++ item :: after ∧
      (∀ earlier ∈ before, holds earlier) ∧ ¬ holds item := by
  induction items with
  | nil =>
      obtain ⟨item, absent, _⟩ := some
      exact absurd absent List.not_mem_nil
  | cons first rest ih =>
      by_cases good : holds first
      · obtain ⟨item, member, bad⟩ := some
        have later : item ∈ rest := by
          rcases List.mem_cons.mp member with rfl | later
          · exact absurd good bad
          · exact later
        obtain ⟨before, other, after, rfl, earlier, fails⟩ := ih ⟨item, later, bad⟩
        exact ⟨first :: before, other, after, rfl, List.forall_mem_cons.mpr ⟨good, earlier⟩, fails⟩
      · exact ⟨[], first, rest, rfl, fun _ absent => absurd absent List.not_mem_nil, good⟩

/-- An extraction fails exactly when some factory call is given no literal, and then with the first
of these in pre-order. Otherwise each call declares one sheet, in pre-order, so that a sheet comes
before those that are declared inside it. -/
theorem declared_extraction_exact (source : Source) (factories : Factories)
    (named : source.NamesBindings factories) :
    ((∃ fault, (extractSheets source (.declared factories)).result = .error fault) ↔
      ∃ call ∈ source.calls factories, ¬ ∃ literal, call.node.IsGiven literal) ∧
    (∀ before call after, source.calls factories = before ++ call :: after →
      (∀ earlier ∈ before, ∃ literal, earlier.node.IsGiven literal) →
      (¬ ∃ literal, call.node.IsGiven literal) →
      ∃ callee parts, call.node.child? "function" = some callee ∧
        List.Forall₂ source.Declares before parts ∧
        extractSheets source (.declared factories) =
          ⟨parts.flatMap (·.2), .error (.failure (source.refusal call callee))⟩) ∧
    ((∀ call ∈ source.calls factories, ∃ literal, call.node.IsGiven literal) →
      ∃ parts, List.Forall₂ source.Declares (source.calls factories) parts ∧
        extractSheets source (.declared factories) =
          ⟨parts.flatMap (·.2), .ok ⟨parts.map (·.1), Text.splitLines source.text⟩⟩) ∧
    (source.calls factories).Pairwise fun earlier later => ¬ earlier.IsBelow later := by
  refine ⟨⟨?_, ?_⟩, ?_, extractSheets_of_given source factories named, ?_⟩
  · rintro ⟨fault, failed⟩
    by_contra none
    have given : ∀ call ∈ source.calls factories, ∃ literal, call.node.IsGiven literal := by
      intro call member
      by_contra missing
      exact none ⟨call, member, missing⟩
    obtain ⟨parts, _, success⟩ := extractSheets_of_given source factories named given
    rw [success] at failed
    cases failed
  · intro missing
    obtain ⟨before, call, after, order, given, refused⟩ := exists_first_not missing
    obtain ⟨callee, parts, _, _, failed⟩ :=
      extractSheets_of_not_given source factories named order given refused
    exact ⟨_, congrArg Audit.result failed⟩
  · intro before call after order given missing
    exact extractSheets_of_not_given source factories named order given missing
  · exact (Node.sites_pairwise source.root).filter _

namespace Sample

/-- A sheet with a key that is declared twice, the second time around another sheet. -/
def nested : Source :=
  sourceOf "Card.js" "const s = StyleSheet.create({ a: 0, ...b, [k]: 0, a: () => { const t = StyleSheet.create({ e: 1 }); } });"

/-- A sheet, and behind it a call that is given no literal. -/
def refused : Source :=
  sourceOf "Card.js" "const s = StyleSheet.create({ ...b });\nconst t = StyleSheet.create(x);"

/-- The sheets of an extraction by their names and those of their keys. -/
def sheetKeys (extraction : Extraction) : List (String × List (String × Nat)) :=
  extraction.sheets.map fun sheet =>
    (sheet.identifier, sheet.keys.map fun key => (key.name, key.span.start.column))

theorem nested_extracted : nested.NamesBindings .standard ∧
    (extractSheets nested (.declared .standard)).result.toOption.map sheetKeys =
      some [("s", [("a", 50)]), ("t", [("e", 91)])] ∧
    (extractSheets nested (.declared .standard)).notices =
      [.skippedMember "Card.js" 1 "spread_element" "s", .skippedComputedKey "Card.js" 1 "s"] := by
  unfold Source.NamesBindings
  decide +kernel

theorem refused_fails : refused.NamesBindings .standard ∧
    (extractSheets refused (.declared .standard)).result = .error (.failure (.unsupported "Card.js"
      "StyleSheet.create() on line 2 is not given an object literal")) := by
  unfold Source.NamesBindings
  decide +kernel

end Sample

/-- The outer sheet comes first and has the later declaration of its key, and two of its members are
noted. In the other file the second call is the first without a literal. -/
theorem sample_declared_extraction :
    (Sample.nested.NamesBindings .standard ∧
      (∀ call ∈ Sample.nested.calls .standard, ∃ literal, call.node.IsGiven literal) ∧
      ∃ parts, List.Forall₂ Sample.nested.Declares (Sample.nested.calls .standard) parts ∧
        parts.flatMap (·.2) =
          [.skippedMember "Card.js" 1 "spread_element" "s", .skippedComputedKey "Card.js" 1 "s"] ∧
        Sample.sheetKeys ⟨parts.map (·.1), Text.splitLines Sample.nested.text⟩ =
          [("s", [("a", 50)]), ("t", [("e", 91)])]) ∧
    (Sample.refused.NamesBindings .standard ∧
      ∃ before call after callee, Sample.refused.calls .standard = before ++ call :: after ∧
        (∀ earlier ∈ before, ∃ literal, earlier.node.IsGiven literal) ∧
        (¬ ∃ literal, call.node.IsGiven literal) ∧
        Sample.refused.refusal call callee = .unsupported "Card.js"
          "StyleSheet.create() on line 2 is not given an object literal") := by
  obtain ⟨named, keys, notices⟩ := Sample.nested_extracted
  obtain ⟨refusedNamed, failed⟩ := Sample.refused_fails
  obtain ⟨failing, _, success, _⟩ := declared_extraction_exact Sample.nested .standard named
  obtain ⟨refusing, first, _, _⟩ :=
    declared_extraction_exact Sample.refused .standard refusedNamed
  have given : ∀ call ∈ Sample.nested.calls .standard, ∃ literal, call.node.IsGiven literal := by
    intro call member
    by_contra missing
    obtain ⟨fault, impossible⟩ := failing.mpr ⟨call, member, missing⟩
    rw [impossible] at keys
    cases keys
  obtain ⟨parts, declared, whole⟩ := success given
  rw [whole] at keys notices
  obtain ⟨before, call, after, order, earlier, missing⟩ :=
    exists_first_not (refusing.mp ⟨_, failed⟩)
  obtain ⟨callee, _, _, _, ended⟩ := first before call after order earlier missing
  rw [ended] at failed
  injection failed with same
  injection same with same
  exact ⟨⟨named, given, parts, declared, notices, Option.some.inj keys⟩,
    refusedNamed, before, call, after, callee, order, earlier, missing, same⟩

end StyleAudit
