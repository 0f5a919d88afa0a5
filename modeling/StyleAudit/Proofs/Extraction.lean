import StyleAudit.Extraction
import StyleAudit.Proofs.Audit
import StyleAudit.Proofs.Position
import StyleAudit.Proofs.Sheet

/-!
What an extraction yields.

A factory call yields a sheet exactly when it is given an object literal and bound to a name. A
shared style file always yields its one sheet.
-/

set_option autoImplicit false

namespace StyleAudit

/-- A sheet whose keys have different names, each declared on lines that its source can have. -/
structure Sheet.WellPlaced (sheet : Sheet) : Prop where
  apart : sheet.keyNames.Nodup
  keys : ∀ key ∈ sheet.keys, key.span.OnLines
  span : ∀ span, sheet.span = some span → span.OnLines

/-- Whether the first argument of a call is an object literal. -/
def Node.IsGivenLiteral (call : Node) : Prop :=
  ∃ literal, call.firstArgument? = some literal ∧ literal.kind = "object"

/-- The line of a node is the one on which its span starts. -/
theorem Node.line_eq (source : List Char) (node : Node) :
    node.line source = (node.span .characters source).start.line :=
  Position.after_line_congr .bytes .characters rfl source node.start

theorem MemberReading.ofMember_key_onLines {path sheet : String} {source : List Char}
    {member : Node} {key : KeyDeclaration}
    (declared : (MemberReading.ofMember path source sheet member).key? = some key) :
    key.span.OnLines := by
  unfold MemberReading.ofMember at declared
  split at declared
  · split at declared
    · cases declared
      exact spanBetween_onLines _ _ _ _
    · cases declared
  · split at declared <;> cases declared

theorem ofDeclarations_wellPlaced (identifier : String) (span : Option Span)
    (declarations : List KeyDeclaration) (keys : ∀ key ∈ declarations, key.span.OnLines)
    (place : ∀ found, span = some found → found.OnLines) :
    (Sheet.ofDeclarations identifier span declarations).WellPlaced := by
  refine ⟨Sheet.ofDeclarations_keyNames_nodup _ _ _, ?_, ?_⟩
  · intro key member
    exact keys key (Sheet.mem_ofDeclarations member)
  · intro found same
    rw [Sheet.ofDeclarations_span] at same
    exact place found same

theorem sheetOfCall_wellPlaced {path : String} {source : List Char} {call : Site} {sheet : Sheet}
    (success : (sheetOfCall path source call).result = .ok sheet) : sheet.WellPlaced := by
  unfold sheetOfCall at success
  split at success
  · cases success
  · split at success
    · cases success
    · rw [Audit.notify_bind_result, Audit.pure_result] at success
      cases success
      apply ofDeclarations_wellPlaced
      · intro key member
        obtain ⟨reading, read, declared⟩ := List.mem_filterMap.mp member
        obtain ⟨member, _, rfl⟩ := List.mem_map.mp read
        exact MemberReading.ofMember_key_onLines declared
      · rintro found ⟨⟩
        exact spanBetween_onLines _ _ _ _

theorem filter_object_eq_none_iff (call : Node) :
    call.firstArgument?.filter (·.kind == "object") = none ↔ ¬ call.IsGivenLiteral := by
  cases first : call.firstArgument? with
  | none => simp [Node.IsGivenLiteral, first]
  | some argument => simp [Node.IsGivenLiteral, first, Option.filter]

/-- A call that is not given a literal is refused for that, whatever it is bound to. -/
theorem sheetOfCall_of_not_literal (path : String) (source : List Char) (call : Site)
    (missing : ¬ call.node.IsGivenLiteral) :
    (sheetOfCall path source call).result =
      .error (.failure (unsupportedCall path source call.node)) := by
  rw [← filter_object_eq_none_iff] at missing
  simp only [sheetOfCall, missing, Audit.fail_result]

theorem sheetOfCall_of_literal (path : String) (source : List Char) (call : Site)
    (literal : call.node.IsGivenLiteral)
    (named : (call.parent?.bind (·.node.child? "name")).isSome) :
    ∃ sheet, (sheetOfCall path source call).result = .ok sheet := by
  unfold sheetOfCall
  split
  · rename_i refused
    exact absurd literal ((filter_object_eq_none_iff call.node).mp refused)
  · split
    · rename_i unnamed
      rw [unnamed] at named
      cases named
    · exact ⟨_, rfl⟩

theorem declaredSheets_wellPlaced {path : String} {source : List Char} {factories : Factories}
    {root : Node} {sheets : List Sheet}
    (success : (declaredSheets path source factories root).result = .ok sheets) :
    ∀ sheet ∈ sheets, sheet.WellPlaced := by
  rw [declaredSheets, Audit.mapM_result, mapM_eq_ok_iff] at success
  intro sheet member
  obtain ⟨index, inside, rfl⟩ := List.mem_iff_getElem.mp member
  have position : index < (creationCalls factories source root).length := by
    rw [success.length_eq]
    exact inside
  exact sheetOfCall_wellPlaced (success.get position inside)

/-- A shared style file yields its sheet, whatever it holds. -/
theorem sharedSheet_result (path : String) (source : List Char) (root : Node) :
    (sharedSheet path source root).result =
      .ok (.ofDeclarations sharedSheetName none
        ((leafObjects root).filterMap (sharedKey? source))) := by
  unfold sharedSheet
  simp only [Audit.notify_bind_result]
  split
  · simp only [Audit.notify_bind_result, Audit.pure_result]
  · simp only [Audit.pure_result]

theorem extractSheets_declared_result (source : Source) (factories : Factories) :
    (extractSheets source (.declared factories)).result =
      (declaredSheets source.path source.text.toList factories source.root).result.map
        (⟨·, Text.splitLines source.text⟩) := by
  simp only [extractSheets, Audit.bind_result]
  cases (declaredSheets source.path source.text.toList factories source.root).result <;> rfl

theorem extractSheets_shared_result (source : Source) :
    (extractSheets source .shared).result =
      .ok ⟨[.ofDeclarations sharedSheetName none
        ((leafObjects source.root).filterMap (sharedKey? source.text.toList))],
        Text.splitLines source.text⟩ := by
  simp only [extractSheets, Audit.bind_result, Audit.map_result, sharedSheet_result]
  rfl

end StyleAudit
