import StyleAudit.Proofs.Keyed
import StyleAudit.Sheet

/-!
The keys of a sheet.

A sheet names each of its keys once, and holds no declaration that was not made.
-/

set_option autoImplicit false

namespace StyleAudit.Sheet

theorem foldl_declare_keyNames_nodup (declarations : List KeyDeclaration) (sheet : Sheet)
    (apart : sheet.keyNames.Nodup) : (declarations.foldl declare sheet).keyNames.Nodup := by
  induction declarations generalizing sheet with
  | nil => exact apart
  | cons declaration rest ih => exact ih _ (Keyed.map_put_nodup _ declaration sheet.keys apart)

theorem mem_foldl_declare (declarations : List KeyDeclaration) (sheet : Sheet)
    (key : KeyDeclaration) (member : key ∈ (declarations.foldl declare sheet).keys) :
    key ∈ sheet.keys ∨ key ∈ declarations := by
  induction declarations generalizing sheet with
  | nil => exact Or.inl member
  | cons declaration rest ih =>
      rcases ih (sheet.declare declaration) member with declared | later
      · rcases Keyed.mem_put _ declared with rfl | earlier
        · exact Or.inr List.mem_cons_self
        · exact Or.inl earlier
      · exact Or.inr (List.mem_cons_of_mem _ later)

/-- A sheet that declares its keys one after the other names each of them once. -/
theorem ofDeclarations_keyNames_nodup (identifier : String) (span : Option Span)
    (declarations : List KeyDeclaration) :
    (ofDeclarations identifier span declarations).keyNames.Nodup :=
  foldl_declare_keyNames_nodup declarations _ List.nodup_nil

theorem mem_ofDeclarations {identifier : String} {span : Option Span}
    {declarations : List KeyDeclaration} {key : KeyDeclaration}
    (member : key ∈ (ofDeclarations identifier span declarations).keys) : key ∈ declarations := by
  rcases mem_foldl_declare declarations _ key member with impossible | declared
  · cases impossible
  · exact declared

/-- Declaring keys touches neither the identifier of a sheet nor its place. -/
theorem foldl_declare_frame (declarations : List KeyDeclaration) (sheet : Sheet) :
    (declarations.foldl declare sheet).identifier = sheet.identifier ∧
      (declarations.foldl declare sheet).span = sheet.span := by
  induction declarations generalizing sheet with
  | nil => exact ⟨rfl, rfl⟩
  | cons declaration rest ih => exact ih (sheet.declare declaration)

@[simp] theorem ofDeclarations_identifier (identifier : String) (span : Option Span)
    (declarations : List KeyDeclaration) :
    (ofDeclarations identifier span declarations).identifier = identifier :=
  (foldl_declare_frame declarations _).1

@[simp] theorem ofDeclarations_span (identifier : String) (span : Option Span)
    (declarations : List KeyDeclaration) :
    (ofDeclarations identifier span declarations).span = span :=
  (foldl_declare_frame declarations _).2

/-- Whether a sheet holds exactly some declared keys: each name in the place of its first
declaration, as the last one has it. -/
structure Merges (sheet : Sheet) (declarations : List KeyDeclaration) : Prop where
  names : sheet.keyNames = (declarations.map (·.name)).eraseDups
  last : ∀ key ∈ sheet.keys, ∃ before after, declarations = before ++ key :: after ∧
    ∀ later ∈ after, later.name ≠ key.name

theorem foldl_declare_keys (declarations : List KeyDeclaration) (sheet : Sheet) :
    (declarations.foldl declare sheet).keys =
      declarations.foldl (fun keys key => Keyed.put (·.name) key keys) sheet.keys := by
  induction declarations generalizing sheet with
  | nil => rfl
  | cons declaration rest ih => exact ih (sheet.declare declaration)

theorem ofDeclarations_merges (identifier : String) (span : Option Span)
    (declarations : List KeyDeclaration) :
    (ofDeclarations identifier span declarations).Merges declarations := by
  have keys : (ofDeclarations identifier span declarations).keys =
      declarations.foldl (fun keys key => Keyed.put (·.name) key keys) [] :=
    foldl_declare_keys declarations _
  refine ⟨?_, ?_⟩
  · rw [keyNames, keys]
    exact Keyed.foldl_put_keys KeyDeclaration.name declarations
  · intro key member
    rw [keys] at member
    exact Keyed.exists_last_of_mem_foldl_put KeyDeclaration.name member

/-- A sheet without keys was given none. -/
theorem Merges.keys_eq_nil_iff {sheet : Sheet} {declarations : List KeyDeclaration}
    (merges : sheet.Merges declarations) : sheet.keys = [] ↔ declarations = [] := by
  have names := merges.names
  constructor
  · intro empty
    rw [keyNames, empty, List.map_nil] at names
    cases declarations with
    | nil => rfl
    | cons declaration rest =>
        rw [List.map_cons, List.eraseDups_cons] at names
        cases names
  · rintro rfl
    rw [List.map_nil, List.eraseDups_nil, keyNames, List.map_eq_nil_iff] at names
    exact names

theorem declares_iff (sheet : Sheet) (name : String) :
    sheet.declares name = true ↔ name ∈ sheet.keyNames := by
  simp only [declares, List.contains_iff_mem]

end StyleAudit.Sheet
