import Mathlib.Data.List.Flatten
import StyleAudit.Proofs.Accounting

/-!
What the names through which styles are read change.

They act as a set, to which the sheets' own names belong anyway. A name more only adds references
between the others: what was unused may be unused no more, and more may be missing. Whether there is
a result, and which failure there is otherwise, does not depend on them.
-/

set_option autoImplicit false

namespace StyleAudit

/-- Settings with given names through which styles are read. -/
def Settings.withStylesNames (settings : Settings) (names : List String) : Settings :=
  { settings with stylesNames := .listed names }

/-- What a report becomes when more names are accepted. -/
structure SheetReport.Widens (report wider : SheetReport) : Prop where
  identifier : wider.identifier = report.identifier
  span : wider.span = report.span
  code : wider.code = report.code
  unused : wider.unused.Sublist report.unused
  missing : report.missing.Sublist wider.missing

/-- What a result becomes when more names are accepted. -/
structure AnalysisResult.Widens (result wider : AnalysisResult) : Prop where
  lines : wider.lines = result.lines
  sheets : List.Forall₂ SheetReport.Widens result.sheets wider.sheets

/-! ### References -/

section References

variable {names more : List String} (subset : names ⊆ more)

include subset

theorem isStylesAccess_of_subset {source : List Char} {site : Site}
    (reads : site.isStylesAccess names source = true) :
    site.isStylesAccess more source = true := by
  simp only [Site.isStylesAccess, Bool.and_eq_true, Option.any_eq_true, Node.isIdentifierIn,
    List.contains_iff_mem] at reads ⊢
  obtain ⟨⟨shape, object, held, kind, accepted⟩, property⟩ := reads
  exact ⟨⟨shape, object, held, kind, subset accepted⟩, property⟩

theorem Source.references_sublist (source : Source) :
    (source.references names).Sublist (source.references more) :=
  (List.monotone_filter_right _ fun _ => isStylesAccess_of_subset subset).map _

theorem ReferenceCollection.keys_sublist (sources : List Source) :
    (ofSources names sources).keys.Sublist (ofSources more sources).keys := by
  rw [keys, keys, ofSources_references, ofSources_references]
  exact (List.Sublist.flatMap_right _ fun source _ => source.references_sublist subset).map _

/-! ### Reports -/

theorem findUnused_sublist (sheet : Sheet) (lines : List String) (sources : List Source) :
    (findUnused sheet lines (.ofSources more sources)).Sublist
      (findUnused sheet lines (.ofSources names sources)) := by
  rw [findUnused_eq, findUnused_eq]
  apply List.Sublist.map
  apply List.monotone_filter_right
  intro key unread
  rw [decide_eq_true_eq] at unread ⊢
  exact fun read => unread ((ReferenceCollection.keys_sublist subset sources).subset read)

theorem Source.missing_sublist (sheet : Sheet) (sharedKeys : List String) (source : Source) :
    (source.missing sheet sharedKeys names).Sublist (source.missing sheet sharedKeys more) :=
  ((source.references_sublist subset).filter _).map _

theorem reportOn_widens (lines : List String) (sources : List Source) (sharedKeys : List String)
    (sheet : Sheet) :
    (reportOn lines names sources sharedKeys sheet).Widens
      (reportOn lines more sources sharedKeys sheet) where
  identifier := rfl
  span := rfl
  code := rfl
  unused := findUnused_sublist subset sheet lines sources
  missing := List.Sublist.flatMap_right _ fun source _ =>
    source.missing_sublist subset sheet sharedKeys

end References

/-! ### The analysis -/

/-- The steps of an analysis that do not depend on the accepted names, with what they read. -/
def Reading.inputs (reading : Reading) (settings : Settings) (target : Path)
    (shared : Option Path) : Except Fault (Extraction × List String × List Source) := do
  let extraction ← (reading.declaredSheets settings target).result
  let sharedKeys ← (reading.sharedKeys shared).result
  let sources ← reading.siblingSources target
  return (extraction, sharedKeys, sources)

/-- The result of an analysis whose inputs are read. -/
def resultOn (names : List String) (inputs : Extraction × List String × List Source) :
    AnalysisResult :=
  ⟨inputs.1.sheets.map (reportOn inputs.1.lines (names ++ inputs.1.sheets.map Sheet.identifier)
    inputs.2.2 inputs.2.1), inputs.1.lines⟩

theorem analyze_withStylesNames_result (reading : Reading) (settings : Settings)
    (names : List String) (target : Path) (shared : Option Path) :
    (analyze reading (settings.withStylesNames names) target shared).result =
      (reading.inputs settings target shared).map (resultOn names) := by
  rw [analyze_result]
  show (do
    let extraction ← (reading.declaredSheets settings target).result
    let sharedKeys ← (reading.sharedKeys shared).result
    let sources ← reading.siblingSources target
    return resultOn names (extraction, sharedKeys, sources)) = _
  rw [Reading.inputs]
  cases (reading.declaredSheets settings target).result with
  | error fault => rfl
  | ok extraction =>
      cases (reading.sharedKeys shared).result with
      | error fault => rfl
      | ok sharedKeys => cases reading.siblingSources target <;> rfl

theorem analyze_withStylesNames_ok_iff (reading : Reading) (settings : Settings)
    (names : List String) (target : Path) (shared : Option Path) (result : AnalysisResult) :
    (analyze reading (settings.withStylesNames names) target shared).result = .ok result ↔
      ∃ inputs, reading.inputs settings target shared = .ok inputs ∧
        resultOn names inputs = result := by
  rw [analyze_withStylesNames_result, map_eq_ok_iff]

theorem analyze_withStylesNames_error_iff (reading : Reading) (settings : Settings)
    (names : List String) (target : Path) (shared : Option Path) (fault : Fault) :
    (analyze reading (settings.withStylesNames names) target shared).result = .error fault ↔
      reading.inputs settings target shared = .error fault := by
  rw [analyze_withStylesNames_result]
  cases reading.inputs settings target shared <;> simp [Except.map]

theorem resultOn_widens {names more : List String} (subset : names ⊆ more)
    (inputs : Extraction × List String × List Source) :
    (resultOn names inputs).Widens (resultOn more inputs) where
  lines := rfl
  sheets := by
    rw [resultOn, resultOn, List.forall₂_map_left_iff, List.forall₂_map_right_iff,
      List.forall₂_same]
    intro sheet _
    exact reportOn_widens (List.append_subset.mpr ⟨fun _ member =>
      List.mem_append_left _ (subset member), List.subset_append_right _ _⟩) _ _ _ _

/-- Only the set of accepted names matters, the sheets' own names included. -/
theorem analyze_withStylesNames_congr (reading : Reading) (settings : Settings)
    {names more : List String} (target : Path) (shared : Option Path)
    (same : ∀ extraction, (reading.declaredSheets settings target).result = .ok extraction →
      ∀ name, name ∈ more ++ extraction.sheets.map Sheet.identifier ↔
        name ∈ names ++ extraction.sheets.map Sheet.identifier) :
    analyze reading (settings.withStylesNames more) target shared =
      analyze reading (settings.withStylesNames names) target shared := by
  unfold analyze
  apply Audit.bind_congr
  intro extraction declared
  apply Audit.bind_congr
  intro sharedKeys _
  have references : reading.siblingReferences target (acceptedNames more extraction.sheets) =
      reading.siblingReferences target (acceptedNames names extraction.sheets) := by
    have accepted : ∀ name, name ∈ acceptedNames more extraction.sheets ↔
        name ∈ acceptedNames names extraction.sheets := by
      intro name
      rw [mem_acceptedNames_iff, mem_acceptedNames_iff]
      exact same extraction declared name
    rw [Reading.siblingReferences_eq, Reading.siblingReferences_eq,
      funext (ReferenceCollection.ofSources_congr accepted)]
  show Audit.bind (Audit.ofExcept (.ok more)) _ = Audit.bind (Audit.ofExcept (.ok names)) _
  simp only [Audit.bind, Audit.ofExcept, references]

/-- With more accepted names an analysis ends in the same failure or in a wider result. It ends the
same way where the names are the same in another order or number, or where those that are new belong
to sheets of the target. -/
theorem analyze_more_names (reading : Reading) (settings : Settings) (names more : List String)
    (target : Path) (shared : Option Path) (subset : names ⊆ more) :
    (∀ fault, (analyze reading (settings.withStylesNames names) target shared).result =
        .error fault ↔
      (analyze reading (settings.withStylesNames more) target shared).result = .error fault) ∧
    ((∃ result, (analyze reading (settings.withStylesNames names) target shared).result =
        .ok result) ↔
      ∃ wider, (analyze reading (settings.withStylesNames more) target shared).result =
        .ok wider) ∧
    (∀ result wider,
      (analyze reading (settings.withStylesNames names) target shared).result = .ok result →
      (analyze reading (settings.withStylesNames more) target shared).result = .ok wider →
      result.Widens wider) ∧
    (more ⊆ names → analyze reading (settings.withStylesNames more) target shared =
      analyze reading (settings.withStylesNames names) target shared) ∧
    ∀ extraction, (reading.declaredSheets settings target).result = .ok extraction →
      more ⊆ names ++ extraction.sheets.map Sheet.identifier →
      analyze reading (settings.withStylesNames more) target shared =
        analyze reading (settings.withStylesNames names) target shared := by
  refine ⟨?_, ?_, ?_, ?_, ?_⟩
  · intro fault
    rw [analyze_withStylesNames_error_iff, analyze_withStylesNames_error_iff]
  · simp only [analyze_withStylesNames_ok_iff]
    constructor
    · rintro ⟨_, inputs, read, _⟩
      exact ⟨_, inputs, read, rfl⟩
    · rintro ⟨_, inputs, read, _⟩
      exact ⟨_, inputs, read, rfl⟩
  · intro result wider narrow wide
    obtain ⟨inputs, read, rfl⟩ := (analyze_withStylesNames_ok_iff ..).mp narrow
    obtain ⟨others, readAgain, rfl⟩ := (analyze_withStylesNames_ok_iff ..).mp wide
    rw [read] at readAgain
    cases readAgain
    exact resultOn_widens subset inputs
  · intro back
    apply analyze_withStylesNames_congr
    intro extraction _ name
    simp only [List.mem_append]
    exact or_congr_left ⟨fun member => back member, fun member => subset member⟩
  · intro extraction declared own
    apply analyze_withStylesNames_congr
    intro found foundDeclared name
    rw [declared] at foundDeclared
    cases foundDeclared
    constructor
    · intro accepted
      rcases List.mem_append.mp accepted with member | identifier
      · exact own member
      · exact List.mem_append_right _ identifier
    · intro accepted
      rcases List.mem_append.mp accepted with member | identifier
      · exact List.mem_append_left _ (subset member)
      · exact List.mem_append_right _ identifier

namespace Sample

def aliasedText : String :=
  "const s = StyleSheet.create({ a: {}, b: {} });"

def aliasingText : String :=
  "looks.a; s.b; looks.c;"

/-- A component with a file beside it that reads its sheet under another name too. -/
def aliasedStore : FileStore :=
  ⟨[(["Card.js"], aliasedText.toUTF8.toList), (["View.js"], aliasingText.toUTF8.toList)], [], []⟩

/-- For each sheet the keys that are unused and those that are missing. -/
def findingKeys (result : AnalysisResult) : List (List String × List String) :=
  result.sheets.map fun report => (report.unused.map (·.key), report.missing.map (·.key))

theorem siblings_aliased : siblings aliasedStore card = .ok [⟨.here, ["View.js"]⟩] := by
  rw [siblings_eq_ok_iff]
  exact ⟨by decide +kernel, suffixPattern, by decide +kernel,
    Path.sort_eq_of_perm (by decide +kernel) (by decide +kernel)⟩

theorem inputs_aliased : Reading.inputs ⟨aliasedStore, Script.readers.parse⟩ .standard card none =
    .ok (⟨[⟨"s", some ⟨⟨1, 6⟩, ⟨1, 7⟩⟩,
      [⟨"a", ⟨⟨1, 30⟩, ⟨1, 35⟩⟩⟩, ⟨"b", ⟨⟨1, 37⟩, ⟨1, 42⟩⟩⟩]⟩], [aliasedText]⟩, [],
      [sourceOf "View.js" aliasingText]) := by
  have declared : (Reading.declaredSheets ⟨aliasedStore, Script.readers.parse⟩ .standard
      card).result = .ok ⟨[⟨"s", some ⟨⟨1, 6⟩, ⟨1, 7⟩⟩,
        [⟨"a", ⟨⟨1, 30⟩, ⟨1, 35⟩⟩⟩, ⟨"b", ⟨⟨1, 37⟩, ⟨1, 42⟩⟩⟩]⟩], [aliasedText]⟩ := by
    decide +kernel
  have sources : Reading.siblingSources ⟨aliasedStore, Script.readers.parse⟩ card =
      .ok [sourceOf "View.js" aliasingText] := by
    rw [Reading.siblingSources_eq_ok_iff]
    exact ⟨_, siblings_aliased, .cons (source_plain (by decide +kernel) (by decide +kernel)) .nil⟩
  rw [Reading.inputs, declared, Reading.sharedKeys_none_result, sources]
  rfl

end Sample

/-- With the other name accepted, in whatever number, a key is used that was unused, and one is
missing. The sheet's own name adds nothing. -/
theorem sample_more_names :
    ["styles"] ⊆ ["looks", "styles", "looks"] ∧
    ∃ result wider,
      (analyze ⟨Sample.aliasedStore, Script.readers.parse⟩
        (Settings.standard.withStylesNames ["styles"]) Sample.card none).result = .ok result ∧
      (analyze ⟨Sample.aliasedStore, Script.readers.parse⟩
        (Settings.standard.withStylesNames ["looks", "styles", "looks"]) Sample.card none).result =
        .ok wider ∧
      Sample.findingKeys result = [(["a"], [])] ∧ Sample.findingKeys wider = [([], ["c"])] ∧
      result.Widens wider ∧
      analyze ⟨Sample.aliasedStore, Script.readers.parse⟩
          (Settings.standard.withStylesNames ["s", "styles"]) Sample.card none =
        analyze ⟨Sample.aliasedStore, Script.readers.parse⟩
          (Settings.standard.withStylesNames ["styles"]) Sample.card none := by
  have subset : ["styles"] ⊆ ["looks", "styles", "looks"] := by decide
  have own : ["styles"] ⊆ ["s", "styles"] := by decide
  have narrow := (analyze_withStylesNames_ok_iff _ _ ["styles"] _ _ _).mpr
    ⟨_, Sample.inputs_aliased, rfl⟩
  have wide := (analyze_withStylesNames_ok_iff _ _ ["looks", "styles", "looks"] _ _ _).mpr
    ⟨_, Sample.inputs_aliased, rfl⟩
  obtain ⟨_, _, widens, _, _⟩ := analyze_more_names ⟨Sample.aliasedStore, Script.readers.parse⟩
    .standard ["styles"] ["looks", "styles", "looks"] Sample.card none subset
  obtain ⟨_, _, _, _, ownNames⟩ := analyze_more_names ⟨Sample.aliasedStore, Script.readers.parse⟩
    .standard ["styles"] ["s", "styles"] Sample.card none own
  refine ⟨subset, _, _, narrow, wide, ?_, ?_, widens _ _ narrow wide, ?_⟩
  · decide +kernel
  · decide +kernel
  · obtain ⟨extraction, declared, identifiers⟩ : ∃ extraction,
        (Reading.declaredSheets ⟨Sample.aliasedStore, Script.readers.parse⟩ .standard
          Sample.card).result = .ok extraction ∧
        extraction.sheets.map Sheet.identifier = ["s"] := by
      apply exists_ok_of_toOption_map
      decide +kernel
    apply ownNames extraction declared
    rw [identifiers]
    decide

end StyleAudit
