import StyleAudit.Parse
import StyleAudit.Proofs.Location
import StyleAudit.Proofs.Sites

/-!
Where a syntax error is reported.

A source is refused when both of its readings have an error, and then at the first faulty node of
the plain reading. In a tree whose nodes enclose their children one behind the other, no listed node
starts before an earlier one, so the first faulty node is the one that starts first in the text. The
column reported for it counts bytes.
-/

set_option autoImplicit false

namespace StyleAudit

/-! ### Faulty nodes -/

/-- Whether a tree has a faulty node. -/
def Node.HoldsFault (root : Node) : Prop :=
  ∃ site ∈ root.sites, site.node.faulty = true

/-- Whether a tree is held to be wrong only where one of its nodes is. -/
def SyntaxTree.MarksErrors (tree : SyntaxTree) : Prop :=
  tree.hasError = true → tree.root.HoldsFault

/-- Whether the children of a node are ranges within it, each of them ending no later than the next
one begins. -/
structure Node.Encloses (node : Node) : Prop where
  within : ∀ child ∈ node.children,
    node.start ≤ child.start ∧ child.start ≤ child.stop ∧ child.stop ≤ node.stop
  apart : node.children.IsChain fun earlier later => earlier.stop ≤ later.start

/-- Whether every node of a tree encloses its children. -/
def Node.IsNested (root : Node) : Prop :=
  ∀ site ∈ root.sites, site.node.Encloses

namespace Node

instance (node : Node) : Decidable node.Encloses :=
  decidable_of_iff (_ ∧ _) ⟨fun both => ⟨both.1, both.2⟩, fun both => ⟨both.within, both.apart⟩⟩

end Node

theorem firstFaulty?_eq (root : Node) :
    Readers.firstFaulty? root = (root.sites.find? (·.node.faulty)).map (·.node) := by
  rw [Readers.firstFaulty?, ← Node.sites_nodes, List.find?_map]
  rfl

theorem SyntaxTree.MarksErrors.hasError_iff {tree : SyntaxTree} (marks : tree.MarksErrors) :
    tree.hasError = true ↔ tree.root.HoldsFault := by
  refine ⟨marks, ?_⟩
  rintro ⟨site, listed, faulty⟩
  rw [hasError, Bool.or_eq_true, List.any_eq_true, ← Node.sites_nodes]
  exact Or.inr ⟨site.node, List.mem_map_of_mem listed, faulty⟩

/-! ### Nodes in the order of the text -/

/-- Neighbours that are apart make all nodes apart, as no node ends before it starts. -/
theorem pairwise_apart {nodes : List Node} (valid : ∀ node ∈ nodes, node.start ≤ node.stop)
    (apart : nodes.IsChain fun earlier later => earlier.stop ≤ later.start) :
    nodes.Pairwise fun earlier later => earlier.stop ≤ later.start := by
  induction nodes with
  | nil => exact .nil
  | cons first rest ih =>
      cases rest with
      | nil => exact List.pairwise_singleton _ first
      | cons second more =>
          obtain ⟨next, following⟩ := List.isChain_cons_cons.mp apart
          have others := ih (fun node member => valid node (List.mem_cons_of_mem first member))
            following
          refine List.pairwise_cons.mpr ⟨?_, others⟩
          intro later member
          rcases List.mem_cons.mp member with rfl | further
          · exact next
          · have proper := valid second (by simp)
            have behind := (List.pairwise_cons.mp others).1 later further
            omega

namespace Site

variable {site : Site}

theorem encloses_of_mem_children (nested : ∀ inner ∈ site.listing, inner.node.Encloses)
    {child : Site} (member : child ∈ site.children) :
    ∀ inner ∈ child.listing, inner.node.Encloses :=
  fun inner listed => nested inner ((mem_listing_iff inner site).mpr (Or.inr ⟨child, member, listed⟩))

/-- Whatever is listed of a site starts within it. -/
theorem listing_within (nested : ∀ inner ∈ site.listing, inner.node.Encloses)
    (proper : site.node.start ≤ site.node.stop) {inner : Site} (listed : inner ∈ site.listing) :
    site.node.start ≤ inner.node.start ∧ inner.node.start ≤ site.node.stop := by
  induction site using induction with
  | step site ih =>
      rcases (mem_listing_iff inner site).mp listed with rfl | ⟨child, member, deeper⟩
      · exact ⟨Nat.le_refl _, proper⟩
      · obtain ⟨_, held, _⟩ := (mem_children_iff site child).mp member
        obtain ⟨front, valid, back⟩ := (nested site (mem_listing_self site)).within child.node
          (List.mem_of_getElem? held)
        have inside := ih child member (encloses_of_mem_children nested member) valid deeper
        omega

/-- A nested tree is listed in the order in which its nodes start. -/
theorem listing_starts (nested : ∀ inner ∈ site.listing, inner.node.Encloses) :
    site.listing.Pairwise fun earlier later => earlier.node.start ≤ later.node.start := by
  induction site using induction with
  | step site ih =>
      have own := nested site (mem_listing_self site)
      have valid : ∀ child ∈ site.children, site.node.start ≤ child.node.start ∧
          child.node.start ≤ child.node.stop := by
        intro child member
        obtain ⟨_, held, _⟩ := (mem_children_iff site child).mp member
        have within := own.within child.node (List.mem_of_getElem? held)
        exact ⟨within.1, within.2.1⟩
      have apart : site.children.Pairwise fun earlier later =>
          earlier.node.stop ≤ later.node.start := by
        have nodes := pairwise_apart (fun child member => (own.within child member).2.1) own.apart
        rw [← children_nodes] at nodes
        exact List.pairwise_map.mp nodes
      -- The node itself comes before all that lies within it, each child's listing is in order by
      -- induction, and what is listed of two children is kept apart by their ranges.
      rw [listing_eq, List.pairwise_cons, List.pairwise_flatMap]
      refine ⟨?_, ?_, ?_⟩
      · intro later member
        obtain ⟨child, ofSite, listed⟩ := List.mem_flatMap.mp member
        have inside := listing_within (encloses_of_mem_children nested ofSite)
          (valid child ofSite).2 listed
        have first := (valid child ofSite).1
        omega
      · intro child member
        exact ih child member (encloses_of_mem_children nested member)
      · refine apart.imp_of_mem ?_
        intro first second firstMember secondMember behind earlier listed later laterListed
        have before := listing_within (encloses_of_mem_children nested firstMember)
          (valid first firstMember).2 listed
        have after := listing_within (encloses_of_mem_children nested secondMember)
          (valid second secondMember).2 laterListed
        omega

end Site

/-! ### Refusals -/

namespace Readers

variable {readers : Readers} {text : String} (path : String)

/-- A refusal that tells a place tells that of the first faulty node of the plain reading. -/
theorem position_of_refused {node : Node} {position : Position}
    (first : firstFaulty? (readers.plain text).root = some node)
    (failed : readers.parse text path = .error (.syntaxError path (some position))) :
    position = (node.span .bytes text.toList).start := by
  unfold parse at failed
  cases plain : (readers.plain text).hasError with
  | false =>
      rw [read_of_plain path plain] at failed
      cases failed
  | true =>
      cases typed : (readers.typed text).hasError with
      | false =>
          rw [read_of_typed path plain typed] at failed
          cases failed
      | true =>
          rw [read_of_refused path plain typed, first] at failed
          cases failed
          rfl

end Readers

/-- A tree with a faulty node has a first one in the order of the traversal. -/
theorem Node.HoldsFault.exists_first {root : Node} (fault : root.HoldsFault) :
    ∃ before first after, Site.traverse [Site.root root] = before ++ first :: after ∧
      first.node.faulty = true ∧ (∀ earlier ∈ before, earlier.node.faulty = false) ∧
      Readers.firstFaulty? root = some first.node := by
  obtain ⟨first, found⟩ : ∃ first, root.sites.find? (·.node.faulty) = some first := by
    rw [← Option.isSome_iff_exists, List.find?_isSome]
    exact fault
  obtain ⟨faulty, before, after, split, earlier⟩ := List.find?_eq_some_iff_append.mp found
  refine ⟨before, first, after, ?_, faulty, ?_, ?_⟩
  · rw [Node.traverse_root, split]
  · intro site member
    simpa using earlier site member
  · rw [firstFaulty?_eq, found, Option.map_some]

/-- In a nested tree no faulty node starts before the one that is listed first. -/
theorem Node.IsNested.start_le {root : Node} (nested : root.IsNested) {before after : List Site}
    {first : Site} (split : Site.traverse [Site.root root] = before ++ first :: after)
    (earlier : ∀ site ∈ before, site.node.faulty = false) {site : Site}
    (listed : site ∈ root.sites) (faulty : site.node.faulty = true) :
    first.node.start ≤ site.node.start := by
  have starts : root.sites.Pairwise fun earlier later => earlier.node.start ≤ later.node.start :=
    @Site.listing_starts (Site.root root) nested
  rw [← Node.traverse_root, split] at starts listed
  rcases List.mem_append.mp listed with front | back
  · rw [earlier site front] at faulty
    cases faulty
  · rcases List.mem_cons.mp back with rfl | later
    · exact Nat.le_refl _
    · exact (List.pairwise_cons.mp (List.pairwise_append.mp starts).2.1).1 site later

/-- A source is read without types exactly when that reading has no faulty node, with types exactly
when only the reading without types has one, and refused otherwise, always with a place: that of the
first faulty node of the reading without types, before which none starts. -/
theorem syntaxError_earliest (readers : Readers) (text path : String)
    (plainMarks : (readers.plain text).MarksErrors) (typedMarks : (readers.typed text).MarksErrors)
    (nested : (readers.plain text).root.IsNested) :
    (readers.read text path = .ok (.plain, (readers.plain text).root) ↔
      ¬ (readers.plain text).root.HoldsFault) ∧
    (readers.read text path = .ok (.typed, (readers.typed text).root) ↔
      (readers.plain text).root.HoldsFault ∧ ¬ (readers.typed text).root.HoldsFault) ∧
    ((readers.plain text).root.HoldsFault → (readers.typed text).root.HoldsFault →
      ∃ before first after,
        Site.traverse [Site.root (readers.plain text).root] = before ++ first :: after ∧
        first.node.faulty = true ∧ (∀ earlier ∈ before, earlier.node.faulty = false) ∧
        readers.read text path = .error (.syntaxError path
          (some (positionAt .bytes text.toList first.node.start))) ∧
        ∀ site ∈ (readers.plain text).root.sites, site.node.faulty = true →
          first.node.start ≤ site.node.start) ∧
    readers.parse text path = (readers.read text path).map (·.2) := by
  rw [← plainMarks.hasError_iff, ← typedMarks.hasError_iff, Readers.parse]
  cases plain : (readers.plain text).hasError with
  | false =>
      rw [Readers.read_of_plain path plain]
      exact ⟨by simp, by simp, by simp, rfl⟩
  | true =>
      cases typed : (readers.typed text).hasError with
      | false =>
          rw [Readers.read_of_typed path plain typed]
          exact ⟨by simp, by simp, by simp, rfl⟩
      | true =>
          obtain ⟨before, first, after, split, faulty, earlier, found⟩ :=
            (plainMarks plain).exists_first
          rw [Readers.read_of_refused path plain typed, found]
          refine ⟨by simp, by simp, fun _ _ => ?_, rfl⟩
          exact ⟨before, first, after, split, faulty, earlier, rfl,
            fun site listed wrong => nested.start_le split earlier listed wrong⟩

namespace Sample

/-- A named node under no field. -/
def branch (kind : String) (start stop : Nat) (children : List Node) : Node :=
  ⟨kind, true, false, false, none, start, stop, children⟩

/-- Punctuation. -/
def token (kind : String) (start stop : Nat) : Node :=
  ⟨kind, false, false, false, none, start, stop, []⟩

/-- A call that lacks its closing parenthesis, and further on a parenthesis too many. -/
def unclosedCall : SyntaxTree :=
  ⟨branch "program" 0 6
    [branch "expression_statement" 0 4
      [branch "call_expression" 0 3
        [branch "identifier" 0 2 [],
          branch "arguments" 2 3 [token "(" 2 3, { token ")" 3 3 with missing := true }]],
        token ";" 3 4],
      { branch "ERROR" 5 6 [token ")" 5 6] with erroneous := true }], false⟩

/-- Readers that find the same mistakes. -/
def unclosedReaders : Readers :=
  ⟨fun _ => unclosedCall, fun _ => unclosedCall⟩

end Sample

/-- The parenthesis that is missing is told, and not the one too many on the line below. -/
theorem sample_syntaxError_earliest :
    Sample.unclosedCall.MarksErrors ∧ Sample.unclosedCall.root.IsNested ∧
    Sample.unclosedCall.root.HoldsFault ∧
    Sample.unclosedReaders.parse "é(;\n)" "Card.js" =
      .error (.syntaxError "Card.js" (some ⟨1, 3⟩)) ∧
    ∀ site ∈ Sample.unclosedCall.root.sites, site.node.faulty = true → 3 ≤ site.node.start := by
  have fault : Sample.unclosedCall.root.HoldsFault := by
    unfold Node.HoldsFault
    decide +kernel
  have nested : Sample.unclosedCall.root.IsNested := by
    unfold Node.IsNested
    decide +kernel
  have marks : Sample.unclosedCall.MarksErrors := fun _ => fault
  obtain ⟨-, -, refused, parsed⟩ := syntaxError_earliest Sample.unclosedReaders "é(;\n)" "Card.js"
    marks marks nested
  obtain ⟨before, first, after, split, faulty, -, told, earliest⟩ := refused fault fault
  have listed : first ∈ Sample.unclosedCall.root.sites := by
    rw [← Node.traverse_root]
    exact split ▸ List.mem_append_right before List.mem_cons_self
  have starts : ∀ site ∈ Sample.unclosedCall.root.sites, site.node.faulty = true →
      3 ≤ site.node.start := by
    decide +kernel
  have inserted : ∃ site ∈ Sample.unclosedCall.root.sites, site.node.faulty = true ∧
      site.node.start = 3 := by
    decide +kernel
  obtain ⟨lacking, known, wrong, third⟩ := inserted
  have start : first.node.start = 3 :=
    Nat.le_antisymm (third ▸ earliest lacking known wrong) (starts first listed faulty)
  refine ⟨marks, nested, fault, ?_, fun site known wrong => start ▸ earliest site known wrong⟩
  rw [parsed, told, start]
  rfl

/-! ### Bytes and characters -/

theorem length_le_utf8Len (text : List Char) : text.length ≤ String.utf8Len text := by
  induction text with
  | nil => exact Nat.le_refl 0
  | cons character rest ih =>
      have size := character.utf8Size_pos
      rw [List.length_cons, String.utf8Len_cons]
      omega

/-- A text has as many bytes as characters exactly when each character takes one byte. -/
theorem utf8Len_eq_length_iff (text : List Char) :
    String.utf8Len text = text.length ↔ ∀ character ∈ text, character.utf8Size = 1 := by
  induction text with
  | nil => simp
  | cons character rest ih =>
      have size := character.utf8Size_pos
      have longer := length_le_utf8Len rest
      rw [List.forall_mem_cons, ← ih, List.length_cons, String.utf8Len_cons]
      omega

/-- The place that is told for a syntax error is on the line on which the span of the faulty node
starts. Its column is the number of bytes in front of the node on this line, and that of the span the
number of characters, so the two places are the same exactly when these characters take one byte
each. -/
theorem syntaxError_position (readers : Readers) (text path : String) (position : Position)
    (node : Node) (first : Readers.firstFaulty? (readers.plain text).root = some node)
    (failed : readers.parse text path = .error (.syntaxError path (some position)))
    (boundary : String.Pos.Raw.IsValid text ⟨node.start⟩) :
    position = (node.span .bytes text.toList).start ∧
    position.line = (node.span .characters text.toList).start.line ∧
    ∃ front rest before line, text = front ++ rest ∧ node.start = front.utf8ByteSize ∧
      Text.splitLines front = before ++ [line] ∧ position.column = line.utf8ByteSize ∧
      (node.span .characters text.toList).start.column = line.length ∧
      (position = (node.span .characters text.toList).start ↔
        ∀ character ∈ line.toList, character.utf8Size = 1) := by
  have place := Readers.position_of_refused path first failed
  obtain ⟨front, rest, rfl, offset⟩ := String.Pos.Raw.isValid_iff_exists_append.mp boundary
  have start : node.start = front.utf8ByteSize := congrArg String.Pos.Raw.byteIdx offset
  obtain ⟨before, line, lines⟩ := Text.exists_splitLines_eq_concat front
  have bytes : position = ⟨before.length + 1, line.utf8ByteSize⟩ := by
    rw [place, Node.span, spanBetween, start, positionAt_append _ front rest lines,
      utf8ByteSize_eq line]
    rfl
  have characters : (node.span .characters (front ++ rest).toList).start =
      ⟨before.length + 1, line.length⟩ := by
    rw [Node.span, spanBetween, start, positionAt_characters_append front rest lines]
  refine ⟨place, ?_, front, rest, before, line, rfl, start, lines, ?_, ?_, ?_⟩
  · rw [bytes, characters]
  · rw [bytes]
  · rw [characters]
  · rw [bytes, characters, Position.mk.injEq, ← utf8Len_eq_length_iff, utf8ByteSize_eq line,
      String.length_toList]
    exact ⟨fun same => same.2, fun same => ⟨rfl, same⟩⟩

namespace Sample

/-- A string and a constant without a name. -/
def constantText : String :=
  "\"é\"; const = 1;"

/-- What cannot be read of the constant. -/
def nameless : Node :=
  { branch "ERROR" 6 13 [token "const" 6 11, token "=" 12 13] with erroneous := true }

/-- The text around what cannot be read of it. -/
def constantTree : SyntaxTree :=
  ⟨branch "program" 0 16
    [branch "expression_statement" 0 5
      [branch "string" 0 4
        [token "\"" 0 1, branch "string_fragment" 1 3 [], token "\"" 3 4],
        token ";" 4 5],
      nameless,
      branch "expression_statement" 14 16 [branch "number" 14 15 [], token ";" 15 16]], false⟩

/-- Readers that find the same mistake. -/
def constantReaders : Readers :=
  ⟨fun _ => constantTree, fun _ => constantTree⟩

theorem nameless_liesIn : nameless.LiesIn constantText where
  start := String.Pos.Raw.isValid_eq_true_iff.mp (by decide +kernel)
  stop := String.Pos.Raw.isValid_eq_true_iff.mp (by decide +kernel)
  ordered := by decide

theorem constant_refused : constantReaders.parse constantText "Card.js" =
    .error (.syntaxError "Card.js" (some ⟨1, 6⟩)) :=
  rfl

end Sample

/-- The character of two bytes in the string puts the column of the mistake one too far. -/
theorem sample_syntaxError_position :
    Readers.firstFaulty? Sample.constantTree.root = some Sample.nameless ∧
    Sample.constantReaders.parse Sample.constantText "Card.js" =
      .error (.syntaxError "Card.js" (some ⟨1, 6⟩)) ∧
    String.Pos.Raw.IsValid Sample.constantText ⟨Sample.nameless.start⟩ ∧
    (⟨1, 6⟩ : Position) = (Sample.nameless.span .bytes Sample.constantText.toList).start ∧
    (Sample.nameless.span .characters Sample.constantText.toList).start.line = 1 := by
  have first : Readers.firstFaulty? Sample.constantTree.root = some Sample.nameless := rfl
  have boundary := Sample.nameless_liesIn.start
  obtain ⟨bytes, line, -⟩ := syntaxError_position Sample.constantReaders Sample.constantText
    "Card.js" ⟨1, 6⟩ Sample.nameless first Sample.constant_refused boundary
  exact ⟨first, Sample.constant_refused, boundary, bytes, line.symm⟩

/-- A syntax error can be told at another place than the one at which the span of its node starts. -/
theorem syntaxError_not_at_span :
    Readers.firstFaulty? Sample.constantTree.root = some Sample.nameless ∧
    Sample.nameless.LiesIn Sample.constantText ∧
    Sample.constantReaders.parse Sample.constantText "Card.js" =
      .error (.syntaxError "Card.js" (some ⟨1, 6⟩)) ∧
    (Sample.nameless.span .characters Sample.constantText.toList).start = ⟨1, 5⟩ :=
  ⟨rfl, Sample.nameless_liesIn, Sample.constant_refused, by decide +kernel⟩

end StyleAudit
