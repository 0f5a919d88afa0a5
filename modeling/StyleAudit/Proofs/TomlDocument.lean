import StyleAudit.Configuration
import StyleAudit.Proofs.Keyed
import StyleAudit.Proofs.TomlText
import StyleAudit.Workspace

/-!
A written table of settings is read back.

Settings are texts and lists of texts. Written as the table of the tool, one member after the other,
they come back under the same names, in the same order and as the same values, whatever the names
and the texts hold; two members of one name are the only thing that the reader would not take.
-/

set_option autoImplicit false

namespace StyleAudit.Toml

/-! ### Lists of texts -/

/-- The lines of items, as they are written behind the bracket that opens a list. -/
def itemLines (contents : List String) : List Char :=
  contents.flatMap fun content => "    ".toList ++ (writtenText content).toList ++ ",\n".toList

/-- What is left of a written list in front of its items, with what follows the list. -/
def itemsAhead (contents : List String) (rest : List Char) : List Char :=
  match contents with
  | [] => ']' :: rest
  | content :: others =>
    (writtenText content).toList ++ ',' :: '\n' :: (itemLines others ++ ']' :: rest)

theorem filler_of_blanks {blanks : List Char}
    (blank : ∀ character ∈ blanks, isBlankOrBreak character = true) {first : Char}
    (solid : isBlankOrBreak first = false) (plain : first ≠ '#') (rest : List Char) :
    filler (blanks ++ first :: rest) = .ok (first :: rest) := by
  have behind : (blanks ++ first :: rest).dropWhile isBlankOrBreak = first :: rest := by
    rw [List.dropWhile_append_of_pos blank, List.dropWhile_cons_of_neg (by simp [solid])]
  rw [filler, skipFiller, behind]
  simp [plain]

/-- A line break and blanks stand in front of each item, and a line break behind the last one. -/
theorem filler_itemLines (contents : List String) (rest : List Char) :
    filler ('\n' :: (itemLines contents ++ ']' :: rest)) = .ok (itemsAhead contents rest) := by
  cases contents with
  | nil =>
      exact @filler_of_blanks ['\n'] (by simp [isBlankOrBreak]) _ (by decide) (by decide) rest
  | cons content others =>
      have lines : '\n' :: (itemLines (content :: others) ++ ']' :: rest) =
          "\n    ".toList ++ itemsAhead (content :: others) rest := by
        simp [itemLines, itemsAhead]
      rw [lines, itemsAhead, writtenText_append]
      exact filler_of_blanks (by simp [isBlankOrBreak, isBlank]) (by decide) (by decide) _

theorem value_writtenText (fuel : Nat) (content : String) {rest : List Char}
    (apart : rest.head? ≠ some '"') :
    value (fuel + 1) ((writtenText content).toList ++ rest) = .ok (.text content, rest) := by
  have read := scalar_writtenText content apart
  rw [writtenText_append] at read ⊢
  rw [value, read]
  · simp
  · simp

/-- The items of a written list are read behind those that were read before. -/
theorem items_itemsAhead {contents : List String} {fuel : Nat} (enough : contents.length < fuel)
    (before : List Value) (rest : List Char) :
    items fuel before (itemsAhead contents rest) =
      .ok (.list (before.reverse ++ contents.map .text), rest) := by
  induction contents generalizing fuel before with
  | nil =>
      obtain ⟨fuel, rfl⟩ := Nat.exists_eq_add_one.mpr (Nat.zero_lt_of_lt enough)
      rw [itemsAhead, items, List.map_nil, List.append_nil]
  | cons content others ih =>
      obtain ⟨fuel, rfl⟩ := Nat.exists_eq_add_one.mpr (Nat.zero_lt_of_lt enough)
      rw [List.length_cons, Nat.add_lt_add_iff_right] at enough
      obtain ⟨more, rfl⟩ := Nat.exists_eq_add_one.mpr (Nat.zero_lt_of_lt enough)
      have read := @value_writtenText more content
        (',' :: '\n' :: (itemLines others ++ ']' :: rest)) (by simp)
      have comma : filler (',' :: '\n' :: (itemLines others ++ ']' :: rest)) = .ok _ :=
        @filler_of_blanks [] (by simp) _ (by decide) (by decide) _
      have next := filler_itemLines others rest
      have later := ih enough (.text content :: before)
      rw [itemsAhead, items, read]
      · simp only [bind, Except.bind, comma, next, later]
        simp
      · rw [writtenText_append]
        simp

theorem length_le_length_itemLines (contents : List String) :
    contents.length ≤ (itemLines contents).length := by
  induction contents with
  | nil => exact Nat.le_refl 0
  | cons content others ih =>
      have mark : ",\n".toList.length = 2 := rfl
      rw [itemLines, List.flatMap_cons, List.length_append, ← itemLines, List.length_append, mark,
        List.length_cons]
      omega

/-! ### Values -/

/-- A value that settings use: a text, or a list of texts. -/
inductive IsPlain : Value → Prop where
  | text (content : String) : IsPlain (.text content)
  | texts (contents : List String) : IsPlain (Configuration.listOf contents)

/-- A list of texts is written with one item a line, or as two brackets. -/
theorem bracketed_toList (contents : List String) :
    (bracketed 0 (contents.map writtenText)).toList =
      '[' :: (if contents.isEmpty then [']'] else '\n' :: (itemLines contents ++ [']'])) := by
  cases contents with
  | nil => rfl
  | cons content others =>
      have lines : (String.join (((content :: others).map writtenText).map fun part =>
          indent 1 ++ part ++ ",\n")).toList = itemLines (content :: others) := by
        rw [String.toList_join, List.map_map, List.flatMap_map]
        simp only [Function.comp_def, String.toList_append]
        rfl
      have occupied : ((content :: others).map writtenText).isEmpty = false := rfl
      rw [bracketed, occupied, if_neg Bool.false_ne_true]
      simp only [String.toList_append, lines, Nat.zero_add]
      simp [indent]

theorem writtenItems_texts (depth : Nat) (contents : List String) :
    writtenItems depth (contents.map .text) = some (contents.map writtenText) := by
  induction contents with
  | nil => rfl
  | cons content others ih => simp [writtenItems, writtenValue, ih]

theorem writtenValue_texts (contents : List String) :
    writtenValue 0 (Configuration.listOf contents) =
      some (bracketed 0 (contents.map writtenText)) := by
  rw [Configuration.listOf, writtenValue, writtenItems_texts, Option.map_some]

/-- A written value is read back in front of what cannot go on with it. -/
theorem value_written {content : Value} {written : String} (plain : IsPlain content)
    (spelled : writtenValue 0 content = some written) {rest : List Char}
    (apart : rest.head? ≠ some '"') :
    value ((written.toList ++ rest).length + 1) (written.toList ++ rest) = .ok (content, rest) := by
  cases plain with
  | text content =>
      obtain rfl : writtenText content = written := Option.some.inj spelled
      exact value_writtenText _ content apart
  | texts contents =>
      rw [writtenValue_texts, Option.some.injEq] at spelled
      subst spelled
      have inside : ∃ inner, (bracketed 0 (contents.map writtenText)).toList ++ rest =
          '[' :: inner ∧ contents.length < inner.length + 1 ∧
            filler inner = .ok (itemsAhead contents rest) := by
        rw [bracketed_toList]
        cases contents with
        | nil =>
            exact ⟨']' :: rest, rfl, by simp,
              @filler_of_blanks [] (by simp) _ (by decide) (by decide) rest⟩
        | cons content others =>
            have shorter := length_le_length_itemLines (content :: others)
            refine ⟨'\n' :: (itemLines (content :: others) ++ ']' :: rest), by simp, ?_,
              filler_itemLines _ rest⟩
            rw [List.length_cons] at shorter ⊢
            rw [List.length_cons, List.length_append]
            omega
      obtain ⟨inner, opened, enough, filled⟩ := inside
      rw [opened, List.length_cons, value, filled]
      exact items_itemsAhead enough [] rest

theorem exists_written {content : Value} (plain : IsPlain content) :
    ∃ written, writtenValue 0 content = some written := by
  cases plain with
  | text content => exact ⟨_, rfl⟩
  | texts contents => exact ⟨_, writtenValue_texts contents⟩

theorem written_head {content : Value} {written : String} (plain : IsPlain content)
    (spelled : writtenValue 0 content = some written) :
    ∃ first tail, written.toList = first :: tail ∧ isBlank first = false := by
  cases plain with
  | text content =>
      obtain rfl : writtenText content = written := Option.some.inj spelled
      exact ⟨'"', _, writtenText_toList content, rfl⟩
  | texts contents =>
      rw [writtenValue_texts, Option.some.injEq] at spelled
      subst spelled
      exact ⟨'[', _, bracketed_toList contents, rfl⟩

/-! ### Members -/

/-- A member as it is written. -/
def line (name written : String) : String :=
  writtenKey name ++ " = " ++ written ++ "\n"

theorem line_append (name written : String) (rest : List Char) :
    (line name written).toList ++ rest =
      (writtenKey name).toList ++ ' ' :: '=' :: ' ' :: (written.toList ++ '\n' :: rest) := by
  simp [line]

/-- The lines of written members. -/
def memberLines (parts : List String) : List Char :=
  (String.join (parts.map (· ++ "\n"))).toList

theorem memberLines_cons (name written : String) (parts : List String) :
    memberLines ((writtenKey name ++ " = " ++ written) :: parts) =
      (line name written).toList ++ memberLines parts := by
  simp [memberLines, line]

theorem writtenMembers_cons {name : String} {content : Value} {rest : Members}
    {parts : List String} (spelled : writtenMembers ((name, content) :: rest) = some parts) :
    ∃ written others, writtenValue 0 content = some written ∧ writtenMembers rest = some others ∧
      parts = (writtenKey name ++ " = " ++ written) :: others := by
  simp only [writtenMembers, Option.bind_eq_bind, Option.bind_eq_some_iff, Option.pure_def,
    Option.some.injEq] at spelled
  obtain ⟨written, own, others, later, same⟩ := spelled
  exact ⟨written, others, own, later, same.symm⟩

theorem pair_line {name : String} {content : Value} {written : String} (plain : IsPlain content)
    (spelled : writtenValue 0 content = some written) (rest : List Char) :
    pair ((line name written).toList ++ rest) = .ok ([name], content, '\n' :: rest) := by
  have read := @value_written content written plain spelled ('\n' :: rest) (by simp)
  obtain ⟨first, tail, front, solid⟩ := written_head plain spelled
  have sign : equalsSign ('=' :: ' ' :: (written.toList ++ '\n' :: rest)) =
      .ok (written.toList ++ '\n' :: rest) := by
    rw [front, equalsSign, List.cons_append]
    exact congrArg Except.ok (skipBlanks_of_head solid _)
  rw [line_append, pair, key_writtenKey]
  simp only [bind, Except.bind, sign, read, pure, Except.pure]

theorem lineEnd_break (rest : List Char) : lineEnd ('\n' :: rest) = .ok rest := by
  rfl

/-- The path of the tool's table. -/
def toolPath : List String :=
  ["tool", "sheetcheck"]

/-- A document in which the tool's table has been opened and has some members. -/
def Document.within (settings : Members) (closed : List (List String)) : Document :=
  ⟨[("tool", .table [("sheetcheck", .table settings)])], closed, [toolPath], []⟩

/-- Whether some closed paths are those of members of the tool's table. -/
def LieInside (closed : List (List String)) : Prop :=
  ∀ path ∈ closed, toolPath.length < path.length

theorem putAt_toolPath {settings : Members} {name : String} (fresh : settings.lookup name = none)
    (content : Value) :
    putAt true (toolPath ++ [name]) content [("tool", .table [("sheetcheck", .table settings)])] =
      some [("tool", .table [("sheetcheck", .table (settings ++ [(name, content)]))])] := by
  have added := Keyed.put_of_lookup_eq_none name content settings fresh
  simp [putAt, toolPath, changeAt, putNew, fresh, Value.insertMember, added, Keyed.put]

/-- A new name can be put into the tool's table as long as only its members are closed. -/
theorem put_within {settings : Members} {closed : List (List String)} (deep : LieInside closed)
    {name : String} (fresh : settings.lookup name = none) (content : Value) :
    ∃ others, LieInside others ∧ (Document.within settings closed).put toolPath [name] content =
      some (Document.within (settings ++ [(name, content)]) others) := by
  have free : leadsTo closed toolPath = false := by
    rw [leadsTo, List.any_eq_false]
    intro path member within
    have shorter := (List.isPrefixOf_iff_prefix.mp within).length_le
    have longer := deep path member
    omega
  refine ⟨if isContainer content then (toolPath ++ [name]) :: closed else closed, ?_, ?_⟩
  · intro path member
    split at member
    · rcases List.mem_cons.mp member with rfl | old
      · simp
      · exact deep path old
    · exact deep path member
  · have path : (toolPath ++ [name]).dropLast = toolPath := List.dropLast_concat
    rw [Document.put, path]
    simp only [Document.opened, List.length_singleton, Nat.sub_self, List.range_zero, List.map_nil,
      List.any_nil, Document.within, free, putAt_toolPath fresh]
    rfl

/-! ### Statements -/

theorem statements_pair {fuel : Nat} {table path : List String} {document next : Document}
    {first : Char} {rest after more : List Char} {content : Value} (starts : startsKey first = true)
    (read : pair (first :: rest) = .ok (path, content, after))
    (kept : document.put table path content = some next) (ended : lineEnd after = .ok more) :
    statements (fuel + 1) table document (first :: rest) = statements fuel table next more := by
  have solid : skipBlanks (first :: rest) = first :: rest := by
    apply skipBlanks_of_head
    cases blank : isBlank first with
    | false => rfl
    | true =>
        rw [isBlank, Bool.or_eq_true, beq_iff_eq, beq_iff_eq] at blank
        rcases blank with rfl | rfl <;> cases starts
  rw [statements, solid]
  -- None of the marks of other statements starts a key.
  split
  · rename_i same
    cases same
  · rename_i same
    cases same
    cases starts
  · rename_i same
    cases same
    cases starts
  · rename_i same
    cases same
    cases starts
  · rename_i same
    cases same
    cases starts
  · rename_i same
    cases same
    rw [if_pos starts, read]
    simp only [bind, Except.bind, kept, required, ended]

theorem statements_line {settings : Members} {closed : List (List String)} (deep : LieInside closed)
    {name written : String} (fresh : settings.lookup name = none) {content : Value}
    (plain : IsPlain content) (spelled : writtenValue 0 content = some written) (fuel : Nat)
    (rest : List Char) :
    ∃ others, LieInside others ∧
      statements (fuel + 1) toolPath (.within settings closed)
        ((line name written).toList ++ rest) =
          statements fuel toolPath (.within (settings ++ [(name, content)]) others) rest := by
  obtain ⟨others, deeper, kept⟩ := put_within deep fresh content
  obtain ⟨first, tail, front, starts⟩ := exists_writtenKey_eq_cons name
  have read := @pair_line name content written plain spelled rest
  refine ⟨others, deeper, ?_⟩
  rw [line_append, front, List.cons_append] at read ⊢
  exact statements_pair starts read kept (lineEnd_break rest)

/-- The lines of a table are read behind the members that the tool's table has already. -/
theorem statements_lines {table : Members} {parts : List String}
    (plain : ∀ member ∈ table, IsPlain member.2) (spelled : writtenMembers table = some parts)
    {settings : Members} {closed : List (List String)} (deep : LieInside closed)
    (apart : ((settings ++ table).map (·.1)).Nodup) {fuel : Nat} (enough : table.length < fuel) :
    ∃ others, statements fuel toolPath (.within settings closed) (memberLines parts) =
      .ok (.within (settings ++ table) others) := by
  obtain ⟨fuel, rfl⟩ := Nat.exists_eq_add_one.mpr (Nat.zero_lt_of_lt enough)
  induction table generalizing parts settings closed fuel with
  | nil =>
      obtain rfl : [] = parts := Option.some.inj spelled
      exact ⟨closed, by rw [List.append_nil]; rfl⟩
  | cons member rest ih =>
      obtain ⟨name, content⟩ := member
      rw [List.length_cons, Nat.add_lt_add_iff_right] at enough
      obtain ⟨more, rfl⟩ := Nat.exists_eq_add_one.mpr (Nat.zero_lt_of_lt enough)
      rw [List.forall_mem_cons] at plain
      obtain ⟨written, parts, own, later, rfl⟩ := writtenMembers_cons spelled
      have fresh : settings.lookup name = none := by
        rw [List.map_append, List.map_cons, List.nodup_append] at apart
        rw [List.lookup_eq_none_iff]
        intro other listed
        exact bne_iff_ne.mpr
          (apart.2.2 other.1 (List.mem_map_of_mem listed) name List.mem_cons_self).symm
      obtain ⟨others, deeper, step⟩ := statements_line deep fresh plain.1 own (more + 1)
        (memberLines parts)
      have whole : settings ++ (name, content) :: rest =
          (settings ++ [(name, content)]) ++ rest := by
        simp
      rw [whole] at apart ⊢
      obtain ⟨last, read⟩ := ih plain.2 later deeper apart more enough
      exact ⟨last, by rw [memberLines_cons, step, read]⟩

/-! ### The document -/

theorem isInline_of_plain {name : String} {content : Value} (plain : IsPlain content) :
    isInline (name, content) = true := by
  cases plain with
  | text content => rfl
  | texts contents => cases contents <;> rfl

theorem valueBlocks_of_plain {content : Value} (plain : IsPlain content) (path : String) :
    valueBlocks path false content = some [] := by
  cases plain with
  | text content => rfl
  | texts contents => cases contents <;> rfl

theorem memberBlocks_of_plain {table : Members} (plain : ∀ member ∈ table, IsPlain member.2)
    (path : String) : memberBlocks path table = some [] := by
  induction table with
  | nil => rfl
  | cons member rest ih =>
      rw [List.forall_mem_cons] at plain
      simp [memberBlocks, valueBlocks_of_plain plain.1, ih plain.2]

theorem exists_writtenMembers {table : Members} (plain : ∀ member ∈ table, IsPlain member.2) :
    ∃ parts, writtenMembers table = some parts := by
  induction table with
  | nil => exact ⟨[], rfl⟩
  | cons member rest ih =>
      rw [List.forall_mem_cons] at plain
      obtain ⟨written, own⟩ := exists_written plain.1
      obtain ⟨parts, later⟩ := ih plain.2
      exact ⟨(writtenKey member.1 ++ " = " ++ written) :: parts, by
        simp [writtenMembers, own, later]⟩

theorem ownBlock_of_lines {members : Members} {lines : List String}
    (own : ownLines members = some lines) (name : String) :
    ownBlock name false members [] = some ["[" ++ name ++ "]\n" ++ String.join lines] := by
  rw [ownBlock, own]
  simp only [Option.bind_eq_bind, Option.bind_some, Bool.false_eq_true, ↓reduceIte,
    List.isEmpty_nil, Bool.or_true, Option.pure_def]
  rfl

/-- The project file of a table of settings. -/
theorem projectText_of_plain {table : Members} {parts : List String}
    (plain : ∀ member ∈ table, IsPlain member.2) (spelled : writtenMembers table = some parts) :
    Workspace.projectText table =
      some ("[tool.sheetcheck]\n" ++ String.join (parts.map (· ++ "\n"))) := by
  have all : table.filter isInline = table :=
    List.filter_eq_self.mpr fun member listed => isInline_of_plain (plain member listed)
  have own : ownLines table = some (parts.map (· ++ "\n")) := by
    simp [ownLines, all, spelled]
  have path : "[" ++ pathInside (pathInside "" "tool") "sheetcheck" ++ "]\n" =
      "[tool.sheetcheck]\n" := by decide
  -- Only the innermost table has lines of its own, so it is the only one with a heading.
  have inner : memberBlocks (pathInside "" "tool") [("sheetcheck", .table table)] =
      some ["[tool.sheetcheck]\n" ++ String.join (parts.map (· ++ "\n"))] := by
    rw [memberBlocks, valueBlocks, memberBlocks_of_plain plain]
    simp only [Option.bind_eq_bind, Option.bind_some, ownBlock_of_lines own, path, memberBlocks,
      Option.pure_def, List.append_nil]
  have tools : ownLines [("sheetcheck", .table table)] = some [] := rfl
  have outer : memberBlocks "" [("tool", .table [("sheetcheck", .table table)])] =
      some ["[tool.sheetcheck]\n" ++ String.join (parts.map (· ++ "\n"))] := by
    rw [memberBlocks, valueBlocks, inner]
    simp [ownBlock, tools, memberBlocks]
  have top : ownLines [("tool", .table [("sheetcheck", .table table)])] = some [] := rfl
  simp [Workspace.projectText, write, top, outer]

theorem joinLineEnds_of_plain {text : List Char} (plain : '\r' ∉ text) :
    joinLineEnds text = text := by
  induction text with
  | nil => rfl
  | cons first rest ih =>
      rw [List.mem_cons, not_or] at plain
      rw [joinLineEnds, ih plain.2]
      rintro more rfl
      exact absurd rfl plain.1

theorem return_not_mem_written {content : Value} {written : String} (plain : IsPlain content)
    (spelled : writtenValue 0 content = some written) : '\r' ∉ written.toList := by
  cases plain with
  | text content =>
      obtain rfl : writtenText content = written := Option.some.inj spelled
      exact return_not_mem_writtenText content
  | texts contents =>
      rw [writtenValue_texts, Option.some.injEq] at spelled
      have lines : '\r' ∉ itemLines contents := by
        intro member
        obtain ⟨content, _, inside⟩ := List.mem_flatMap.mp member
        have own := return_not_mem_writtenText content
        simp [own] at inside
      rw [← spelled, bracketed_toList]
      cases contents.isEmpty <;> simp [lines]

theorem return_not_mem_lines {table : Members} {parts : List String}
    (plain : ∀ member ∈ table, IsPlain member.2) (spelled : writtenMembers table = some parts) :
    '\r' ∉ memberLines parts := by
  induction table generalizing parts with
  | nil =>
      obtain rfl : [] = parts := Option.some.inj spelled
      exact List.not_mem_nil
  | cons member rest ih =>
      rw [List.forall_mem_cons] at plain
      obtain ⟨written, others, own, later, rfl⟩ := writtenMembers_cons spelled
      have name := return_not_mem_writtenKey member.1
      have content := return_not_mem_written plain.1 own
      rw [memberLines_cons]
      simp [line, name, content, ih plain.2 later]

theorem length_le_length_lines {table : Members} {parts : List String}
    (spelled : writtenMembers table = some parts) : table.length ≤ (memberLines parts).length := by
  induction table generalizing parts with
  | nil => exact Nat.zero_le _
  | cons member rest ih =>
      obtain ⟨written, others, _, later, rfl⟩ := writtenMembers_cons spelled
      have shorter := ih later
      have occupied : 0 < (line member.1 written).toList.length := by
        simp only [line, String.toList_append, List.length_append]
        have mark : "\n".toList.length = 1 := rfl
        omega
      rw [memberLines_cons, List.length_append, List.length_cons]
      omega

theorem statements_heading (fuel : Nat) (rest : List Char) :
    statements (fuel + 1) [] .empty ("[tool.sheetcheck]\n".toList ++ rest) =
      statements fuel toolPath (.within [] []) rest := by
  rfl

/-- Settings of different names have a text as a project file, and reading it gives them back. -/
theorem parse_projectText {table : Members} (plain : ∀ member ∈ table, IsPlain member.2)
    (apart : (table.map (·.1)).Nodup) :
    ∃ text, Workspace.projectText table = some text ∧
      parse text = .ok [("tool", .table [("sheetcheck", .table table)])] := by
  obtain ⟨parts, spelled⟩ := exists_writtenMembers plain
  refine ⟨_, projectText_of_plain plain spelled, ?_⟩
  have enough := length_le_length_lines spelled
  have longer : table.length < ("[tool.sheetcheck]\n".toList ++ memberLines parts).length := by
    have heading : "[tool.sheetcheck]\n".toList.length = 18 := rfl
    rw [List.length_append]
    omega
  have unbroken : '\r' ∉ "[tool.sheetcheck]\n".toList ++ memberLines parts :=
    List.not_mem_append (by decide) (return_not_mem_lines plain spelled)
  obtain ⟨others, read⟩ :=
    @statements_lines table parts plain spelled [] [] (by simp [LieInside]) apart _ longer
  rw [parse, String.toList_append, ← memberLines, joinLineEnds_of_plain unbroken,
    statements_heading, read]
  rfl

end StyleAudit.Toml
