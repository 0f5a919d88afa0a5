import StyleAudit.Proofs.FileStore
import StyleAudit.Proofs.Path

/-!
What lies inside a directory, at any depth.

A path lies inside a directory when it goes on from it by names and leads to something. Listing a
directory level by level finds all of these paths, each once, since nothing lies deeper than the
deepest file or directory of the store.
-/

set_option autoImplicit false

namespace StyleAudit

namespace Path

/-- A path that goes on from a directory by some names. -/
def below (directory : Path) (names : List String) : Path :=
  { directory with components := directory.components ++ names }

theorem child_below (directory : Path) (name : String) (names : List String) :
    (directory.child name).below names = directory.below (name :: names) := by
  simp [child, below]

theorem below_sortKey (directory : Path) (names : List String) :
    (directory.below names).sortKey = directory.sortKey ++ names := by
  show (if directory.isAbsolute then _ else _) = (if directory.isAbsolute then _ else _) ++ names
  split <;> rfl

theorem below_injective (directory : Path) {names others : List String}
    (same : directory.below names = directory.below others) : names = others :=
  List.append_cancel_left (congrArg components same)

/-- Ordinary names lead down. -/
theorem foldl_step_of_ordinary {names : List String} (ordinary : ".." ∉ names)
    (directory : List String) : names.foldl step directory = directory ++ names := by
  induction names generalizing directory with
  | nil => simp
  | cons name rest ih =>
      rw [List.mem_cons, not_or] at ordinary
      rw [List.foldl_cons, ih ordinary.2, step, if_neg (Ne.symm ordinary.1)]
      simp

theorem resolveFrom_below {names : List String} (ordinary : ".." ∉ names) (path : Path)
    (directory : List String) :
    (path.below names).resolveFrom directory = path.resolveFrom directory ++ names := by
  show (path.components ++ names).foldl step (if path.isAbsolute then [] else directory) = _
  rw [List.foldl_append, foldl_step_of_ordinary ordinary]
  rfl

/-- A path that leads down from the current directory by its spelling alone. -/
structure LeadsDown (path : Path) : Prop where
  relative : path.isAbsolute = false
  forward : ".." ∉ path.components

instance (path : Path) : Decidable path.LeadsDown :=
  decidable_of_iff (path.isAbsolute = false ∧ ".." ∉ path.components)
    ⟨fun both => ⟨both.1, both.2⟩, fun down => ⟨down.relative, down.forward⟩⟩

theorem LeadsDown.resolveFrom {path : Path} (down : path.LeadsDown) (directory : List String) :
    path.resolveFrom directory = directory ++ path.components := by
  rw [Path.resolveFrom, down.relative, if_neg Bool.false_ne_true]
  exact foldl_step_of_ordinary down.forward directory

/-- What a walk keeps of the directory that it starts in, and the names that it ends in. -/
theorem exists_foldl_step (components directory : List String) :
    ∃ kept names, components.foldl step directory = kept ++ names ∧ kept <+: directory ∧
      ∀ name ∈ names, name ∈ components ∧ name ≠ ".." := by
  induction components using List.reverseRecOn with
  | nil => exact ⟨directory, [], by simp⟩
  | append_singleton before component ih =>
      obtain ⟨kept, names, reached, within, own⟩ := ih
      rw [List.foldl_append, List.foldl_cons, List.foldl_nil, reached, step]
      split
      · -- Going back takes the last name, and where there is none, one of the directory's own.
        rcases List.eq_nil_or_concat names with rfl | ⟨front, last, rfl⟩
        · refine ⟨kept.dropLast, [], by simp, (List.dropLast_prefix kept).trans within, by simp⟩
        · refine ⟨kept, front, by simp [← List.append_assoc], within, ?_⟩
          intro name member
          have before := own name (by simp [member])
          exact ⟨List.mem_append_left _ before.1, before.2⟩
      · rename_i ordinary
        refine ⟨kept, names ++ [component], by simp, within, ?_⟩
        intro name member
        rcases List.mem_append.mp member with earlier | last
        · exact ⟨List.mem_append_left _ (own name earlier).1, (own name earlier).2⟩
        · obtain rfl := List.mem_singleton.mp last
          exact ⟨by simp, ordinary⟩

end Path

namespace FileStore

/-! ### Places -/

/-- The places of all files and directories that a store lists, and of its current directory. -/
def places (store : FileStore) : List (List String) :=
  store.files.map (·.1) ++ store.directories ++ [store.current]

/-- Whether nothing in a store has the name by which paths go back. -/
def IsOrdinary (store : FileStore) : Prop :=
  ∀ place ∈ store.places, ".." ∉ place

instance (store : FileStore) : Decidable store.IsOrdinary :=
  inferInstanceAs (Decidable (∀ place ∈ store.places, _))

theorem exists_place_of_entry {store : FileStore} {components : List String}
    (present : store.entry? components ≠ none) :
    ∃ place ∈ store.places, components <+: place := by
  simp only [places, List.mem_append, List.mem_map, List.mem_singleton]
  rw [ne_eq, entry_eq_none_iff, not_and_or, Bool.not_eq_false, hasDirectory_iff] at present
  rcases present with file | current | ⟨directory, member, within⟩ | ⟨file, member, within, _⟩
  · obtain ⟨bytes, found⟩ := Option.ne_none_iff_exists'.mp file
    exact ⟨components, Or.inl (Or.inl ⟨_, Keyed.mem_of_lookup_eq_some found, rfl⟩),
      List.prefix_rfl⟩
  · exact ⟨store.current, Or.inr rfl, current⟩
  · exact ⟨directory, Or.inl (Or.inr member), within⟩
  · exact ⟨file.1, Or.inl (Or.inl ⟨file, member, rfl⟩), within⟩

theorem le_foldl_max (lengths : List Nat) (start : Nat) :
    start ≤ lengths.foldl max start ∧ ∀ length ∈ lengths, length ≤ lengths.foldl max start := by
  induction lengths generalizing start with
  | nil => simp
  | cons first rest ih =>
      obtain ⟨reached, each⟩ := ih (max start first)
      refine ⟨(le_max_left ..).trans reached, ?_⟩
      intro length member
      rcases List.mem_cons.mp member with rfl | later
      · exact (le_max_right ..).trans reached
      · exact each length later

/-- Nothing lies deeper than the depth of a store. -/
theorem length_le_depth {store : FileStore} {components : List String}
    (present : store.entry? components ≠ none) : components.length ≤ store.depth := by
  obtain ⟨place, member, within⟩ := exists_place_of_entry present
  have bounded := (le_foldl_max (store.places.map List.length) 0).2 place.length
    (List.mem_map_of_mem member)
  exact within.length_le.trans bounded

theorem IsOrdinary.of_mem_names {store : FileStore} {directory : List String} {name : String}
    (ordinary : store.IsOrdinary) (listed : name ∈ store.names directory) : name ≠ ".." := by
  rw [mem_names_iff_entry] at listed
  obtain ⟨place, member, within⟩ := exists_place_of_entry listed
  rintro rfl
  exact ordinary place member (within.subset (by simp))

/-! ### Going down -/

/-- A walk through a name passes the directory in front of it. -/
theorem walk_through (store : FileStore) (here front back : List String) (name : String)
    (found : List String × Entry) :
    store.walk here (front ++ name :: back) = .ok found ↔
      ∃ directory, store.walk here front = .ok (directory, .directory) ∧
        store.walk (Path.step directory name) back = .ok found := by
  induction front generalizing here with
  | nil =>
      simp only [List.nil_append, walk]
      rcases store.entry? here with _ | (_ | _) <;> simp
  | cons component rest ih =>
      simp only [List.cons_append, walk]
      rcases store.entry? here with _ | (_ | _)
      · simp
      · simp
      · exact ih _

theorem find_child_eq_ok_iff (store : FileStore) (path : Path) (name : String)
    (found : List String × Entry) :
    store.find (path.child name) = .ok found ↔
      ∃ directory, store.find path = .ok (directory, .directory) ∧
        found.1 = Path.step directory name ∧ store.entry? found.1 = some found.2 := by
  have through : store.find (path.child name) = .ok found ↔ _ :=
    store.walk_through _ path.components [] name found
  rw [through]
  refine exists_congr fun directory => and_congr_right fun _ => ?_
  obtain ⟨components, entry⟩ := found
  simp only [walk]
  cases present : store.entry? (Path.step directory name) with
  | none =>
      simp only [reduceCtorEq, false_iff, not_and]
      rintro rfl
      simp [present]
  | some other =>
      simp only [Except.ok.injEq, Prod.mk.injEq]
      constructor
      · rintro ⟨rfl, rfl⟩
        exact ⟨rfl, present⟩
      · rintro ⟨rfl, own⟩
        rw [present] at own
        exact ⟨rfl, Option.some.inj own⟩

/-- Whatever a path below another one leads to, the path in between leads to a directory. -/
theorem exists_find_of_below {store : FileStore} {path : Path} {names : List String}
    {found : List String × Entry} (occupied : names ≠ [])
    (reached : store.find (path.below names) = .ok found) :
    ∃ directory, store.find path = .ok (directory, .directory) := by
  cases names with
  | nil => exact absurd rfl occupied
  | cons name rest =>
      obtain ⟨directory, passed, _⟩ := (store.walk_through _ path.components rest name found).mp
        reached
      exact ⟨directory, passed⟩

section Listing

variable {store : FileStore} (ordinary : store.IsOrdinary)

include ordinary

/-- What is directly inside a directory is what its names lead to. -/
theorem mem_children_iff (path other : Path) :
    other ∈ store.children path ↔
      ∃ name, name ≠ ".." ∧ other = path.child name ∧ ∃ found, store.find other = .ok found := by
  unfold children
  constructor
  · intro member
    split at member
    · rename_i components reached
      obtain ⟨name, listed, rfl⟩ := List.mem_map.mp member
      have named := ordinary.of_mem_names listed
      refine ⟨name, named, rfl, ?_⟩
      rw [mem_names_iff_entry] at listed
      obtain ⟨entry, present⟩ := Option.ne_none_iff_exists'.mp listed
      refine ⟨(components ++ [name], entry), (find_child_eq_ok_iff ..).mpr ⟨components, reached, ?_,
        present⟩⟩
      rw [Path.step, if_neg named]
    · cases member
  · rintro ⟨name, named, rfl, found, reached⟩
    obtain ⟨directory, passed, place, present⟩ := (find_child_eq_ok_iff ..).mp reached
    rw [Path.step, if_neg named] at place
    rw [passed]
    refine List.mem_map.mpr ⟨name, ?_, rfl⟩
    rw [mem_names_iff_entry, ← place, present]
    exact Option.some_ne_none _

/-- The listing to a depth finds what the names lead to, as far as the depth goes. -/
theorem mem_descendants_iff (depth : Nat) (path other : Path) :
    other ∈ store.descendants depth path ↔
      ∃ names, names ≠ [] ∧ names.length ≤ depth ∧ ".." ∉ names ∧ other = path.below names ∧
        ∃ found, store.find other = .ok found := by
  induction depth generalizing path with
  | zero =>
      simp only [descendants, List.not_mem_nil, false_iff]
      rintro ⟨names, occupied, short, _⟩
      exact occupied (List.eq_nil_of_length_eq_zero (Nat.le_zero.mp short))
  | succ depth ih =>
      simp only [descendants, List.mem_flatMap, List.mem_cons, ih]
      constructor
      · rintro ⟨child, direct, rfl | ⟨names, occupied, short, plain, rfl, reached⟩⟩
        · obtain ⟨name, named, rfl, reached⟩ := (mem_children_iff ordinary path _).mp direct
          exact ⟨[name], List.cons_ne_nil _ _, by simp, by simpa using Ne.symm named, rfl, reached⟩
        · obtain ⟨name, named, rfl, _⟩ := (mem_children_iff ordinary path _).mp direct
          refine ⟨name :: names, List.cons_ne_nil _ _, by simpa using short, ?_,
            path.child_below name names, reached⟩
          rw [List.mem_cons, not_or]
          exact ⟨Ne.symm named, plain⟩
      · rintro ⟨names, occupied, short, plain, rfl, found, reached⟩
        cases names with
        | nil => exact absurd rfl occupied
        | cons name rest =>
            rw [List.mem_cons, not_or] at plain
            rw [← Path.child_below] at reached ⊢
            have direct : ∀ passed, store.find (path.child name) = .ok passed →
                path.child name ∈ store.children path := fun passed entered =>
              (mem_children_iff ordinary path _).mpr
                ⟨name, Ne.symm plain.1, rfl, passed, entered⟩
            cases rest with
            | nil =>
                have whole : (path.child name).below [] = path.child name := by
                  simp [Path.below]
                rw [whole] at reached ⊢
                exact ⟨_, direct found reached, Or.inl rfl⟩
            | cons next more =>
                obtain ⟨directory, entered⟩ := exists_find_of_below (List.cons_ne_nil _ _) reached
                exact ⟨_, direct _ entered, Or.inr ⟨next :: more, List.cons_ne_nil _ _,
                  Nat.le_of_succ_le_succ short, plain.2, rfl, found, reached⟩⟩

/-- Inside a directory is all that its names lead to, at any depth. -/
theorem mem_allInside_iff (path other : Path) :
    other ∈ store.allInside path ↔
      ∃ names, names ≠ [] ∧ ".." ∉ names ∧ other = path.below names ∧
        ∃ found, store.find other = .ok found := by
  rw [allInside, mem_descendants_iff ordinary]
  refine exists_congr fun names => and_congr_right fun _ => ?_
  constructor
  · rintro ⟨_, rest⟩
    exact rest
  · rintro ⟨plain, rfl, found, reached⟩
    refine ⟨?_, plain, rfl, found, reached⟩
    obtain ⟨place, present⟩ := find_eq_ok reached
    have bounded := length_le_depth (Option.ne_none_iff_exists'.mpr ⟨_, present⟩)
    rw [place, Path.resolveFrom_below plain, List.length_append] at bounded
    omega

end Listing

/-! ### Each path once -/

theorem exists_below_of_mem_descendants {store : FileStore} {depth : Nat} {path other : Path}
    (member : other ∈ store.descendants depth path) :
    ∃ names, names ≠ [] ∧ other = path.below names := by
  induction depth generalizing path with
  | zero => cases member
  | succ depth ih =>
      obtain ⟨child, direct, inside⟩ := List.mem_flatMap.mp member
      obtain ⟨name, rfl⟩ : ∃ name, child = path.child name := by
        unfold children at direct
        split at direct
        · obtain ⟨name, _, rfl⟩ := List.mem_map.mp direct
          exact ⟨name, rfl⟩
        · cases direct
      rcases List.mem_cons.mp inside with rfl | deeper
      · exact ⟨[name], List.cons_ne_nil _ _, rfl⟩
      · obtain ⟨names, _, rfl⟩ := ih deeper
        exact ⟨name :: names, List.cons_ne_nil _ _, path.child_below name names⟩

theorem descendants_nodup (store : FileStore) (depth : Nat) (path : Path) :
    (store.descendants depth path).Nodup := by
  induction depth generalizing path with
  | zero => exact List.nodup_nil
  | succ depth ih =>
      -- Below different children all paths differ in the component behind the directory.
      have listed : ∀ child other, other ∈ child :: store.descendants depth child →
          ∃ names, other = child.below names := by
        intro child other member
        rcases List.mem_cons.mp member with rfl | deeper
        · exact ⟨[], by simp [Path.below]⟩
        · obtain ⟨names, _, below⟩ := exists_below_of_mem_descendants deeper
          exact ⟨names, below⟩
      rw [descendants, List.nodup_flatMap]
      constructor
      · intro child _
        refine List.nodup_cons.mpr ⟨fun deeper => ?_, ih child⟩
        obtain ⟨names, occupied, same⟩ := exists_below_of_mem_descendants deeper
        have lengths := congrArg (fun path : Path => path.components.length) same
        simp only [Path.below, List.length_append] at lengths
        exact occupied (List.eq_nil_of_length_eq_zero (by omega))
      · unfold children
        split
        · rw [List.pairwise_map]
          refine (store.names_nodup _).imp fun {name other} different => ?_
          intro shared first second
          obtain ⟨names, below⟩ := listed _ _ first
          obtain ⟨others, again⟩ := listed _ _ second
          rw [Path.child_below] at below again
          have same := path.below_injective (below.symm.trans again)
          exact different (List.cons.inj same).1
        · exact List.Pairwise.nil

/-- Different paths inside a directory have different places in the order. -/
theorem allInside_keys_nodup (store : FileStore) (path : Path) :
    ((store.allInside path).map Path.sortKey).Nodup := by
  refine (store.descendants_nodup store.depth path).map_on ?_
  intro first firstInside second secondInside same
  obtain ⟨names, _, rfl⟩ := exists_below_of_mem_descendants firstInside
  obtain ⟨others, _, rfl⟩ := exists_below_of_mem_descendants secondInside
  rw [Path.below_sortKey, Path.below_sortKey] at same
  rw [List.append_cancel_left same]

end FileStore

end StyleAudit
