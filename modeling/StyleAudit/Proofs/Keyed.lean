import Mathlib.Data.List.Induction
import Mathlib.Data.List.Nodup
import StyleAudit.Keyed

/-!
What putting an item among others does.

A known key keeps its place, a new one comes last; either way no key appears twice and no other item
changes. Items put one after the other have the keys in the order in which they came first.
-/

set_option autoImplicit false

namespace StyleAudit.Keyed

theorem nodup_eraseDups {α : Type} [BEq α] [LawfulBEq α] (items : List α) :
    items.eraseDups.Nodup := by
  induction length : items.length using Nat.strongRecOn generalizing items with
  | ind size ih =>
      cases items with
      | nil => exact List.nodup_nil
      | cons item rest =>
          rw [List.eraseDups_cons, List.nodup_cons, List.mem_eraseDups]
          refine ⟨by simp, ih _ ?_ _ rfl⟩
          have shorter := List.length_filter_le (fun other => !other == item) rest
          rw [← length, List.length_cons]
          omega

theorem eraseDups_concat_of_mem {α : Type} [BEq α] [LawfulBEq α] {items : List α} {item : α}
    (known : item ∈ items) : (items ++ [item]).eraseDups = items.eraseDups := by
  have nothing : [item].removeAll items = [] := by
    simp only [List.removeAll, List.filter_cons, List.elem_eq_mem, known, decide_true,
      Bool.not_true, Bool.false_eq_true, ↓reduceIte, List.filter_nil]
  rw [List.eraseDups_append, nothing, List.eraseDups_nil, List.append_nil]

theorem eraseDups_concat_of_not_mem {α : Type} [BEq α] [LawfulBEq α] {items : List α} {item : α}
    (unknown : item ∉ items) : (items ++ [item]).eraseDups = items.eraseDups ++ [item] := by
  have whole : [item].removeAll items = [item] := by
    simp only [List.removeAll, List.filter_cons, List.elem_eq_mem, unknown, decide_false,
      Bool.not_false, ↓reduceIte, List.filter_nil]
  rw [List.eraseDups_append, whole]
  rfl

/-! ### Items -/

section Items

variable {α κ : Type} [DecidableEq κ] (key : α → κ)

theorem map_put_of_mem (item : α) (items : List α) (known : key item ∈ items.map key) :
    (put key item items).map key = items.map key := by
  induction items with
  | nil => cases known
  | cons first rest ih =>
      by_cases same : key first = key item
      · simp only [put, same, ↓reduceIte, List.map_cons]
      · have later : key item ∈ rest.map key := by
          rcases List.mem_cons.mp known with equal | later
          · exact absurd equal.symm same
          · exact later
        simp only [put, same, ↓reduceIte, List.map_cons, ih later]

theorem put_of_not_mem (item : α) (items : List α) (unknown : key item ∉ items.map key) :
    put key item items = items ++ [item] := by
  induction items with
  | nil => rfl
  | cons first rest ih =>
      simp only [List.map_cons, List.mem_cons, not_or] at unknown
      simp only [put, Ne.symm unknown.1, ↓reduceIte, ih unknown.2, List.cons_append]

theorem mem_put {item other : α} {items : List α} (member : other ∈ put key item items) :
    other = item ∨ other ∈ items := by
  induction items with
  | nil => exact Or.inl (List.mem_singleton.mp member)
  | cons first rest ih =>
      by_cases same : key first = key item
      · simp only [put, same, ↓reduceIte, List.mem_cons] at member
        exact member.imp_right (List.mem_cons_of_mem _)
      · simp only [put, same, ↓reduceIte, List.mem_cons] at member
        rcases member with rfl | later
        · exact Or.inr List.mem_cons_self
        · exact (ih later).imp_right (List.mem_cons_of_mem _)

/-- Putting an item among others keeps their keys apart. -/
theorem map_put_nodup (item : α) (items : List α) (apart : (items.map key).Nodup) :
    ((put key item items).map key).Nodup := by
  by_cases known : key item ∈ items.map key
  · rw [map_put_of_mem key item items known]
    exact apart
  · rw [put_of_not_mem key item items known, List.map_append, List.nodup_append]
    refine ⟨apart, List.nodup_singleton _, ?_⟩
    intro name member other single equal
    rw [List.map_singleton, List.mem_singleton] at single
    exact known (single ▸ equal ▸ member)

/-- Items that are put one after the other. -/
theorem foldl_put_keys (items : List α) [BEq κ] [LawfulBEq κ] :
    (items.foldl (fun all item => put key item all) []).map key = (items.map key).eraseDups := by
  induction items using List.reverseRecOn with
  | nil => rfl
  | append_singleton front item ih =>
      rw [List.foldl_append, List.foldl_cons, List.foldl_nil, List.map_append, List.map_singleton]
      by_cases known : key item ∈ front.map key
      · have place : key item ∈ (front.foldl (fun all item => put key item all) []).map key := by
          rw [ih, List.mem_eraseDups]
          exact known
        rw [map_put_of_mem key item _ place, ih, eraseDups_concat_of_mem known]
      · have absent : key item ∉ (front.foldl (fun all item => put key item all) []).map key := by
          rw [ih, List.mem_eraseDups]
          exact known
        rw [put_of_not_mem key item _ absent, List.map_append, ih,
          eraseDups_concat_of_not_mem known, List.map_singleton]

theorem mem_foldl_put {items : List α} {item : α}
    (member : item ∈ items.foldl (fun all item => put key item all) []) : item ∈ items := by
  induction items using List.reverseRecOn with
  | nil => cases member
  | append_singleton front last ih =>
      rw [List.foldl_append] at member
      rcases mem_put key member with rfl | earlier
      · simp
      · exact List.mem_append_left _ (ih earlier)

/-- Among items with different keys, one that is put in leaves none with its key but itself. -/
theorem mem_put_of_nodup {item other : α} {items : List α} (apart : (items.map key).Nodup)
    (member : other ∈ put key item items) :
    other = item ∨ other ∈ items ∧ key other ≠ key item := by
  induction items with
  | nil => exact Or.inl (List.mem_singleton.mp member)
  | cons first rest ih =>
      rw [List.map_cons, List.nodup_cons] at apart
      by_cases same : key first = key item
      · simp only [put, same, ↓reduceIte, List.mem_cons] at member
        refine member.imp_right fun later => ⟨List.mem_cons_of_mem _ later, ?_⟩
        intro equal
        have listed : key other ∈ rest.map key := List.mem_map_of_mem later
        exact apart.1 (same ▸ equal ▸ listed)
      · simp only [put, same, ↓reduceIte, List.mem_cons] at member
        rcases member with rfl | later
        · exact Or.inr ⟨List.mem_cons_self, same⟩
        · exact (ih apart.2 later).imp_right fun kept =>
            ⟨List.mem_cons_of_mem _ kept.1, kept.2⟩

/-- Of the items with one key that are put one after the other, the last one is left. -/
theorem exists_last_of_mem_foldl_put {items : List α} {item : α}
    (member : item ∈ items.foldl (fun all item => put key item all) []) :
    ∃ before after, items = before ++ item :: after ∧
      ∀ later ∈ after, key later ≠ key item := by
  induction items using List.reverseRecOn with
  | nil => cases member
  | append_singleton front last ih =>
      have apart : ((front.foldl (fun all item => put key item all) []).map key).Nodup := by
        rw [foldl_put_keys]
        exact nodup_eraseDups _
      rw [List.foldl_append] at member
      rcases mem_put_of_nodup key apart member with rfl | ⟨earlier, different⟩
      · exact ⟨front, [], rfl, fun later absent => absurd absent List.not_mem_nil⟩
      · obtain ⟨before, after, rfl, others⟩ := ih earlier
        refine ⟨before, after ++ [last], by simp, ?_⟩
        intro later behind
        rcases List.mem_append.mp behind with inside | final
        · exact others later inside
        · rw [List.mem_singleton.mp final]
          exact different.symm

end Items

/-! ### Entries -/

section Entries

theorem exists_lookup_of_mem {κ ν : Type} [BEq κ] [LawfulBEq κ] {key : κ} {entries : List (κ × ν)}
    (listed : key ∈ entries.map (·.1)) : ∃ value, entries.lookup key = some value := by
  rw [← Option.ne_none_iff_exists']
  intro absent
  obtain ⟨entry, member, same⟩ := List.mem_map.mp listed
  have different := List.lookup_eq_none_iff.mp absent entry member
  rw [same, bne_self_eq_false] at different
  cases different

theorem mem_of_lookup_eq_some {κ ν : Type} [BEq κ] [LawfulBEq κ] {key : κ} {value : ν}
    {entries : List (κ × ν)} (found : entries.lookup key = some value) :
    (key, value) ∈ entries := by
  obtain ⟨before, after, rfl, _⟩ := List.lookup_eq_some_iff.mp found
  exact List.mem_append_right before List.mem_cons_self

variable {κ ν : Type} [DecidableEq κ] [BEq κ] [LawfulBEq κ]

theorem lookup_put_self (key : κ) (value : ν) (entries : List (κ × ν)) :
    (put (·.1) (key, value) entries).lookup key = some value := by
  induction entries with
  | nil => simp [put]
  | cons first rest ih =>
      obtain ⟨known, content⟩ := first
      by_cases same : known = key
      · simp [put, same]
      · simp only [put, same, ↓reduceIte, List.lookup_cons, beq_false_of_ne (Ne.symm same), ih]

theorem lookup_put_other {key other : κ} (different : other ≠ key) (value : ν)
    (entries : List (κ × ν)) :
    (put (·.1) (key, value) entries).lookup other = entries.lookup other := by
  induction entries with
  | nil => simp [put, List.lookup_cons, beq_false_of_ne different]
  | cons first rest ih =>
      obtain ⟨known, content⟩ := first
      by_cases same : known = key
      · simp only [put, same, ↓reduceIte, List.lookup_cons, beq_false_of_ne different]
      · simp only [put, same, ↓reduceIte, List.lookup_cons, ih]

/-- An entry of a new key comes last. -/
theorem put_of_lookup_eq_none (key : κ) (value : ν) (entries : List (κ × ν))
    (unknown : entries.lookup key = none) :
    put (·.1) (key, value) entries = entries ++ [(key, value)] := by
  apply put_of_not_mem
  intro listed
  obtain ⟨present, found⟩ := exists_lookup_of_mem listed
  rw [unknown] at found
  cases found

end Entries

end StyleAudit.Keyed
