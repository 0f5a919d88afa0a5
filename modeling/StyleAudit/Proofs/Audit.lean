import Mathlib.Data.List.Forall2
import StyleAudit.Failure

/-!
What sequences of computations yield.

An audit's result does not depend on its notices: `Audit.result` turns every step of an audit into
the same step of its outcome. A list of computations succeeds exactly when each of them does.
-/

set_option autoImplicit false

namespace StyleAudit

theorem bind_eq_ok_iff {ε α β : Type} (first : Except ε α) (next : α → Except ε β) (value : β) :
    first >>= next = .ok value ↔ ∃ between, first = .ok between ∧ next between = .ok value := by
  cases first with
  | error cause => simp [bind, Except.bind]
  | ok between => simp [bind, Except.bind]

theorem bind_eq_error_iff {ε α β : Type} (first : Except ε α) (next : α → Except ε β) (cause : ε) :
    first >>= next = .error cause ↔
      first = .error cause ∨ ∃ between, first = .ok between ∧ next between = .error cause := by
  cases first with
  | error cause => simp [bind, Except.bind]
  | ok between => simp [bind, Except.bind]

theorem map_eq_ok_iff {ε α β : Type} (change : α → β) (first : Except ε α) (value : β) :
    first.map change = .ok value ↔ ∃ between, first = .ok between ∧ change between = value := by
  cases first with
  | error cause => simp [Except.map]
  | ok between => simp [Except.map]

theorem map_eq_error_iff {ε α β : Type} (change : α → β) (first : Except ε α) (cause : ε) :
    first.map change = .error cause ↔ first = .error cause := by
  cases first with
  | error cause => simp [Except.map]
  | ok between => simp [Except.map]

theorem mapError_eq_ok_iff {ε δ α : Type} (change : ε → δ) (first : Except ε α) (value : α) :
    first.mapError change = .ok value ↔ first = .ok value := by
  cases first with
  | error cause => simp [Except.mapError]
  | ok between => simp [Except.mapError]

theorem mapError_eq_error_iff {ε δ α : Type} (change : ε → δ) (first : Except ε α) (cause : δ) :
    first.mapError change = .error cause ↔
      ∃ fault, first = .error fault ∧ change fault = cause := by
  cases first with
  | error fault => simp [Except.mapError]
  | ok between => simp [Except.mapError]

/-- A list of computations yields a list of values one by one. -/
theorem mapM_eq_ok_iff {ε α β : Type} (step : α → Except ε β) (items : List α)
    (values : List β) :
    items.mapM step = .ok values ↔
      List.Forall₂ (fun item value => step item = .ok value) items values := by
  induction items generalizing values with
  | nil =>
      simp only [List.mapM_nil, pure, Except.pure, Except.ok.injEq, List.forall₂_nil_left_iff]
      exact eq_comm
  | cons item rest ih =>
      simp only [List.mapM_cons, bind_eq_ok_iff, pure, Except.pure, Except.ok.injEq, ih,
        List.forall₂_cons_left_iff]
      constructor
      · rintro ⟨value, first, values, others, rfl⟩
        exact ⟨value, values, first, others, rfl⟩
      · rintro ⟨value, values, first, others, rfl⟩
        exact ⟨value, first, values, others, rfl⟩

theorem exists_ok_of_mapM {ε α β : Type} {step : α → Except ε β} {items : List α}
    {values : List β} (success : items.mapM step = .ok values) :
    ∀ item ∈ items, ∃ value, step item = .ok value := by
  have each := (mapM_eq_ok_iff step items values).mp success
  clear success
  induction each with
  | nil => simp
  | cons first _ ih =>
      intro item member
      rcases List.mem_cons.mp member with rfl | later
      · exact ⟨_, first⟩
      · exact ih item later

theorem mapM_eq_ok_of_forall {ε α β : Type} (step : α → Except ε β) (value : α → β)
    (items : List α) (each : ∀ item ∈ items, step item = .ok (value item)) :
    items.mapM step = .ok (items.map value) := by
  rw [mapM_eq_ok_iff, List.forall₂_map_right_iff, List.forall₂_same]
  exact each

theorem mapM_cons_eq_error_iff {ε α β : Type} (step : α → Except ε β) (item : α) (rest : List α)
    (cause : ε) :
    (item :: rest).mapM step = .error cause ↔
      step item = .error cause ∨
        (∃ value, step item = .ok value) ∧ rest.mapM step = .error cause := by
  rw [List.mapM_cons]
  cases step item with
  | error fault => simp [bind, Except.bind]
  | ok value => cases rest.mapM step <;> simp [bind, Except.bind, pure, Except.pure]

/-- A list of computations fails as the first of them does that fails. -/
theorem mapM_eq_error_iff {ε α β : Type} (step : α → Except ε β) (items : List α) (cause : ε) :
    items.mapM step = .error cause ↔
      ∃ before item after, items = before ++ item :: after ∧
        (∀ earlier ∈ before, ∃ value, step earlier = .ok value) ∧ step item = .error cause := by
  induction items with
  | nil => simp [pure, Except.pure]
  | cons first rest ih =>
      rw [mapM_cons_eq_error_iff, ih]
      constructor
      · rintro (failed | ⟨success, before, item, after, rfl, earlier, failed⟩)
        · exact ⟨[], first, rest, rfl, by simp, failed⟩
        · exact ⟨first :: before, item, after, rfl, List.forall_mem_cons.mpr ⟨success, earlier⟩,
            failed⟩
      · rintro ⟨before, item, after, split, earlier, failed⟩
        cases before with
        | nil =>
            obtain ⟨rfl, _⟩ := List.cons.inj split
            exact Or.inl failed
        | cons start more =>
            obtain ⟨rfl, rfl⟩ := List.cons.inj split
            obtain ⟨success, later⟩ := List.forall_mem_cons.mp earlier
            exact Or.inr ⟨success, more, item, after, rfl, later, failed⟩

theorem mapM_mapError {ε δ α β : Type} (change : ε → δ) (step : α → Except ε β)
    (items : List α) :
    (items.mapM step).mapError change = items.mapM fun item => (step item).mapError change := by
  induction items with
  | nil => rfl
  | cons item rest ih =>
      rw [List.mapM_cons, List.mapM_cons, ← ih]
      cases step item with
      | error cause => rfl
      | ok value => cases rest.mapM step <;> rfl

/-- What a test says of an outcome's value shows that there is one. -/
theorem exists_ok_of_toOption_map {ε α β : Type} {outcome : Except ε α} {observe : α → β}
    {observed : β} (seen : outcome.toOption.map observe = some observed) :
    ∃ value, outcome = .ok value ∧ observe value = observed := by
  cases outcome with
  | error cause => cases seen
  | ok value => exact ⟨value, rfl, Option.some.inj seen⟩

namespace Audit

variable {α β : Type}

@[simp] theorem ofExcept_result (result : Except Fault α) : (ofExcept result).result = result := rfl

@[simp] theorem fail_result (cause : Failure) :
    (fail cause : Audit α).result = .error (.failure cause) := rfl

@[simp] theorem ofFailing_result (outcome : Except Failure α) :
    (ofFailing outcome).result = outcome.mapError .failure := by
  cases outcome <;> rfl

/-- What follows recorded notices alone decides the result. -/
@[simp] theorem notify_bind_result (notices : List Notice) (next : Unit → Audit β) :
    (notify notices >>= next).result = (next ()).result := rfl

theorem id_map (first : Audit α) : id <$> first = first := by
  show Audit.bind first Audit.pure = first
  obtain ⟨notices, result⟩ := first
  cases result <;> simp [Audit.bind, Audit.pure]

theorem bind_assoc {γ : Type} (first : Audit α) (next : α → Audit β) (last : β → Audit γ) :
    first >>= next >>= last = first >>= fun value => next value >>= last := by
  show Audit.bind (Audit.bind first next) last =
    Audit.bind first fun value => Audit.bind (next value) last
  obtain ⟨notices, result⟩ := first
  cases result with
  | error cause => rfl
  | ok value =>
      simp only [Audit.bind]
      cases (next value).result <;> simp

instance : LawfulMonad Audit :=
  LawfulMonad.mk' Audit id_map (fun _ _ => rfl) bind_assoc

/-- What follows a result has to agree on this result only. -/
theorem bind_congr {first : Audit α} {next other : α → Audit β}
    (same : ∀ value, first.result = .ok value → next value = other value) :
    first >>= next = first >>= other := by
  show Audit.bind first next = Audit.bind first other
  unfold Audit.bind
  cases found : first.result with
  | error fault => rfl
  | ok value => simp only [same value found]

theorem map_result (change : α → β) (first : Audit α) :
    (change <$> first).result = first.result.map change := by
  rw [map_eq_pure_bind, bind_result]
  cases first.result <;> rfl

theorem bind_eq_ok_iff (first : Audit α) (next : α → Audit β) (value : β) :
    (first >>= next).result = .ok value ↔
      ∃ between, first.result = .ok between ∧ (next between).result = .ok value := by
  rw [bind_result]
  exact StyleAudit.bind_eq_ok_iff _ _ _

/-- The results of audits in sequence are those of the single audits. -/
theorem mapM_result (step : α → Audit β) (items : List α) :
    (items.mapM step).result = items.mapM fun item => (step item).result := by
  induction items with
  | nil => rfl
  | cons item rest ih =>
      simp only [List.mapM_cons, bind_result, pure_result, ih]
      rfl

/-- Audits that all yield a value yield the list of these, and gather their notices in order. -/
theorem mapM_eq_of_forall₂ {step : α → Audit β} {items : List α} {parts : List (β × List Notice)}
    (each : List.Forall₂ (fun item part => step item = ⟨part.2, .ok part.1⟩) items parts) :
    items.mapM step = ⟨parts.flatMap (·.2), .ok (parts.map (·.1))⟩ := by
  induction each with
  | nil => rfl
  | @cons item part items parts first _ ih =>
      rw [List.mapM_cons, first, ih]
      show Audit.mk (part.2 ++ (parts.flatMap (·.2) ++ [])) _ = _
      rw [List.append_nil]
      rfl

/-- The first audit that fails ends a list of them, behind the notices of those before it. -/
theorem mapM_eq_of_error {step : α → Audit β} {before : List α} {parts : List (β × List Notice)}
    (each : List.Forall₂ (fun item part => step item = ⟨part.2, .ok part.1⟩) before parts)
    {item : α} {fault : Fault} (failed : step item = ⟨[], .error fault⟩) (after : List α) :
    (before ++ item :: after).mapM step = ⟨parts.flatMap (·.2), .error fault⟩ := by
  induction each with
  | nil =>
      rw [List.nil_append, List.mapM_cons, failed]
      rfl
  | @cons first part items parts success _ ih =>
      rw [List.cons_append, List.mapM_cons, success, ih]
      rfl

end Audit

end StyleAudit
