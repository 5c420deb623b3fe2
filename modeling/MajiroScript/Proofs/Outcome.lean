import Mathlib.Control.Monad.Basic

/-! Computations that stop at their first error: when a composed one succeeds. -/
namespace MajiroScript.Outcome

@[simp] theorem bind_eq_ok_iff {first : Except ε α} {next : α → Except ε β} {result : β} :
    (first >>= next) = .ok result ↔ ∃ value, first = .ok value ∧ next value = .ok result := by
  cases first with
  | error error => simp [bind, Except.bind]
  | ok value => simp [bind, Except.bind]

@[simp] theorem pure_eq_ok_iff {value result : α} :
    (pure value : Except ε α) = .ok result ↔ value = result := by
  simp [pure, Except.pure]

@[simp] theorem map_eq_ok_iff {first : Except ε α} {change : α → β} {result : β} :
    first.map change = .ok result ↔ ∃ value, first = .ok value ∧ change value = result := by
  cases first with
  | error error => simp [Except.map]
  | ok value => simp [Except.map]

@[simp] theorem map_eq_error_iff {first : Except ε α} {change : α → β} {error : ε} :
    first.map change = .error error ↔ first = .error error := by
  cases first with
  | error error => simp [Except.map]
  | ok value => simp [Except.map]

@[simp] theorem mapError_eq_ok_iff {first : Except ε α} {change : ε → δ} {result : α} :
    first.mapError change = .ok result ↔ first = .ok result := by
  cases first with
  | error error => simp [Except.mapError]
  | ok value => simp [Except.mapError]

theorem mapM_eq_ok_iff {step : α → Except ε β} {items : List α} {results : List β} :
    items.mapM step = .ok results ↔ items.map step = results.map .ok := by
  induction items generalizing results with
  | nil =>
      rw [List.mapM_nil, pure_eq_ok_iff, List.map_nil, List.nil_eq, List.nil_eq,
        List.map_eq_nil_iff]
  | cons item items ih =>
      simp only [List.mapM_cons, bind_eq_ok_iff, pure_eq_ok_iff, ih, List.map_cons]
      constructor
      · rintro ⟨first, hfirst, rest, hrest, rfl⟩
        rw [hfirst, hrest, List.map_cons]
      · intro h
        cases results with
        | nil => simp at h
        | cons first rest =>
            simp only [List.map_cons, List.cons.injEq] at h
            exact ⟨first, h.1, rest, h.2, rfl⟩

theorem mapM_cons_of_ok {step : α → Except ε β} {item : α} {items : List α} {result : β}
    (h : step item = .ok result) :
    (item :: items).mapM step = (items.mapM step).map (result :: ·) := by
  rw [List.mapM_cons, h]
  cases items.mapM step with
  | error error => rfl
  | ok results => rfl

theorem mapM_cons_of_error {step : α → Except ε β} {item : α} {items : List α} {error : ε}
    (h : step item = .error error) : (item :: items).mapM step = .error error := by
  rw [List.mapM_cons, h]
  rfl

def firstError? (results : List (Except ε α)) : Option ε :=
  results.findSome? fun
    | .error error => some error
    | .ok _ => none

@[simp] theorem firstError?_cons_ok (value : α) (results : List (Except ε α)) :
    firstError? (.ok value :: results) = firstError? results := rfl

@[simp] theorem firstError?_cons_error (error : ε) (results : List (Except ε α)) :
    firstError? (.error error :: results) = some error := rfl

theorem firstError?_map_map (change : α → β) (results : List (Except ε α)) :
    firstError? (results.map (·.map change)) = firstError? results := by
  induction results with
  | nil => rfl
  | cons result results ih =>
      cases result with
      | error error => rfl
      | ok value => exact ih

theorem mapM_eq_firstError? (step : α → Except ε β) (items : List α) :
    items.mapM step =
      match firstError? (items.map step) with
      | some error => .error error
      | none => .ok (items.filterMap fun item => (step item).toOption) := by
  induction items with
  | nil => rfl
  | cons item items ih =>
      rw [List.map_cons]
      cases hitem : step item with
      | error error => rw [mapM_cons_of_error hitem, firstError?_cons_error]
      | ok result =>
          rw [mapM_cons_of_ok hitem, ih, firstError?_cons_ok, List.filterMap_cons, hitem]
          cases firstError? (items.map step) with
          | none => rfl
          | some error => rfl

theorem bind_pure_eq_map {first : Except ε α} {change : α → β} :
    (first >>= fun value => pure (change value)) = first.map change := by
  cases first with
  | error error => rfl
  | ok value => rfl

theorem map_map {first : Except ε α} {change : α → β} {further : β → γ} :
    (first.map change).map further = first.map (further ∘ change) := by
  cases first with
  | error error => rfl
  | ok value => rfl

theorem exists_map_eq_ok {step : α → Except ε β} {items : List α}
    (h : ∀ item ∈ items, ∃ result, step item = .ok result) :
    ∃ results : List β, items.map step = results.map .ok := by
  induction items with
  | nil => exact ⟨[], rfl⟩
  | cons item items ih =>
      obtain ⟨result, hresult⟩ := h item List.mem_cons_self
      obtain ⟨results, hresults⟩ := ih fun item hmem => h item (List.mem_cons_of_mem _ hmem)
      exact ⟨result :: results, by rw [List.map_cons, hresult, hresults, List.map_cons]⟩

end MajiroScript.Outcome
