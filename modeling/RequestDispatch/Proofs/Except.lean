import Mathlib.Data.List.Forall2

/-!
Results that may be errors: what a result that is no error says of the steps it is made of.
-/

namespace RequestDispatch

universe u v w

variable {Error : Type u} {First : Type v} {Second : Type w}

theorem map_eq_ok {result : Except Error First} {f : First → Second} {value : Second} :
    result.map f = .ok value ↔ ∃ first, result = .ok first ∧ f first = value := by
  cases result <;> simp [Except.map]

theorem bind_eq_ok {Middle Last : Type v} {result : Except Error Middle}
    {f : Middle → Except Error Last} {value : Last} :
    result >>= f = .ok value ↔ ∃ first, result = .ok first ∧ f first = .ok value := by
  cases result <;> simp [bind, Except.bind]

theorem to_option_eq_some {result : Except Error First} {value : First} :
    result.toOption = some value ↔ result = .ok value := by
  cases result <;> simp [Except.toOption]

theorem to_option_bind {Middle Last : Type v} (result : Except Error Middle)
    (f : Middle → Except Error Last) :
    (result >>= f).toOption = result.toOption.bind fun value => (f value).toOption := by
  cases result <;> rfl

theorem source_of_mem {α β : Type} {relation : α → β → Prop} {sources : List α} {results : List β}
    (inOrder : List.Forall₂ relation sources results) {result : β} (member : result ∈ results) :
    ∃ source ∈ sources, relation source result := by
  induction inOrder with
  | nil => cases member
  | cons related _ ih =>
      cases member with
      | head => exact ⟨_, List.mem_cons_self, related⟩
      | tail _ later =>
          obtain ⟨source, known, found⟩ := ih later
          exact ⟨source, List.mem_cons_of_mem _ known, found⟩

theorem source_at {α β : Type} {relation : α → β → Prop} {sources : List α} {results : List β}
    (inOrder : List.Forall₂ relation sources results) {index : Nat} {result : β}
    (found : results[index]? = some result) :
    ∃ source, sources[index]? = some source ∧ relation source result := by
  induction inOrder generalizing index with
  | nil => cases found
  | cons related _ ih =>
      cases index with
      | zero =>
          cases found
          exact ⟨_, rfl, related⟩
      | succ index => simpa using ih (by simpa using found)

theorem result_at {α β : Type} {relation : α → β → Prop} {sources : List α} {results : List β}
    (inOrder : List.Forall₂ relation sources results) {index : Nat} {source : α}
    (found : sources[index]? = some source) :
    ∃ result, results[index]? = some result ∧ relation source result :=
  source_at inOrder.flip found

theorem mapM_in_order {α β ε : Type} {step : α → Except ε β} {items : List α} {results : List β}
    (made : items.mapM step = .ok results) :
    List.Forall₂ (fun item result => step item = .ok result) items results := by
  induction items generalizing results with
  | nil =>
      cases made
      exact .nil
  | cons item items ih =>
      rw [List.mapM_cons] at made
      obtain ⟨result, own, rest⟩ := bind_eq_ok.1 made
      obtain ⟨others, found, same⟩ := bind_eq_ok.1 rest
      cases same
      exact .cons own (ih found)

def failure? : Except Error First → Option Error
  | .error error => some error
  | .ok _ => none

theorem failure_eq_some {result : Except Error First} {error : Error} :
    failure? result = some error ↔ result = .error error := by
  cases result <;> simp [failure?]

theorem failure_eq_none {result : Except Error First} :
    failure? result = none ↔ ∃ value, result = .ok value := by
  cases result <;> simp [failure?]

theorem mapM_eq_error {α β ε : Type} {step : α → Except ε β} {items : List α} {error : ε} :
    items.mapM step = .error error ↔
      items.findSome? (fun item => failure? (step item)) = some error := by
  induction items with
  | nil => simp [pure, Except.pure]
  | cons item items ih =>
      rw [List.mapM_cons, List.findSome?_cons]
      cases step item with
      | error cause => simp [failure?, bind, Except.bind]
      | ok result =>
          change _ ↔ items.findSome? (fun item => failure? (step item)) = some error
          rw [← ih]
          cases items.mapM step <;> simp [bind, Except.bind, pure, Except.pure]

theorem mapM_ok {α β ε : Type} {step : α → Except ε β} {items : List α}
    (each : ∀ item ∈ items, ∃ result, step item = .ok result) :
    ∃ results, items.mapM step = .ok results := by
  induction items with
  | nil => exact ⟨[], rfl⟩
  | cons item items ih =>
      simp only [List.forall_mem_cons] at each
      obtain ⟨result, found⟩ := each.1
      obtain ⟨results, others⟩ := ih each.2
      exact ⟨result :: results, by rw [List.mapM_cons, found, others]; rfl⟩

theorem mapM_eq_map {α β ε : Type} {step : α → Except ε β} {result : α → β} {items : List α}
    (each : ∀ item ∈ items, step item = .ok (result item)) :
    items.mapM step = .ok (items.map result) := by
  induction items with
  | nil => rfl
  | cons item items ih =>
      rw [List.forall_mem_cons] at each
      rw [List.mapM_cons, each.1, ih each.2]
      rfl

end RequestDispatch
