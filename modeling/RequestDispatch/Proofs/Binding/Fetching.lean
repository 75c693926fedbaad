import RequestDispatch.Dispatch.Dispatcher
import RequestDispatch.Proofs.Binding.Validation
import RequestDispatch.Proofs.Conversion.InTurn

/-!
Taking values from an exchange in turn. Either every fetcher gives a value, which is `Fetches`, or
there is a first one that does not, which is `Stops`; `fetchAll` comes to the values in the order of
the fetchers in the one case and to what the first failing fetch comes to in the other. A fetch
fails with a value that is missing in its own source, a text that cannot be converted, or a bean
that the container does not give (`fetch_failure`).
-/

namespace RequestDispatch

variable {State : Type}

namespace ConversionService

theorem bind_error {service : ConversionService} {target : TypeDescriptor} {raw : Value}
    {error : DispatchError} (failed : (service.bind target raw).1 = .error error) :
    ∃ cause, error = .conversion cause := by
  change (service.convert target raw).1.mapError .conversion = .error error at failed
  cases converted : (service.convert target raw).1 with
  | ok value =>
      rw [converted] at failed
      cases failed
  | error cause =>
      rw [converted] at failed
      cases failed
      exact ⟨cause, rfl⟩

theorem bind_pairs_error {key value : TypeDescriptor} {service : ConversionService}
    {entries : List (Value × Value)} {pairs : List (String × String)} {error : DispatchError}
    (failed : (bindPairs key value service entries pairs).1 = .error error) :
    ∃ cause, error = .conversion cause := by
  rcases bind_pairs_in_turn key value service entries pairs with
    ⟨converted, last, -, bound⟩ | ⟨cause, last, -, bound⟩
  · rw [bound] at failed
    cases failed
  · rw [bound] at failed
    cases failed
    exact ⟨cause, rfl⟩

end ConversionService

namespace Fetcher

inductive Failure (fetcher : Fetcher) : DispatchError → Prop
  | missing (name : String) : Failure fetcher (.missingParameter name fetcher.source)
  | conversion (cause : ConvertError) : Failure fetcher (.conversion cause)
  | container (cause : ContainerError) : Failure fetcher (.container cause)

theorem Failure.of_conversion {fetcher : Fetcher} {error : DispatchError}
    (converted : ∃ cause, error = .conversion cause) : fetcher.Failure error := by
  obtain ⟨cause, rfl⟩ := converted
  exact .conversion cause

theorem Failure.missing_source {fetcher : Fetcher} {name : String} {source : ParameterSource}
    (failure : fetcher.Failure (.missingParameter name source)) : fetcher.source = source := by
  generalize same : DispatchError.missingParameter name source = error at failure
  cases failure with
  | missing => cases same; rfl
  | conversion => cases same
  | container => cases same

theorem Failure.ne_handled {fetcher : Fetcher} {error : DispatchError}
    (failure : fetcher.Failure error) : error ≠ .handled := by
  rintro rfl
  cases failure

section

variable {Bean : Type} {object : Bean → SharedObject} {exchange : Exchange State}
  {service : ConversionService} {container : Container Bean}

theorem attribute_error {target : TypeDescriptor} {held : Option Value} {error : DispatchError}
    (failed : (ofAttribute service target held).1 = .error error) :
    ∃ cause, error = .conversion cause := by
  unfold ofAttribute at failed
  split at failed
  · cases failed
  · cases failed
  · split at failed
    · exact ConversionService.bind_error failed
    · cases failed
  · cases failed

theorem fetch_failure {fetcher : Fetcher} {error : DispatchError}
    (failed : (fetcher.fetch object exchange service container).1 = some (.error error)) :
    fetcher.Failure error := by
  cases fetcher with
  | scalar origin name target fallback =>
      simp only [fetch] at failed
      split at failed
      · next unfound =>
        cases failed
        rw [raw_scalar_error unfound]
        exact .missing name
      · exact .of_conversion (ConversionService.bind_error (Option.some.inj failed))
  | collection origin name kind element adapter fallback =>
      simp only [fetch] at failed
      split at failed
      · next unfound =>
        cases failed
        rw [raw_items_error unfound]
        exact .missing name
      · dsimp only at failed
        split at failed
        · cases failed
          exact .conversion _
        · obtain ⟨items, -, same⟩ := Option.map_eq_some_iff.1 failed
          cases same
  | map name key value fallback =>
      simp only [fetch] at failed
      split at failed
      · next unfound =>
        cases failed
        rw [raw_pairs_error unfound]
        exact .missing name
      · next pairs _ =>
        cases bound : (ConversionService.bindPairs key value service [] pairs).1 with
        | ok entries =>
            rw [bound] at failed
            cases failed
        | error problem =>
            rw [bound] at failed
            cases failed
            exact .of_conversion (ConversionService.bind_pairs_error bound)
  | pathVariable name target =>
      simp only [fetch] at failed
      split at failed
      · cases failed
        exact .missing name
      · exact .of_conversion (ConversionService.bind_error (Option.some.inj failed))
  | session name target => exact .of_conversion (attribute_error (Option.some.inj failed))
  | requestAttribute name target => exact .of_conversion (attribute_error (Option.some.inj failed))
  | interceptSlot => cases failed
  | container type qualifier =>
      simp only [fetch] at failed
      cases resolved : (container.resolve type qualifier).1 with
      | ok bean => simp [resolved, Except.mapError, Except.map] at failed
      | error cause =>
          simp only [resolved, Except.mapError, Except.map, Option.some.injEq,
            Except.error.injEq] at failed
          rw [← failed]
          exact .container cause

end

def take (fetcher : Fetcher) (exchange : Exchange State) (memory : Memory State) :
    Option (Except DispatchError Value) × Memory State :=
  let (fetched, conversion, beans) :=
    fetcher.fetch Bean.object exchange memory.conversion memory.container
  (fetched, { memory with conversion := conversion, container := beans })

theorem take_failure {fetcher : Fetcher} {exchange : Exchange State} {memory : Memory State}
    {error : DispatchError} (failed : (fetcher.take exchange memory).1 = some (.error error)) :
    fetcher.Failure error :=
  fetch_failure failed

theorem take_bound_variable {exchange : Exchange State} {name text : String}
    (target : TypeDescriptor) (bound : exchange.pathVariable? name = some text)
    (memory : Memory State) :
    ((pathVariable name target).take exchange memory).1 =
      some (memory.conversion.bind target (.text text)).1 := by
  simp only [take, fetch, bound]

theorem bound_variable_not_missing {exchange : Exchange State} {name text : String}
    (target : TypeDescriptor) (bound : exchange.pathVariable? name = some text)
    (memory : Memory State) (parameter : String) (source : ParameterSource) :
    ((pathVariable name target).take exchange memory).1 ≠
      some (.error (.missingParameter parameter source)) := by
  rw [take_bound_variable target bound]
  intro failed
  obtain ⟨cause, same⟩ := ConversionService.bind_error (Option.some.inj failed)
  cases same

end Fetcher

section

variable {exchange : Exchange State}

/-- Each of the fetchers gives a value, one after the other. -/
inductive Fetches (exchange : Exchange State) :
    List Fetcher → Memory State → List Value → Memory State → Prop
  | nil (memory : Memory State) : Fetches exchange [] memory [] memory
  | cons {fetcher : Fetcher} {fetchers : List Fetcher} {memory middle last : Memory State}
      {value : Value} {values : List Value} :
      fetcher.take exchange memory = (some (.ok value), middle) →
      Fetches exchange fetchers middle values last →
      Fetches exchange (fetcher :: fetchers) memory (value :: values) last

/-- All fetchers before the one at an index give values. That one does not: it fails, or it is
abandoned if there is no failure. -/
structure Stops (exchange : Exchange State) (fetchers : List Fetcher) (memory : Memory State)
    (index : Nat) (fetcher : Fetcher) (failure : Option DispatchError) (last : Memory State) :
    Prop where
  at_index : fetchers[index]? = some fetcher
  stops : ∃ values middle, Fetches exchange (fetchers.take index) memory values middle ∧
    fetcher.take exchange middle = (failure.map .error, last)

theorem fetch_all_cons (fetcher : Fetcher) (fetchers : List Fetcher) (memory : Memory State) :
    fetchAll exchange (fetcher :: fetchers) memory =
      match fetcher.take exchange memory with
      | (none, memory) => (none, memory)
      | (some (.error error), memory) => (some (.error error), memory)
      | (some (.ok value), memory) =>
        let (others, memory) := fetchAll exchange fetchers memory
        (others.map fun values => values.map (value :: ·), memory) := by
  rw [fetchAll]
  unfold Fetcher.take
  obtain ⟨fetched, conversion, beans⟩ :=
    fetcher.fetch Bean.object exchange memory.conversion memory.container
  match fetched with
  | none => rfl
  | some (.error error) => rfl
  | some (.ok value) => rfl

theorem Fetches.fetch_all {fetchers : List Fetcher} {memory last : Memory State}
    {values : List Value} (fetches : Fetches exchange fetchers memory values last) :
    fetchAll exchange fetchers memory = (some (.ok values), last) := by
  induction fetches with
  | nil => rfl
  | cons taken _ ih =>
      rw [fetch_all_cons, taken]
      simp only [ih]
      rfl

theorem Fetches.length {fetchers : List Fetcher} {memory last : Memory State}
    {values : List Value} (fetches : Fetches exchange fetchers memory values last) :
    values.length = fetchers.length := by
  induction fetches with
  | nil => rfl
  | cons _ _ ih => simp [ih]

theorem Fetches.value_at {fetchers : List Fetcher} {memory last : Memory State}
    {values : List Value} (fetches : Fetches exchange fetchers memory values last) {index : Nat}
    {fetcher : Fetcher} (found : fetchers[index]? = some fetcher) :
    ∃ value before after, values[index]? = some value ∧
      fetcher.take exchange before = (some (.ok value), after) := by
  induction fetches generalizing index with
  | nil => cases found
  | cons taken _ ih =>
      cases index with
      | zero =>
          cases found
          exact ⟨_, _, _, rfl, taken⟩
      | succ index => simpa using ih (by simpa using found)

theorem Stops.fetch_all {fetchers : List Fetcher} {memory last : Memory State} {index : Nat}
    {fetcher : Fetcher} {failure : Option DispatchError}
    (stops : Stops exchange fetchers memory index fetcher failure last) :
    fetchAll exchange fetchers memory = (failure.map .error, last) := by
  obtain ⟨found, values, middle, before, stopped⟩ := stops
  induction index generalizing fetchers memory values middle with
  | zero =>
      cases fetchers with
      | nil => cases found
      | cons first fetchers =>
          cases found
          cases before
          rw [fetch_all_cons, stopped]
          cases failure <;> rfl
  | succ index ih =>
      cases fetchers with
      | nil => cases found
      | cons first fetchers =>
          cases before with
          | cons taken later =>
              have rest := ih (by simpa using found) _ _ later stopped
              rw [fetch_all_cons, taken]
              simp only [rest]
              cases failure <;> rfl

theorem fetches_or_stops (exchange : Exchange State) (fetchers : List Fetcher)
    (memory : Memory State) :
    (∃ values last, Fetches exchange fetchers memory values last) ∨
      ∃ index fetcher failure last,
        Stops exchange fetchers memory index fetcher failure last := by
  induction fetchers generalizing memory with
  | nil => exact .inl ⟨[], memory, .nil memory⟩
  | cons fetcher fetchers ih =>
      cases taken : fetcher.take exchange memory with
      | mk fetched middle =>
          match fetched with
          | none => exact .inr ⟨0, fetcher, none, middle, rfl, [], memory, .nil memory, taken⟩
          | some (.error error) =>
              exact .inr ⟨0, fetcher, some error, middle, rfl, [], memory, .nil memory, taken⟩
          | some (.ok value) =>
              rcases ih middle with ⟨values, last, fetches⟩ | ⟨index, failing, failure, last, stops⟩
              · exact .inl ⟨value :: values, last, .cons taken fetches⟩
              · obtain ⟨found, values, before, others, stopped⟩ := stops
                refine .inr ⟨index + 1, failing, failure, last, ?_, value :: values, before,
                  .cons taken others, stopped⟩
                simpa using found

theorem Stops.failure {fetchers : List Fetcher} {memory last : Memory State} {index : Nat}
    {fetcher : Fetcher} {error : DispatchError}
    (stops : Stops exchange fetchers memory index fetcher (some error) last) :
    fetcher.Failure error := by
  obtain ⟨_, _, _, _, stopped⟩ := stops
  exact Fetcher.take_failure (congrArg Prod.fst stopped)

theorem fetch_all_error {fetchers : List Fetcher} {memory : Memory State} {error : DispatchError}
    (failed : (fetchAll exchange fetchers memory).1 = some (.error error)) :
    ∃ index fetcher last, Stops exchange fetchers memory index fetcher (some error) last := by
  rcases fetches_or_stops exchange fetchers memory with
    ⟨values, last, fetches⟩ | ⟨index, fetcher, failure, last, stops⟩
  · rw [fetches.fetch_all] at failed
    cases failed
  · rw [stops.fetch_all] at failed
    obtain ⟨failure, rfl, same⟩ := Option.map_eq_some_iff.1 failed
    cases same
    exact ⟨index, fetcher, last, stops⟩

end

end RequestDispatch
