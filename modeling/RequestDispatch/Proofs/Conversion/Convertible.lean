import RequestDispatch.Proofs.Conversion.Cache

/-!
Types that every text is converted to. To be one takes more than that a converter is found: the
converter has to accept the type that it was found for.
-/

namespace RequestDispatch

/-- The converter makes a value of the type out of every text. -/
def Converter.Accepts (converter : Converter) (target : TypeDescriptor) : Prop :=
  ∀ serial raw, ∃ value, converter.convert target serial raw = .ok value

namespace ConversionService

def Finds (base : ConversionService) (target : TypeDescriptor) : Prop :=
  ∃ converter, base.find target = .ok converter

def Converts (base : ConversionService) (target : TypeDescriptor) : Prop :=
  ∃ converter, base.find target = .ok converter ∧ converter.Accepts target

/-- The items of a sequence are converted one by one, so an array needs convertible elements too. -/
inductive Convertible (base : ConversionService) : TypeDescriptor → Prop
  | single {target : TypeDescriptor} :
      isTarget target → target.isArray = false → base.Converts target → Convertible base target
  | array {key : TypeKey} {element : TypeDescriptor} :
      base.Converts (.describe key (.array element)) → Convertible base element →
        Convertible base (.describe key (.array element))

variable {base service : ConversionService} {family : TypeFamily} {target : TypeDescriptor}

theorem Convertible.converts (convertible : base.Convertible target) : base.Converts target := by
  cases convertible with
  | single _ _ converts => exact converts
  | array converts _ => exact converts

theorem Recalls.serial (recalls : base.Recalls family service) (next : Nat) :
    base.Recalls family { service with nextSerial := next } :=
  ⟨recalls.registered, recalls.hierarchy, recalls.remembered⟩

theorem apply_recalls (recalls : base.Recalls family service) (converter : Converter)
    (target : TypeDescriptor) (raw : String) :
    ∃ serial after, service.applyConverter converter target raw =
        (converter.convert target serial raw, after) ∧ base.Recalls family after :=
  ⟨service.nextSerial, _, rfl, recalls.serial _⟩

theorem convert_text_recalls (recalls : base.Recalls family service) (member : family.Member target)
    {converter : Converter} (found : base.find target = .ok converter) (raw : String) :
    ∃ serial after, service.convertText target raw =
        (converter.convert target serial raw, after) ∧ base.Recalls family after := by
  obtain ⟨middle, looked, recallsMiddle⟩ := lookup_recalls recalls member
  rw [convertText, looked, found]
  exact apply_recalls recallsMiddle converter target raw

theorem convert_text_total (recalls : base.Recalls family service) (member : family.Member target)
    (convertible : base.Convertible target) (raw : String) :
    ∃ value after, service.convertText target raw = (.ok value, after) ∧
      base.Recalls family after := by
  obtain ⟨converter, found, accepts⟩ := convertible.converts
  obtain ⟨serial, after, made, recallsAfter⟩ := convert_text_recalls recalls member found raw
  obtain ⟨value, converted⟩ := accepts serial raw
  exact ⟨value, after, by rw [made, converted], recallsAfter⟩

theorem convert_items_each (Related : Value → Value → Prop)
    {convertItem : ConversionService → Value → Except ConvertError Value × ConversionService}
    {items : List Value}
    (each : ∀ service, ∀ item ∈ items, base.Recalls family service → ∃ value after,
      convertItem service item = (.ok value, after) ∧ Related item value ∧
        base.Recalls family after)
    (recalls : base.Recalls family service) :
    ∃ values after, convertItems convertItem service items = (.ok values, after) ∧
      List.Forall₂ Related items values ∧ base.Recalls family after := by
  induction items generalizing service with
  | nil => exact ⟨[], service, rfl, .nil, recalls⟩
  | cons item items ih =>
      obtain ⟨value, middle, converted, own, recallsMiddle⟩ :=
        each service item List.mem_cons_self recalls
      obtain ⟨values, after, others, related, recallsAfter⟩ :=
        ih (fun service other member => each service other (List.mem_cons_of_mem _ member))
          recallsMiddle
      refine ⟨value :: values, after, ?_, .cons own related, recallsAfter⟩
      rw [convertItems, converted]
      dsimp only
      rw [others]

theorem convert_array_each (Related : Value → Value → Prop) {key : TypeKey}
    {element : TypeDescriptor} {raw : Value} {items : List Value}
    (recalls : base.Recalls family service) (member : family.Member (.describe key (.array element)))
    (finds : base.Finds (.describe key (.array element))) (sequence : raw.items? = some items)
    (each : ∀ service, ∀ item ∈ items, base.Recalls family service → ∃ value after,
      service.convert element item = (.ok value, after) ∧ Related item value ∧
        base.Recalls family after) :
    ∃ values after, service.convert (.describe key (.array element)) raw =
        (.ok (.array values), after) ∧
      List.Forall₂ Related items values ∧ base.Recalls family after := by
  obtain ⟨converter, found⟩ := finds
  obtain ⟨middle, looked, recallsMiddle⟩ := lookup_recalls recalls member
  obtain ⟨values, after, converted, inOrder, recallsAfter⟩ :=
    convert_items_each Related each recallsMiddle
  refine ⟨values, after, ?_, inOrder, recallsAfter⟩
  rw [convert, looked, found]
  simp only [sequence, converted]
  rfl

theorem convert_items_total
    {convertItem : ConversionService → Value → Except ConvertError Value × ConversionService}
    (each : ∀ service item, base.Recalls family service → ∃ value after,
      convertItem service item = (.ok value, after) ∧ base.Recalls family after)
    (recalls : base.Recalls family service) (items : List Value) :
    ∃ values after, convertItems convertItem service items = (.ok values, after) ∧
      base.Recalls family after := by
  obtain ⟨values, after, converted, -, recallsAfter⟩ :=
    convert_items_each (fun _ _ => True) (fun service (item : Value) (_ : item ∈ items) recalls =>
        have ⟨value, after, converted, kept⟩ := each service item recalls
        ⟨value, after, converted, trivial, kept⟩) recalls
  exact ⟨values, after, converted, recallsAfter⟩

/-- Every raw value is converted to a convertible type. -/
theorem convert_total (recalls : base.Recalls family service) (member : family.Member target)
    (convertible : base.Convertible target) (raw : Value) :
    ∃ value after, service.convert target raw = (.ok value, after) ∧
      base.Recalls family after := by
  -- The service changes from item to item, so the induction hypothesis is for any of them.
  induction convertible generalizing service raw with
  | @single target simple notArray converts =>
      have whole : base.Convertible target := .single simple notArray converts
      obtain ⟨key, kind⟩ := target
      cases kind with
      | collection kind element => cases simple
      | map key value => cases simple
      | array element => cases notArray
      | _ =>
          rw [convert]
          cases leadText? raw with
          | none => exact ⟨_, service, rfl, recalls⟩
          | some text => exact convert_text_total recalls member whole text
          all_goals simp
  | @array key element converts _ ih =>
      obtain ⟨converter, found, accepts⟩ := converts
      cases sequence : raw.items? with
      | some items =>
          obtain ⟨values, after, converted, -, recallsAfter⟩ := convert_array_each
            (fun _ _ => True) recalls member ⟨converter, found⟩ sequence
            fun service item _ recalls =>
              have ⟨value, after, made, kept⟩ := ih recalls (family.element member) item
              ⟨value, after, made, trivial, kept⟩
          exact ⟨.array values, after, converted, recallsAfter⟩
      | none =>
          obtain ⟨middle, looked, recallsMiddle⟩ := lookup_recalls recalls member
          rw [convert, looked, found]
          simp only [sequence]
          cases raw.isNull with
          | true => exact ⟨_, middle, rfl, recallsMiddle⟩
          | false =>
              obtain ⟨serial, after, applied, recallsAfter⟩ := apply_recalls recallsMiddle converter
                (.describe key (.array element)) raw.display
              obtain ⟨value, converted⟩ := accepts serial raw.display
              exact ⟨value, after, by rw [← converted]; exact applied, recallsAfter⟩

end ConversionService
end RequestDispatch
