import RequestDispatch.Conversion.Service

/-!
What a conversion keeps of the service it is asked of. All that it does there is to look up parts of
its target and to hand out numbers, so what each look-up keeps the whole conversion keeps
(`convert_keeps`).
-/

namespace RequestDispatch

def TypeDescriptor.parts : TypeDescriptor → List TypeDescriptor
  | .describe key (.array element) => .describe key (.array element) :: element.parts
  | .describe key kind => [.describe key kind]

theorem TypeDescriptor.mem_parts (type : TypeDescriptor) : type ∈ type.parts := by
  obtain ⟨key, kind⟩ := type
  cases kind <;> simp [parts]

namespace ConversionService

variable {service : ConversionService} {target : TypeDescriptor}

theorem convert_items_keeps (Keeps : ConversionService → Prop)
    {convertItem : ConversionService → Value → Except ConvertError Value × ConversionService}
    (each : ∀ service item, Keeps service → Keeps (convertItem service item).2)
    (keeps : Keeps service) (items : List Value) :
    Keeps (convertItems convertItem service items).2 := by
  fun_induction convertItems convertItem service items with
  | case1 => exact keeps
  | case2 service item _ _ _ converted =>
      have step := each service item keeps
      rwa [converted] at step
  | case3 service item _ _ _ converted _ _ rest ih =>
      have step := each service item keeps
      rw [converted] at step
      have last := ih step
      rwa [rest] at last
  | case4 service item _ _ _ converted _ _ rest ih =>
      have step := each service item keeps
      rw [converted] at step
      have last := ih step
      rwa [rest] at last

/-- A conversion keeps what every look-up of a part of its target keeps. -/
theorem convert_keeps (Keeps : ConversionService → Prop)
    (numbered : ∀ service serial, Keeps service → Keeps { service with nextSerial := serial })
    (looked : ∀ service, ∀ part ∈ target.parts, Keeps service → Keeps (service.lookup part).2)
    (keeps : Keeps service) (raw : Value) : Keeps (service.convert target raw).2 := by
  fun_induction convert service target raw with
  | case1 => exact keeps
  | case2 => exact keeps
  | case3 _ _ _ _ _ _ found =>
      have step := looked _ _ (TypeDescriptor.mem_parts _) keeps
      rwa [found] at step
  | case4 _ _ key element _ middle found items _ _ _ converted ih =>
      have step := looked _ _ (TypeDescriptor.mem_parts _) keeps
      rw [found] at step
      have last := convert_items_keeps Keeps (fun service item =>
        ih service item fun service part member =>
          looked service part (List.mem_cons_of_mem _ member)) step items
      rwa [converted] at last
  | case5 _ _ _ _ _ _ found =>
      have step := looked _ _ (TypeDescriptor.mem_parts _) keeps
      rwa [found] at step
  | case6 _ _ _ _ _ _ found =>
      have step := looked _ _ (TypeDescriptor.mem_parts _) keeps
      rw [found] at step
      exact numbered _ _ step
  | case7 => exact keeps
  | case8 service _ target _ _ _ text _ =>
      have step := looked service target target.mem_parts keeps
      rw [convertText]
      generalize service.lookup target = result at step
      obtain ⟨result, after⟩ := result
      cases result with
      | error error => exact step
      | ok converter => exact numbered _ _ step

end ConversionService
end RequestDispatch
