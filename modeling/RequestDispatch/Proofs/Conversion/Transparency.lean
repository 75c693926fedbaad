import Mathlib.Data.List.Induction
import RequestDispatch.Proofs.Conversion.Cache

/-!
Conversion services that remember. Two services that remember different things, but only what a base
service finds, answer alike and stay so (`Alike`). After any look-ups, checks, conversions and
registrations a service remembers only what a fresh one with the same converters finds
(`perform_all_recalls`), so what it remembers is never seen (`cache_transparent`).
-/

namespace RequestDispatch
namespace ConversionService

/-- Two services convert with what is registered at the base, whatever they remember, and give the
next object the same number. -/
structure Alike (base : ConversionService) (family : TypeFamily) (one other : ConversionService) :
    Prop where
  first : base.Recalls family one
  second : base.Recalls family other
  serial : one.nextSerial = other.nextSerial

variable {base one other : ConversionService} {family : TypeFamily} {target : TypeDescriptor}

theorem remember_serial (service : ConversionService) (key : TypeKey) (converter : Converter) :
    (service.remember key converter).2.nextSerial = service.nextSerial := by
  unfold remember
  split <;> rfl

theorem lookup_serial (service : ConversionService) (target : TypeDescriptor) :
    (service.lookup target).2.nextSerial = service.nextSerial := by
  fun_induction lookup service target with
  | case1 => rfl
  | case2 => rfl
  | case3 => rfl
  | case4 _ _ _ _ _ _ _ found ih => rw [← ih, found]
  | case5 key _ _ element _ inner middle found converter after kept ih =>
      have step := remember_serial middle key (.singleton element inner)
      rw [kept] at step
      rw [← ih, found]
      exact step
  | case6 => rfl
  | case7 key _ _ _ _ found _ converter after kept =>
      have step := remember_serial service key found
      rw [kept] at step
      exact step

theorem Alike.lookup (alike : base.Alike family one other) (member : family.Member target) :
    ∃ after alsoAfter, one.lookup target = (base.find target, after) ∧
      other.lookup target = (base.find target, alsoAfter) ∧
      base.Alike family after alsoAfter := by
  obtain ⟨after, found, recalls⟩ := lookup_recalls alike.first member
  obtain ⟨alsoAfter, alsoFound, alsoRecalls⟩ := lookup_recalls alike.second member
  have serial := lookup_serial one target
  have alsoSerial := lookup_serial other target
  rw [found] at serial
  rw [alsoFound] at alsoSerial
  refine ⟨after, alsoAfter, found, alsoFound, recalls, alsoRecalls, ?_⟩
  exact serial.trans (alike.serial.trans alsoSerial.symm)

def Agree {α : Type} (base : ConversionService) (family : TypeFamily)
    (first second : α × ConversionService) : Prop :=
  first.1 = second.1 ∧ base.Alike family first.2 second.2

theorem Alike.apply (alike : base.Alike family one other) (converter : Converter)
    (target : TypeDescriptor) (raw : String) :
    Agree base family (one.applyConverter converter target raw)
      (other.applyConverter converter target raw) := by
  rw [applyConverter, applyConverter, alike.serial]
  exact ⟨rfl, ⟨alike.first.registered, alike.first.hierarchy, alike.first.remembered⟩,
    ⟨alike.second.registered, alike.second.hierarchy, alike.second.remembered⟩, rfl⟩

theorem Alike.convertText (alike : base.Alike family one other) (member : family.Member target)
    (raw : String) :
    Agree base family (one.convertText target raw) (other.convertText target raw) := by
  obtain ⟨after, alsoAfter, found, alsoFound, still⟩ := alike.lookup member
  rw [ConversionService.convertText, ConversionService.convertText, found, alsoFound]
  cases base.find target with
  | error error => exact ⟨rfl, still⟩
  | ok converter => exact still.apply converter target raw

theorem Alike.convertItems
    {convertItem : ConversionService → Value → Except ConvertError Value × ConversionService}
    (each : ∀ one other item, base.Alike family one other →
      Agree base family (convertItem one item) (convertItem other item))
    (alike : base.Alike family one other) (items : List Value) :
    Agree base family (ConversionService.convertItems convertItem one items)
      (ConversionService.convertItems convertItem other items) := by
  induction items generalizing one other with
  | nil => exact ⟨rfl, alike⟩
  | cons item items ih =>
      have head := each one other item alike
      rw [ConversionService.convertItems, ConversionService.convertItems]
      generalize convertItem one item = first at head
      generalize convertItem other item = second at head
      obtain ⟨answer, after⟩ := first
      obtain ⟨_, alsoAfter⟩ := second
      obtain ⟨rfl, still⟩ := head
      cases answer with
      | error error => exact ⟨rfl, still⟩
      | ok value =>
          have tail := ih still
          dsimp only
          generalize ConversionService.convertItems convertItem after items = first at tail
          generalize ConversionService.convertItems convertItem alsoAfter items = second at tail
          obtain ⟨answers, last⟩ := first
          obtain ⟨_, alsoLast⟩ := second
          obtain ⟨rfl, ended⟩ := tail
          cases answers with
          | error error => exact ⟨rfl, ended⟩
          | ok values => exact ⟨rfl, ended⟩

theorem Alike.convertArray {key : TypeKey} {element : TypeDescriptor}
    (alike : base.Alike family one other) (member : family.Member (.describe key (.array element)))
    (each : ∀ one other item, base.Alike family one other →
      Agree base family (one.convert element item) (other.convert element item)) (raw : Value) :
    Agree base family (one.convert (.describe key (.array element)) raw)
      (other.convert (.describe key (.array element)) raw) := by
  obtain ⟨after, alsoAfter, found, alsoFound, still⟩ := alike.lookup member
  rw [ConversionService.convert, ConversionService.convert, found, alsoFound]
  cases base.find (.describe key (.array element)) with
  | error error => exact ⟨rfl, still⟩
  | ok converter =>
      dsimp only
      cases raw.items? with
      | some items =>
          have agree := still.convertItems each items
          exact ⟨congrArg (Except.map Value.array) agree.1, agree.2⟩
      | none =>
          cases raw.isNull with
          | true => exact ⟨rfl, still⟩
          | false => exact still.apply converter _ raw.display

/-- Both convert a raw value to the same result. -/
theorem Alike.convert {one other : ConversionService} (alike : base.Alike family one other)
    (target : TypeDescriptor) (member : family.Member target) (raw : Value) :
    Agree base family (one.convert target raw) (other.convert target raw) := by
  match target with
  | .describe key (.collection _ _) => exact ⟨rfl, alike⟩
  | .describe key (.map _ _) => exact ⟨rfl, alike⟩
  | .describe key (.array element) =>
      refine alike.convertArray member (fun one other item still => ?_) raw
      exact still.convert element (family.element member) item
  | .describe key (.primitive _) | .describe key (.boxed _) | .describe key .text
  | .describe key (.enumeration _) | .describe key .object =>
      rw [ConversionService.convert, ConversionService.convert]
      cases leadText? raw with
      | none => exact ⟨rfl, alike⟩
      | some text => exact alike.convertText member text
      all_goals simp

theorem ensure_convertible_fst (service : ConversionService) (target : TypeDescriptor) :
    (service.ensureConvertible target).1 =
      if isTarget target then (service.lookup target).1.map fun _ => ()
      else .error (.notConvertible target.key) := by
  rw [ConversionService.ensureConvertible]
  split <;> rfl

theorem Alike.ensureConvertible (alike : base.Alike family one other)
    (member : family.Member target) :
    Agree base family (one.ensureConvertible target) (other.ensureConvertible target) := by
  rw [ConversionService.ensureConvertible, ConversionService.ensureConvertible]
  by_cases valid : isTarget target
  · obtain ⟨after, alsoAfter, found, alsoFound, still⟩ := alike.lookup member
    rw [if_pos valid, if_pos valid, found, alsoFound]
    exact ⟨rfl, still⟩
  · rw [if_neg valid, if_neg valid]
    exact ⟨rfl, alike⟩

/-- What a service may be asked, and the registration of a converter. -/
inductive Operation where
  | lookup (target : TypeDescriptor)
  | ensureConvertible (target : TypeDescriptor)
  | convert (target : TypeDescriptor) (raw : Value)
  | register (key : TypeKey) (converter : Converter)

inductive Answer where
  | found (result : Except ConvertError Converter)
  | checked (result : Except ConvertError Unit)
  | converted (result : Except ConvertError Value)
  | registered

namespace Operation

def Within (family : TypeFamily) : Operation → Prop
  | .lookup target => family.Member target
  | .ensureConvertible target => family.Member target
  | .convert target _ => family.Member target
  | .register _ _ => True

def registration? : Operation → Option (TypeKey × Converter)
  | .register key converter => some (key, converter)
  | _ => none

end Operation

def perform (service : ConversionService) : Operation → Answer × ConversionService
  | .lookup target =>
    let (result, after) := service.lookup target
    (.found result, after)
  | .ensureConvertible target =>
    let (result, after) := service.ensureConvertible target
    (.checked result, after)
  | .convert target raw =>
    let (result, after) := service.convert target raw
    (.converted result, after)
  | .register key converter => (.registered, service.register key converter)

def performAll (service : ConversionService) (operations : List Operation) : ConversionService :=
  operations.foldl (fun service operation => (service.perform operation).2) service

/-- A service that has been asked nothing yet, with converters registered in this order. -/
def fresh (hierarchy : TypeHierarchy) (entries : List (TypeKey × Converter)) : ConversionService :=
  entries.foldl (fun service entry => service.register entry.1 entry.2) (empty hierarchy)

def numbered (service : ConversionService) (serial : Nat) : ConversionService :=
  { service with nextSerial := serial }

theorem Recalls.numbered {service : ConversionService} (recalls : base.Recalls family service)
    (serial : Nat) : base.Recalls family (service.numbered serial) :=
  ⟨recalls.registered, recalls.hierarchy, recalls.remembered⟩

theorem Alike.perform (alike : base.Alike family one other) {operation : Operation}
    (within : operation.Within family) : (one.perform operation).1 = (other.perform operation).1 := by
  cases operation with
  | lookup target =>
      obtain ⟨_, _, found, alsoFound, -⟩ := alike.lookup within
      simp only [ConversionService.perform, found, alsoFound]
  | ensureConvertible target => exact congrArg Answer.checked (alike.ensureConvertible within).1
  | convert target raw => exact congrArg Answer.converted (alike.convert target within raw).1
  | register key converter => rfl

theorem Recalls.perform {service : ConversionService} (recalls : base.Recalls family service)
    {operation : Operation} (within : operation.Within family) :
    match operation.registration? with
    | some (key, converter) =>
      (base.register key converter).Recalls family (service.perform operation).2
    | none => base.Recalls family (service.perform operation).2 := by
  have alike : base.Alike family service service := ⟨recalls, recalls, rfl⟩
  cases operation with
  | lookup target =>
      obtain ⟨after, found, still⟩ := lookup_recalls recalls within
      simp only [Operation.registration?, ConversionService.perform, found]
      exact still
  | ensureConvertible target => exact (alike.ensureConvertible within).2.first
  | convert target raw => exact (alike.convert target within raw).2.first
  | register key converter =>
      refine ⟨congrArg (replaceEntry key converter) recalls.registered, recalls.hierarchy, ?_⟩
      intro entry member
      cases member

theorem fresh_append (hierarchy : TypeHierarchy) (entries : List (TypeKey × Converter))
    (key : TypeKey) (converter : Converter) :
    fresh hierarchy (entries ++ [(key, converter)]) =
      (fresh hierarchy entries).register key converter := by
  rw [fresh, List.foldl_append]
  rfl

theorem fresh_cache (hierarchy : TypeHierarchy) (entries : List (TypeKey × Converter)) :
    (fresh hierarchy entries).cache = [] := by
  induction entries using List.reverseRecOn with
  | nil => rfl
  | append_singleton entries entry => rw [fresh_append]; rfl

/-- After any operations a service remembers only what a fresh one, with the converters registered
so far, would find. -/
theorem perform_all_recalls (hierarchy : TypeHierarchy) (initial : List (TypeKey × Converter))
    {operations : List Operation} (within : ∀ asked ∈ operations, asked.Within family) :
    (fresh hierarchy (initial ++ operations.filterMap Operation.registration?)).Recalls family
      ((fresh hierarchy initial).performAll operations) := by
  induction operations using List.reverseRecOn with
  | nil =>
      rw [List.filterMap_nil, List.append_nil]
      exact recalls_self _ family (fresh_cache hierarchy initial)
  | append_singleton operations operation ih =>
      have before := ih fun asked member => within asked (List.mem_append_left _ member)
      have step := before.perform (within operation (by simp))
      have last : (fresh hierarchy initial).performAll (operations ++ [operation]) =
          (((fresh hierarchy initial).performAll operations).perform operation).2 := by
        rw [performAll, List.foldl_append]
        rfl
      rw [last, List.filterMap_append, List.filterMap_cons, List.filterMap_nil]
      cases registers : operation.registration? with
      | none =>
          rw [registers] at step
          rw [List.append_nil]
          exact step
      | some entry =>
          rw [registers] at step
          rw [← List.append_assoc, fresh_append]
          exact step

/-- A look-up that fails remembers nothing. -/
theorem lookup_failed {service after : ConversionService} {error : ConvertError}
    (failed : service.lookup target = (.error error, after)) : after = service := by
  fun_induction lookup service target generalizing after with
  | case1 => cases failed
  | case2 => cases failed
  | case3 => cases failed; rfl
  | case4 _ _ _ _ _ _ _ inner ih => cases failed; exact ih inner
  | case5 => cases failed
  | case6 => cases failed; rfl
  | case7 => cases failed

/-- What a service remembers is never seen: whatever it has been asked before, and whatever has
been registered in between, it answers as a fresh service does that has the same converters
registered and gives the next object the same number. -/
theorem cache_transparent (hierarchy : TypeHierarchy) (family : TypeFamily)
    (initial : List (TypeKey × Converter)) (before : List Operation) (operation : Operation)
    (within : ∀ asked ∈ before ++ [operation], asked.Within family) :
    let service := (fresh hierarchy initial).performAll before
    let unasked := fresh hierarchy (initial ++ before.filterMap Operation.registration?)
    (service.perform operation).1 =
        ((unasked.numbered service.nextSerial).perform operation).1 ∧
      (∀ target, family.Member target →
        (service.lookup target).1 = (unasked.lookup target).1 ∧
        (service.ensureConvertible target).1 = (unasked.ensureConvertible target).1) ∧
      ∀ target error after, service.lookup target = (.error error, after) →
        after.cache = service.cache := by
  intro service unasked
  have recalls : unasked.Recalls family service := by
    apply perform_all_recalls
    intro asked member
    exact within asked (List.mem_append_left _ member)
  have itself := recalls_self unasked family (fresh_cache _ _)
  refine ⟨?_, ?_, ?_⟩
  · have alike : unasked.Alike family service (unasked.numbered service.nextSerial) :=
      ⟨recalls, itself.numbered _, rfl⟩
    exact alike.perform (within operation (by simp))
  · intro target member
    obtain ⟨after, found, -⟩ := lookup_recalls recalls member
    obtain ⟨alsoAfter, alsoFound, -⟩ := lookup_recalls itself member
    have looked : (service.lookup target).1 = (unasked.lookup target).1 := by
      rw [found, alsoFound]
    exact ⟨looked, by rw [ensure_convertible_fst, ensure_convertible_fst, looked]⟩
  · intro target error after failed
    rw [lookup_failed failed]

/-- A new converter for the elements of an array replaces what was found for the array before. -/
theorem numbers_as_texts :
    let element := TypeDescriptor.boxed .int32
    let family := TypeFamily.ofArray element rfl
    let texts : Value := .array [.text "7", .text "x"]
    let before : List Operation :=
      [.lookup (.arrayOf element), .convert (.arrayOf element) texts,
        .register element.key .text, .ensureConvertible element]
    let operation : Operation := .convert (.arrayOf element) texts
    let service := (fresh .standard [(element.key, .number)]).performAll before
    let unasked := fresh .standard [(element.key, .number), (element.key, .text)]
    (∀ asked ∈ before ++ [operation], asked.Within family) ∧
      (service.perform operation).1 =
        ((unasked.numbered service.nextSerial).perform operation).1 ∧
      (service.perform operation).1 = .converted (.ok texts) := by
  intro element family texts before operation service unasked
  have within : ∀ asked ∈ before ++ [operation], asked.Within family := by
    simp only [before, operation, List.cons_append, List.nil_append, List.forall_mem_cons,
      Operation.Within, List.not_mem_nil]
    exact ⟨.inl rfl, .inl rfl, trivial, .inr rfl, .inl rfl, by simp⟩
  have same := (cache_transparent .standard family [(element.key, .number)] before operation within).1
  exact ⟨within, same, by rfl⟩

end ConversionService
end RequestDispatch
