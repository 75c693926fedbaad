import RequestDispatch.Binding.Fetcher
import RequestDispatch.Proofs.Value.Insertion

/-!
Texts converted one after the other, each with the service that the one before it left behind.
Either all of them are converted, which is `ConvertsAll`, or there is a first one that is not, which
is `Refuses`; no text behind that one is looked at. The items of a collection and the pairs of a map
are both converted in this way (`convert_texts_in_turn`, `bind_pairs_in_turn`).
-/

namespace RequestDispatch
namespace ConversionService

/-- Each of the texts is converted to the type that stands with it. -/
inductive ConvertsAll :
    ConversionService → List (TypeDescriptor × String) → List Value → ConversionService → Prop
  | nil (service : ConversionService) : ConvertsAll service [] [] service
  | cons {service middle last : ConversionService} {target : TypeDescriptor} {text : String}
      {texts : List (TypeDescriptor × String)} {value : Value} {values : List Value} :
      service.convert target (.text text) = (.ok value, middle) →
      ConvertsAll middle texts values last →
      ConvertsAll service ((target, text) :: texts) (value :: values) last

inductive Refuses : ConversionService → List (TypeDescriptor × String) → ConvertError →
    ConversionService → Prop
  | here {service last : ConversionService} {target : TypeDescriptor} {text : String}
      {error : ConvertError} (texts : List (TypeDescriptor × String)) :
      service.convert target (.text text) = (.error error, last) →
      Refuses service ((target, text) :: texts) error last
  | behind {service middle last : ConversionService} {target : TypeDescriptor} {text : String}
      {texts : List (TypeDescriptor × String)} {value : Value} {error : ConvertError} :
      service.convert target (.text text) = (.ok value, middle) →
      Refuses middle texts error last →
      Refuses service ((target, text) :: texts) error last

def itemTexts (element : TypeDescriptor) (texts : List String) : List (TypeDescriptor × String) :=
  texts.map fun text => (element, text)

/-- The texts of pairs, each key before its value. -/
def pairTexts (key value : TypeDescriptor) (pairs : List (String × String)) :
    List (TypeDescriptor × String) :=
  pairs.flatMap fun pair => [(key, pair.1), (value, pair.2)]

def pairValues (pairs : List (Value × Value)) : List Value :=
  pairs.flatMap fun pair => [pair.1, pair.2]

theorem convert_texts_in_turn (element : TypeDescriptor) (service : ConversionService)
    (texts : List String) :
    (∃ values last, ConvertsAll service (itemTexts element texts) values last ∧
      convertItems (fun service item => service.convert element item) service (texts.map .text) =
        (.ok values, last)) ∨
    ∃ error last, Refuses service (itemTexts element texts) error last ∧
      convertItems (fun service item => service.convert element item) service (texts.map .text) =
        (.error error, last) := by
  induction texts generalizing service with
  | nil => exact .inl ⟨[], service, .nil service, rfl⟩
  | cons text texts ih =>
      rw [List.map_cons, convertItems]
      cases converted : service.convert element (.text text) with
      | mk result middle =>
          cases result with
          | error error => exact .inr ⟨error, middle, .here _ converted, rfl⟩
          | ok value =>
              rcases ih middle with ⟨values, last, others, rest⟩ | ⟨error, last, others, rest⟩
              · exact .inl ⟨value :: values, last, .cons converted others, by simp only [rest]⟩
              · exact .inr ⟨error, last, .behind converted others, by simp only [rest]⟩

theorem bind_eq (service : ConversionService) (target : TypeDescriptor) (raw : Value) :
    service.bind target raw =
      ((service.convert target raw).1.mapError .conversion, (service.convert target raw).2) := rfl

theorem bind_pairs_in_turn (key value : TypeDescriptor) (service : ConversionService)
    (entries : List (Value × Value)) (pairs : List (String × String)) :
    (∃ (converted : List (Value × Value)) (last : ConversionService),
      ConvertsAll service (pairTexts key value pairs) (pairValues converted) last ∧
      bindPairs key value service entries pairs =
        (.ok (converted.foldl (fun entries pair => Value.insertEntry pair.1 pair.2 entries)
          entries), last)) ∨
    ∃ error last, Refuses service (pairTexts key value pairs) error last ∧
      bindPairs key value service entries pairs = (.error (.conversion error), last) := by
  induction pairs generalizing service entries with
  | nil => exact .inl ⟨[], service, .nil service, rfl⟩
  | cons pair pairs ih =>
      obtain ⟨keyText, valueText⟩ := pair
      rw [bindPairs, bind_eq]
      cases first : service.convert key (.text keyText) with
      | mk result middle =>
          cases result with
          | error error => exact .inr ⟨error, middle, .here _ first, rfl⟩
          | ok converted =>
              simp only [Except.mapError, bind_eq]
              cases second : middle.convert value (.text valueText) with
              | mk result after =>
                  cases result with
                  | error error => exact .inr ⟨error, after, .behind first (.here _ second), rfl⟩
                  | ok held =>
                      rcases ih after (Value.insertEntry converted held entries) with
                        ⟨others, last, rest, bound⟩ | ⟨error, last, rest, bound⟩
                      · exact .inl ⟨(converted, held) :: others, last,
                          .cons first (.cons second rest), bound⟩
                      · exact .inr ⟨error, last, .behind first (.behind second rest), bound⟩

end ConversionService
end RequestDispatch
