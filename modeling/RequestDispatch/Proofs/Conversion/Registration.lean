import RequestDispatch.Proofs.Conversion.Nearest
import RequestDispatch.Proofs.Conversion.Transparency
import RequestDispatch.Proofs.Type.Distance

/-!
What the order of registrations means. A service holds each key at the place of its first
registration, with the converter that was registered last (`registered_fresh`). All that is found
depends on this alone, and the places matter only between converters that are equally near
(`lookup_by_registration`).
-/

namespace RequestDispatch
namespace ConversionService

def firstRegistered (calls : List (TypeKey × Converter)) : List TypeKey :=
  (calls.map Prod.fst).eraseDups

def lastRegistered? (calls : List (TypeKey × Converter)) (key : TypeKey) : Option Converter :=
  calls.reverse.lookup key

def registrations (calls : List (TypeKey × Converter)) : List (TypeKey × Converter) :=
  (firstRegistered calls).filterMap fun key => (lastRegistered? calls key).map (Prod.mk key)

section

variable {α : Type}

theorem keys_replaceEntry (key : TypeKey) (value : α) (entries : List (TypeKey × α)) :
    (replaceEntry key value entries).map Prod.fst =
      entries.map Prod.fst ++ if key ∈ entries.map Prod.fst then [] else [key] := by
  induction entries with
  | nil => rfl
  | cons entry rest ih =>
      rw [replaceEntry]
      by_cases own : entry.1 = key
      · simp [own]
      · rw [if_neg own, List.map_cons, ih, List.map_cons, List.cons_append]
        simp only [List.mem_cons, Ne.symm own, false_or]

theorem lookup_replaceEntry (key other : TypeKey) (value : α) (entries : List (TypeKey × α)) :
    (replaceEntry key value entries).lookup other =
      if other = key then some value else entries.lookup other := by
  induction entries with
  | nil => exact lookup_cons_eq key other value []
  | cons entry rest ih =>
      obtain ⟨first, held⟩ := entry
      rw [replaceEntry]
      by_cases own : first = key
      · rw [if_pos own, lookup_cons_eq, lookup_cons_eq, own]
        split <;> rfl
      · rw [if_neg own, lookup_cons_eq, ih, lookup_cons_eq]
        by_cases same : other = key
        · rw [if_pos same, if_pos same, if_neg (same ▸ Ne.symm own)]
        · rw [if_neg same, if_neg same]

theorem eq_filterMap_lookup {entries : List (TypeKey × α)}
    (distinct : (entries.map Prod.fst).Nodup) :
    (entries.map Prod.fst).filterMap (fun key => (entries.lookup key).map (Prod.mk key)) =
      entries := by
  rw [List.filterMap_map]
  refine Eq.trans (List.filterMap_congr fun entry member => ?_) List.filterMap_some
  rw [Function.comp_apply, lookup_of_distinct distinct member]
  rfl

end

variable {hierarchy : TypeHierarchy} {calls others : List (TypeKey × Converter)}
  {target : TypeDescriptor} {family : TypeFamily} {service : ConversionService}

theorem first_registered_concat (calls : List (TypeKey × Converter)) (key : TypeKey)
    (converter : Converter) :
    firstRegistered (calls ++ [(key, converter)]) =
      firstRegistered calls ++ if key ∈ firstRegistered calls then [] else [key] := by
  rw [firstRegistered, firstRegistered, List.map_append, List.eraseDups_append]
  by_cases known : key ∈ calls.map Prod.fst
  · simp [List.removeAll, known]
  · simp [List.removeAll, known, List.eraseDups_cons]

theorem last_registered_concat (calls : List (TypeKey × Converter)) (key other : TypeKey)
    (converter : Converter) :
    lastRegistered? (calls ++ [(key, converter)]) other =
      if other = key then some converter else lastRegistered? calls other := by
  rw [lastRegistered?, List.reverse_append]
  exact lookup_cons_eq key other converter calls.reverse

theorem first_registered_distinct (calls : List (TypeKey × Converter)) :
    (firstRegistered calls).Nodup := by
  induction calls using List.reverseRecOn with
  | nil => exact List.nodup_nil
  | append_singleton calls call ih =>
      rw [first_registered_concat]
      split
      · rwa [List.append_nil]
      · next unknown =>
        rw [← List.concat_eq_append]
        exact ih.concat unknown

/-- What one more registration does to the places and the converters, all of them together do. -/
theorem fresh_keys_and_lookup (hierarchy : TypeHierarchy) (calls : List (TypeKey × Converter)) :
    (fresh hierarchy calls).registered.map Prod.fst = firstRegistered calls ∧
      ∀ key, (fresh hierarchy calls).registered.lookup key = lastRegistered? calls key := by
  induction calls using List.reverseRecOn with
  | nil => exact ⟨rfl, fun _ => rfl⟩
  | append_singleton calls call ih =>
      obtain ⟨key, converter⟩ := call
      rw [fresh_append, register]
      refine ⟨?_, ?_⟩
      · rw [keys_replaceEntry, ih.1, first_registered_concat]
      · intro other
        rw [lookup_replaceEntry, ih.2, last_registered_concat]

/-- After any registrations each key stands where it was registered first, with the converter that
was registered last. -/
theorem registered_fresh (hierarchy : TypeHierarchy) (calls : List (TypeKey × Converter)) :
    (fresh hierarchy calls).registered = registrations calls := by
  obtain ⟨keys, held⟩ := fresh_keys_and_lookup hierarchy calls
  have distinct : ((fresh hierarchy calls).registered.map Prod.fst).Nodup := by
    rw [keys]
    exact first_registered_distinct calls
  rw [← eq_filterMap_lookup distinct, keys, registrations]
  simp only [held]

theorem fresh_eq (hierarchy : TypeHierarchy) (calls : List (TypeKey × Converter)) :
    fresh hierarchy calls = { empty hierarchy with registered := registrations calls } := by
  have rest : fresh hierarchy calls =
      { empty hierarchy with registered := (fresh hierarchy calls).registered } := by
    induction calls using List.reverseRecOn with
    | nil => rfl
    | append_singleton calls call ih => rw [fresh_append, ih]; rfl
  rw [rest, registered_fresh]

theorem fresh_hierarchy (hierarchy : TypeHierarchy) (calls : List (TypeKey × Converter)) :
    (fresh hierarchy calls).hierarchy = hierarchy := by
  rw [fresh_eq]
  rfl

theorem registrations_congr (first : firstRegistered others = firstRegistered calls)
    (last : ∀ key, lastRegistered? others key = lastRegistered? calls key) :
    registrations others = registrations calls := by
  simp only [registrations, first, last]

/-- Two converters that do not serve a target at the same distance may be tried in either order. -/
theorem nearer_comm {one two : TypeKey × Converter}
    (apart : ∀ steps, Serves service.hierarchy target one steps →
      ¬Serves service.hierarchy target two steps) (best : Option (Nat × Converter)) :
    service.nearer target (service.nearer target best one) two =
      service.nearer target (service.nearer target best two) one := by
  simp only [← distance_eq_some_iff] at apart
  simp only [nearer]
  cases near : service.converterDistance target one with
  | none => rfl
  | some first =>
      cases alsoNear : service.converterDistance target two with
      | none => rfl
      | some second =>
          have differ : first ≠ second := by
            rintro rfl
            exact apart first near alsoNear
          cases best with
          | none => grind
          | some held => grind

theorem fold_exchanged {entry : TypeKey → Option (TypeKey × Converter)} {one two : TypeKey}
    {search : Option (Nat × Converter) → TypeKey × Converter → Option (Nat × Converter)}
    (comm : ∀ first second best, entry one = some first → entry two = some second →
      search (search best first) second = search (search best second) first)
    (front back : List TypeKey) (best : Option (Nat × Converter)) :
    ((front ++ two :: one :: back).filterMap entry).foldl search best =
      ((front ++ one :: two :: back).filterMap entry).foldl search best := by
  simp only [List.filterMap_append, List.foldl_append, List.filterMap_cons]
  cases held : entry one with
  | none => rfl
  | some first =>
      cases alsoHeld : entry two with
      | none => rfl
      | some second =>
          rw [List.foldl_cons, List.foldl_cons, List.foldl_cons, List.foldl_cons,
            comm first second _ held alsoHeld]

theorem closest_fresh (hierarchy : TypeHierarchy) (calls : List (TypeKey × Converter))
    (target : TypeDescriptor) :
    (fresh hierarchy calls).closest? target =
      ((registrations calls).foldl ((empty hierarchy).nearer target) none).map Prod.snd := by
  rw [fresh_eq]
  rfl

theorem closest_exchanged {front back : List TypeKey} {one two : TypeKey}
    (first : firstRegistered calls = front ++ one :: two :: back)
    (exchanged : firstRegistered others = front ++ two :: one :: back)
    (last : ∀ key, lastRegistered? others key = lastRegistered? calls key)
    (apart : ∀ left right steps, lastRegistered? calls one = some left →
      lastRegistered? calls two = some right → Serves hierarchy target (one, left) steps →
        ¬Serves hierarchy target (two, right) steps) :
    (fresh hierarchy others).closest? target = (fresh hierarchy calls).closest? target := by
  rw [closest_fresh, closest_fresh, registrations, registrations, first, exchanged]
  simp only [last]
  congr 1
  apply fold_exchanged
  intro first second best held alsoHeld
  obtain ⟨left, registered, rfl⟩ := Option.map_eq_some_iff.1 held
  obtain ⟨right, alsoRegistered, rfl⟩ := Option.map_eq_some_iff.1 alsoHeld
  exact nearer_comm (fun steps => apart left right steps registered alsoRegistered) best

theorem lookup_fresh (target : TypeDescriptor) (member : family.Member target) :
    ((fresh hierarchy calls).lookup target).1 = (fresh hierarchy calls).find target := by
  obtain ⟨after, found, -⟩ :=
    lookup_recalls (recalls_self (fresh hierarchy calls) family (fresh_cache _ _)) member
  rw [found]

/-- What is found after any registrations depends only on the order in which keys were first
registered and on the converter registered last under each. For a type that is no array and has no
converter of its own it is the first of those that serve it at the fewest steps, and nothing only if
none does; so neighbours that serve it at different distances may be exchanged. -/
theorem lookup_by_registration (hierarchy : TypeHierarchy) (calls : List (TypeKey × Converter))
    {family : TypeFamily} {service : ConversionService}
    (recalls : (fresh hierarchy calls).Recalls family service) {target : TypeDescriptor}
    (member : family.Member target) :
    (∀ others, firstRegistered others = firstRegistered calls →
      (∀ key, lastRegistered? others key = lastRegistered? calls key) →
      (service.lookup target).1 = ((fresh hierarchy others).lookup target).1) ∧
    (target.isArray = false → lastRegistered? calls target.key = none →
      (∀ converter, (service.lookup target).1 = .ok converter ↔ ∃ entry steps,
        FirstNearest (Serves hierarchy target) (registrations calls) entry steps ∧
          entry.2 = converter) ∧
      ((service.lookup target).1 = .error (.noConverter target.key) ↔
        ∀ entry ∈ registrations calls, ∀ steps, ¬Serves hierarchy target entry steps)) ∧
    (target.isArray = false → ∀ others front one two back,
      firstRegistered calls = front ++ one :: two :: back →
      firstRegistered others = front ++ two :: one :: back →
      (∀ key, lastRegistered? others key = lastRegistered? calls key) →
      (∀ left right steps, lastRegistered? calls one = some left →
        lastRegistered? calls two = some right → Serves hierarchy target (one, left) steps →
          ¬Serves hierarchy target (two, right) steps) →
      (service.lookup target).1 = ((fresh hierarchy others).lookup target).1) := by
  have held (calls : List (TypeKey × Converter)) := (fresh_keys_and_lookup hierarchy calls).2
  obtain ⟨after, found, -⟩ := lookup_recalls recalls member
  rw [found]
  refine ⟨?_, ?_, ?_⟩
  · intro others first last
    rw [lookup_fresh target member, fresh_eq, fresh_eq, registrations_congr first last]
  · intro single unregistered
    have unregistered : (fresh hierarchy calls).registered.lookup target.key = none := by
      rw [held, unregistered]
    constructor
    · intro converter
      rw [find_eq_ok_iff unregistered single, registered_fresh, fresh_hierarchy]
    · rw [find_eq_no_converter_iff unregistered single, registered_fresh, fresh_hierarchy]
  · intro single others front one two back first exchanged last apart
    rw [lookup_fresh target member]
    cases own : lastRegistered? calls target.key with
    | some converter =>
        obtain ⟨key, kind⟩ := target
        rw [find_registered ((held calls key).trans own),
          find_registered ((held others key).trans ((last key).trans own))]
    | none =>
        rw [find_eq_closest ((held calls _).trans own) single,
          find_eq_closest ((held others _).trans ((last _).trans own)) single,
          closest_exchanged first exchanged last apart]

/-- The converter of cats was registered before that of kittens, or after it, and then replaced. -/
theorem cats_before_or_after_kittens :
    let hierarchy := TypeHierarchy.declaring
      [(⟨"Cat"⟩, [⟨"Animal"⟩]), (⟨"Kitten"⟩, [⟨"Cat"⟩])]
    let named (name : String) : Converter :=
      .ofFunction fun _ raw => .ok (.text (name ++ " " ++ raw))
    let calls := [(⟨"Cat"⟩, named "cat"), (⟨"Kitten"⟩, named "kitten"), (⟨"Cat"⟩, named "tabby")]
    let others := [(⟨"Kitten"⟩, named "kitten"), (⟨"Cat"⟩, named "tabby")]
    let target := TypeDescriptor.object ⟨"Animal"⟩
    let family := TypeFamily.ofArray target rfl
    let service := (fresh hierarchy calls).performAll [.lookup (.arrayOf target)]
    (fresh hierarchy calls).Recalls family service ∧ family.Member target ∧
      (service.lookup target).1 = ((fresh hierarchy others).lookup target).1 ∧
      (service.lookup target).1 = .ok (named "tabby") := by
  intro hierarchy named calls others target family service
  have within : ∀ asked ∈ [Operation.lookup (.arrayOf target)], asked.Within family := by
    rw [List.forall_mem_singleton]
    exact .inl rfl
  have recalls : (fresh hierarchy calls).Recalls family service :=
    perform_all_recalls hierarchy calls within
  have member : family.Member target := .inr rfl
  have last (key : TypeKey) : lastRegistered? others key = lastRegistered? calls key := by
    simp only [lastRegistered?, others, calls, List.reverse_cons, List.reverse_nil, List.nil_append,
      List.cons_append, lookup_cons_eq]
    grind
  have apart (left right : Converter) (steps : Nat)
      (held : lastRegistered? calls ⟨"Cat"⟩ = some left)
      (alsoHeld : lastRegistered? calls ⟨"Kitten"⟩ = some right)
      (serves : Serves hierarchy target (⟨"Cat"⟩, left) steps) :
      ¬Serves hierarchy target (⟨"Kitten"⟩, right) steps := by
    intro also
    cases held
    cases alsoHeld
    have near : (empty hierarchy).converterDistance target (⟨"Cat"⟩, named "tabby") = some 1 := by
      rfl
    have alsoNear : (empty hierarchy).converterDistance target (⟨"Kitten"⟩, named "kitten") =
        some 2 := by rfl
    cases near.symm.trans (distance_eq_some_iff.2 serves)
    cases alsoNear.symm.trans (distance_eq_some_iff.2 also)
  have found := (lookup_by_registration hierarchy calls recalls member).2.2 rfl others []
    ⟨"Cat"⟩ ⟨"Kitten"⟩ [] (by rfl) (by rfl) last apart
  exact ⟨recalls, member, found, found.trans (by rfl)⟩

end ConversionService
end RequestDispatch
