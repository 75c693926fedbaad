import Mathlib.Data.List.Induction
import RequestDispatch.Container.Basic

/-!
Calls of a container, and what the calls alone say: which names were asked for under a type, which
source came first under a name, and how often its bean was resolved.
-/

namespace RequestDispatch

variable {Bean : Type}

namespace BeanSource

/-- The bean that a source gives after so many others. -/
def beanAfter : BeanSource Bean → Nat → Bean
  | .instance bean, _ => bean
  | .factory make made, uses => make (made + uses)

def used : BeanSource Bean → Nat → BeanSource Bean
  | .instance bean, _ => .instance bean
  | .factory make made, uses => .factory make (made + uses)

theorem give_used (source : BeanSource Bean) (uses : Nat) :
    (source.used uses).give = (source.beanAfter uses, source.used (uses + 1)) := by
  cases source <;> rfl

theorem used_zero (source : BeanSource Bean) : source.used 0 = source := by
  cases source <;> rfl

end BeanSource

theorem Registration.isFor_iff {registration : Registration Bean} {type : TypeKey}
    {name : String} : registration.isFor type name = true ↔
      registration.type = type ∧ registration.name = name := by
  simp [Registration.isFor]

/-- A call of a container. An instance is registered under the name derived from its type or under
a name of its own, and a factory under a name of its own. -/
inductive ContainerCall (Bean : Type) where
  | singleton (type : TypeKey) (bean : Bean)
  | instance (type : TypeKey) (name : String) (bean : Bean)
  | factory (type : TypeKey) (name : String) (make : Nat → Bean)
  | resolve (type : TypeKey) (qualifier : Option String)

namespace ContainerCall

def registration? : ContainerCall Bean → Option (Registration Bean)
  | .singleton type bean => some ⟨type, type.beanName, .instance bean⟩
  | .instance type name bean => some ⟨type, name, .instance bean⟩
  | .factory type name make => some ⟨type, name, .factory make 0⟩
  | .resolve _ _ => none

/-- The answer to a registration: a container that refuses it stays as it is. -/
def ofRegistration (container : Container Bean) :
    Except ContainerError (Container Bean) →
      Except ContainerError (Option Bean) × Container Bean
  | .ok after => (.ok none, after)
  | .error error => (.error error, container)

def perform (container : Container Bean) :
    ContainerCall Bean → Except ContainerError (Option Bean) × Container Bean
  | .singleton type bean => ofRegistration container (container.registerSingleton type bean)
  | .instance type name bean =>
    ofRegistration container (container.register type name (.instance bean))
  | .factory type name make =>
    ofRegistration container (container.register type name (.factory make 0))
  | .resolve type qualifier =>
    let (resolved, after) := container.resolve type qualifier
    (resolved.map some, after)

def containerAfter (calls : List (ContainerCall Bean)) : Container Bean :=
  calls.foldl (fun container call => (call.perform container).2) .empty

def requests (calls : List (ContainerCall Bean)) : List (Registration Bean) :=
  calls.filterMap registration?

def Asked (calls : List (ContainerCall Bean)) (type : TypeKey) (name : String) : Prop :=
  ∃ call ∈ calls, ∃ source, call.registration? = some ⟨type, name, source⟩

/-- The names that were asked for under a type, each in the place where it came first. -/
def namesOf (calls : List (ContainerCall Bean)) (type : TypeKey) : List String :=
  (((requests calls).filter fun request => request.type == type).map Registration.name).eraseDups

/-- The source that came first under a type and a name. -/
def firstSource? (calls : List (ContainerCall Bean)) (type : TypeKey) (name : String) :
    Option (BeanSource Bean) :=
  ((requests calls).find? fun request => request.isFor type name).map Registration.source

/-- The bean that a call resolves after others: the one of the name that is asked for, or the only
one of its type. -/
def meant? (earlier : List (ContainerCall Bean)) : ContainerCall Bean → Option (TypeKey × String)
  | .resolve type (some name) =>
    if (namesOf earlier type).contains name then some (type, name) else none
  | .resolve type none =>
    match namesOf earlier type with
    | [only] => some (type, only)
    | _ => none
  | _ => none

/-- How many of the calls resolve the bean of a type and a name, when others came earlier. -/
def uses (type : TypeKey) (name : String) (earlier : List (ContainerCall Bean)) :
    List (ContainerCall Bean) → Nat
  | [] => 0
  | call :: later =>
    (if call.meant? earlier = some (type, name) then 1 else 0) +
      uses type name (earlier ++ [call]) later

theorem uses_append (type : TypeKey) (name : String)
    (earlier front back : List (ContainerCall Bean)) :
    uses type name earlier (front ++ back) =
      uses type name earlier front + uses type name (earlier ++ front) back := by
  induction front generalizing earlier with
  | nil => simp [uses]
  | cons call front ih => simp [uses, ih, Nat.add_assoc]

theorem uses_concat (type : TypeKey) (name : String) (calls : List (ContainerCall Bean))
    (call : ContainerCall Bean) :
    uses type name [] (calls ++ [call]) = uses type name [] calls +
      if call.meant? calls = some (type, name) then 1 else 0 := by
  rw [uses_append]
  rfl

theorem requests_append (front back : List (ContainerCall Bean)) :
    requests (front ++ back) = requests front ++ requests back :=
  List.filterMap_append

theorem requests_concat (calls : List (ContainerCall Bean)) (call : ContainerCall Bean) :
    requests (calls ++ [call]) = requests calls ++ call.registration?.toList := by
  rw [requests, List.filterMap_append]
  cases found : call.registration? <;> simp [requests, found]

theorem mem_namesOf {calls : List (ContainerCall Bean)} {type : TypeKey} {name : String} :
    name ∈ namesOf calls type ↔ Asked calls type name := by
  simp only [namesOf, List.mem_eraseDups, List.mem_map, List.mem_filter, requests,
    List.mem_filterMap, beq_iff_eq]
  constructor
  · rintro ⟨⟨_, _, source⟩, ⟨⟨call, member, asked⟩, rfl⟩, rfl⟩
    exact ⟨call, member, source, asked⟩
  · rintro ⟨call, member, source, asked⟩
    exact ⟨⟨type, name, source⟩, ⟨⟨call, member, asked⟩, rfl⟩, rfl⟩

theorem eraseDups_concat (names : List String) (name : String) :
    (names ++ [name]).eraseDups =
      if name ∈ names then names.eraseDups else names.eraseDups ++ [name] := by
  rw [List.eraseDups_append]
  by_cases known : name ∈ names
  · simp [List.removeAll, known]
  · simp [List.removeAll, known, List.eraseDups_cons]

theorem nodup_eraseDups (names : List String) : names.eraseDups.Nodup := by
  induction names using List.reverseRecOn with
  | nil => exact List.nodup_nil
  | append_singleton names name ih =>
      rw [eraseDups_concat]
      split
      · exact ih
      · next unknown =>
        rw [← List.mem_eraseDups] at unknown
        refine List.nodup_append.2 ⟨ih, by simp, ?_⟩
        rintro other member _ last rfl
        exact unknown (List.mem_singleton.1 last ▸ member)

theorem namesOf_registration {calls : List (ContainerCall Bean)} {call : ContainerCall Bean}
    {request : Registration Bean} (asked : call.registration? = some request) (type : TypeKey) :
    namesOf (calls ++ [call]) type =
      if request.type = type ∧ request.name ∉ namesOf calls type then
        namesOf calls type ++ [request.name]
      else namesOf calls type := by
  rw [namesOf, requests_concat, asked, Option.toList_some, List.filter_append, List.map_append]
  by_cases own : request.type = type
  · have last : ([request].filter fun request => request.type == type) = [request] := by
      simp [own]
    rw [last, List.map_singleton, eraseDups_concat]
    simp only [namesOf, List.mem_eraseDups, own, true_and, ite_not]
  · have last : ([request].filter fun request => request.type == type) = [] := by
      simp [own]
    rw [last, List.map_nil, List.append_nil, if_neg (by simp [own])]
    rfl

theorem firstSource_registration {calls : List (ContainerCall Bean)} {call : ContainerCall Bean}
    {request : Registration Bean} (asked : call.registration? = some request) (type : TypeKey)
    (name : String) :
    firstSource? (calls ++ [call]) type name =
      (firstSource? calls type name).or
        (if request.isFor type name then some request.source else none) := by
  rw [firstSource?, requests_concat, asked, Option.toList_some, List.find?_append, firstSource?]
  cases (requests calls).find? fun request => request.isFor type name with
  | some first => rfl
  | none =>
      rw [List.find?_singleton]
      cases request.isFor type name <;> rfl

theorem firstSource_isSome {calls : List (ContainerCall Bean)} {type : TypeKey} {name : String} :
    (firstSource? calls type name).isSome = true ↔ name ∈ namesOf calls type := by
  simp [firstSource?, namesOf, Registration.isFor, and_assoc]

theorem firstSource_of_first {earlier later : List (ContainerCall Bean)} {call : ContainerCall Bean}
    {type : TypeKey} {name : String} {source : BeanSource Bean}
    (asked : call.registration? = some ⟨type, name, source⟩) (unasked : ¬Asked earlier type name) :
    firstSource? (earlier ++ call :: later) type name = some source := by
  have before : (requests earlier).find? (fun request => request.isFor type name) = none := by
    rw [← mem_namesOf, ← firstSource_isSome, firstSource?, Option.isSome_map,
      Option.not_isSome_iff_eq_none] at unasked
    exact unasked
  have parted : requests (earlier ++ call :: later) =
      requests earlier ++ ⟨type, name, source⟩ :: requests later := by
    rw [requests, List.filterMap_append, List.filterMap_cons_some asked]
    rfl
  rw [firstSource?, parted, List.find?_append, before, List.find?_cons_of_pos]
  · rfl
  · exact Registration.isFor_iff.2 ⟨rfl, rfl⟩

theorem requests_resolution {calls : List (ContainerCall Bean)} {call : ContainerCall Bean}
    (resolves : call.registration? = none) : requests (calls ++ [call]) = requests calls := by
  rw [requests_concat, resolves, Option.toList_none, List.append_nil]

theorem mem_of_meant {earlier : List (ContainerCall Bean)} {call : ContainerCall Bean}
    {type : TypeKey} {name : String} (meant : call.meant? earlier = some (type, name)) :
    name ∈ namesOf earlier type := by
  unfold meant? at meant
  split at meant
  · split at meant
    · next known =>
      cases meant
      simpa using known
    · cases meant
  · split at meant
    · next only single =>
      cases meant
      rw [single]
      exact List.mem_singleton_self _
    · cases meant
  · cases meant

theorem uses_unasked {calls : List (ContainerCall Bean)} {type : TypeKey} {name : String}
    (unasked : name ∉ namesOf calls type) : uses type name [] calls = 0 := by
  induction calls using List.reverseRecOn with
  | nil => rfl
  | append_singleton calls call ih =>
      have before : name ∉ namesOf calls type := by
        rw [mem_namesOf] at unasked ⊢
        rintro ⟨other, member, asked⟩
        exact unasked ⟨other, List.mem_append_left _ member, asked⟩
      rw [uses_concat, ih before, if_neg]
      intro meant
      exact before (mem_of_meant meant)

end ContainerCall
end RequestDispatch
