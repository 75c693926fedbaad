import RequestDispatch.Proofs.Container.Calls

/-!
What a container answers after a sequence of calls. A container that agrees with the calls
(`Recounts`) agrees with them after one more call (`Recounts.perform`), and so the container that
calls lead to agrees with all of them. The main statement is `answers_after`.
-/

namespace RequestDispatch

variable {Bean : Type}

namespace Container

theorem find_ofType (container : Container Bean) (type : TypeKey) (name : String) :
    container.find? type name =
      (container.ofType type).find? fun registration => registration.name == name := by
  rw [find?, ofType, List.find?_filter]
  congr 1
  funext registration
  rw [Registration.isFor, Bool.decide_and, Bool.decide_eq_true, Bool.decide_eq_true]

theorem find_only {container : Container Bean} {type : TypeKey} {only : Registration Bean}
    (single : container.ofType type = [only]) : container.find? type only.name = some only := by
  rw [find_ofType, single, List.find?_cons_of_pos (by simp)]

theorem of_find {container : Container Bean} {type : TypeKey} {name : String}
    {registration : Registration Bean} (found : container.find? type name = some registration) :
    registration.type = type ∧ registration.name = name := by
  rw [find?] at found
  have own := List.find?_some found
  exact Registration.isFor_iff.1 own

theorem find_register (container : Container Bean) (added : Registration Bean) (type : TypeKey)
    (name : String) :
    (⟨container.registrations ++ [added]⟩ : Container Bean).find? type name =
      (container.find? type name).or (if added.isFor type name then some added else none) := by
  rw [find?, List.find?_append, List.find?_singleton]
  rfl

theorem names_register (container : Container Bean) (added : Registration Bean) (type : TypeKey) :
    (⟨container.registrations ++ [added]⟩ : Container Bean).names type =
      container.names type ++ if added.type = type then [added.name] else [] := by
  rw [names, ofType, List.filter_append, List.map_append]
  by_cases own : added.type = type
  · simp [names, ofType, own]
  · simp [names, ofType, own]

theorem names_putSource (container : Container Bean) (type : TypeKey) (name : String)
    (source : BeanSource Bean) (other : TypeKey) :
    (⟨putSource type name source container.registrations⟩ : Container Bean).names other =
      container.names other := by
  obtain ⟨registrations⟩ := container
  simp only [names, ofType]
  induction registrations with
  | nil => rfl
  | cons registration registrations ih =>
      rw [putSource]
      split
      · rw [List.filter_cons, List.filter_cons]
        cases registration.type == other <;> rfl
      · rw [List.filter_cons, List.filter_cons]
        cases registration.type == other with
        | true => exact congrArg (registration.name :: ·) ih
        | false => exact ih

theorem find_putSource (container : Container Bean) (type : TypeKey) (name : String)
    (source : BeanSource Bean) (otherType : TypeKey) (other : String) :
    (⟨putSource type name source container.registrations⟩ : Container Bean).find? otherType other =
      (container.find? otherType other).map fun registration =>
        if otherType = type ∧ other = name then { registration with source := source }
        else registration := by
  obtain ⟨registrations⟩ := container
  simp only [find?]
  induction registrations with
  | nil => rfl
  | cons registration registrations ih =>
      rw [putSource]
      cases own : registration.isFor type name with
      | true =>
          rw [Registration.isFor_iff] at own
          obtain ⟨rfl, rfl⟩ := own
          rw [if_pos rfl, List.find?_cons, List.find?_cons]
          change (match registration.isFor otherType other with
            | true => _
            | false => _) = _
          cases found : registration.isFor otherType other with
          | true =>
              rw [Registration.isFor_iff] at found
              simp [found]
          | false =>
              have differs : ¬(otherType = registration.type ∧ other = registration.name) := by
                rintro ⟨rfl, rfl⟩
                simp [Registration.isFor] at found
              simp only [if_neg differs, Option.map_id']
      | false =>
          rw [if_neg Bool.false_ne_true, List.find?_cons, List.find?_cons]
          cases found : registration.isFor otherType other with
          | true =>
              have differs : ¬(otherType = type ∧ other = name) := by
                rintro ⟨rfl, rfl⟩
                rw [own] at found
                cases found
              simp only [Option.map_some, if_neg differs]
          | false => exact ih

end Container

namespace ContainerCall

/-- The container agrees with the calls: it has the names that were asked for, and under each the
source that came first, used as often as the calls resolve its bean. -/
structure Recounts (container : Container Bean) (calls : List (ContainerCall Bean)) : Prop where
  names : ∀ type, container.names type = namesOf calls type
  sources : ∀ type name, (container.find? type name).map Registration.source =
    (firstSource? calls type name).map fun source => source.used (uses type name [] calls)

theorem recounts_empty : Recounts (Container.empty : Container Bean) [] where
  names := fun _ => rfl
  sources := fun _ _ => rfl

variable {container : Container Bean} {calls : List (ContainerCall Bean)}

theorem Recounts.find_isSome (recounts : Recounts container calls) (type : TypeKey)
    (name : String) :
    (container.find? type name).isSome = true ↔ name ∈ namesOf calls type := by
  have sources := congrArg Option.isSome (recounts.sources type name)
  rw [Option.isSome_map, Option.isSome_map] at sources
  rw [sources, firstSource_isSome]

theorem perform_registration {call : ContainerCall Bean} {request : Registration Bean}
    (asked : call.registration? = some request) (container : Container Bean) :
    call.perform container = ofRegistration container
      (container.register request.type request.name request.source) := by
  cases call with
  | resolve type qualifier => cases asked
  | singleton type bean =>
      rw [registration?, Option.some.injEq] at asked
      rw [← asked, perform, Container.registerSingleton]
  | _ =>
      rw [registration?, Option.some.injEq] at asked
      rw [← asked, perform]

theorem meant_registration {call : ContainerCall Bean} {request : Registration Bean}
    (asked : call.registration? = some request) (earlier : List (ContainerCall Bean)) :
    call.meant? earlier = none := by
  cases call with
  | resolve type qualifier => cases asked
  | _ => rfl

theorem Recounts.perform_known (recounts : Recounts container calls) {call : ContainerCall Bean}
    {request : Registration Bean} (asked : call.registration? = some request)
    (known : request.name ∈ namesOf calls request.type) :
    call.perform container =
      (.error (.duplicateBean request.type request.name), container) := by
  obtain ⟨registration, found⟩ := Option.isSome_iff_exists.1 ((recounts.find_isSome ..).2 known)
  rw [perform_registration asked, Container.register, found]
  rfl

theorem Recounts.perform_new (recounts : Recounts container calls) {call : ContainerCall Bean}
    {request : Registration Bean} (asked : call.registration? = some request)
    (unknown : request.name ∉ namesOf calls request.type) :
    call.perform container = (.ok none, ⟨container.registrations ++ [request]⟩) := by
  rw [← recounts.find_isSome, Option.not_isSome_iff_eq_none] at unknown
  rw [perform_registration asked, Container.register, unknown]
  rfl

theorem Recounts.register (recounts : Recounts container calls) {call : ContainerCall Bean}
    {request : Registration Bean} (asked : call.registration? = some request) :
    Recounts (call.perform container).2 (calls ++ [call]) := by
  have unused (type : TypeKey) (name : String) :
      uses type name [] (calls ++ [call]) = uses type name [] calls := by
    rw [uses_concat, meant_registration asked]
    rfl
  by_cases known : request.name ∈ namesOf calls request.type
  · rw [recounts.perform_known asked known]
    constructor
    · intro type
      rw [recounts.names, namesOf_registration asked, if_neg]
      rintro ⟨rfl, unknown⟩
      exact unknown known
    · intro type name
      rw [recounts.sources, unused, firstSource_registration asked]
      cases own : request.isFor type name with
      | false => simp
      | true =>
          obtain ⟨rfl, rfl⟩ := Registration.isFor_iff.1 own
          obtain ⟨source, first⟩ := Option.isSome_iff_exists.1 (firstSource_isSome.2 known)
          rw [first]
          rfl
  · rw [recounts.perform_new asked known]
    constructor
    · intro type
      rw [Container.names_register, recounts.names, namesOf_registration asked]
      by_cases own : request.type = type
      · rw [if_pos own, if_pos ⟨own, own ▸ known⟩]
      · rw [if_neg own, if_neg (by simp [own]), List.append_nil]
    · intro type name
      rw [Container.find_register, Option.map_or, recounts.sources, unused,
        firstSource_registration asked, Option.map_or]
      cases own : request.isFor type name with
      | false => simp
      | true =>
          obtain ⟨rfl, rfl⟩ := Registration.isFor_iff.1 own
          simp [uses_unasked known, BeanSource.used_zero]

theorem Recounts.find_of_mem (recounts : Recounts container calls) {type : TypeKey}
    {name : String} (known : name ∈ namesOf calls type) :
    ∃ source, firstSource? calls type name = some source ∧
      container.find? type name = some ⟨type, name, source.used (uses type name [] calls)⟩ := by
  obtain ⟨source, first⟩ := Option.isSome_iff_exists.1 (firstSource_isSome.2 known)
  have sources := recounts.sources type name
  rw [first, Option.map_some, Option.map_eq_some_iff] at sources
  obtain ⟨registration, found, same⟩ := sources
  obtain ⟨rfl, rfl⟩ := Container.of_find found
  exact ⟨source, first, by rw [found, ← same]⟩

theorem Recounts.choose_meant (recounts : Recounts container calls) {type other : TypeKey}
    {qualifier : Option String} {name : String}
    (meant : meant? calls (.resolve type qualifier) = some (other, name)) :
    other = type ∧ ∃ source, firstSource? calls type name = some source ∧
      container.choose type qualifier =
        .ok ⟨type, name, source.used (uses type name [] calls)⟩ := by
  have known := mem_of_meant meant
  cases qualifier with
  | some wanted =>
      simp only [meant?, Option.ite_none_right_eq_some, Option.some.injEq, Prod.mk.injEq] at meant
      obtain ⟨-, rfl, rfl⟩ := meant
      obtain ⟨source, first, found⟩ := recounts.find_of_mem known
      exact ⟨rfl, source, first, by rw [Container.choose, found]⟩
  | none =>
      simp only [meant?] at meant
      split at meant
      · next only single =>
        cases meant
        obtain ⟨source, first, found⟩ := recounts.find_of_mem known
        refine ⟨rfl, source, first, ?_⟩
        rw [← recounts.names, Container.names, List.map_eq_singleton_iff] at single
        obtain ⟨registration, alone, rfl⟩ := single
        rw [Container.find_only alone, Option.some.injEq] at found
        rw [Container.choose, alone, found]
      · cases meant

theorem meant_named {calls : List (ContainerCall Bean)} {type : TypeKey} {name : String}
    (known : name ∈ namesOf calls type) :
    meant? calls (.resolve type (some name)) = some (type, name) := by
  simp [meant?, known]

theorem meant_unasked {calls : List (ContainerCall Bean)} {type : TypeKey} {name : String}
    (unasked : ¬Asked calls type name) :
    meant? calls (.resolve type (some name)) = none := by
  simp [meant?, mem_namesOf, unasked]

def notMeant (calls : List (ContainerCall Bean)) (type : TypeKey) :
    Option String → ContainerError
  | some name => .beanNotFound type (some name)
  | none =>
    if namesOf calls type = [] then .beanNotFound type none
    else .noUniqueBean type (namesOf calls type)

theorem Recounts.choose_none (recounts : Recounts container calls) {type : TypeKey}
    {qualifier : Option String} (vague : meant? calls (.resolve type qualifier) = none) :
    container.choose type qualifier = .error (notMeant calls type qualifier) := by
  cases qualifier with
  | some name =>
      simp only [meant?, ite_eq_right_iff, reduceCtorEq, imp_false, List.contains_iff_mem,
        ← recounts.find_isSome, Option.not_isSome_iff_eq_none] at vague
      rw [Container.choose, vague, notMeant]
  | none =>
      have names := recounts.names type
      rw [Container.names] at names
      simp only [meant?] at vague
      rw [Container.choose, notMeant, ← names]
      cases registered : container.ofType type with
      | nil => simp
      | cons first rest =>
          cases rest with
          | nil =>
              rw [registered] at names
              rw [← names] at vague
              cases vague
          | cons second rest => simp

/-- A resolution that means a bean gives the next one of the source that came first. -/
theorem Recounts.resolve_meant (recounts : Recounts container calls) {type other : TypeKey}
    {qualifier : Option String} {name : String}
    (meant : meant? calls (.resolve type qualifier) = some (other, name)) :
    ∃ source, firstSource? calls type name = some source ∧
      container.resolve type qualifier =
        (.ok (source.beanAfter (uses type name [] calls)),
          ⟨Container.putSource type name (source.used (uses type name [] calls + 1))
            container.registrations⟩) := by
  obtain ⟨-, source, first, chosen⟩ := recounts.choose_meant meant
  refine ⟨source, first, ?_⟩
  rw [Container.resolve, chosen]
  simp only [BeanSource.give_used]

theorem Recounts.resolve_none (recounts : Recounts container calls) {type : TypeKey}
    {qualifier : Option String} (vague : meant? calls (.resolve type qualifier) = none) :
    container.resolve type qualifier = (.error (notMeant calls type qualifier), container) := by
  rw [Container.resolve, recounts.choose_none vague]

theorem Recounts.resolve_only (recounts : Recounts container calls) {type : TypeKey}
    {only : String} (single : namesOf calls type = [only]) :
    ∃ bean, (container.resolve type none).1 = .ok bean ∧
      (container.resolve type (some only)).1 = .ok bean := by
  have unnamed : meant? calls (.resolve type none) = some (type, only) := by
    simp [meant?, single]
  obtain ⟨source, first, resolved⟩ := recounts.resolve_meant unnamed
  have known : only ∈ namesOf calls type := by
    rw [single]
    exact List.mem_singleton_self only
  obtain ⟨same, alsoFirst, alsoResolved⟩ := recounts.resolve_meant (meant_named known)
  rw [first, Option.some.injEq] at alsoFirst
  exact ⟨_, congrArg Prod.fst resolved, by rw [alsoResolved, alsoFirst]⟩

theorem Recounts.resolve_vague (recounts : Recounts container calls) {type : TypeKey}
    (several : ∀ only, namesOf calls type ≠ [only]) :
    (container.resolve type none).1 = .error (notMeant calls type none) := by
  have vague : meant? calls (.resolve type none) = none := by
    unfold meant?
    dsimp only
    split
    · next only single => exact absurd single (several only)
    · rfl
  rw [recounts.resolve_none vague]

/-- After a resolution one bean more has been taken from the source that is meant, and none from
others. -/
theorem Recounts.resolve (recounts : Recounts container calls) (type : TypeKey)
    (qualifier : Option String) :
    Recounts ((ContainerCall.resolve type qualifier).perform container).2
      (calls ++ [.resolve type qualifier]) := by
  have requested : requests (calls ++ [.resolve type qualifier]) = requests calls :=
    requests_resolution rfl
  have names (other : TypeKey) :
      namesOf (calls ++ [.resolve type qualifier]) other = namesOf calls other := by
    rw [namesOf, requested, namesOf]
  have first (otherType : TypeKey) (other : String) :
      firstSource? (calls ++ [.resolve type qualifier]) otherType other =
        firstSource? calls otherType other := by
    rw [firstSource?, requested, firstSource?]
  cases meant : meant? calls (.resolve type qualifier) with
  | none =>
      have unchanged : ((ContainerCall.resolve type qualifier).perform container).2 =
          container := by
        rw [perform, recounts.resolve_none meant]
      rw [unchanged]
      constructor
      · intro other
        rw [names, recounts.names]
      · intro otherType other
        rw [first, uses_concat, meant, recounts.sources]
        rfl
  | some bean =>
      obtain ⟨ofType, name⟩ := bean
      obtain ⟨rfl, -⟩ := recounts.choose_meant meant
      obtain ⟨source, known, resolved⟩ := recounts.resolve_meant meant
      have taken : ((ContainerCall.resolve ofType qualifier).perform container).2 =
          ⟨Container.putSource ofType name (source.used (uses ofType name [] calls + 1))
            container.registrations⟩ := by
        rw [perform, resolved]
      rw [taken]
      constructor
      · intro other
        rw [Container.names_putSource, names, recounts.names]
      · intro otherType other
        have sources := recounts.sources otherType other
        rw [Container.find_putSource, Option.map_map, first, uses_concat, meant]
        by_cases same : otherType = ofType ∧ other = name
        · obtain ⟨rfl, rfl⟩ := same
          rw [known, Option.map_some, Option.map_eq_some_iff] at sources
          obtain ⟨registration, found, -⟩ := sources
          simp [found, known]
        · have differs : some (ofType, name) ≠ some (otherType, other) := by
            intro equal
            cases equal
            exact same ⟨rfl, rfl⟩
          simp only [if_neg differs, if_neg same, Nat.add_zero]
          exact sources

theorem Recounts.perform (recounts : Recounts container calls) (call : ContainerCall Bean) :
    Recounts (call.perform container).2 (calls ++ [call]) := by
  cases asked : call.registration? with
  | some request => exact recounts.register asked
  | none =>
      cases call with
      | resolve type qualifier => exact recounts.resolve type qualifier
      | _ => cases asked

theorem recounts_after (calls : List (ContainerCall Bean)) :
    Recounts (containerAfter calls) calls := by
  induction calls using List.reverseRecOn with
  | nil => exact recounts_empty
  | append_singleton calls call ih =>
      rw [containerAfter, List.foldl_append, List.foldl_cons, List.foldl_nil]
      exact ih.perform call

end ContainerCall

/-- A container denies a bean exactly if a resolution does not find it. -/
theorem Container.contains_eq_false {container : Container Bean} {type : TypeKey}
    {qualifier : Option String} :
    container.contains type qualifier = false ↔
      (container.resolve type qualifier).1 = .error (.beanNotFound type qualifier) := by
  cases qualifier with
  | some name =>
      rw [contains, resolve, choose]
      cases container.find? type name <;> simp
  | none =>
      rw [contains, resolve, choose]
      cases container.ofType type with
      | nil => simp
      | cons first rest => cases rest <;> simp

/-- What a container answers after any sequence of calls, be they answered or refused. A
registration is refused exactly if its type and its name were asked for before, and then changes
nothing. The names of a type are those that were asked for, each in the place where it came first.
A resolution by name gives, whatever is called later, what the source gives that came first: the
instance itself, or what the factory makes when it is called once more than the earlier resolutions
of its bean have called it. A resolution without a name stands for the one by the only name. -/
theorem answers_after (calls : List (ContainerCall Bean)) :
    let container := ContainerCall.containerAfter calls
    (∀ (call : ContainerCall Bean) (request : Registration Bean),
      call.registration? = some request →
        (ContainerCall.Asked calls request.type request.name →
          call.perform container =
            (.error (.duplicateBean request.type request.name), container)) ∧
        (¬ContainerCall.Asked calls request.type request.name →
          (call.perform container).1 = .ok none)) ∧
    ∀ type : TypeKey,
      container.names type = ContainerCall.namesOf calls type ∧ (container.names type).Nodup ∧
      (∀ (earlier later : List (ContainerCall Bean)) (call : ContainerCall Bean) (name : String)
          (source : BeanSource Bean), calls = earlier ++ call :: later →
        call.registration? = some ⟨type, name, source⟩ →
        ¬ContainerCall.Asked earlier type name →
          (container.resolve type (some name)).1 =
            .ok (source.beanAfter (ContainerCall.uses type name [] calls))) ∧
      (∀ name, ¬ContainerCall.Asked calls type name →
        (container.resolve type (some name)).1 = .error (.beanNotFound type (some name))) ∧
      ((∃ bean, (container.resolve type none).1 = .ok bean) ↔
        ∃ only, container.names type = [only]) ∧
      (container.resolve type none).1 =
        (match container.names type with
          | [] => .error (.beanNotFound type none)
          | [only] => (container.resolve type (some only)).1
          | names => .error (.noUniqueBean type names)) ∧
      ∀ qualifier, container.contains type qualifier = false ↔
        (container.resolve type qualifier).1 = .error (.beanNotFound type qualifier) := by
  intro container
  have recounts : ContainerCall.Recounts container calls := ContainerCall.recounts_after calls
  refine ⟨?_, fun type => ⟨recounts.names type, ?_, ?_, ?_, ?_, ?_,
    fun _ => Container.contains_eq_false⟩⟩
  · intro call request asked
    rw [← ContainerCall.mem_namesOf]
    exact ⟨recounts.perform_known asked, fun unknown =>
      congrArg Prod.fst (recounts.perform_new asked unknown)⟩
  · rw [recounts.names]
    exact ContainerCall.nodup_eraseDups _
  · intro earlier later call name source parted asked unasked
    have first : ContainerCall.firstSource? calls type name = some source := by
      rw [parted, ContainerCall.firstSource_of_first asked unasked]
    have known : name ∈ ContainerCall.namesOf calls type := by
      rw [← ContainerCall.firstSource_isSome, first, Option.isSome_some]
    obtain ⟨other, same, resolved⟩ := recounts.resolve_meant (ContainerCall.meant_named known)
    rw [first, Option.some.injEq] at same
    rw [resolved, same]
  · intro name unasked
    rw [recounts.resolve_none (ContainerCall.meant_unasked unasked), ContainerCall.notMeant]
  · rw [recounts.names]
    constructor
    · rintro ⟨bean, resolved⟩
      by_contra several
      rw [recounts.resolve_vague (not_exists.1 several)] at resolved
      cases resolved
    · rintro ⟨only, single⟩
      obtain ⟨bean, resolved, -⟩ := recounts.resolve_only single
      exact ⟨bean, resolved⟩
  · rw [recounts.names]
    split
    · next nothing =>
      rw [recounts.resolve_vague (by simp [nothing]), ContainerCall.notMeant, if_pos nothing]
    · next only single =>
      obtain ⟨bean, resolved, byName⟩ := recounts.resolve_only single
      rw [resolved, byName]
    · next some several =>
      rw [recounts.resolve_vague several, ContainerCall.notMeant, if_neg some]

/-- A second bean of the name is refused, and the factory has made one bean before. -/
example :
    let clock : TypeKey := ⟨"Clock"⟩
    ((ContainerCall.containerAfter [.factory clock "clock" id, .instance clock "clock" 7,
      .resolve clock none]).resolve clock (some "clock")).1 = .ok 1 := rfl

end RequestDispatch
