import RequestDispatch.Proofs.Dispatch.Joined
import RequestDispatch.Proofs.Dispatch.PathPrefix
import RequestDispatch.Proofs.Dispatch.Routing
import RequestDispatch.Proofs.Dispatch.Selection

/-!
A dispatcher behind a prefix and a dispatcher with that prefix in its templates. The first looks for
the prefix as it is written, the second as routes spell it; behind it both choose alike
(`mounted_like_joined`).
-/

namespace RequestDispatch

variable {State : Type} {front : String}

namespace Dispatcher

/-- The method that is chosen for a path behind the prefix, with its controller and its match. -/
def choose (dispatcher : Dispatcher State) (request : Request) (path : String) :
    Option (TypeKey × MethodKey × MatchResult) :=
  (dispatcher.select request path).map fun chosen =>
    (chosen.1.1.type, chosen.1.2.method, chosen.2)

def choice? (dispatcher : Dispatcher State) (request : Request) (path : String) :
    Option (TypeKey × MethodKey × MatchResult) :=
  (dispatcher.relativePath? path).bind (dispatcher.choose request)

theorem joined_methods (dispatcher : Dispatcher State) :
    (dispatcher.joined front).methods =
      dispatcher.methods.map
        (Prod.map (ControllerHandler.under front) (Invocation.under front)) := by
  unfold methods joined
  dsimp only
  rw [List.flatMap_map, List.map_flatMap]
  apply congrArg (List.flatMap · _)
  funext handler
  simp [ControllerHandler.under]

theorem joined_choose (dispatcher : Dispatcher State) (request : Request) (path : String) :
    (dispatcher.joined front).choose request path =
      (PathPattern.behind? front path).bind (dispatcher.choose request) := by
  unfold choose
  rw [select_flat, joined_methods, best_of_map, Option.map_map]
  simp only [Prod.map_snd, Invocation.under_tests]
  cases PathPattern.behind? front path with
  | none =>
      have refused : bestOf (fun _ => none) dispatcher.methods = none := by
        rw [best_of_eq_none]
        intro choice _
        rfl
      exact congrArg (Option.map _) refused
  | some rest =>
      rw [Option.bind_some, select_flat]
      rfl

/-- Nothing is chosen for the root or for a path that begins with no slash. -/
def Slashed (dispatcher : Dispatcher State) : Prop :=
  ∀ request path chosen, dispatcher.choose request path = some chosen →
    ∃ more, more ≠ "" ∧ path = "/" ++ more

theorem Slashed.choose_eq_none {dispatcher : Dispatcher State} (slashed : dispatcher.Slashed)
    (request : Request) {path : String} (other : ∀ more, path = "/" ++ more → more = "") :
    dispatcher.choose request path = none := by
  cases chosen : dispatcher.choose request path with
  | none => rfl
  | some choice =>
      obtain ⟨more, proper, same⟩ := slashed request path choice chosen
      exact absurd (other more same) proper

theorem Slashed.choose_root {dispatcher : Dispatcher State} (slashed : dispatcher.Slashed)
    (request : Request) : dispatcher.choose request "/" = none := by
  apply slashed.choose_eq_none
  intro more same
  apply String.toList_inj.1
  simpa using congrArg String.toList same

theorem Slashed.choose_empty {dispatcher : Dispatcher State} (slashed : dispatcher.Slashed)
    (request : Request) : dispatcher.choose request "" = none := by
  apply slashed.choose_eq_none
  intro more same
  simpa using congrArg String.toList same

theorem Slashed.of_build {definition : DispatcherDefinition State} {place : Nat}
    {dispatcher : Dispatcher State} (built : definition.build place = .ok dispatcher)
    (slashed : ∀ controller ∈ definition.controllers, ∀ method ∈ controller.methods,
      ∀ template ∈ method.route.paths, ∃ more, more ≠ "" ∧ template = "/" ++ more) :
    dispatcher.Slashed := by
  intro request path chosen choosing
  obtain ⟨⟨⟨handler, invocation⟩, found⟩, selected, rfl⟩ := Option.map_eq_some_iff.1 choosing
  obtain ⟨-, -, accepted⟩ := select_takes selected
  obtain ⟨controller, declared, method, named, -, keeps⟩ := select_declared built selected
  obtain ⟨⟨matched, confidence⟩, routed, -⟩ := Option.map_eq_some_iff.1 accepted
  obtain ⟨pattern, used, matching⟩ := RouteMapping.test_matches routed
  obtain ⟨template, written, read⟩ := RouteDeclaration.template_of_mem keeps.route used
  obtain ⟨more, proper, rfl⟩ := slashed controller declared method named template written
  exact PathPattern.match_slashed proper read matching

theorem joined_choice {dispatcher : Dispatcher State} (slashed : dispatcher.Slashed) {name : String}
    (same : front = "/" ++ name) (request : Request) (path : String) :
    (dispatcher.joined front).choice? request path =
      (PathPattern.behind? front path).bind (dispatcher.choose request) := by
  have begins {rest whole : String} (behind : PathPattern.behind? front whole = some rest) :
      ∃ tail, whole = "/" ++ (tail ++ rest) := by
    obtain ⟨spelled, spells, rfl⟩ := PathPattern.behind_eq_some.1 behind
    rw [same, String.toList_append] at spells
    obtain ⟨tail, divided, -⟩ := spells_slash spells
    refine ⟨String.ofList tail, ?_⟩
    apply String.toList_inj.1
    simp [divided]
  change (pathBehind? "" path).bind _ = _
  cases behind : PathPattern.behind? front path with
  | some rest =>
      obtain ⟨tail, whole⟩ := begins behind
      have relative : pathBehind? "" path = some path :=
        path_behind_eq_some.2 (.inr ⟨String.empty_append.symm, _, whole⟩)
      rw [relative, Option.bind_some, joined_choose, behind]
  | none =>
      cases relative : pathBehind? "" path with
      | none => rfl
      | some rest =>
          rw [Option.bind_some, joined_choose]
          rcases path_behind_eq_some.1 relative with ⟨-, rfl⟩ | ⟨whole, -⟩
          · -- The path is empty, and the dispatcher reads it as the root.
            cases root : PathPattern.behind? front "/" with
            | none => rfl
            | some rest =>
                obtain ⟨tail, whole⟩ := begins root
                have nothing : tail = "" ∧ rest = "" := by
                  simpa using congrArg String.toList whole
                rw [Option.bind_some, nothing.2]
                exact slashed.choose_empty request
          · rw [String.empty_append] at whole
            rw [← whole, behind]

theorem mounted_choice {dispatcher : Dispatcher State} (slashed : dispatcher.Slashed)
    (behind : dispatcher.pathPrefix = front) (request : Request) (rest : String) :
    dispatcher.choice? request (front ++ rest) = dispatcher.choose request rest := by
  unfold choice? relativePath?
  rw [behind]
  cases relative : pathBehind? front (front ++ rest) with
  | some path =>
      rw [Option.bind_some]
      rcases path_behind_eq_some.1 relative with ⟨whole, rfl⟩ | ⟨whole, -⟩
      · have nothing : rest = "" := by
          apply String.toList_inj.1
          simpa using congrArg String.toList whole
        rw [nothing, slashed.choose_root, slashed.choose_empty]
      · have same : rest = path := by
          apply String.toList_inj.1
          simpa using congrArg String.toList whole
        rw [same]
  | none =>
      symm
      apply slashed.choose_eq_none
      intro more same
      have covered := path_behind_eq_some.2 (.inr ⟨rfl, more, same⟩ :
        (front ++ rest = front ∧ rest = "/") ∨ _)
      rw [relative] at covered
      cases covered

/-- Each spelling of the prefix leads the one dispatcher to what the other finds behind it. -/
theorem joined_like_mounted {dispatcher : Dispatcher State} (slashed : dispatcher.Slashed)
    {name : String} (same : front = "/" ++ name) (behind : dispatcher.pathPrefix = front)
    (request : Request) {spelled : String} (spells : Spells front.toList spelled.toList)
    (rest : String) :
    (dispatcher.joined front).choice? request (spelled ++ rest) =
      dispatcher.choice? request (front ++ rest) := by
  have found : PathPattern.behind? front (spelled ++ rest) = some rest :=
    PathPattern.behind_eq_some.2 ⟨spelled, spells, rfl⟩
  rw [joined_choice slashed same, found, Option.bind_some, mounted_choice slashed behind]

theorem joined_unspelled {dispatcher : Dispatcher State} (slashed : dispatcher.Slashed)
    {name : String} (same : front = "/" ++ name) (request : Request) {path : String}
    (other : ∀ spelled rest, Spells front.toList spelled.toList → path ≠ spelled ++ rest) :
    (dispatcher.joined front).choice? request path = none := by
  rw [joined_choice slashed same]
  cases behind : PathPattern.behind? front path with
  | none => rfl
  | some rest =>
      obtain ⟨spelled, spells, whole⟩ := PathPattern.behind_eq_some.1 behind
      exact absurd whole (other spelled rest spells)

/-- An ASCII prefix is spelled as it is written, so that the dispatchers choose alike. -/
theorem joined_ascii {dispatcher : Dispatcher State} (slashed : dispatcher.Slashed)
    {name : String} (same : front = "/" ++ name) (behind : dispatcher.pathPrefix = front)
    (ascii : ∀ character ∈ front.toList, character.toNat < 0x80) (request : Request)
    (path : String) :
    (dispatcher.joined front).choice? request path = dispatcher.choice? request path := by
  have written : Spells front.toList front.toList := (spells_ascii ascii).2 rfl
  cases chosen : PathPattern.behind? front path with
  | some rest =>
      obtain ⟨spelled, spells, rfl⟩ := PathPattern.behind_eq_some.1 chosen
      rw [joined_like_mounted slashed same behind request spells,
        String.toList_inj.1 ((spells_ascii ascii).1 spells)]
  | none =>
      rw [joined_choice slashed same, chosen, Option.bind_none]
      unfold choice? relativePath?
      rw [behind]
      cases relative : pathBehind? front path with
      | none => rfl
      | some rest =>
          have whole : ∃ rest, path = front ++ rest := by
            rcases path_behind_eq_some.1 relative with ⟨rfl, -⟩ | ⟨whole, -⟩
            · exact ⟨"", String.append_empty.symm⟩
            · exact ⟨rest, whole⟩
          obtain ⟨more, whole⟩ := whole
          rw [PathPattern.behind_eq_some.2 ⟨front, written, whole⟩] at chosen
          cases chosen

end Dispatcher

/-- A prefix is a slash and a name without braces that neither begins with a slash nor ends with a
slash or a blank. -/
structure ProperPrefix (front name : String) : Prop where
  slash : front = "/" ++ name
  written : name ≠ ""
  plain : Braceless name
  begins : name.toList.head? ≠ some '/'
  ends : ∀ last, name.toList.getLast? = some last → last ≠ '/' ∧ Text.isBlank last = false

namespace ProperPrefix

variable {name : String}

theorem characters (proper : ProperPrefix front name) : front.toList = '/' :: name.toList := by
  rw [proper.slash, String.toList_append]
  rfl

theorem braceless (proper : ProperPrefix front name) : Braceless front := by
  unfold Braceless
  simp [proper.characters, proper.plain.1, proper.plain.2]

theorem normalize (proper : ProperPrefix front name) : normalizePrefix front = front := by
  have nonempty : name.toList ≠ [] := by simpa using proper.written
  have unslashed : name.toList.getLast? ≠ some '/' := fun ends => (proper.ends '/' ends).1 rfl
  have bare : bareName front.toList = name.toList := by
    rw [proper.characters, bare_name_slash proper.begins, closed_eq_self_iff unslashed]
    exact fun last ends => (proper.ends last ends).2
  apply String.toList_injective
  rw [normalize_prefix_toList, bare, if_neg nonempty, proper.characters]

end ProperPrefix

/-! One page below different prefixes. -/

namespace UserPage

def definition : DispatcherDefinition Unit :=
  { DispatcherDefinition.empty with
    controllers := [⟨⟨"Pages"⟩, [{
      name := "show", route := { RouteDeclaration.empty with paths := ["/users"] }
      parameters := [], outcomes := [.write], defaultView := none, target := ⟨"Pages"⟩
      body := fun _ => .finish (.ok .null) }]⟩] }

def request (path : String) : Request := ⟨⟨path, []⟩, "GET", .empty, []⟩

def choice? (definition : DispatcherDefinition Unit) (path : String) :
    Option (TypeKey × MethodKey × MatchResult) :=
  (definition.build 0).toOption.bind fun dispatcher => dispatcher.choice? (request path) path

theorem choice_of_build {definition : DispatcherDefinition Unit} {dispatcher : Dispatcher Unit}
    (built : definition.build 0 = .ok dispatcher) (path : String) :
    dispatcher.choice? (request path) path = choice? definition path := by
  rw [choice?, built]
  rfl

theorem slashed : ∀ controller ∈ definition.controllers, ∀ method ∈ controller.methods,
    ∀ template ∈ method.route.paths, ∃ more, more ≠ "" ∧ template = "/" ++ more := by
  simp only [definition, List.mem_singleton]
  rintro controller rfl method member template written
  rw [List.mem_singleton.1 member] at written
  rw [List.mem_singleton.1 written]
  exact ⟨"users", by decide, rfl⟩

theorem built {definition : DispatcherDefinition Unit}
    (possible : (definition.build 0).toOption.isSome = true) :
    ∃ dispatcher, definition.build 0 = .ok dispatcher := by
  obtain ⟨dispatcher, found⟩ := Option.isSome_iff_exists.1 possible
  exact ⟨dispatcher, to_option_eq_some.1 found⟩

theorem api_proper : ProperPrefix "/api" "api" where
  slash := rfl
  written := by decide
  plain := ⟨by decide, by decide⟩
  begins := by decide
  ends := by
    rintro last ⟨⟩
    exact ⟨by decide, by decide⟩

theorem accented_proper : ProperPrefix "/é" "é" where
  slash := rfl
  written := by decide
  plain := ⟨by decide, by decide⟩
  begins := by decide
  ends := by
    rintro last ⟨⟩
    exact ⟨by decide, by decide⟩

end UserPage

/-- A dispatcher behind a prefix and one with the prefix written into its templates are built or
refused together. The second finds behind each spelling of the prefix what the first finds behind
the prefix, with the same match, and nothing elsewhere; so the two choose alike for every path if
the prefix is ASCII, which has one spelling. -/
theorem mounted_like_joined (definition : DispatcherDefinition State) (place : Nat) {name : String}
    (proper : ProperPrefix front name)
    (slashed : ∀ controller ∈ definition.controllers, ∀ method ∈ controller.methods,
      ∀ template ∈ method.route.paths, ∃ more, more ≠ "" ∧ template = "/" ++ more) :
    ((∃ dispatcher, (definition.mounted front).build place = .ok dispatcher) ↔
      ∃ joined, (definition.joined front).build place = .ok joined) ∧
    ∀ dispatcher joined, (definition.mounted front).build place = .ok dispatcher →
      (definition.joined front).build place = .ok joined → ∀ request,
        (∀ spelled rest : String, Spells front.toList spelled.toList →
          joined.choice? request (spelled ++ rest) = dispatcher.choice? request (front ++ rest)) ∧
        (∀ path, (∀ spelled rest : String, Spells front.toList spelled.toList →
          path ≠ spelled ++ rest) → joined.choice? request path = none) ∧
        ((∀ character ∈ name.toList, character.toNat < 0x80) → ∀ path,
          joined.choice? request path = dispatcher.choice? request path) := by
  have built := DispatcherDefinition.build_joined proper.braceless definition place
  constructor
  · constructor
    · rintro ⟨dispatcher, mounts⟩
      rw [mounts] at built
      exact ⟨dispatcher.joined front, to_option_eq_some.1 built⟩
    · rintro ⟨joined, joins⟩
      rw [joins] at built
      obtain ⟨dispatcher, mounts, -⟩ := Option.map_eq_some_iff.1 built.symm
      exact ⟨dispatcher, to_option_eq_some.1 mounts⟩
  · intro dispatcher joined mounts joins request
    rw [mounts, joins] at built
    cases built
    have behind : dispatcher.pathPrefix = front := by
      rw [DispatcherDefinition.prefix_of_build mounts]
      exact proper.normalize
    have shape : dispatcher.Slashed := Dispatcher.Slashed.of_build mounts slashed
    refine ⟨?_, ?_, ?_⟩
    · intro spelled rest spells
      exact Dispatcher.joined_like_mounted shape proper.slash behind request spells rest
    · intro path other
      exact Dispatcher.joined_unspelled shape proper.slash request other
    · intro ascii path
      have whole : ∀ character ∈ front.toList, character.toNat < 0x80 := by
        rw [proper.characters]
        exact List.forall_mem_cons.2 ⟨by decide, ascii⟩
      exact Dispatcher.joined_ascii shape proper.slash behind whole request path

theorem api_users_mounted :
    ∃ dispatcher joined, (UserPage.definition.mounted "/api").build 0 = .ok dispatcher ∧
      (UserPage.definition.joined "/api").build 0 = .ok joined ∧
      (dispatcher.choice? (UserPage.request "/api/users") "/api/users").isSome ∧
      joined.choice? (UserPage.request "/api/users") "/api/users" =
        dispatcher.choice? (UserPage.request "/api/users") "/api/users" := by
  have law := mounted_like_joined UserPage.definition 0 UserPage.api_proper UserPage.slashed
  obtain ⟨dispatcher, mounts⟩ := UserPage.built
    (show ((UserPage.definition.mounted "/api").build 0).toOption.isSome = true by decide +kernel)
  obtain ⟨joined, joins⟩ := law.1.1 ⟨dispatcher, mounts⟩
  obtain ⟨-, -, agree⟩ := law.2 dispatcher joined mounts joins (UserPage.request "/api/users")
  refine ⟨dispatcher, joined, mounts, joins, ?_, agree (by simp) "/api/users"⟩
  rw [UserPage.choice_of_build mounts]
  decide +kernel

/-- A prefix beyond ASCII is looked for as it is written, and not as it is spelled in a path: the
page is found if the prefix stands in its template, and not found behind the prefix. -/
theorem accented_prefix_unmatched :
    ProperPrefix "/é" "é" ∧
      ∃ dispatcher joined, (UserPage.definition.mounted "/é").build 0 = .ok dispatcher ∧
        (UserPage.definition.joined "/é").build 0 = .ok joined ∧
        dispatcher.choice? (UserPage.request "/%C3%A9/users") "/%C3%A9/users" = none ∧
        (joined.choice? (UserPage.request "/%C3%A9/users") "/%C3%A9/users").isSome := by
  constructor
  · exact UserPage.accented_proper
  · obtain ⟨dispatcher, mounts⟩ := UserPage.built
      (show ((UserPage.definition.mounted "/é").build 0).toOption.isSome = true by decide +kernel)
    obtain ⟨joined, joins⟩ := UserPage.built
      (show ((UserPage.definition.joined "/é").build 0).toOption.isSome = true by decide +kernel)
    refine ⟨dispatcher, joined, mounts, joins, ?_, ?_⟩
    · rw [UserPage.choice_of_build mounts, ← Option.isNone_iff_eq_none]
      decide +kernel
    · rw [UserPage.choice_of_build joins]
      decide +kernel

end RequestDispatch
