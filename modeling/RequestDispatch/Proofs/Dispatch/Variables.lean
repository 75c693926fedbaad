import RequestDispatch.Proofs.Binding.Fetching
import RequestDispatch.Proofs.Binding.Typed
import RequestDispatch.Proofs.Dispatch.Scope
import RequestDispatch.Proofs.Dispatch.Selection
import RequestDispatch.Proofs.Route.Joined
import RequestDispatch.Proofs.Route.Mapping

/-!
Parameters that are bound to variables of the path. A dispatcher that is built has such a parameter
only where every pattern of the route has the variable, and whichever pattern matches, the match
binds all of its variables before the arguments are fetched. So these parameters are never missing,
whatever the patterns and however deep the path is nested (`path_variable_never_missing`).
-/

namespace RequestDispatch

variable {State : Type}

theorem Binding.of_path_source {binding : Binding} (source : binding.source = .path) :
    ∃ name, binding = .pathVariable name := by
  cases binding with
  | pathVariable name => exact ⟨name, rfl⟩
  | _ => cases source

namespace Parameter

variable {mapping : RouteMapping} {parameter : Parameter} {fetcher : Fetcher}

/-- A parameter for a variable of the path is accepted only if the route declares the variable. -/
theorem Compiles.path_variable (compiles : parameter.Compiles mapping fetcher) {name : String}
    (bound : parameter.binding = .pathVariable name) :
    mapping.declaresVariable name = true ∧ fetcher = .pathVariable name parameter.type := by
  obtain ⟨service, created⟩ := compiles
  obtain ⟨declared, -, same⟩ := created_for_variable bound created
  exact ⟨declared, same⟩

theorem many_valued_source {origin : ManyValued} {name : String} {service : ConversionService}
    (created : (parameter.manyValuedFetcher service origin name).1 = .ok fetcher) :
    fetcher.source = origin.source := by
  unfold manyValuedFetcher at created
  split at created
  · obtain ⟨_, -, rest⟩ := bind_eq_ok.1 created
    obtain ⟨adapter, -, same⟩ := bind_eq_ok.1 rest
    cases same
    rfl
  · split at created
    · cases created
    · obtain ⟨_, -, rfl⟩ := map_eq_ok.1 created
      rfl
  · obtain ⟨_, -, rfl⟩ := map_eq_ok.1 created
    rfl

theorem Compiles.source (compiles : parameter.Compiles mapping fetcher) :
    fetcher.source = parameter.binding.source := by
  cases bound : parameter.binding with
  | pathVariable name =>
      rw [(compiles.path_variable bound).2]
      rfl
  | query name | header name =>
      obtain ⟨service, created⟩ := compiles
      simp only [Parameter.fetcher, bound] at created
      exact many_valued_source created
  | session name | requestAttribute name | interceptSlot | container qualifier =>
      obtain ⟨service, created⟩ := compiles
      simp only [Parameter.fetcher, bound, Except.ok.injEq] at created
      subst created
      rfl

end Parameter

/-- The text of a path that a variable of a pattern captures. The variable has one place among the
names of the pattern, and the group in this place is the text. -/
def PathPattern.CapturesAs (pattern : PathPattern) (path name text : String) : Prop :=
  ∃ (groups : List String) (index : Nat), pattern.captures? path = some groups ∧
    pattern.names[index]? = some name ∧ groups[index]? = some text ∧
    ∀ other, pattern.names[other]? = some name → other = index

namespace PathPattern

theorem captures_variable {pattern : PathPattern} (distinct : pattern.names.Nodup) {path : String}
    {found : PathMatch} (matched : pattern.match? path = some found) {name : String}
    (member : name ∈ pattern.names) : ∃ text, pattern.CapturesAs path name text := by
  obtain ⟨groups, captured, -⟩ := Option.map_eq_some_iff.1 matched
  obtain ⟨index, within, named⟩ := List.getElem_of_mem member
  have bound : index < groups.length := captures_length captured ▸ within
  refine ⟨groups[index], groups, index, captured, List.getElem?_eq_some_iff.2 ⟨within, named⟩,
    List.getElem?_eq_getElem bound, ?_⟩
  intro other same
  obtain ⟨inside, known⟩ := List.getElem?_eq_some_iff.1 same
  exact distinct.getElem_inj_iff.1 (known.trans named.symm)

theorem lookup_zip_at {names groups : List String} {index : Nat} {name text : String}
    (named : names[index]? = some name) (captured : groups[index]? = some text)
    (first : ∀ other, names[other]? = some name → other = index) :
    (names.zip (groups.map Text.decodeSegment)).lookup name = some (Text.decodeSegment text) := by
  induction names generalizing groups index with
  | nil => cases named
  | cons head names ih =>
      cases groups with
      | nil => cases captured
      | cons group groups =>
          rw [List.map_cons, List.zip_cons_cons, List.lookup_cons]
          cases index with
          | zero =>
              cases named
              cases captured
              simp
          | succ index =>
              have other : (name == head) = false := by
                rw [beq_eq_false_iff_ne]
                rintro rfl
                exact absurd (first 0 rfl) (Nat.succ_ne_zero index).symm
              rw [other]
              apply ih (by simpa using named) (by simpa using captured)
              intro place same
              exact Nat.succ.inj (first (place + 1) (by simpa using same))

/-- What a variable captures is what the match binds it to, decoded. -/
theorem CapturesAs.binds {pattern : PathPattern} {path name text : String}
    (captures : pattern.CapturesAs path name text) {found : PathMatch}
    (matched : pattern.match? path = some found) :
    found.bindings.lookup name = some (Text.decodeSegment text) := by
  obtain ⟨groups, index, captured, named, grouped, first⟩ := captures
  rw [match?, captured] at matched
  cases matched
  exact lookup_zip_at named grouped first

end PathPattern

theorem RouteDeclaration.names_distinct {declaration : RouteDeclaration} {mapping : RouteMapping}
    (compiled : declaration.compile = .ok mapping) {pattern : PathPattern}
    (member : pattern ∈ mapping.patterns) : pattern.names.Nodup := by
  obtain ⟨template, -, read⟩ := template_of_mem compiled member
  obtain ⟨reading, -, -, rfl, distinct⟩ := TemplateReading.compile_reading read
  rw [TemplateReading.pattern_names]
  exact distinct

namespace Level

theorem opened_variable (level : Level State) (name : String) :
    level.opened.exchange.pathVariable? name = level.found.bindings.lookup name :=
  BindingStack.get_push level.start.exchange.bindings level.found.bindings name

theorem matched (level : Level State) :
    ∃ front pattern back, level.invocation.mapping.patterns = front ++ pattern :: back ∧
      pattern.match? level.path = some level.found.path ∧
      ∀ other ∈ front, other.match? level.path = none := by
  obtain ⟨-, -, tested⟩ := Dispatcher.select_takes level.selected
  obtain ⟨⟨found, confidence⟩, routed, same⟩ := Option.map_eq_some_iff.1 tested
  have path : level.found.path = found := congrArg MatchResult.path same.symm
  rw [path]
  exact RouteMapping.test_first routed

theorem fetch_error {level : Level State} {error : DispatchError}
    (failed : (level.dispatcher.fetchArguments level.invocation level.opened).1 =
      some (.error error)) :
    ∃ index fetcher last, Stops level.opened.exchange level.invocation.fetchers
      (level.opened.memory level.dispatcher) index fetcher (some error) last := by
  obtain ⟨fetched, fetches, same⟩ := Option.map_eq_some_iff.1 failed
  cases fetched with
  | ok values => cases same
  | error problem =>
      cases same
      exact fetch_all_error fetches

end Level

/-- What a parameter for a variable of the path comes to at a level whose method it belongs to. -/
theorem Level.variable_at {level : Level State} {owner : TypeKey} {method : HandlerMethod State}
    (keeps : method.Keeps owner level.invocation) {pattern : PathPattern}
    (member : pattern ∈ level.invocation.mapping.patterns)
    (matched : pattern.match? level.path = some level.found.path) {parameter : Parameter}
    {fetcher : Fetcher} (compiles : parameter.Compiles level.invocation.mapping fetcher)
    {name : String} (bound : parameter.binding = .pathVariable name) :
    fetcher = .pathVariable name parameter.type ∧
      ∃ text, pattern.CapturesAs level.path name text ∧
        level.opened.exchange.pathVariable? name = some (Text.decodeSegment text) := by
  obtain ⟨declared, same⟩ := compiles.path_variable bound
  have distinct := RouteDeclaration.names_distinct keeps.route member
  have known := RouteMapping.mem_names_of_declared declared member
  obtain ⟨text, captures⟩ := PathPattern.captures_variable distinct matched known
  refine ⟨same, text, captures, ?_⟩
  rw [level.opened_variable]
  exact captures.binds matched

/-- A dispatcher that is built and any level of a request to it, of whatever depth. The method of
the level was declared, and one pattern of its route is the first that matches the path. Each
parameter for a variable of the path has a fetcher that finds what this pattern captures for the
variable, decoded, and converts it, whatever the dispatcher remembers. So the arguments are never
refused because something is missing in the path. -/
theorem path_variable_never_missing {definition : DispatcherDefinition State} {place : Nat}
    (level : Level State) (built : definition.build place = .ok level.dispatcher) :
    (∃ controller ∈ definition.controllers, ∃ method ∈ controller.methods,
      ∃ front pattern back,
        level.handler.type = controller.type ∧ method.Keeps controller.type level.invocation ∧
        level.invocation.mapping.patterns = front ++ pattern :: back ∧
        (∀ other ∈ front, other.match? level.path = none) ∧
        ∀ (index : Nat) (parameter : Parameter) (name : String),
          method.parameters[index]? = some parameter → parameter.binding = .pathVariable name →
          ∃ text fetcher, pattern.CapturesAs level.path name text ∧
            level.opened.exchange.pathVariable? name = some (Text.decodeSegment text) ∧
            level.invocation.fetchers[index]? = some fetcher ∧
            ∀ memory : Memory State, (fetcher.take level.opened.exchange memory).1 =
              some (memory.conversion.bind parameter.type (.text (Text.decodeSegment text))).1) ∧
    ∀ name, (level.dispatcher.fetchArguments level.invocation level.opened).1 ≠
      some (.error (.missingParameter name .path)) := by
  obtain ⟨controller, declared, method, named, owner, keeps⟩ :=
    Dispatcher.select_declared built level.selected
  obtain ⟨front, pattern, back, divided, matched, earlier⟩ := level.matched
  have member : pattern ∈ level.invocation.mapping.patterns := by simp [divided]
  constructor
  · refine ⟨controller, declared, method, named, front, pattern, back, owner, keeps, divided,
      earlier, ?_⟩
    intro index parameter name found bound
    obtain ⟨fetcher, known, compiles⟩ := result_at keeps.fetchers found
    obtain ⟨rfl, text, captures, opened⟩ := Level.variable_at keeps member matched compiles bound
    refine ⟨text, _, captures, opened, known, ?_⟩
    exact Fetcher.take_bound_variable parameter.type opened
  · intro name failed
    obtain ⟨index, fetcher, last, stops⟩ := Level.fetch_error failed
    -- the fetcher that fails names its own source, so it belongs to a variable of the path
    have source : fetcher.source = .path := stops.failure.missing_source
    obtain ⟨parameter, -, compiles⟩ := source_at keeps.fetchers stops.at_index
    obtain ⟨variableName, bound⟩ := Binding.of_path_source (compiles.source.symm.trans source)
    obtain ⟨rfl, text, -, opened⟩ := Level.variable_at keeps member matched compiles bound
    obtain ⟨_, _, _, _, stopped⟩ := stops
    exact Fetcher.bound_variable_not_missing parameter.type opened _ name .path
      (congrArg Prod.fst stopped)

/-! A method with two patterns that have the same variables in different places. -/

namespace PostPages

def byOwner : TemplateReading :=
  ⟨"/users/".toList, [("owner".toList, "/posts/".toList), ("post".toList, [])]⟩

def byPost : TemplateReading :=
  ⟨"/posts/".toList, [("post".toList, "/by/".toList), ("owner".toList, [])]⟩

def mapping : RouteMapping :=
  ⟨[byOwner.pattern "/users/\x7bowner\x7d/posts/\x7bpost\x7d",
    byPost.pattern "/posts/\x7bpost\x7d/by/\x7bowner\x7d"], [], [], [], [], []⟩

def method : HandlerMethod Unit :=
  { name := "show"
    route := { RouteDeclaration.empty with
      paths := ["/users/\x7bowner\x7d/posts/\x7bpost\x7d", "/posts/\x7bpost\x7d/by/\x7bowner\x7d"] }
    parameters := [{ Parameter.declare "title" .text with pathVariable := some "post" },
      { Parameter.declare "page" .text with query := some "page" }]
    outcomes := [], defaultView := none, target := ⟨"Posts"⟩
    body := fun _ => .finish (.ok .null) }

def definition : DispatcherDefinition Unit :=
  { DispatcherDefinition.empty with controllers := [⟨⟨"Posts"⟩, [method]⟩] }

theorem routed : method.route.compile = .ok mapping := by
  have first : PathPattern.compile "/users/\x7bowner\x7d/posts/\x7bpost\x7d" =
      .ok (byOwner.pattern "/users/\x7bowner\x7d/posts/\x7bpost\x7d") :=
    TemplateReading.checked_compiles (by decide)
  have second : PathPattern.compile "/posts/\x7bpost\x7d/by/\x7bowner\x7d" =
      .ok (byPost.pattern "/posts/\x7bpost\x7d/by/\x7bowner\x7d") :=
    TemplateReading.checked_compiles (by decide)
  have patterns : method.route.paths.mapM compilePattern = .ok mapping.patterns := by
    simp only [method, List.mapM_cons, List.mapM_nil, compilePattern, first, second]
    rfl
  unfold RouteDeclaration.compile
  rw [patterns]
  rfl

def invocation : Invocation Unit :=
  { method := ⟨⟨"Posts"⟩, "show"⟩, mapping := mapping
    fetchers := [.pathVariable "post" .text, .scalar .query "page" .text ⟨none, true⟩]
    argumentNames := ["title", "page"], outcomes := Outcome.sort [], defaultView := none
    target := ⟨"Posts"⟩, body := method.body }

def compiled : ConversionService :=
  (compileParameters mapping method.parameters (.standard .standard)).2

theorem compiles : method.compile ⟨"Posts"⟩ (.standard .standard) = (.ok invocation, compiled) := by
  unfold HandlerMethod.compile
  rw [routed]
  rfl

def dispatcher : Dispatcher Unit :=
  { place := 0, pathPrefix := normalizePrefix "", handlers := [⟨⟨"Posts"⟩, [invocation]⟩]
    registry := [(⟨⟨"Posts"⟩, "show"⟩, invocation)], chains := ⟨.empty, .standard⟩
    exceptionHandlers := [], views := none, errorDetails := false, nestingLimit := 1000
    initial := ⟨compiled, .empty, []⟩ }

theorem built : definition.build 0 = .ok dispatcher := by
  have methods : InTurn (HandlerMethod.CompiledAs ⟨"Posts"⟩) (.standard .standard) [method]
      [invocation] compiled :=
    .cons (HandlerMethod.compile_eq_ok.1 compiles) (.nil _)
  have named : ∀ controller ∈ definition.controllers,
      (controller.methods.map HandlerMethod.name).Nodup := by
    intro controller declared
    cases List.mem_singleton.1 declared
    decide
  exact DispatcherDefinition.build_of_in_turn (.cons ⟨rfl, methods⟩ (.nil _)) rfl named 0

def path : String := "/posts/a%20b/by/7"

def found : MatchResult := ⟨⟨["post", "owner"], ["a%20b", "7"]⟩, 0, none⟩

theorem tested (request : Request) : mapping.test request path = some (found.path, 0) := by
  have first : (mapping.patterns.findSome? fun pattern => pattern.match? path) =
      some found.path := by decide +kernel
  unfold RouteMapping.test
  rw [first]
  rfl

theorem selects (request : Request) : dispatcher.select request path =
    some ((⟨⟨"Posts"⟩, [invocation]⟩, invocation), found) := by
  simp only [Dispatcher.select, dispatcher, ControllerHandler.find?, bestOf, Invocation.test,
    invocation, List.foldl, tested, Option.map, best, found]

def context (query : List (String × String)) : DispatchContext Unit :=
  .start (.start ⟨⟨path, query⟩, "GET", .empty, []⟩ ()) []

def level (query : List (String × String)) : Level Unit :=
  { limit := 1000, dispatcher := dispatcher, path := path
    start := { context query with attached := some dispatcher }, handler := _
    invocation := invocation, found := found, selected := selects _ }

end PostPages

/-- The title is the text of the second pattern, which has it in the place of the owner, without its
escape. A page that is missing is missing in the query. -/
theorem title_of_second_pattern :
    PostPages.definition.build 0 = .ok (PostPages.level []).dispatcher ∧
      (∃ fetcher, (PostPages.level []).invocation.fetchers[0]? = some fetcher ∧
        ∀ memory : Memory Unit, (fetcher.take (PostPages.level []).opened.exchange memory).1 =
          some (memory.conversion.bind .text (.text "a b")).1) ∧
      ∃ source, source ≠ .path ∧ ((PostPages.level []).dispatcher.fetchArguments
        (PostPages.level []).invocation (PostPages.level []).opened).1 =
          some (.error (.missingParameter "page" source)) := by
  obtain ⟨⟨controller, declared, method, named, front, pattern, back, -, -, -, -, each⟩, never⟩ :=
    path_variable_never_missing (PostPages.level []) PostPages.built
  cases List.mem_singleton.1 declared
  cases List.mem_singleton.1 named
  obtain ⟨text, fetcher, -, bound, known, gives⟩ := each 0 _ "post" rfl rfl
  have decoded : (PostPages.level []).opened.exchange.pathVariable? "post" = some "a b" := by
    decide +kernel
  rw [bound, Option.some.injEq] at decoded
  rw [decoded] at gives
  have missing : ((PostPages.level []).dispatcher.fetchArguments
      (PostPages.level []).invocation (PostPages.level []).opened).1 =
        some (.error (.missingParameter "page" .query)) := rfl
  refine ⟨PostPages.built, ⟨fetcher, known, gives⟩, .query, ?_, missing⟩
  intro same
  exact never "page" (same ▸ missing)

end RequestDispatch
