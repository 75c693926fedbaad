import Mathlib.Logic.Relation
import RequestDispatch.Proofs.Dispatch.Watched
import RequestDispatch.Proofs.Interception.Passing

/-!
Failures of nested paths. A handler that has another path served and passes its failure on, inside
interceptors that give faults back as they got them, ends its own path with the very same failure:
nothing is wrapped around it, no exception handler is asked again, and the response is not touched
on the way out. The step is `run_of_includes`, the run `run_of_descent`, and the main statement
`failure_crosses_inclusions`.
-/

namespace RequestDispatch

namespace Program

variable {World State α : Type}

/-- The program, carried out in a world, comes to have a path served in that other world, to go on
with what the last argument but one makes of the answer. -/
inductive Reaches (part : Part World (Exchange State))
    (nested : String → Process World (Except DispatchError Unit)) :
    Program State α → World → String → (Except DispatchError Unit → Program State α) → World → Prop
  | nest {path next world} : Reaches part nested (.nest path next) world path next world
  | look {view world path next last} :
      Reaches part nested (view (part.get world)) world path next last →
        Reaches part nested (.look view) world path next last
  | act {action rest world path next last} :
      Reaches part nested (rest (action.perform (part.get world)).1)
          (part.set (action.perform (part.get world)).2 world) path next last →
        Reaches part nested (.act action rest) world path next last
  | after {served rest world answer middle path next last} :
      nested served world = (some answer, middle) →
        Reaches part nested (rest answer) middle path next last →
        Reaches part nested (.nest served rest) world path next last

theorem run_of_reaches {part : Part World (Exchange State)}
    {nested : String → Process World (Except DispatchError Unit)} {program : Program State α}
    {world last : World} {path : String} {next : Except DispatchError Unit → Program State α}
    (reaches : program.Reaches part nested world path next last) :
    program.run part nested world =
      (nested path).andThen (fun answer => (next answer).run part nested) last := by
  induction reaches with
  | nest => rfl
  | look _ ih => exact ih
  | act _ ih => exact ih
  | after answered _ ih =>
      simp only [run, Process.andThen, answered]
      exact ih

/-- The failure of a nested path is passed on as it is. -/
def PassesOn (next : Except DispatchError Unit → Program State CallResult) : Prop :=
  ∀ error, next (.error error) = .finish (.error (.dispatch error))

end Program

namespace Watched

variable {State : Type}

theorem state_lawful : (statePart : Part (Watched State) State).Lawful :=
  ⟨fun _ => rfl, fun _ _ _ => rfl⟩

/-- Nothing but the path bindings and the state of the application has changed. -/
def Undisturbed (before after : Watched State) : Prop :=
  ∃ bindings state, after = exchangePart.set
    { before.context.exchange with bindings := bindings, state := state } before

theorem Undisturbed.refl (world : Watched State) : world.Undisturbed world := ⟨_, _, rfl⟩

theorem Undisturbed.trans {first second third : Watched State} (one : first.Undisturbed second)
    (two : second.Undisturbed third) : first.Undisturbed third := by
  obtain ⟨_, _, rfl⟩ := one
  obtain ⟨_, _, rfl⟩ := two
  exact ⟨_, _, rfl⟩

end Watched

/-- A path that is to be served by a dispatcher in a world, on a level and within a limit. -/
structure Call (State : Type) where
  limit : Nat
  level : Nat
  dispatcher : Dispatcher State
  path : String
  world : Watched State

namespace Call

open Watched

variable {State : Type}

def run (call : Call State) : Option (Except DispatchError Unit) × Watched State :=
  call.dispatcher.runWatched call.limit call.level call.path call.world

/-- The call got as far as the interceptors of a method: the method was found, its arguments were
fetched and its chain was put together. -/
structure Entry (call : Call State) where
  limit : Nat
  within : call.limit = limit + 1
  controller : ControllerHandler State
  invocation : Invocation State
  found : MatchResult
  selected : call.dispatcher.select call.world.context.exchange.request call.path =
    some ((controller, invocation), found)
  arguments : Arguments
  fetched : Watched State
  fetches : watch (call.dispatcher.fetchArguments invocation)
    (exchangePart.set (call.world.context.exchange.pushBindings found.bindings) call.world) =
      (some (.ok arguments), fetched)
  chain : InterceptorChain State
  linked : Watched State
  links : watch (call.dispatcher.chainFor invocation.method) fetched = (some (.ok chain), linked)

namespace Entry

variable {call : Call State}

def nested (entry : call.Entry) (path : String) :
    Process (Watched State) (Except DispatchError Unit) :=
  Dispatcher.nestedWatched entry.limit (call.level + 1) path

def body (entry : call.Entry) (arguments : Arguments) : Program State CallResult :=
  entry.invocation.call entry.controller.type arguments

def terminal (entry : call.Entry) (arguments : Arguments) : Process (Watched State) CallResult :=
  (entry.body arguments).run exchangePart entry.nested

def result (entry : call.Entry) : Option CallResult × Watched State :=
  entry.chain.execute statePart entry.terminal entry.invocation.argumentNames entry.arguments
    entry.linked

/-- The interceptors come to call the method with these arguments in that world. -/
def Enters (entry : call.Entry) : Arguments → Watched State → Prop :=
  InterceptorChain.Enters statePart entry.terminal entry.chain.method
    entry.invocation.argumentNames entry.chain.interceptors entry.arguments entry.linked

def ReturnsFaults (entry : call.Entry) : Prop :=
  ∀ interceptor ∈ entry.chain.interceptors, interceptor.advice.ReturnsFaults

def left (entry : call.Entry) (after : Watched State) : Watched State :=
  exchangePart.set (after.context.exchange.leaveScope
    (call.world.context.exchange.pushBindings entry.found.bindings).bindings.depth) after

def finish (entry : call.Entry) : CallResult → Process (Watched State) (Except DispatchError Unit)
  | .ok value => watch (DispatchContext.change (Outcome.applyFirst call.dispatcher.views
      entry.found.defaultView value entry.invocation.outcomes))
  | .error fault => call.dispatcher.settleWatched call.level entry.nested fault

theorem run (entry : call.Entry) {result : CallResult} {after : Watched State}
    (handed : entry.result = (some result, after)) :
    call.run = ((entry.finish result after).1, entry.left (entry.finish result after).2) := by
  have served : call.dispatcher.serveWatched call.level entry.nested entry.controller.type
      entry.invocation entry.found (exchangePart.set
        (call.world.context.exchange.pushBindings entry.found.bindings) call.world) =
      entry.finish result after := by
    unfold Dispatcher.serveWatched
    simp only [Process.andThen, entry.fetches, entry.links]
    have chained : entry.chain.execute statePart (fun arguments =>
        (entry.invocation.call entry.controller.type arguments).run exchangePart entry.nested)
        entry.invocation.argumentNames entry.arguments entry.linked = (some result, after) := handed
    rw [chained]
    cases result <;> rfl
  unfold Call.run
  rw [entry.within]
  unfold Dispatcher.runWatched
  dsimp only
  rw [entry.selected]
  exact congrArg (fun served : Option (Except DispatchError Unit) × Watched State =>
    (served.1, entry.left served.2)) served

theorem result_beyond (entry : call.Entry) :
    Beyond call.level call.world.consultations entry.result.2 := by
  have fetched : entry.fetched.consultations = call.world.consultations :=
    congrArg (fun step : Option (Except DispatchError Arguments) × Watched State =>
      step.2.consultations) entry.fetches.symm
  have linked : entry.linked.consultations = entry.fetched.consultations :=
    congrArg (fun step : Option (Except DispatchError (InterceptorChain State)) × Watched State =>
      step.2.consultations) entry.links.symm
  rw [← fetched, ← linked]
  exact Dispatcher.execute_watched_leads
    (Dispatcher.nested_watched_leads entry.limit call.level _) entry.controller.type
    entry.invocation entry.chain entry.arguments (beyond_start call.level entry.linked)

theorem left_undisturbed (entry : call.Entry) (after : Watched State) :
    after.Undisturbed (entry.left after) := ⟨_, _, rfl⟩

theorem result_of_enters (entry : call.Entry) (returns : entry.ReturnsFaults)
    {arguments : Arguments} {start thrown : Watched State} {fault : Fault}
    (enters : entry.Enters arguments start)
    (throws : entry.terminal arguments start = (some (.error fault), thrown)) :
    ∃ after, entry.result = (some (.error fault), after) ∧ thrown.Undisturbed after := by
  obtain ⟨state, handed⟩ :=
    InterceptorChain.intercept_of_enters state_lawful returns enters throws
  exact ⟨_, handed, ⟨_, _, rfl⟩⟩

end Entry

/-- The method of the outer call comes to have the path of the inner one served and passes its
failure on, and so do the interceptors around the method. -/
def Includes (outer inner : Call State) : Prop :=
  ∃ (entry : outer.Entry) (arguments : Arguments) (start : Watched State)
    (next : Except DispatchError Unit → Program State CallResult),
    entry.ReturnsFaults ∧ entry.Enters arguments start ∧
      (entry.body arguments).Reaches exchangePart entry.nested start inner.path next inner.world ∧
      Program.PassesOn next ∧ inner.world.context.attached = some inner.dispatcher ∧
      inner.limit = entry.limit ∧ inner.level = outer.level + 1

theorem nested_eq_run {outer inner : Call State} (entry : outer.Entry)
    (attached : inner.world.context.attached = some inner.dispatcher)
    (limit : inner.limit = entry.limit) (level : inner.level = outer.level + 1) :
    entry.nested inner.path inner.world = inner.run := by
  rw [Entry.nested, Dispatcher.nestedWatched, attached, Call.run, limit, level]

theorem result_of_includes {outer inner : Call State} (includes : outer.Includes inner)
    {error : DispatchError} {ended : Watched State}
    (fails : inner.run = (some (.error error), ended)) :
    ∃ (entry : outer.Entry) (after : Watched State),
      entry.result = (some (.error (.dispatch error)), after) ∧ ended.Undisturbed after := by
  obtain ⟨entry, arguments, start, next, returns, enters, reaches, passes, attached, limit,
    level⟩ := includes
  have throws : entry.terminal arguments start = (some (.error (.dispatch error)), ended) := by
    rw [Entry.terminal, Program.run_of_reaches reaches, Process.andThen,
      nested_eq_run entry attached limit level, fails]
    dsimp only
    rw [passes]
    rfl
  obtain ⟨after, handed, undisturbed⟩ := entry.result_of_enters returns enters throws
  exact ⟨entry, after, handed, undisturbed⟩

theorem run_of_includes {outer inner : Call State} (includes : outer.Includes inner)
    {error : DispatchError} {ended : Watched State}
    (fails : inner.run = (some (.error error), ended)) :
    ∃ last, outer.run = (some (.error error), last) ∧ ended.Undisturbed last := by
  obtain ⟨entry, after, handed, undisturbed⟩ := result_of_includes includes fails
  exact ⟨_, entry.run handed, undisturbed.trans (entry.left_undisturbed after)⟩

/-- However many calls include one another, the outermost fails as the innermost does. -/
theorem run_of_descent {outer inner : Call State}
    (descends : Relation.ReflTransGen Includes outer inner) {error : DispatchError}
    {ended : Watched State} (fails : inner.run = (some (.error error), ended)) :
    ∃ last, outer.run = (some (.error error), last) ∧ ended.Undisturbed last := by
  induction descends using Relation.ReflTransGen.head_induction_on with
  | refl => exact ⟨ended, fails, .refl ended⟩
  | head includes _ ih =>
      obtain ⟨middle, failed, undisturbed⟩ := ih
      obtain ⟨last, run, further⟩ := run_of_includes includes failed
      exact ⟨last, run, undisturbed.trans further⟩

/-- What the exception handlers are asked about on the level of the call itself. -/
def asked (call : Call State) : List Consultation :=
  (call.run.2.consultations.drop call.world.consultations.length).filter fun entry =>
    entry.level = call.level

theorem asked_eq {call : Call State} {added : List Consultation}
    (after : call.run.2.consultations = call.world.consultations ++ added) :
    call.asked = added.filter fun entry => entry.level = call.level := by
  rw [asked, after, List.drop_left]

theorem asked_length_le_one (call : Call State) : call.asked.length ≤ 1 := by
  obtain ⟨added, after, -, once⟩ :=
    Dispatcher.run_watched_asks_once call.limit call.level call.dispatcher call.path call.world
  rw [asked_eq after]
  exact once

theorem asked_of_includes {outer inner : Call State} (includes : outer.Includes inner)
    {error : DispatchError} {ended : Watched State}
    (fails : inner.run = (some (.error error), ended)) : outer.asked = [] := by
  obtain ⟨entry, after, handed, -⟩ := result_of_includes includes fails
  -- The outer call hands a passed failure back, so nobody is asked after its interceptors.
  obtain ⟨added, same, deeper⟩ := entry.result_beyond
  have run := entry.run handed
  rw [handed] at same
  have last : outer.run.2.consultations = outer.world.consultations ++ added := by
    rw [run]
    exact same
  rw [asked_eq last, Beyond.none_on_level deeper]

theorem asked_of_descent {outer inner : Call State}
    (descends : Relation.TransGen Includes outer inner) {error : DispatchError}
    {ended : Watched State} (fails : inner.run = (some (.error error), ended)) :
    outer.asked = [] := by
  obtain ⟨middle, includes, descends⟩ := Relation.TransGen.head'_iff.1 descends
  obtain ⟨last, failed, -⟩ := run_of_descent descends fails
  exact asked_of_includes includes failed

def outermost (dispatcher : Dispatcher State) (context : DispatchContext State) (path : String) :
    Call State :=
  { limit := dispatcher.nestingLimit + 1, level := 0, dispatcher := dispatcher, path := path
    world := ⟨{ context with attached := context.attached.or (some dispatcher) }, []⟩ }

variable {dispatcher : Dispatcher State} {context : DispatchContext State} {path : String}

theorem include_of_run {result : Option (Except DispatchError Unit)} {last : Watched State}
    (run : (outermost dispatcher context path).run = (result, last)) :
    dispatcher.includePath path (outermost dispatcher context path).world.context =
      (result, last.context) := by
  obtain ⟨same, after⟩ := Dispatcher.run_watched_related (dispatcher.nestingLimit + 1) 0 dispatcher
    path (rfl : Shows (outermost dispatcher context path).world _)
  change (outermost dispatcher context path).run.1 = _ at same
  change Shows (outermost dispatcher context path).run.2 _ at after
  rw [run] at same after
  exact Prod.ext same.symm after.symm

def outcome : Except DispatchError Unit → Except DispatchError Unit
  | .error .handled => .ok ()
  | result => result

theorem outcome_of_failure {error : DispatchError} (unhandled : error ≠ .handled) :
    outcome (.error error) = .error error := by
  cases error with
  | handled => exact absurd rfl unhandled
  | _ => rfl

theorem dispatch_of_run (begins : dispatcher.relativePath? context.exchange.request.path =
      some path) {result : Option (Except DispatchError Unit)} {last : Watched State}
    (run : (outermost dispatcher context path).run = (result, last)) :
    dispatcher.dispatch context = (result.map outcome, last.context) := by
  have included := include_of_run run
  simp only [outermost] at included
  unfold Dispatcher.dispatch
  simp only [begins, included]
  cases result with
  | none => rfl
  | some result =>
      cases result with
      | ok served => rfl
      | error error => cases error <;> rfl

end Call

/-! Three pages, of which the first includes the second and the second the third. -/

namespace NestedPages

def relay (path : String) : HandlerBody Unit := fun _ =>
  .nest path fun
    | .error error => .finish (.error (.dispatch error))
    | .ok () => .finish (.ok .null)

def page (name path : String) (body : HandlerBody Unit) : Invocation Unit :=
  { method := ⟨⟨"Pages"⟩, name⟩, mapping := ⟨[⟨path, path.toList, []⟩], [], [], [], [], []⟩
    fetchers := [], argumentNames := [], outcomes := [.write], defaultView := none
    target := ⟨"Pages"⟩, body := body }

def reporting : Interceptor Unit :=
  ⟨"reporting", .proceed fun result => .report (.line "back") (.finish result)⟩

variable (innermost : HandlerBody Unit) (answer : ExceptionHandler Unit)

def pages : ControllerHandler Unit :=
  ⟨⟨"Pages"⟩, [page "first" "/first" (relay "/second"), page "second" "/second" (relay "/third"),
    page "third" "/third" innermost]⟩

def chain (name : String) (interceptors : List (Interceptor Unit)) :
    MethodKey × InterceptorChain Unit :=
  (⟨⟨"Pages"⟩, name⟩, ⟨⟨⟨"Pages"⟩, name⟩, interceptors⟩)

def dispatcher : Dispatcher Unit :=
  { place := 0, pathPrefix := "", handlers := [pages innermost], registry := []
    chains := ⟨.empty, .standard⟩, exceptionHandlers := [(⟨"Overdue"⟩, answer)], views := none
    errorDetails := false, nestingLimit := 2
    initial := ⟨.standard .standard, .empty,
      [chain "first" [], chain "second" [reporting], chain "third" []]⟩ }

def request (path : String) : Request := ⟨⟨path, []⟩, "GET", .empty, []⟩

def context (path : String) : DispatchContext Unit := .start (.start (request path) ()) []

def world (path : String) (depth : Nat) : Watched Unit :=
  { context :=
      { exchange := { Exchange.start (request path) () with bindings := ⟨List.replicate depth []⟩ }
        attached := some (dispatcher innermost answer)
        memories := [(0, (dispatcher innermost answer).initial)] }
    consultations := [] }

def first : Call Unit := .outermost (dispatcher innermost answer) (context "/first") "/first"

def second : Call Unit :=
  ⟨2, 1, dispatcher innermost answer, "/second", world innermost answer "/first" 1⟩

def third : Call Unit :=
  ⟨1, 2, dispatcher innermost answer, "/third", world innermost answer "/first" 2⟩

def found : MatchResult := ⟨⟨[], []⟩, 0, none⟩

theorem relative_first : (dispatcher innermost answer).relativePath? "/first" = some "/first" :=
  rfl

theorem selects_first : (dispatcher innermost answer).select (request "/first") "/first" =
    some ((pages innermost, page "first" "/first" (relay "/second")), found) := rfl

theorem selects_second :
    (dispatcher innermost answer).select (request "/first") "/second" =
    some ((pages innermost, page "second" "/second" (relay "/third")), found) := rfl

theorem selects_third (path : String) :
    (dispatcher innermost answer).select (request path) "/third" =
    some ((pages innermost, page "third" "/third" innermost), found) := rfl

def firstEntry : (first innermost answer).Entry :=
  { limit := 2, within := rfl, selected := selects_first innermost answer, controller := _
    invocation := _, found := _, arguments := ⟨[]⟩, fetched := world innermost answer "/first" 1
    fetches := rfl, chain := _, linked := world innermost answer "/first" 1, links := rfl }

def secondEntry : (second innermost answer).Entry :=
  { limit := 1, within := rfl, selected := selects_second innermost answer, controller := _
    invocation := _, found := _, arguments := ⟨[]⟩, fetched := world innermost answer "/first" 2
    fetches := rfl, chain := _, linked := world innermost answer "/first" 2, links := rfl }

def thirdEntry : (third innermost answer).Entry :=
  { limit := 0, within := rfl, selected := selects_third innermost answer "/first", controller := _
    invocation := _, found := _, arguments := ⟨[]⟩, fetched := world innermost answer "/first" 3
    fetches := rfl, chain := _, linked := world innermost answer "/first" 3, links := rfl }

def alone : Call Unit := .outermost (dispatcher innermost answer) (context "/third") "/third"

def aloneEntry : (alone innermost answer).Entry :=
  { limit := 2, within := rfl, selected := selects_third innermost answer "/third", controller := _
    invocation := _, found := _, arguments := ⟨[]⟩, fetched := world innermost answer "/third" 1
    fetches := rfl, chain := _, linked := world innermost answer "/third" 1, links := rfl }

theorem relative_third : (dispatcher innermost answer).relativePath? "/third" = some "/third" :=
  rfl

theorem descends :
    Relation.ReflTransGen Call.Includes (first innermost answer) (third innermost answer) := by
  have outer : (first innermost answer).Includes (second innermost answer) := by
    refine ⟨firstEntry innermost answer, ⟨[]⟩, world innermost answer "/first" 1, _, ?_,
      ⟨rfl, rfl⟩, .nest, fun _ => rfl, rfl, rfl, rfl⟩
    intro interceptor member
    cases member
  have inner : (second innermost answer).Includes (third innermost answer) := by
    refine ⟨secondEntry innermost answer, ⟨[]⟩, world innermost answer "/first" 2, _, ?_,
      ⟨_, _, .proceed, rfl, rfl⟩, .nest, fun _ => rfl, rfl, rfl, rfl⟩
    intro interceptor member
    rw [List.mem_singleton.1 member]
    exact ⟨fun _ => rfl, fun _ => trivial⟩
  exact .head outer (.single inner)

end NestedPages

/-- A failure of the innermost of nested paths that is not the signal of a handled fault is what
the whole dispatch ends with. Exception handlers were asked about it on the innermost level alone,
and there about one fault at most. -/
theorem failure_crosses_inclusions {State : Type} {dispatcher : Dispatcher State}
    {context : DispatchContext State} {path : String} {inner : Call State} {error : DispatchError}
    {ended : Watched State}
    (begins : dispatcher.relativePath? context.exchange.request.path = some path)
    (descends : Relation.ReflTransGen Call.Includes (Call.outermost dispatcher context path) inner)
    (fails : inner.run = (some (.error error), ended)) (unhandled : error ≠ .handled) :
    ∃ last, (Call.outermost dispatcher context path).run = (some (.error error), last) ∧
      dispatcher.dispatch context = (some (.error error), last.context) ∧
      last.consultations = ended.consultations ∧ inner.asked.length ≤ 1 ∧
      ∀ outer, Relation.TransGen Call.Includes outer inner → outer.asked = [] := by
  obtain ⟨last, run, bindings, state, same⟩ := Call.run_of_descent descends fails
  refine ⟨last, run, by
    rw [Call.dispatch_of_run begins run, Option.map_some, Call.outcome_of_failure unhandled], ?_,
    inner.asked_length_le_one, fun outer below => Call.asked_of_descent below fails⟩
  rw [same]
  rfl

/-- A fault that no exception handler is registered for crosses two inclusions. -/
theorem missing_crosses_inclusions :
    let fault : Fault := .custom ⟨"Missing"⟩ "gone" none
    let innermost : HandlerBody Unit := fun _ => .finish (.error fault)
    let dispatcher := NestedPages.dispatcher innermost fun _ => .finish true
    let inner := NestedPages.third innermost fun _ => .finish true
    dispatcher.relativePath? (NestedPages.context "/first").exchange.request.path = some "/first" ∧
      Relation.ReflTransGen Call.Includes
        (Call.outermost dispatcher (NestedPages.context "/first") "/first") inner ∧
      (∃ ended, inner.run = (some (.error (.handler fault)), ended)) ∧
      DispatchError.handler fault ≠ .handled ∧
      (dispatcher.dispatch (NestedPages.context "/first")).1 = some (.error (.handler fault)) := by
  intro fault innermost dispatcher inner
  have begins : dispatcher.relativePath? (NestedPages.context "/first").exchange.request.path =
      some "/first" := NestedPages.relative_first innermost fun _ => .finish true
  have descends := NestedPages.descends innermost fun _ => .finish true
  have unhandled : DispatchError.handler fault ≠ .handled := by simp
  let entry := NestedPages.thirdEntry innermost fun _ => .finish true
  have handed : entry.result = (some (.error fault), entry.linked) := rfl
  have fails : inner.run = (some (.error (.handler fault)), _) := entry.run handed
  obtain ⟨last, -, dispatched, -⟩ := failure_crosses_inclusions begins descends fails unhandled
  exact ⟨begins, descends, ⟨_, fails⟩, unhandled, congrArg Prod.fst dispatched⟩

end RequestDispatch
