import RequestDispatch.Proofs.Dispatch.Watched
import RequestDispatch.Proofs.Steps

/-!
Scopes of path bindings. Whatever is served leaves the request, the path bindings and the dispatcher
of nested paths as they were: the step is `in_scope_framed`, the run `run_within_framed`. While code
of a level is at work, the bindings of its own match lie on top of those that were there before
(`bindings_are_scoped`).
-/

namespace RequestDispatch

variable {State α β : Type}

theorem BindingStack.get_push (stack : BindingStack) (bindings : PathBindings) (name : String) :
    (stack.push bindings).get? name = bindings.lookup name := by
  simp [get?, push]

/-- The part of a context that handlers cannot change for those who called them. -/
structure Frame (State : Type) where
  request : Request
  bindings : BindingStack
  attached : Option (Dispatcher State)

def DispatchContext.frame (context : DispatchContext State) : Frame State :=
  ⟨context.exchange.request, context.exchange.bindings, context.attached⟩

def Framed (process : Dispatching State α) : Prop :=
  ∀ frame, process.Leads (fun context => context.frame = frame) fun context => context.frame = frame

theorem framed_iff {process : Dispatching State α} :
    Framed process ↔ ∀ context, (process context).2.frame = context.frame := by
  constructor
  · intro framed context
    exact framed context.frame rfl
  · intro keeps frame context held
    exact (keeps context).trans held

theorem Framed.andThen {first : Dispatching State α} {next : α → Dispatching State β}
    (begins : Framed first) (continues : ∀ result, Framed (next result)) :
    Framed (first.andThen next) := by
  intro frame
  have follows : ∀ result, (next result).Leads (fun context => context.frame = frame)
      fun context => context.frame = frame := fun result => continues result frame
  exact (begins frame).andThen follows fun _ held => held

theorem done_framed (result : α) : Framed (Process.done result : Dispatching State α) :=
  fun _ => Process.done_leads result

/-- Changes that stay within the response, the attributes and the like. -/
def Exchange.Aside (before after : Exchange State) : Prop :=
  after.request = before.request ∧ after.bindings = before.bindings

theorem Exchange.Aside.refl (exchange : Exchange State) : exchange.Aside exchange := ⟨rfl, rfl⟩

theorem perform_aside (action : Action State) (exchange : Exchange State) :
    exchange.Aside (action.perform exchange).2 := by
  cases action with
  | setHeader name value =>
      simp only [Action.perform, Action.tryRespond]
      cases exchange.sink.setHeader name value <;> exact .refl exchange
  | redirect location =>
      simp only [Action.perform, Action.tryRespond]
      cases exchange.sink.redirect location <;> exact .refl exchange
  | _ => exact .refl exchange

namespace Outcome

theorem attempt_aside (views : Option Renderer) (defaultView : Option String) (value : Value)
    (exchange : Exchange State) (outcome : Outcome) :
    exchange.Aside (outcome.attempt views defaultView value exchange).2 ∧
      ∀ applied, (outcome.attempt views defaultView value exchange).1 = .ok (some applied) →
        exchange.Aside applied := by
  cases outcome with
  | view template =>
      refine ⟨.refl exchange, ?_⟩
      intro applied rendered
      simp only [attempt, applyView] at rendered
      repeat' split at rendered
      all_goals cases rendered
      exact .refl exchange
  | write =>
      simp only [attempt, applyWrite]
      split
      · exact ⟨.refl exchange, by simp⟩
      · refine ⟨.refl exchange, ?_⟩
        rintro applied ⟨⟩
        exact .refl exchange
      · split
        all_goals refine ⟨.refl exchange, ?_⟩
        all_goals rintro applied ⟨⟩
        exact .refl exchange
      · refine ⟨.refl exchange, ?_⟩
        rintro applied ⟨⟩
        exact .refl exchange
  | redirect template =>
      refine ⟨.refl exchange, ?_⟩
      intro applied sent
      simp only [attempt, applyRedirect] at sent
      repeat' split at sent
      all_goals cases sent
      exact .refl exchange
  | status code message =>
      refine ⟨.refl exchange, ?_⟩
      rintro applied ⟨⟩
      cases message <;> exact .refl exchange

theorem apply_first_aside (views : Option Renderer) (defaultView : Option String) (value : Value)
    (outcomes : List Outcome) (exchange : Exchange State) :
    exchange.Aside (applyFirst views defaultView value outcomes exchange).2 := by
  induction outcomes generalizing exchange with
  | nil => exact .refl exchange
  | cons outcome rest ih =>
      have attempted := attempt_aside views defaultView value exchange outcome
      simp only [applyFirst]
      cases step : outcome.attempt views defaultView value exchange with
      | mk result after =>
          rw [step] at attempted
          cases result with
          | error error => exact attempted.1
          | ok applied =>
              cases applied with
              | none =>
                  have later := ih after
                  exact ⟨later.1.trans attempted.1.1, later.2.trans attempted.1.2⟩
              | some applied => exact attempted.2 applied rfl

end Outcome

namespace Dispatcher

variable {nested : String → Dispatching State (Except DispatchError Unit)}

theorem fetch_arguments_framed (dispatcher : Dispatcher State) (invocation : Invocation State) :
    Framed (dispatcher.fetchArguments invocation) := fun _ _ held => held

theorem chain_for_framed (dispatcher : Dispatcher State) (method : MethodKey) :
    Framed (dispatcher.chainFor method) := fun _ _ held => held

theorem change_framed {step : Exchange State → α × Exchange State}
    (aside : ∀ exchange : Exchange State, exchange.Aside (step exchange).2) :
    Framed (DispatchContext.change step) := by
  rw [framed_iff]
  intro context
  have same := aside context.exchange
  simp only [DispatchContext.frame, DispatchContext.change, same.1, same.2]

theorem act_framed (action : Action State) (frame : Frame State)
    (context : DispatchContext State) (held : context.frame = frame) :
    (DispatchContext.exchangePart.set
      (action.perform (DispatchContext.exchangePart.get context)).2 context).frame = frame := by
  have same := perform_aside action context.exchange
  rw [← held]
  simp only [DispatchContext.frame, DispatchContext.exchangePart, same.1, same.2]

theorem program_framed (served : ∀ path, Framed (nested path)) (program : Program State α) :
    Framed (program.run DispatchContext.exchangePart nested) := by
  intro frame
  apply Program.run_keeps
  · intro action context held
    exact act_framed action frame context held
  · intro path
    exact served path frame

theorem chain_framed {terminal : Arguments → Dispatching State CallResult}
    (called : ∀ arguments, Framed (terminal arguments)) (chain : InterceptorChain State)
    (names : List String) (arguments : Arguments) :
    Framed (chain.execute DispatchContext.statePart terminal names arguments) := by
  intro frame
  apply InterceptorChain.intercept_leads
  · intro state context held
    exact held
  · intro arguments
    exact called arguments frame

theorem settle_framed (dispatcher : Dispatcher State) (served : ∀ path, Framed (nested path))
    (fault : Fault) :
    Framed (dispatcher.settle nested fault) := by
  rcases fault.passed_or_own with ⟨error, rfl⟩ | own
  · exact done_framed _
  · rw [settle_own own]
    cases dispatcher.exceptionHandlers.lookup fault.kind with
    | none => exact done_framed _
    | some handler =>
        apply (program_framed served (handler fault)).andThen
        intro handled
        exact done_framed _

theorem serve_framed (dispatcher : Dispatcher State) (served : ∀ path, Framed (nested path))
    (controller : TypeKey) (invocation : Invocation State) (found : MatchResult) :
    Framed (dispatcher.serve nested controller invocation found) := by
  apply (fetch_arguments_framed dispatcher invocation).andThen
  rintro (error | arguments)
  · exact done_framed _
  apply (chain_for_framed dispatcher invocation.method).andThen
  rintro (error | chain)
  · exact done_framed _
  apply (chain_framed _ chain invocation.argumentNames arguments).andThen
  · rintro (fault | value)
    · exact settle_framed dispatcher served fault
    · apply change_framed
      intro exchange
      exact Outcome.apply_first_aside _ _ _ _ _
  · intro arguments
    exact program_framed served _

/-- What is kept inside of a scope is kept by the scope. -/
theorem in_scope_framed {process : Dispatching State α} (framed : Framed process)
    (bindings : PathBindings) : Framed (DispatchContext.inScope bindings process) := by
  rw [framed_iff] at framed ⊢
  intro context
  let opened := context.exchange.pushBindings bindings
  have inside := framed { context with exchange := opened }
  simp only [DispatchContext.frame, Frame.mk.injEq] at inside ⊢
  obtain ⟨request, layers, attached⟩ := inside
  refine ⟨request, ?_, attached⟩
  change (process { context with exchange := opened }).2.exchange.bindings.leave
    opened.bindings.depth = context.exchange.bindings
  rw [layers]
  exact BindingStack.leave_push context.exchange.bindings bindings

def nestedWithin (limit : Nat) (path : String) : Dispatching State (Except DispatchError Unit) :=
  fun context =>
    match context.attached with
    | none => DispatchContext.refuseNested path context
    | some attached => runWithin limit attached path context

theorem nested_framed {limit : Nat}
    (served : ∀ (dispatcher : Dispatcher State) path, Framed (runWithin limit dispatcher path))
    (path : String) : Framed (nestedWithin limit path : Dispatching State _) := by
  rw [framed_iff]
  intro context
  unfold nestedWithin
  cases context.attached with
  | none => rfl
  | some attached => exact framed_iff.1 (served attached path) context

theorem run_within_framed (limit : Nat) (dispatcher : Dispatcher State) (path : String) :
    Framed (runWithin limit dispatcher path) := by
  induction limit generalizing dispatcher path with
  | zero => exact fun _ _ held => held
  | succ limit ih =>
      rw [framed_iff]
      intro context
      unfold runWithin
      dsimp only
      cases dispatcher.select context.exchange.request path with
      | none => rfl
      | some selected =>
          obtain ⟨⟨handler, invocation⟩, found⟩ := selected
          have served := serve_framed dispatcher (nested_framed ih) handler.type invocation found
          exact framed_iff.1 (in_scope_framed served found.bindings) context

/-- A dispatch may attach its dispatcher; apart from that it leaves the frame as it was. -/
theorem dispatch_frame (dispatcher : Dispatcher State) (context : DispatchContext State) :
    (dispatcher.dispatch context).2.frame =
      { context.frame with attached := context.attached.or (some dispatcher) } := by
  unfold dispatch
  dsimp only
  cases dispatcher.relativePath? context.exchange.request.path with
  | none => rfl
  | some path =>
      have kept := framed_iff.1 (run_within_framed (dispatcher.nestingLimit + 1) dispatcher path)
        { context with attached := context.attached.or (some dispatcher) }
      dsimp only
      unfold includePath
      generalize runWithin (dispatcher.nestingLimit + 1) dispatcher path
        { context with attached := context.attached.or (some dispatcher) } = served at kept ⊢
      obtain ⟨result, after⟩ := served
      cases result with
      | none => exact kept
      | some result =>
          cases result with
          | ok done => exact kept
          | error error => cases error <;> exact kept

end Dispatcher

/-- A path that is served by a method that was found for it, as `Level.run` says. Every level of
nested paths is one. -/
structure Level (State : Type) where
  limit : Nat
  dispatcher : Dispatcher State
  path : String
  start : DispatchContext State
  handler : ControllerHandler State
  invocation : Invocation State
  found : MatchResult
  selected : dispatcher.select start.exchange.request path = some ((handler, invocation), found)

namespace Level

open DispatchContext

def nested (level : Level State) (path : String) :
    Dispatching State (Except DispatchError Unit) :=
  Dispatcher.nestedWithin level.limit path

def opened (level : Level State) : DispatchContext State :=
  { level.start with exchange := level.start.exchange.pushBindings level.found.bindings }

def body (level : Level State) (arguments : Arguments) : Program State CallResult :=
  level.invocation.call level.handler.type arguments

def terminal (level : Level State) (arguments : Arguments) : Dispatching State CallResult :=
  (level.body arguments).run exchangePart level.nested

theorem run (level : Level State) :
    Dispatcher.runWithin (level.limit + 1) level.dispatcher level.path level.start =
      inScope level.found.bindings (level.dispatcher.serve level.nested level.handler.type
        level.invocation level.found) level.start := by
  unfold Dispatcher.runWithin
  dsimp only
  rw [level.selected]
  rfl

/-- The level got as far as its interceptors: the arguments were fetched, and the chain was put
together. -/
structure Entry (level : Level State) where
  arguments : Arguments
  fetched : DispatchContext State
  fetches : level.dispatcher.fetchArguments level.invocation level.opened =
    (some (.ok arguments), fetched)
  chain : InterceptorChain State
  linked : DispatchContext State
  links : level.dispatcher.chainFor level.invocation.method fetched = (some (.ok chain), linked)

/-- Code of the level itself is at work in a context: its fetchers, which all see the context in
which fetching begins, a step of its handler, however often the interceptors call it, or a step of
the exception handler for a fault that the interceptors hand back. -/
inductive AtWork (level : Level State) : DispatchContext State → Prop
  | fetchers : AtWork level level.opened
  | handler (entry : level.Entry) {arguments : Arguments} {entered now : DispatchContext State}
      {rest : Program State CallResult} :
      InterceptorChain.Calls statePart level.terminal entry.chain.method
        level.invocation.argumentNames entry.chain.interceptors entry.arguments entry.linked
        arguments entered →
      Program.Steps exchangePart level.nested (level.body arguments, entered) (rest, now) →
      AtWork level now
  | exceptionHandler (entry : level.Entry) {fault : Fault} {answer : ExceptionHandler State}
      {after now : DispatchContext State} {rest : Program State Bool} :
      entry.chain.execute statePart level.terminal level.invocation.argumentNames entry.arguments
        entry.linked = (some (.error fault), after) →
      (∀ error, fault ≠ .dispatch error) →
      level.dispatcher.exceptionHandlers.lookup fault.kind = some answer →
      Program.Steps exchangePart level.nested (answer fault, after) (rest, now) →
      AtWork level now

theorem nested_framed (level : Level State) (path : String) : Framed (level.nested path) :=
  Dispatcher.nested_framed (Dispatcher.run_within_framed level.limit) path

theorem terminal_framed (level : Level State) (arguments : Arguments) :
    Framed (level.terminal arguments) :=
  Dispatcher.program_framed level.nested_framed (level.body arguments)

theorem steps_frame (level : Level State) {program rest : Program State α}
    {entered now : DispatchContext State}
    (steps : Program.Steps exchangePart level.nested (program, entered) (rest, now)) :
    now.frame = entered.frame := by
  apply steps.keeps fun context => context.frame = entered.frame
  · intro action context held
    exact Dispatcher.act_framed action entered.frame context held
  · intro path
    exact level.nested_framed path entered.frame
  · rfl

theorem Entry.linked_frame {level : Level State} (entry : level.Entry) :
    entry.linked.frame = level.opened.frame := by
  have fetched := framed_iff.1
    (Dispatcher.fetch_arguments_framed level.dispatcher level.invocation) level.opened
  have linked := framed_iff.1
    (Dispatcher.chain_for_framed level.dispatcher level.invocation.method) entry.fetched
  rw [entry.fetches] at fetched
  rw [entry.links] at linked
  exact linked.trans fetched

/-- While code of a level is at work, the frame is the one its arguments were fetched in. -/
theorem AtWork.frame {level : Level State} {now : DispatchContext State}
    (atWork : level.AtWork now) : now.frame = level.opened.frame := by
  cases atWork with
  | fetchers => rfl
  | handler entry calls steps =>
      have entered := calls.keeps (fun context => context.frame = entry.linked.frame)
        (fun _ _ held => held) (fun arguments => level.terminal_framed arguments _) rfl
      exact (level.steps_frame steps).trans (entered.trans entry.linked_frame)
  | exceptionHandler entry hands own registered steps =>
      have handed := framed_iff.1 (Dispatcher.chain_framed level.terminal_framed entry.chain
        level.invocation.argumentNames entry.arguments) entry.linked
      rw [hands] at handed
      exact (level.steps_frame steps).trans (handed.trans entry.linked_frame)

theorem AtWork.bindings {level : Level State} {now : DispatchContext State}
    (atWork : level.AtWork now) :
    now.exchange.bindings = level.start.exchange.bindings.push level.found.bindings :=
  congrArg Frame.bindings atWork.frame

end Level

/-- A dispatch, an inclusion and a nested path leave the path bindings as they found them, however
they end. While code of a level is at work, before and after the paths that it has nested, there is
one layer of bindings more than when the level began, and reading a variable reads that layer: the
bindings of the level's own match. -/
theorem bindings_are_scoped {State : Type} :
    (∀ (dispatcher : Dispatcher State) (context : DispatchContext State),
      (dispatcher.dispatch context).2.exchange.bindings = context.exchange.bindings) ∧
    (∀ (dispatcher : Dispatcher State) (path : String) (context : DispatchContext State),
      (dispatcher.includePath path context).2.exchange.bindings = context.exchange.bindings) ∧
    ∀ level : Level State,
      (∀ path context,
        (level.nested path context).2.exchange.bindings = context.exchange.bindings) ∧
      ∀ now, level.AtWork now →
        now.exchange.bindings = level.start.exchange.bindings.push level.found.bindings ∧
          ∀ name, now.exchange.pathVariable? name = level.found.bindings.lookup name := by
  refine ⟨?_, ?_, ?_⟩
  · intro dispatcher context
    exact congrArg Frame.bindings (dispatcher.dispatch_frame context)
  · intro dispatcher path context
    have framed := Dispatcher.run_within_framed (dispatcher.nestingLimit + 1) dispatcher path
    exact congrArg Frame.bindings (framed_iff.1 framed context)
  · intro level
    constructor
    · intro path context
      exact congrArg Frame.bindings (framed_iff.1 (level.nested_framed path) context)
    · intro now atWork
      refine ⟨atWork.bindings, ?_⟩
      intro name
      rw [Exchange.pathVariable?, atWork.bindings]
      exact BindingStack.get_push _ _ name

/-! Two pages with a variable of one name, the first of which includes the second. -/

namespace TwoPages

def page (name front : String) (body : HandlerBody Unit) : Invocation Unit :=
  { method := ⟨⟨"Pages"⟩, name⟩
    mapping := ⟨[⟨front ++ "\x7bid\x7d", front.toList, [("id", [])]⟩], [], [], [], [], []⟩
    fetchers := [], argumentNames := [], outcomes := [], defaultView := none
    target := ⟨"Pages"⟩, body := body }

def outer : HandlerBody Unit := fun _ =>
  .nest "/inner/2" fun _ => .look fun exchange =>
    .finish (.ok (.text ((exchange.pathVariable? "id").getD "")))

def inner : HandlerBody Unit := fun _ => .finish (.error (.plain "broken"))

def pages : ControllerHandler Unit :=
  ⟨⟨"Pages"⟩, [page "outer" "/outer/" outer, page "inner" "/inner/" inner]⟩

def dispatcher : Dispatcher Unit :=
  { place := 0, pathPrefix := "", handlers := [pages], registry := []
    chains := ⟨.empty, .standard⟩, exceptionHandlers := [], views := none
    errorDetails := false, nestingLimit := 1
    initial := ⟨.standard .standard, .empty, []⟩ }

def start : DispatchContext Unit :=
  { exchange := .start ⟨⟨"/outer/1", []⟩, "GET", .empty, []⟩ (), attached := some dispatcher
    memories := [] }

theorem selects_outer : dispatcher.select start.exchange.request "/outer/1" =
    some ((pages, page "outer" "/outer/" outer), ⟨⟨["id"], ["1"]⟩, 0, none⟩) := by
  have tested : (page "outer" "/outer/" outer).mapping.test start.exchange.request "/outer/1" =
      some (⟨["id"], ["1"]⟩, 0) := by decide +kernel
  have refused : (page "inner" "/inner/" inner).mapping.test start.exchange.request "/outer/1" =
      none := by decide +kernel
  simp only [Dispatcher.select, dispatcher, pages, ControllerHandler.find?, bestOf,
    Invocation.test, List.foldl, tested, refused, Option.map, best]
  rfl

theorem selects_inner : dispatcher.select start.exchange.request "/inner/2" =
    some ((pages, page "inner" "/inner/" inner), ⟨⟨["id"], ["2"]⟩, 0, none⟩) := by
  have refused : (page "outer" "/outer/" outer).mapping.test start.exchange.request "/inner/2" =
      none := by decide +kernel
  have tested : (page "inner" "/inner/" inner).mapping.test start.exchange.request "/inner/2" =
      some (⟨["id"], ["2"]⟩, 0) := by decide +kernel
  simp only [Dispatcher.select, dispatcher, pages, ControllerHandler.find?, bestOf,
    Invocation.test, List.foldl, tested, refused, Option.map, best]
  rfl

def level : Level Unit :=
  { limit := 1, dispatcher := dispatcher, path := "/outer/1", start := start, handler := pages
    invocation := page "outer" "/outer/" outer, found := ⟨⟨["id"], ["1"]⟩, 0, none⟩
    selected := selects_outer }

def entry : level.Entry :=
  { arguments := ⟨[]⟩, fetched := _, fetches := rfl, chain := ⟨⟨⟨"Pages"⟩, "outer"⟩, []⟩
    linked := _, links := rfl }

theorem serves_inner : level.nested "/inner/2" entry.linked =
    (some (.error (.handler (.plain "broken"))), (level.nested "/inner/2" entry.linked).2) := by
  have run : level.nested "/inner/2" entry.linked =
      Dispatcher.runWithin 1 dispatcher "/inner/2" entry.linked := rfl
  rw [run]
  unfold Dispatcher.runWithin
  dsimp only
  rw [show entry.linked.exchange.request = start.exchange.request from rfl, selects_inner]
  rfl

end TwoPages

/-- When the inner page has failed, the outer one still reads its own variable. -/
theorem outer_variable_after_failure :
    ∃ now, TwoPages.level.AtWork now ∧
      TwoPages.level.nested "/inner/2" TwoPages.entry.linked =
        (some (.error (.handler (.plain "broken"))), now) ∧
      now.exchange.pathVariable? "id" = some "1" := by
  have atWork := Level.AtWork.handler TwoPages.entry ⟨rfl, rfl⟩
    (.single (.nest _ TwoPages.serves_inner))
  refine ⟨_, atWork, TwoPages.serves_inner, ?_⟩
  have reads := ((bindings_are_scoped.2.2 TwoPages.level).2 _ atWork).2 "id"
  exact reads.trans (by decide +kernel)

end RequestDispatch
