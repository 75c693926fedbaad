import RequestDispatch.Proofs.Dispatch.Arguments
import RequestDispatch.Proofs.Dispatch.Remembered
import RequestDispatch.Proofs.Text.Utf8
import RequestDispatch.Proofs.Users.Application

/-!
The greeting of the application around the directory of users. Whoever asks for it is told by the
token in the header `authorization`: the scheme `Bearer` stands in front of the name, and as often
as it stands there it is taken away. Whatever the dispatcher has served before, a name is greeted,
and without the scheme the request is refused and the method is not called (`token_is_greeted`).
-/

namespace RequestDispatch

def ServiceEvent.called? : ServiceEvent → Option Arguments
  | .call (.called arguments) => some arguments
  | _ => none

def Level.calls {State : Type} (level : Level State) : List Arguments :=
  level.recorded.2.2.filterMap ServiceEvent.called?

namespace UserController

def HasScheme (text : String) : Prop := ∃ rest, text = "Bearer " ++ rest

theorem has_scheme_iff {text : String} :
    HasScheme text ↔ ∃ rest, text.toList = "Bearer ".toList ++ rest := by
  constructor
  · rintro ⟨rest, rfl⟩
    exact ⟨rest.toList, String.toList_append⟩
  · rintro ⟨rest, begins⟩
    exact ⟨String.ofList rest, by simp [← String.toList_inj, begins]⟩

/-- The name with the scheme so many times in front of it. -/
def token : Nat → String → String
  | 0, name => name
  | times + 1, name => "Bearer " ++ token times name

theorem bearer_scheme (rest : List Char) : bearer ("Bearer ".toList ++ rest) = bearer rest := rfl

theorem bearer_name {name : String} (bare : ¬HasScheme name) :
    bearer name.toList = name.toList := by
  unfold bearer
  split
  · next rest begins => exact absurd (has_scheme_iff.2 ⟨rest, begins⟩) bare
  · rfl

theorem bearer_token {name : String} (bare : ¬HasScheme name) (times : Nat) :
    bearer (token times name).toList = name.toList := by
  induction times with
  | zero => exact bearer_name bare
  | succ times ih => rw [token, String.toList_append, bearer_scheme, ih]

theorem exists_token (text : String) : ∃ times name, text = token times name ∧ ¬HasScheme name := by
  induction length : text.length using Nat.strong_induction_on generalizing text with
  | _ size ih =>
      by_cases scheme : HasScheme text
      · obtain ⟨rest, rfl⟩ := scheme
        rw [String.length_append, show "Bearer ".length = 7 by decide] at length
        obtain ⟨times, name, rfl, bare⟩ := ih rest.length (by omega) rest rfl
        exact ⟨times + 1, name, rfl, bare⟩
      · exact ⟨0, text, rfl, scheme⟩

theorem token_user {name : String} (bare : ¬HasScheme name) (times : Nat) :
    tokenUser? (token (times + 1) name) = some name := by
  have dropped : Text.dropBeginning "Bearer ".toList (token (times + 1) name).toList =
      some (token times name).toList := by
    rw [Text.dropBeginning_eq_some, token, String.toList_append]
  rw [tokenUser?, dropped, Option.map_some, bearer_token bare, String.ofList_toList]

theorem token_without_scheme {text : String} (bare : ¬HasScheme text) :
    tokenUser? text = none := by
  rw [tokenUser?, Option.map_eq_none_iff, Option.eq_none_iff_forall_ne_some]
  intro rest dropped
  exact bare (has_scheme_iff.2 ⟨rest, Text.dropBeginning_eq_some.1 dropped⟩)

def argumentUser? : Value → Option String
  | .text text => tokenUser? text
  | _ => none

def noToken : Fault := .custom unauthorized "Missing or invalid authorization token" none

def answering : Option String → Advice UserDirectory
  | some name => .setNamed "user" (.text name) fun _ => .proceed .finish
  | none => .finish (.error noToken)

def greetingCall (first second : Value) : JoinPoint :=
  ⟨greeting.method, greeting.argumentNames, ⟨[first, second]⟩⟩

theorem current_user_answers {World : Type} (part : Part World UserDirectory)
    (inner : Arguments → Process (World × List CallEvent) CallResult) (depth remaining : Nat)
    (first second : Value) :
    (currentUser.advice.recording depth).run part.recorded inner remaining
        (greetingCall first second) =
      ((answering (argumentUser? first)).recording depth).run part.recorded inner remaining
        (greetingCall first second) := by
  have named : (greetingCall first second).named? "token" = some first := rfl
  simp only [currentUser, Advice.recording, Advice.run, named]
  cases first <;> rfl

end UserController

namespace UserApplication

open UserController

variable {environment : Environment} {place : Nat}

/-- The interceptor that is declared on the method stands around that of the controller. -/
def greetingChain : InterceptorChain UserDirectory :=
  ⟨greeting.method, [currentUser, .timing 500]⟩

theorem greeting_chain (environment : Environment) (place : Nat) :
    (dispatcher environment place).chains.assembled greeting.method
      (dispatcher environment place).initial.container = .ok greetingChain := by
  have collected : declarations.collect greeting.method .standard =
      [currentUserInterceptor, timingInterceptor] := by decide +kernel
  change ((declarations.collect greeting.method .standard).mapM
    (container.interceptorOf greeting.method)).map (InterceptorChain.mk greeting.method) = _
  rw [collected]
  rfl

theorem beans_lasting (environment : Environment) (place : Nat) :
    (dispatcher environment place).initial.container.Lasting := by
  intro registration member
  rcases List.mem_cons.1 member with rfl | member
  · exact ⟨_, rfl⟩
  · obtain ⟨_, -, rfl⟩ := List.mem_map.1 member
    exact ⟨_, rfl⟩

theorem converters_built_in (environment : Environment) (place : Nat) :
    (dispatcher environment place).initial.conversion.HasBuiltIn :=
  ConversionService.standard_hasBuiltIn .standard

/-- What a request presents as its token: the first readable value of the header. -/
def presented? (request : Request) : Option String :=
  (request.headerValues "authorization").head?

def tokenArgument (request : Request) : Value :=
  match presented? request with
  | some text => .text text
  | none => .null

theorem take_token {State : Type} {memory : Memory State}
    (standard : memory.conversion.HasBuiltIn) (exchange : Exchange State) :
    ((Fetcher.scalar .header "authorization" .text ⟨none, false⟩).take exchange memory).1 =
      some (.ok (tokenArgument exchange.request)) := by
  have text (raw : String) : (memory.conversion.bind .text (.text raw)).1 = .ok (.text raw) := by
    change (memory.conversion.convert .text (.text raw)).1.mapError _ = _
    rw [TypeDescriptor.text, ConversionService.convert_text_of_registered
      (by rw [standard, ConversionService.lookup_text]) (fun _ => rfl)]
    rfl
  simp only [Fetcher.take, Fetcher.fetch, Fetcher.rawScalar, ManyValued.values, tokenArgument,
    presented?]
  cases exchange.request.headerValues "authorization" with
  | nil => rfl
  | cons first rest => exact congrArg some (text first)

def greetingLevel (environment : Environment) (place : Nat) (context : DispatchContext UserDirectory)
    (asks : context.exchange.request.method = "GET") : Level UserDirectory where
  limit := (dispatcher environment place).nestingLimit
  dispatcher := dispatcher environment place
  path := "/me"
  start := { context with attached := context.attached.or (some (dispatcher environment place)) }
  handler := handler
  invocation := greeting
  found := greetingFound
  selected := selects_greeting environment place asks

/-- The response that greets a name. -/
def greeted (name : String) : ResponseSink where
  status := 200
  headers := ⟨[("content-type", Text.utf8Bytes "text/plain; charset=utf-8")]⟩
  body := Text.utf8Bytes ("Hello, " ++ name)
  committed := true

def refused : ResponseSink where
  status := 401
  headers := .empty
  body := Text.utf8Bytes "Missing or invalid authorization token"
  committed := true

theorem greeted_injective {name other : String} (same : greeted name = greeted other) :
    name = other := by
  have decoded := congrArg (fun sink => Text.decodeUtf8? sink.body) same
  simp only [greeted, Text.decode_utf8_bytes, Option.some.injEq] at decoded
  rw [← String.toList_inj, String.toList_append, String.toList_append,
    List.append_cancel_left_eq, String.toList_inj] at decoded
  exact decoded

theorem writes_greeting {exchange : Exchange UserDirectory} (fresh : exchange.sink = .fresh)
    (views : Option Renderer) (name : String) :
    let written := Outcome.applyFirst views none (.text ("Hello, " ++ name)) [.write] exchange
    written.1 = .ok () ∧ written.2.sink = greeted name := by
  have unset : ResponseSink.fresh.headers.contains "content-type" = false := by decide +kernel
  have valid : headerValue? Outcome.plainText =
      some (Text.utf8Bytes "text/plain; charset=utf-8") := by decide +kernel
  refine ⟨rfl, ?_⟩
  change (exchange.sink.defaultContentType Outcome.plainText).write _ = _
  rw [fresh, ResponseSink.defaultContentType, unset, valid]
  rfl

theorem settles_refusal (environment : Environment) (place : Nat)
    (nested : String → Dispatching UserDirectory (Except DispatchError Unit))
    {context : DispatchContext UserDirectory} (fresh : context.exchange.sink = .fresh) :
    let settled := (dispatcher environment place).settle nested noToken context
    settled.1 = some (.error .handled) ∧ settled.2.exchange.sink = refused := by
  refine ⟨rfl, ?_⟩
  change (context.exchange.sink.setStatus 401).write _ = _
  rw [fresh]
  rfl

/-- How the chain of the greeting ends and what happens in it, by the name that its interceptor
finds in the first argument. -/
def greetingCourse (first : Value) : Option String → CallResult × List CallEvent
  | some name =>
    let arguments : Arguments := ⟨[first, .text name]⟩
    let result : CallResult := .ok (.text ("Hello, " ++ name))
    (result, [.entered 0 ⟨[first, .null]⟩, .entered 1 arguments, .called arguments,
      .returned 1 result arguments, .left 1 result, .returned 0 result arguments, .left 0 result])
  | none => (.error noToken, [.entered 0 ⟨[first, .null]⟩, .left 0 (.error noToken)])

section

variable {context : DispatchContext UserDirectory}
  (asks : context.exchange.request.method = "GET")

theorem chain_takes_course (first : Value) (linked : DispatchContext UserDirectory) :
    greetingChain.recording.execute DispatchContext.statePart.recorded
        (InterceptorChain.recordingTerminal (greetingLevel environment place context asks).terminal)
        greeting.argumentNames ⟨[first, .null]⟩ (linked, []) =
      (some (greetingCourse first (argumentUser? first)).1, linked,
        (greetingCourse first (argumentUser? first)).2) := by
  change (currentUser.advice.recording 0).run DispatchContext.statePart.recorded _ 1
    (greetingCall first .null) (linked, [.entered 0 ⟨[first, .null]⟩]) = _
  rw [current_user_answers]
  cases argumentUser? first <;> rfl

variable (settled : context.Settled (dispatcher environment place))

include settled

/-- The arguments of the greeting are always there, and its chain is always put together. -/
theorem recorded_greeting :
    let level := greetingLevel environment place context asks
    let first := tokenArgument context.exchange.request
    let course := greetingCourse first (argumentUser? first)
    ∃ linked, linked.exchange.sink = context.exchange.sink ∧
      level.recorded = level.concluding course.1 (linked, course.2.map .call) := by
  intro level first course
  have lasting := beans_lasting environment place
  have standard : (context.memory (dispatcher environment place)).conversion.HasBuiltIn :=
    settled.memory.registered.trans (converters_built_in environment place)
  obtain ⟨last, binds⟩ : ∃ last, level.Binds [first, .null] last :=
    ⟨_, .cons (Prod.ext (take_token standard level.opened.exchange) rfl) (.cons rfl (.nil _))⟩
  have remembered : last.Settled (dispatcher environment place) := by
    have fetched := Dispatcher.fetch_all_settled lasting level.opened.exchange greeting.fetchers
      settled.memory
    rwa [show fetchAll level.opened.exchange greeting.fetchers
      (context.memory (dispatcher environment place)) = _ from Fetches.fetch_all binds] at fetched
  have kept : ((level.opened.setMemory level.dispatcher last).memory level.dispatcher).Settled
      (dispatcher environment place) := by
    rwa [DispatchContext.memory_of_set]
  obtain ⟨memory, links⟩ :=
    Dispatcher.chain_for_assembled lasting (greeting_chain environment place) kept
  refine ⟨(level.opened.setMemory level.dispatcher last).setMemory level.dispatcher memory, rfl, ?_⟩
  rw [Level.recorded_of_linked binds links, Process.andThen, Process.withCalls]
  rw [show greetingChain.recording.execute _ _ level.invocation.argumentNames _ _ = _ from
    chain_takes_course asks first _]
  rfl

variable (fresh : context.exchange.sink = .fresh)

include fresh

theorem recorded_greets {name : String}
    (known : argumentUser? (tokenArgument context.exchange.request) = some name) :
    let level := greetingLevel environment place context asks
    level.recorded.1 = some (.ok ()) ∧ level.recorded.2.1.exchange.sink = greeted name ∧
      level.calls = [⟨[tokenArgument context.exchange.request, .text name]⟩] := by
  intro level
  obtain ⟨linked, same, recorded⟩ := recorded_greeting asks settled
  rw [known] at recorded
  have written := writes_greeting (same.trans fresh) level.dispatcher.views name
  rw [Level.calls, show level.recorded = _ from recorded]
  exact ⟨congrArg some written.1, written.2, rfl⟩

theorem recorded_refuses (unknown : argumentUser? (tokenArgument context.exchange.request) = none) :
    let level := greetingLevel environment place context asks
    level.recorded.1 = some (.error .handled) ∧ level.recorded.2.1.exchange.sink = refused ∧
      level.calls = [] := by
  intro level
  obtain ⟨linked, same, recorded⟩ := recorded_greeting asks settled
  rw [unknown] at recorded
  have settles := settles_refusal environment place level.nested (same.trans fresh)
  rw [Level.calls, show level.recorded = _ from recorded]
  exact ⟨settles.1, settles.2, rfl⟩

end

theorem argument_user (request : Request) :
    argumentUser? (tokenArgument request) = (presented? request).bind tokenUser? := by
  unfold tokenArgument
  cases presented? request <;> rfl

/-- A request for the greeting, to a dispatcher that a host has had serve any requests before. -/
structure AsksForGreeting (environment : Environment) (place : Nat) (host : Host UserDirectory)
    (exchange : Exchange UserDirectory) : Prop where
  served : Served (dispatcher environment place) host
  method : exchange.request.method = "GET"
  path : (dispatcher environment place).relativePath? exchange.request.path = some "/me"
  unwritten : exchange.sink = .fresh

section

variable {host : Host UserDirectory} {exchange : Exchange UserDirectory}
  (asks : AsksForGreeting environment place host exchange)

include asks

def AsksForGreeting.level : Level UserDirectory :=
  greetingLevel environment place (host.opening exchange) asks.method

theorem AsksForGreeting.begins : asks.level.BeginsDispatch (host.opening exchange) :=
  ⟨rfl, asks.path, rfl⟩

theorem AsksForGreeting.settled :
    (host.opening exchange).Settled (dispatcher environment place) :=
  asks.served.settled (beans_lasting environment place) rfl exchange

theorem AsksForGreeting.answer
    (ends : asks.level.recorded.1 = some (.ok ()) ∨
      asks.level.recorded.1 = some (.error .handled)) (timestamp : String) :
    ∃ after, (host.run ((dispatcher environment place).service timestamp) exchange).1 =
        (some (), after) ∧
      after.sink = asks.level.recorded.2.1.exchange.sink := by
  have served := asks.begins.service ends timestamp
  rw [Host.run_opening]
  rw [show (dispatcher environment place).service timestamp (host.opening exchange) = _ from served]
  exact ⟨_, rfl, rfl⟩

/-- How the host answers is decided by the name in what the request presents. -/
theorem AsksForGreeting.answered (timestamp : String) :
    ∃ after, (host.run ((dispatcher environment place).service timestamp) exchange).1 =
        (some (), after) ∧
      match (presented? exchange.request).bind tokenUser? with
      | some name => after.sink = greeted name ∧
          asks.level.calls = [⟨[tokenArgument exchange.request, .text name]⟩]
      | none => after.sink = refused ∧ asks.level.calls = [] := by
  have found := argument_user exchange.request
  cases presented : (presented? exchange.request).bind tokenUser? with
  | some name =>
      obtain ⟨ended, written, called⟩ := recorded_greets asks.method asks.settled asks.unwritten
        (found.trans presented)
      obtain ⟨after, ran, same⟩ := asks.answer (.inl ended) timestamp
      exact ⟨after, ran, same.trans written, called⟩
  | none =>
      obtain ⟨ended, written, called⟩ := recorded_refuses asks.method asks.settled asks.unwritten
        (found.trans presented)
      obtain ⟨after, ran, same⟩ := asks.answer (.inr ended) timestamp
      exact ⟨after, ran, same.trans written, called⟩

end
end UserApplication

open UserController UserApplication

/-- The dispatcher of the application is built in every environment. Whatever it has served before,
it completes each request for the greeting. If the first readable value of the header
`authorization` begins with the scheme, the method is called once, with this token and the name in
it, and the name is greeted: what stands behind the scheme and its repetitions. So the whole rest
behind the scheme is greeted exactly if it does not begin with the scheme once more. Without such a
value the request is refused, and the method is not called. -/
theorem token_is_greeted {environment : Environment} {place : Nat} {host : Host UserDirectory}
    {exchange : Exchange UserDirectory} (asks : AsksForGreeting environment place host exchange)
    (timestamp : String) :
    (definition environment).build place = .ok (dispatcher environment place) ∧
      ∃ (after : Exchange UserDirectory) (level : Level UserDirectory),
        (host.run ((dispatcher environment place).service timestamp) exchange).1 =
          (some (), after) ∧
        level.dispatcher = dispatcher environment place ∧
        level.BeginsDispatch (host.opening exchange) ∧
        (∀ rest, presented? exchange.request = some ("Bearer " ++ rest) →
          ∃ times name, rest = token times name ∧ ¬HasScheme name ∧
            after.sink = greeted name ∧
            level.calls = [⟨[.text ("Bearer " ++ rest), .text name]⟩] ∧
            (after.sink = greeted rest ↔ ¬HasScheme rest)) ∧
        ((∀ rest, presented? exchange.request ≠ some ("Bearer " ++ rest)) →
          after.sink = refused ∧ level.calls = []) := by
  obtain ⟨after, ran, answered⟩ := asks.answered timestamp
  refine ⟨built environment place, after, asks.level, ran, rfl, asks.begins, ?_, ?_⟩
  · intro rest found
    obtain ⟨times, name, same, bare⟩ := exists_token rest
    have known : (presented? exchange.request).bind tokenUser? = some name := by
      rw [found, same]
      exact token_user bare times
    rw [known] at answered
    obtain ⟨written, called⟩ := answered
    rw [tokenArgument, found] at called
    refine ⟨times, name, same, bare, written, called, ?_⟩
    constructor
    · intro whole
      rw [← greeted_injective (written.symm.trans whole)]
      exact bare
    · intro single
      cases times with
      | zero => exact same ▸ written
      | succ times => exact (single ⟨token times name, same⟩).elim
  · intro absent
    have unknown : (presented? exchange.request).bind tokenUser? = none := by
      rw [Option.bind_eq_none_iff]
      intro text found
      apply token_without_scheme
      rintro ⟨rest, rfl⟩
      exact absent rest found
    rw [unknown] at answered
    exact answered

namespace UserApplication

def tokenExchange (token : String) : Exchange UserDirectory :=
  .start ⟨⟨"/me", []⟩, "GET", ⟨[("authorization", Text.utf8Bytes token)]⟩, []⟩ .samples

theorem token_asks (token : String) :
    AsksForGreeting .empty 0 (.start .samples) (tokenExchange token) where
  served := .start _
  method := rfl
  path := by
    change pathBehind? (normalizePrefix "") "/me" = some "/me"
    decide +kernel
  unwritten := rfl

end UserApplication

/-- Behind the scheme of this token stands a name. -/
theorem carol_is_greeted :
    AsksForGreeting .empty 0 (.start .samples) (tokenExchange "Bearer carol") ∧
      presented? (tokenExchange "Bearer carol").request = some ("Bearer " ++ "carol") ∧
      ∃ after, ((Host.start .samples).run ((dispatcher .empty 0).service "now")
        (tokenExchange "Bearer carol")).1 = (some (), after) ∧ after.sink = greeted "carol" := by
  have presented : presented? (tokenExchange "Bearer carol").request =
      some ("Bearer " ++ "carol") := by decide +kernel
  obtain ⟨-, after, level, ran, -, -, greets, -⟩ :=
    token_is_greeted (token_asks "Bearer carol") "now"
  obtain ⟨-, -, -, -, -, -, whole⟩ := greets "carol" presented
  refine ⟨token_asks _, presented, after, ran, whole.2 ?_⟩
  rw [has_scheme_iff]
  rintro ⟨rest, begins⟩
  cases begins

/-- Behind the scheme of this token stands the scheme again, and it is not in the greeting. -/
theorem second_scheme_is_lost :
    AsksForGreeting .empty 0 (.start .samples) (tokenExchange "Bearer Bearer x") ∧
      presented? (tokenExchange "Bearer Bearer x").request = some ("Bearer " ++ "Bearer x") ∧
      ∃ after, ((Host.start .samples).run ((dispatcher .empty 0).service "now")
        (tokenExchange "Bearer Bearer x")).1 = (some (), after) ∧
        after.sink.body = Text.utf8Bytes "Hello, x" ∧
        after.sink.body ≠ Text.utf8Bytes ("Hello, " ++ "Bearer x") := by
  have presented : presented? (tokenExchange "Bearer Bearer x").request =
      some ("Bearer " ++ "Bearer x") := by decide +kernel
  obtain ⟨after, ran, answered⟩ := (token_asks "Bearer Bearer x").answered "now"
  rw [presented] at answered
  refine ⟨token_asks _, presented, after, ran, ?_⟩
  rw [answered.1]
  exact ⟨rfl, by decide +kernel⟩

end RequestDispatch
