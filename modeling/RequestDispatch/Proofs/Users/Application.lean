import RequestDispatch.Proofs.Dispatch.Compilation
import RequestDispatch.Proofs.Route.Reading
import RequestDispatch.Users.Application

/-!
The dispatcher of the application around the directory of users. It is built in every environment
(`UserApplication.built`), and the greeting is what it chooses for its own path
(`UserApplication.selects_greeting`).
-/

namespace RequestDispatch
namespace UserController

/-- A method of the controller as it is compiled: a path read in one way, and fetchers for its
parameters. -/
def compiled (name verb path : String) (reading : TemplateReading) (parameters : List String)
    (fetchers : List Fetcher) (outcome : Outcome) (body : Handler) : Invocation UserDirectory where
  method := ⟨type, name⟩
  mapping := ⟨[reading.pattern path], [verb], [], [], [], []⟩
  fetchers := fetchers
  argumentNames := parameters
  outcomes := [outcome]
  defaultView := none
  target := type
  body := body

section

variable {name verb path : String} {reading : TemplateReading} {fetchers : List Fetcher}
  {outcome : Outcome} {body : Handler}

theorem compiles {parameters : List Parameter} {service : ConversionService}
    (read : PathPattern.compile path = .ok (reading.pattern path))
    (fetches : compileParameters ⟨[reading.pattern path], [verb], [], [], [], []⟩ parameters
      service = (.ok fetchers, service)) :
    (method name verb path parameters outcome body).CompiledAs type service
      (compiled name verb path reading (parameters.map Parameter.name) fetchers outcome body)
      service where
  key := rfl
  route := by
    have patterns : [path].mapM compilePattern = .ok [reading.pattern path] := by
      simp only [List.mapM_cons, List.mapM_nil, compilePattern, read]
      rfl
    change (do let patterns ← [path].mapM compilePattern; _) = _
    rw [patterns]
    rfl
  fetchers := fetches
  names := rfl
  outcomes := by simp [method, compiled, Outcome.sort]
  defaultView := rfl
  target := rfl
  body := rfl

theorem compiled_passes {parameters : List String} {asked : String}
    (unmatched : (reading.pattern path).match? asked = none) (request : Request) :
    (compiled name verb path reading parameters fetchers outcome body).test request asked =
      none := by
  simp [compiled, Invocation.test, RouteMapping.test, unmatched]

end

def usersPath : TemplateReading := ⟨"/users".toList, []⟩

def searchPath : TemplateReading := ⟨"/search/users".toList, []⟩

def userPath : TemplateReading := ⟨"/users/".toList, [("id".toList, [])]⟩

def greetingPath : TemplateReading := ⟨"/me".toList, []⟩

def greeting : Invocation UserDirectory :=
  compiled "me" "GET" "/me" greetingPath ["token", "user"]
    [.scalar .header "authorization" .text ⟨none, false⟩, .interceptSlot] .write greet

def service : Fetcher := .container userService none

def handler : ControllerHandler UserDirectory where
  type := type
  invocations := [
    compiled "list" "GET" "/users" usersPath ["service", "tag"]
      [service, .collection .query "tag" .arrayList .text none ⟨none, false⟩] .write list,
    compiled "search" "GET" "/search/users" searchPath ["service", "filter"]
      [service, .map "filter" .text .text ⟨none, false⟩] .write search,
    compiled "show" "GET" "/users/\x7bid\x7d" userPath ["service", "id"]
      [service, .pathVariable "id" (.primitive .int64)] (.view (some "user")) showUser,
    compiled "create" "POST" "/users" usersPath ["service", "name", "email"]
      [service, .scalar .query "name" .text ⟨none, true⟩,
        .scalar .query "email" .text ⟨none, true⟩]
      (.redirect (some "/users/\x7b0\x7d")) create,
    compiled "delete" "DELETE" "/users/\x7bid\x7d" userPath ["service", "id"]
      [service, .pathVariable "id" (.primitive .int64)] (.status 204 none) delete,
    greeting]

/-- The types of all parameters have converters of their own, so compiling finds none to keep. -/
theorem definition_compiles :
    definition.CompiledAs (.standard .standard) handler (.standard .standard) := by
  have users : PathPattern.compile "/users" = .ok (usersPath.pattern "/users") :=
    TemplateReading.checked_compiles (by decide)
  have matching : PathPattern.compile "/search/users" =
      .ok (searchPath.pattern "/search/users") :=
    TemplateReading.checked_compiles (by decide)
  have user : PathPattern.compile "/users/\x7bid\x7d" =
      .ok (userPath.pattern "/users/\x7bid\x7d") :=
    TemplateReading.checked_compiles (by decide)
  have me : PathPattern.compile "/me" = .ok (greetingPath.pattern "/me") :=
    TemplateReading.checked_compiles (by decide)
  refine ⟨rfl, ?_⟩
  exact .cons (compiles users rfl) (.cons (compiles matching rfl) (.cons (compiles user rfl)
    (.cons (compiles users rfl) (.cons (compiles user rfl) (.cons (compiles me rfl) (.nil _))))))

end UserController

namespace UserApplication

open UserController

def dispatcher (environment : Environment) (place : Nat) : Dispatcher UserDirectory :=
  (definition environment).assemble place [handler] (.standard .standard)

theorem built (environment : Environment) (place : Nat) :
    (definition environment).build place = .ok (dispatcher environment place) := by
  apply DispatcherDefinition.build_of_in_turn
  · exact .cons definition_compiles (.nil _)
  · rfl
  · intro controller declared
    cases List.mem_singleton.1 declared
    decide

def greetingFound : MatchResult := ⟨⟨[], []⟩, 1, none⟩

theorem selects_greeting (environment : Environment) (place : Nat) {request : Request}
    (asks : request.method = "GET") :
    (dispatcher environment place).select request "/me" =
      some ((handler, greeting), greetingFound) := by
  have users : (usersPath.pattern "/users").match? "/me" = none := by decide +kernel
  have matching : (searchPath.pattern "/search/users").match? "/me" = none := by decide +kernel
  have user : (userPath.pattern "/users/\x7bid\x7d").match? "/me" = none := by decide +kernel
  have me : (greetingPath.pattern "/me").match? "/me" = some ⟨[], []⟩ := by decide +kernel
  have tested : greeting.test request "/me" = some greetingFound := by
    simp [greeting, compiled, Invocation.test, RouteMapping.test, RouteMapping.condition, me, asks,
      greetingFound]
  simp only [Dispatcher.select, dispatcher, DispatcherDefinition.assemble,
    ControllerHandler.find?, bestOf, handler, List.foldl, compiled_passes users,
    compiled_passes matching, compiled_passes user, tested, Option.map, best]

end UserApplication
end RequestDispatch
