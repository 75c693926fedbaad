import RequestDispatch.Container.Basic
import RequestDispatch.Interception.Declarations

/-!
Chains of interceptors. A chain is put together from beans the first time its method is called and
kept from then on.
-/

namespace RequestDispatch

/-- What the container holds: an object, and the interceptor that it is, if it is one. -/
structure Bean (State : Type) where
  object : SharedObject
  interceptor : Option (Interceptor State)

structure InterceptorChain (State : Type) where
  method : MethodKey
  interceptors : List (Interceptor State)

namespace InterceptorChain

variable {World State : Type}

def intercept (part : Part World State) (terminal : Arguments → Process World CallResult)
    (method : MethodKey) (names : List String) :
    List (Interceptor State) → Arguments → Process World CallResult
  | [], arguments => terminal arguments
  | interceptor :: rest, arguments =>
    interceptor.advice.run part (intercept part terminal method names rest) rest.length
      ⟨method, names, arguments⟩

def execute (chain : InterceptorChain State) (part : Part World State)
    (terminal : Arguments → Process World CallResult) (names : List String)
    (arguments : Arguments) : Process World CallResult :=
  intercept part terminal chain.method names chain.interceptors arguments

def inspect (chain : InterceptorChain State) : String :=
  "InterceptorChain \x7b method: MethodKey \x7b owner: TypeKey(" ++ chain.method.owner.name ++
    "), name: " ++ Text.quoted chain.method.name ++ " \x7d, interceptors: " ++
    Text.quotedList (chain.interceptors.map Interceptor.name) ++ " \x7d"

end InterceptorChain

abbrev ChainCache (State : Type) := List (MethodKey × InterceptorChain State)

structure ChainFactory where
  declarations : InterceptorDeclarations
  hierarchy : TypeHierarchy

namespace ChainFactory

variable {State : Type}

def resolveAll (method : MethodKey) :
    List TypeKey → Container (Bean State) →
      Except InterceptionError (List (Interceptor State)) × Container (Bean State)
  | [], container => (.ok [], container)
  | type :: rest, container =>
    match container.resolve type none with
    | (.error cause, container) => (.error (.unresolved method type cause), container)
    | (.ok bean, container) =>
      match bean.interceptor with
      | none => (.error (.notAnInterceptor type), container)
      | some interceptor =>
        match resolveAll method rest container with
        | (.error error, container) => (.error error, container)
        | (.ok interceptors, container) => (.ok (interceptor :: interceptors), container)

/-- The chain of a method: the one kept for it, or else a new one, which is kept. -/
def chainFor (factory : ChainFactory) (method : MethodKey) (cache : ChainCache State)
    (container : Container (Bean State)) :
    Except InterceptionError (InterceptorChain State) × ChainCache State × Container (Bean State) :=
  match cache.lookup method with
  | some chain => (.ok chain, cache, container)
  | none =>
    match resolveAll method (factory.declarations.collect method factory.hierarchy) container with
    | (.error error, container) => (.error error, cache, container)
    | (.ok interceptors, container) =>
      let chain := ⟨method, interceptors⟩
      (.ok chain, cache ++ [(method, chain)], container)

end ChainFactory
end RequestDispatch
