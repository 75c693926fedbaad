import RequestDispatch.Interception.Advice
import RequestDispatch.Type.Hierarchy

/-!
Declarations of interceptors, on single methods and on types. A declaration on a type is inherited
by its subtypes.
-/

namespace RequestDispatch

/-- The types of the interceptors declared on methods and on types, in the order of declaration. -/
structure InterceptorDeclarations where
  onMethods : List (MethodKey × TypeKey)
  onTypes : List (TypeKey × TypeKey)

namespace InterceptorDeclarations

def empty : InterceptorDeclarations := ⟨[], []⟩

def onMethod (declarations : InterceptorDeclarations) (method : MethodKey) (interceptor : TypeKey) :
    InterceptorDeclarations :=
  { declarations with onMethods := declarations.onMethods ++ [(method, interceptor)] }

def onType (declarations : InterceptorDeclarations) (owner interceptor : TypeKey) :
    InterceptorDeclarations :=
  { declarations with onTypes := declarations.onTypes ++ [(owner, interceptor)] }

def isEmpty (declarations : InterceptorDeclarations) : Bool :=
  declarations.onMethods.isEmpty && declarations.onTypes.isEmpty

def ofMethod (declarations : InterceptorDeclarations) (method : MethodKey) : List TypeKey :=
  (declarations.onMethods.filter fun entry => entry.1 == method).map Prod.snd

def ofType (declarations : InterceptorDeclarations) (owner : TypeKey) : List TypeKey :=
  (declarations.onTypes.filter fun entry => entry.1 == owner).map Prod.snd

/-- The interceptors of a method from the outermost in: those of the method, those of its type and
those of the supertypes, nearest first. Of one declared more than once the first place counts. -/
def collect (declarations : InterceptorDeclarations) (method : MethodKey)
    (hierarchy : TypeHierarchy) : List TypeKey :=
  addMissing []
    (declarations.ofMethod method ++ declarations.ofType method.owner ++
      (hierarchy.ancestorsOfKey method.owner).flatMap declarations.ofType)

end InterceptorDeclarations
end RequestDispatch
