import RequestDispatch.Container.Basic
import RequestDispatch.Settings.Environment

/-!
The context of an application: its settings and its beans.
-/

namespace RequestDispatch

structure ApplicationContext (Bean : Type) where
  environment : Environment
  container : Container Bean

namespace ApplicationContext

variable {Bean : Type}

def inspect (context : ApplicationContext Bean) : String :=
  "ApplicationContext \x7b beans: " ++ context.container.inspect ++ ", environment: " ++
    context.environment.inspect ++ " \x7d"

end ApplicationContext
end RequestDispatch
