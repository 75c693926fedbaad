import RequestDispatch.Dispatch.Dispatcher
import RequestDispatch.Interception.BuiltIn
import RequestDispatch.Users.Controller

/-!
The application around the directory of users: its view, its interceptors, and its dispatcher.
-/

namespace RequestDispatch
namespace UserApplication

def userPage : String :=
  "<!DOCTYPE html>\n<html>\n<head><title>\x7b\x7b name \x7d\x7d</title></head>\n<body>\n" ++
    "  <h1>\x7b\x7b name \x7d\x7d</h1>\n" ++
    "  <p>#\x7b\x7b id \x7d\x7d &lt;\x7b\x7b email \x7d\x7d&gt;</p>\n</body>\n</html>\n"

def views : Option Renderer :=
  ((TemplateSet.ofTexts [("user.html", userPage)]).toOption).map TemplateSet.renderer

def loggingInterceptor : TypeKey := ⟨"LoggingInterceptor"⟩

def timingInterceptor : TypeKey := ⟨"TimingInterceptor"⟩

def currentUserInterceptor : TypeKey := ⟨"CurrentUserInterceptor"⟩

def interceptors : List (TypeKey × Interceptor UserDirectory) :=
  [(loggingInterceptor, .logging false), (timingInterceptor, .timing 500),
    (currentUserInterceptor, UserController.currentUser)]

def bean (index : Nat) (type : TypeKey) (label : String)
    (interceptor : Option (Interceptor UserDirectory)) : Registration (Bean UserDirectory) :=
  ⟨type, type.beanName, .instance ⟨⟨.bean 0 index, .instance type label⟩, interceptor⟩⟩

def container : Container (Bean UserDirectory) :=
  ⟨bean 0 UserController.userService "UserService" none ::
    (interceptors.zipIdx 1).map fun ((type, interceptor), index) =>
      bean index type interceptor.name (some interceptor)⟩

def declarations : InterceptorDeclarations :=
  ((InterceptorDeclarations.empty.onType UserController.type timingInterceptor).onMethod
    ⟨UserController.type, "create"⟩ loggingInterceptor).onMethod
      ⟨UserController.type, "me"⟩ currentUserInterceptor

def definition (environment : Environment) : DispatcherDefinition UserDirectory :=
  let base : DispatcherDefinition UserDirectory :=
    { DispatcherDefinition.ofEnvironment environment with
      controllers := [UserController.definition], container := container
      declarations := declarations, views := views }
  (base.onFault UserController.userNotFound (UserController.report 404)).onFault
    UserController.unauthorized (UserController.report 401)

end UserApplication
end RequestDispatch
