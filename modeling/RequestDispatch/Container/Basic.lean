import RequestDispatch.Failure.Causes

/-!
The container of beans. A bean is registered under a type and a name, and no two under the same
type and the same name. A bean is an instance, which every resolution gives out, or it is made anew
by a factory for each resolution.
-/

namespace RequestDispatch

/-- Where a bean comes from. A factory is told how many beans it has made before. -/
inductive BeanSource (Bean : Type) where
  | instance (bean : Bean)
  | factory (make : Nat → Bean) (made : Nat)

inductive Scope where
  | singleton
  | prototype
  deriving DecidableEq, Repr

structure Registration (Bean : Type) where
  type : TypeKey
  name : String
  source : BeanSource Bean

/-- The registered beans in the order of their registration. -/
structure Container (Bean : Type) where
  registrations : List (Registration Bean)

namespace BeanSource

variable {Bean : Type}

def scope : BeanSource Bean → Scope
  | .instance _ => .singleton
  | .factory _ _ => .prototype

/-- The bean of one resolution, and the source as it is afterwards. -/
def give : BeanSource Bean → Bean × BeanSource Bean
  | .instance bean => (bean, .instance bean)
  | .factory make made => (make made, .factory make (made + 1))

end BeanSource

namespace Registration

variable {Bean : Type}

def isFor (registration : Registration Bean) (type : TypeKey) (name : String) : Bool :=
  registration.type == type && registration.name == name

end Registration

namespace Container

variable {Bean : Type}

def empty : Container Bean := ⟨[]⟩

instance : Inhabited (Container Bean) := ⟨empty⟩

def ofType (container : Container Bean) (type : TypeKey) : List (Registration Bean) :=
  container.registrations.filter fun registration => registration.type == type

def find? (container : Container Bean) (type : TypeKey) (name : String) :
    Option (Registration Bean) :=
  container.registrations.find? fun registration => registration.isFor type name

def names (container : Container Bean) (type : TypeKey) : List String :=
  (container.ofType type).map Registration.name

/-- Registers a bean; a name that is taken for its type is refused. -/
def register (container : Container Bean) (type : TypeKey) (name : String)
    (source : BeanSource Bean) : Except ContainerError (Container Bean) :=
  match container.find? type name with
  | some _ => .error (.duplicateBean type name)
  | none => .ok ⟨container.registrations ++ [⟨type, name, source⟩]⟩

def registerSingleton (container : Container Bean) (type : TypeKey) (bean : Bean) :
    Except ContainerError (Container Bean) :=
  container.register type type.beanName (.instance bean)

def putSource (type : TypeKey) (name : String) (source : BeanSource Bean) :
    List (Registration Bean) → List (Registration Bean)
  | [] => []
  | registration :: rest =>
    if registration.isFor type name then { registration with source := source } :: rest
    else registration :: putSource type name source rest

/-- The registration that a resolution means: the one of a name, or the only one of the type. -/
def choose (container : Container Bean) (type : TypeKey) (qualifier : Option String) :
    Except ContainerError (Registration Bean) :=
  match qualifier with
  | some name =>
    match container.find? type name with
    | some registration => .ok registration
    | none => .error (.beanNotFound type qualifier)
  | none =>
    match container.ofType type with
    | [] => .error (.beanNotFound type none)
    | [only] => .ok only
    | many => .error (.noUniqueBean type (many.map Registration.name))

def resolve (container : Container Bean) (type : TypeKey) (qualifier : Option String) :
    Except ContainerError Bean × Container Bean :=
  match container.choose type qualifier with
  | .error error => (.error error, container)
  | .ok registration =>
    let (bean, source) := registration.source.give
    (.ok bean, ⟨putSource type registration.name source container.registrations⟩)

def contains (container : Container Bean) (type : TypeKey) : Option String → Bool
  | some name => (container.find? type name).isSome
  | none => !(container.ofType type).isEmpty

def scope? (container : Container Bean) (type : TypeKey) (name : String) : Option Scope :=
  (container.find? type name).map fun registration => registration.source.scope

def types (container : Container Bean) : List TypeKey :=
  (container.registrations.map Registration.type).eraseDups

def inspect (container : Container Bean) : String :=
  let entry (type : TypeKey) : String :=
    "(" ++ Text.quoted type.name ++ ", " ++ Text.quotedList (container.names type) ++ ")"
  "[" ++ ", ".intercalate (container.types.map entry) ++ "]"

def isInstanceOf (object : SharedObject) (type : TypeKey) : Bool :=
  match object.content with
  | .instance actual _ => actual == type
  | .stream _ _ => false

/-- Resolves an object and checks that it is an instance of the type it is registered for. The
failure names the bean, or the type if no name was asked for. -/
def get (container : Container SharedObject) (type : TypeKey) (name : Option String) :
    Except ContainerError SharedObject × Container SharedObject :=
  match container.resolve type name with
  | (.error error, container) => (.error error, container)
  | (.ok object, container) =>
    if isInstanceOf object type then (.ok object, container)
    else (.error (.typeMismatch (name.getD type.name) type.name), container)

end Container
end RequestDispatch
