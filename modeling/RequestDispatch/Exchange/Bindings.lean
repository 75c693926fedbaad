/-!
The stack of path bindings. Every dispatch, also a nested one, works on a layer of its own; a scope
remembers how deep the stack was with its layer on top and takes off that layer and all above it.
-/

namespace RequestDispatch

abbrev PathBindings := List (String × String)

/-- Layers of path bindings, the innermost last. -/
structure BindingStack where
  layers : List PathBindings

namespace BindingStack

def empty : BindingStack := ⟨[]⟩

def depth (stack : BindingStack) : Nat := stack.layers.length

def push (stack : BindingStack) (bindings : PathBindings) : BindingStack :=
  ⟨stack.layers ++ [bindings]⟩

def leave (stack : BindingStack) (scope : Nat) : BindingStack := ⟨stack.layers.take (scope - 1)⟩

def get? (stack : BindingStack) (name : String) : Option String :=
  stack.layers.getLast?.bind fun bindings => bindings.lookup name

theorem leave_push (stack : BindingStack) (bindings : PathBindings) :
    (stack.push bindings).leave (stack.push bindings).depth = stack := by
  simp [push, leave, depth]

end BindingStack
end RequestDispatch
