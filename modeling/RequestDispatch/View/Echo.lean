import RequestDispatch.View.Renderer

/-!
A renderer without templates: a page shows the name of its view and the model.
-/

namespace RequestDispatch
namespace Renderer

def echo (contentType : String) (failing unknown : List String) : Renderer where
  contentType := contentType
  render view model :=
    if failing.contains view then .error (.rendering view "scripted")
    else if unknown.contains view then .error (.noRenderer view)
    else
      let shown := model.map fun (name, value) => name ++ "=" ++ value.display
      .ok (view ++ "(" ++ ";".intercalate shown ++ ")")

end Renderer
end RequestDispatch
