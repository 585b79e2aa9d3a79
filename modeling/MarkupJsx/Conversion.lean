/-
  MarkupJsx.Conversion — from markup to JSX, plain or as a component module.
-/

import MarkupJsx.Component
import MarkupJsx.Markup.Growth

namespace MarkupJsx

inductive ConversionError where
  | markup (cause : Markup.MarkupError)
  | componentName (cause : Component.InvalidName)
  deriving DecidableEq, Repr

def ConversionError.message : ConversionError → Text
  | markup e => e.message
  | componentName e => e.message

/-- The JSX of a markup text. -/
def convert (markup : Text) : Except Markup.MarkupError Text := (Markup.parse markup).map Jsx.forest

/-- The content of an output file: a component module when a name is given, which is looked
    at only once the markup is read, and otherwise the JSX on a line. -/
def output (markup : Text) (component : Option Text) : Except ConversionError Text :=
  match Markup.parse markup with
  | .error e => .error (.markup e)
  | .ok roots =>
    match component with
    | none => .ok (Jsx.forest roots ++ ['\n'])
    | some name => (Component.render name roots).mapError .componentName

end MarkupJsx
