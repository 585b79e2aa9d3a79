/-
  MarkupJsx.Jsx.Escape — texts and values made safe for JSX.

  Four characters give way to entities, one after the other. The ampersand comes first, so
  that no entity written by a later replacement is taken apart.
-/

import MarkupJsx.Text.Basic

namespace MarkupJsx.Jsx

def escapes : List (Char × Text) :=
  [('&', "&amp;".toList), ('<', "&lt;".toList), ('>', "&gt;".toList), ('"', "&quot;".toList)]

def escape (s : Text) : Text := escapes.foldl (fun t e => t.replace e.1 e.2) s

end MarkupJsx.Jsx
