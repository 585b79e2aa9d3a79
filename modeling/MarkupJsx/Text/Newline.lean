/-
  MarkupJsx.Text.Newline — one spelling of the end of a line.

  A carriage return with a line feed behind it, and one without, both read as a line feed.
-/

import MarkupJsx.Text.Basic

namespace MarkupJsx.Text

def unifyNewlines : Text → Text
  | [] => []
  | '\r' :: '\n' :: rest => '\n' :: unifyNewlines rest
  | c :: rest => (if c = '\r' then '\n' else c) :: unifyNewlines rest

end MarkupJsx.Text
