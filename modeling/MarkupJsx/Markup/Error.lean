/-
  MarkupJsx.Markup.Error — the ways in which markup is refused, and their wording.

  Markup recovers from nearly everything. Refused are marked sections without a name or
  with an unknown one, and decimal references too long to be read as a number.
-/

import MarkupJsx.Text.Quoted

namespace MarkupJsx.Markup

inductive MarkupError where
  /-- A marked section without a name; `near` is how the section begins. -/
  | sectionWithoutName (near : Text)
  /-- A marked section of unknown kind, as the keyword is written. -/
  | unknownSection (keyword : Text)
  /-- A decimal reference with more digits than a number may have. -/
  | tooManyDigits (count : Nat)
  deriving DecidableEq, Repr

/-- The most decimal digits that are read as a number. -/
def digitLimit : Nat := 4300

namespace MarkupError

/-- The parser rejected the document, as opposed to a number that was too long. -/
def isRejection : MarkupError → Bool
  | sectionWithoutName _ | unknownSection _ => true
  | tooManyDigits _ => false

def rejection (cause : Text) : Text :=
  ("The markup you provided was rejected by the parser. Trying a different parser or a different encoding may help.\n\n" ++
    "Original exception(s) from parser:\n AssertionError: ").toList ++ cause

def message : MarkupError → Text
  | sectionWithoutName near => rejection ("expected name token at ".toList ++ near.quoted)
  | unknownSection keyword =>
    rejection ("unknown status keyword ".toList ++ keyword.quoted ++ " in marked section".toList)
  | tooManyDigits n =>
    "Exceeds the limit (".toList ++ Text.ofNat digitLimit ++
      " digits) for integer string conversion: value has ".toList ++ Text.ofNat n ++
      " digits; use sys.set_int_max_str_digits() to increase the limit".toList

end MarkupError

end MarkupJsx.Markup
