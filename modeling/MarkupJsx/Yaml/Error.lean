/-
  MarkupJsx.Yaml.Error — why a YAML text has no value.

  Each stage of reading has its own kind of failure, which says all that is known of it.
  A scalar that has the form or the tag of a number, a truth value or a time may still
  denote none; those failures carry their cause.
-/

import MarkupJsx.Markup.Error
import MarkupJsx.Text.Wide

namespace MarkupJsx.Yaml

/-- Why a scalar denotes no value of its type. -/
inductive ScalarError where
  | integer (base : Nat) (text : WideText)
  | tooManyDigits (count : Nat)
  | float (text : WideText)
  /-- A number is to be taken more often than a number can tell. -/
  | tooLarge
  /-- A number without any character. -/
  | emptyNumber
  | boolean (text : WideText)
  /-- A text that does not have the form of a time. -/
  | time
  /-- A collection where the text of a time was to be. -/
  | timeOfCollection
  | year (n : Nat)
  | month
  | day
  | hour
  | minute
  | second
  /-- A distance from universal time, in minutes, of a day or more. -/
  | offset (minutes : Int)
  /-- An escaped code beyond the last code point; `wide` when it exceeds 31 bits. -/
  | codePoint (wide : Bool)
  deriving DecidableEq, Repr

inductive Error where
  /-- A character that no YAML text may hold. -/
  | characters
  /-- Characters that form no token. -/
  | token
  /-- Tokens that form no document. -/
  | grammar
  /-- An alias without its anchor, an anchor given twice, or a second document. -/
  | reference
  /-- A node that its tag does not fit, a key that cannot be one, or an unknown tag. -/
  | construction
  | scalar (cause : ScalarError)
  deriving DecidableEq, Repr

/-- The day and second notation of a distance in minutes. -/
def offsetText (minutes : Int) : Text :=
  let days := minutes.fdiv 1440
  let seconds := (minutes.fmod 1440) * 60
  "datetime.timedelta(days=".toList ++ (toString days).toList ++
    (if seconds = 0 then [] else ", seconds=".toList ++ (toString seconds).toList) ++ [')']

namespace ScalarError

def message : ScalarError → Text
  | integer base t =>
    "invalid literal for int() with base ".toList ++ Text.ofNat base ++ ": ".toList ++ t.quoted.take 200
  | tooManyDigits n => (Markup.MarkupError.tooManyDigits n).message
  | float t => "could not convert string to float: ".toList ++ t.quoted
  | tooLarge => "int too large to convert to float".toList
  | emptyNumber => "string index out of range".toList
  | boolean t => t.quoted
  | time => "'NoneType' object has no attribute 'groupdict'".toList
  | timeOfCollection => "expected string or bytes-like object, got 'list'".toList
  | year n => "year ".toList ++ Text.ofNat n ++ " is out of range".toList
  | month => "month must be in 1..12".toList
  | day => "day is out of range for month".toList
  | hour => "hour must be in 0..23".toList
  | minute => "minute must be in 0..59".toList
  | second => "second must be in 0..59".toList
  | offset minutes =>
    ("offset must be a timedelta strictly between -timedelta(hours=24) and timedelta(hours=24), not ").toList ++
      offsetText minutes ++ ['.']
  | codePoint false => "chr() arg not in range(0x110000)".toList
  | codePoint true => "Python int too large to convert to C int".toList

end ScalarError

end MarkupJsx.Yaml
