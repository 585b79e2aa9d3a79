/-
  MarkupJsx.Text.Quoted — a text as shown in messages: between quotes, on one line.

  The quotes are single, or double when the text holds a single quote and no double one.
  The quote in use, the backslash, tab, line feed and carriage return are escaped by a
  backslash; other characters that are not printable by their code in hexadecimal, with
  two, four or eight digits.
-/

import MarkupJsx.Text.Basic
import MarkupJsx.Text.Printable

namespace MarkupJsx.Text

def hexDigit (n : Nat) : Char := if n < 10 then Char.ofNat (48 + n) else Char.ofNat (87 + n)

/-- The last `width` hexadecimal digits. -/
def hex : Nat → Nat → Text
  | 0, _ => []
  | width + 1, n => hex width (n / 16) ++ [hexDigit (n % 16)]

def quoteFor (s : Text) : Char := if s.contains '\'' && !s.contains '"' then '"' else '\''

def escapeFor (quote c : Char) : Text :=
  if c = quote || c = '\\' then ['\\', c]
  else if c = '\n' then ['\\', 'n']
  else if c = '\r' then ['\\', 'r']
  else if c = '\t' then ['\\', 't']
  else if isPrintable c then [c]
  else if c.toNat < 0x100 then '\\' :: 'x' :: hex 2 c.toNat
  else if c.toNat < 0x10000 then '\\' :: 'u' :: hex 4 c.toNat
  else '\\' :: 'U' :: hex 8 c.toNat

def quoted (s : Text) : Text :=
  let q := quoteFor s
  q :: s.flatMap (escapeFor q) ++ [q]

end MarkupJsx.Text
