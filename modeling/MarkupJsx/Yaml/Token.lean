/-
  MarkupJsx.Yaml.Token — the tokens of a YAML text, and places within the text.
-/

import MarkupJsx.Yaml.Error

namespace MarkupJsx.Yaml

inductive Directive where
  | version (major minor : Nat)
  /-- A shorthand for the beginning of tags. -/
  | tag (handle opening : Text)
  | other
  deriving DecidableEq, Repr

inductive Token where
  | streamStart
  | streamEnd
  | directive (d : Directive)
  | documentStart
  | documentEnd
  | blockSequenceStart
  | blockMappingStart
  | blockEnd
  | flowSequenceStart
  | flowSequenceEnd
  | flowMappingStart
  | flowMappingEnd
  | blockEntry
  | flowEntry
  | key
  | value
  | alias (name : Text)
  | anchor (name : Text)
  | tag (handle : Option Text) (suffix : Text)
  /-- A scalar; only a plain one can be other than a string without a tag. -/
  | scalar (text : WideText) (plain : Bool)
  deriving DecidableEq, Repr

/-! ## Characters -/

def isBreak (c : Char) : Bool :=
  c == '\r' || c == '\n' || c == '\x85' || c == '\u2028' || c == '\u2029'

def isSpaceOrTab (c : Char) : Bool := c == ' ' || c == '\t'

/-- The text ends here, or goes on with a break. -/
def endsLine (c : Option Char) : Bool := c.all isBreak

/-- A space will do as well. -/
def endsWord (c : Option Char) : Bool := c.all fun c => isBreak c || c == ' '

/-- A tab too. -/
def endsToken (c : Option Char) : Bool := c.all fun c => isBreak c || isSpaceOrTab c

def isWordChar (c : Char) : Bool := Text.isAlphanumeric c || c == '-' || c == '_'

/-- The characters that a YAML text may hold. -/
def isAllowed (c : Char) : Bool :=
  let n := c.toNat
  n == 0x9 || n == 0xA || n == 0xD || (0x20 ≤ n && n ≤ 0x7E) || n == 0x85 || (0xA0 ≤ n && n ≤ 0xD7FF) ||
    (0xE000 ≤ n && n ≤ 0xFFFD) || 0x10000 ≤ n

/-! ## Places -/

/-- A place in the text: what follows it, and where it is. -/
structure Place where
  rest : Text
  index : Nat
  line : Nat
  column : Nat

namespace Place

def start (s : Text) : Place := ⟨s, 0, 0, 0⟩

def peek (p : Place) : Option Char := p.rest.head?

/-- The character so many places further on. -/
def peekAt (p : Place) (n : Nat) : Option Char := (p.rest.drop n).head?

def next (p : Place) : Place :=
  match p.rest with
  | [] => p
  | c :: rest =>
    if isBreak c && !(c == '\r' && rest.head? == some '\n') then ⟨rest, p.index + 1, p.line + 1, 0⟩
    else ⟨rest, p.index + 1, p.line, if c = '\uFEFF' then p.column else p.column + 1⟩

def advance : Nat → Place → Place
  | 0, p => p
  | n + 1, p => advance n p.next

/-- The characters from here on that are of a class, and the place behind them. -/
def takeWhile (f : Char → Bool) (p : Place) : Text × Place :=
  let t := p.rest.takeWhile f
  (t, p.advance t.length)

def skipWhile (f : Char → Bool) (p : Place) : Place := (p.takeWhile f).2

/-- At most so many spaces, and only up to a column. -/
def skipSpacesTo (column : Nat) : Nat → Place → Place
  | 0, p => p
  | n + 1, p => if p.column < column && p.peek == some ' ' then skipSpacesTo column n p.next else p

/-- One break, as it counts in a scalar: the two separators stay, others are line feeds.
    The empty text when there is none. -/
def lineBreak (p : Place) : Text × Place :=
  match p.rest with
  | '\r' :: '\n' :: _ => (['\n'], p.next.next)
  | c :: _ =>
    if c = '\u2028' || c = '\u2029' then ([c], p.next)
    else if isBreak c then (['\n'], p.next)
    else ([], p)
  | [] => ([], p)

/-- Three hyphens or three periods that end a document. -/
def atSeparator (p : Place) : Bool :=
  (p.rest.take 3 == ['-', '-', '-'] || p.rest.take 3 == ['.', '.', '.']) && endsToken (p.peekAt 3)

/-- Past the rest of a line that holds nothing but a comment. -/
def ignoreLine (p : Place) : Except Error Place :=
  let p := p.skipWhile (· == ' ')
  let p := if p.peek == some '#' then p.skipWhile (!isBreak ·) else p
  if endsLine p.peek then .ok p.lineBreak.2 else .error .token

end Place

end MarkupJsx.Yaml
