/-
  MarkupJsx.Text.Basic — texts, and the classes of characters that the markup rules ask for.

  A text is its list of characters, so that every scan is a function on the characters
  still to come. Blank is the wide class: the ASCII spaces, the four separators below the
  space, and the separators of Unicode. The tag rules proper use narrower ASCII classes.
-/

namespace MarkupJsx

abbrev Text := List Char

namespace Text

/-- Tab to carriage return, the four information separators, the space, and the wider
    spaces and separators up to the ideographic one. -/
def isBlank (c : Char) : Bool :=
  let n := c.toNat
  (0x09 ≤ n && n ≤ 0x0D) || (0x1C ≤ n && n ≤ 0x20) || n == 0x85 || n == 0xA0 || n == 0x1680 ||
    (0x2000 ≤ n && n ≤ 0x200A) || n == 0x2028 || n == 0x2029 || n == 0x202F || n == 0x205F || n == 0x3000

def isLetter (c : Char) : Bool := ('a' ≤ c && c ≤ 'z') || ('A' ≤ c && c ≤ 'Z')

def isDigit (c : Char) : Bool := '0' ≤ c && c ≤ '9'

def isHexDigit (c : Char) : Bool := isDigit c || ('a' ≤ c && c ≤ 'f') || ('A' ≤ c && c ≤ 'F')

def isAlphanumeric (c : Char) : Bool := isLetter c || isDigit c

/-- The value of a digit of a base up to sixteen; other characters count as zero. -/
def digitValue (c : Char) : Nat :=
  if isDigit c then c.toNat - '0'.toNat
  else if 'a' ≤ c && c ≤ 'f' then c.toNat - 'a'.toNat + 10
  else if 'A' ≤ c && c ≤ 'F' then c.toNat - 'A'.toNat + 10
  else 0

def readNat (base : Nat) (digits : Text) : Nat := digits.foldl (fun n c => n * base + digitValue c) 0

def trim (s : Text) : Text := ((s.dropWhile isBlank).reverse.dropWhile isBlank).reverse

/-- Every occurrence of one character gives way to a text. -/
def replace (s : Text) (c : Char) (t : Text) : Text := s.flatMap fun x => if x = c then t else [x]

/-- The text up to and with the first `c`, and what follows it. -/
def cutAfter? (c : Char) (s : Text) : Option (Text × Text) :=
  match s.dropWhile (· != c) with
  | [] => none
  | x :: rest => some (s.takeWhile (· != c) ++ [x], rest)

/-- What remains of `s` behind the opening characters `p`, if `s` starts with them. -/
def dropPrefix? (p s : Text) : Option Text := if p.isPrefixOf s then some (s.drop p.length) else none

/-- The pieces between the occurrences of `c`; one more than there are occurrences. -/
def split {α : Type} [DecidableEq α] (c : α) : List α → List (List α)
  | [] => [[]]
  | x :: rest =>
    if x = c then [] :: split c rest
    else match split c rest with
      | [] => [[x]]
      | w :: ws => (x :: w) :: ws

/-- The pieces with something between each and the next. -/
def join {α : Type} (between : List α) : List (List α) → List α
  | [] => []
  | [w] => w
  | w :: ws => w ++ between ++ join between ws

def toAsciiLower (c : Char) : Char := if 'A' ≤ c && c ≤ 'Z' then Char.ofNat (c.toNat + 32) else c

def toAsciiUpper (c : Char) : Char := if 'a' ≤ c && c ≤ 'z' then Char.ofNat (c.toNat - 32) else c

def ofNat (n : Nat) : Text := (toString n).toList

end Text

end MarkupJsx
