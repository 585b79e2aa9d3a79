/-
  MarkupJsx.Yaml.Value — what documents mean: atoms, and collections of values.

  Atoms can be keys. Two keys are the same when they are equal as values; a number equals
  any number of the same worth, and truth values count as one and zero. A mapping keeps
  its keys in the order in which they first appear, each with its last value.
-/

import MarkupJsx.Number.Binary64
import MarkupJsx.Text.Base64
import MarkupJsx.Text.Decimal
import MarkupJsx.Text.Lowercase
import MarkupJsx.Yaml.Graph

namespace MarkupJsx.Yaml

open Number (Binary64)

inductive Atom where
  | null
  | bool (b : Bool)
  | int (n : Int)
  | float (x : Binary64)
  /-- No number. Each node that is none is one of its own, but for those that are written
      so, which have no origin. -/
  | nan (origin : Option Nat)
  | text (t : WideText)
  | bytes (b : Bytes)
  | date (d : Date)
  | moment (m : Moment)
  deriving DecidableEq, Repr

inductive Value where
  | atom (a : Atom)
  | list (items : List Value)
  /-- A key and a value from a list of such. -/
  | pair (key value : Value)
  | set (keys : List Atom)
  | map (entries : List (Atom × Value))
  deriving Repr, Inhabited

namespace Atom

/-- The whole number that a truth value or whole number is. -/
def int? : Atom → Option Int
  | bool b => some (if b then 1 else 0)
  | int n => some n
  | _ => none

/-- Equality of keys. -/
def same (a b : Atom) : Bool :=
  match a, b with
  | float x, float y => x.same y
  | moment s, moment t => s.same t
  | _, _ =>
    match a.int?, b.int? with
    | some m, some n => m == n
    | some m, none =>
      match b with
      | float y => y.isInt m
      | _ => false
    | none, some n =>
      match a with
      | float x => x.isInt n
      | _ => false
    | none, none => a == b

/-- Null, false, zero, and the empty text count as nothing. -/
def isNothing : Atom → Bool
  | null => true
  | bool b => !b
  | int n => n == 0
  | float x => x.isZero
  | text t => t.isEmpty
  | bytes b => b.isEmpty
  | _ => false

end Atom

/-- A document that counts as an empty one. -/
def Value.isNothing : Value → Bool
  | atom a => a.isNothing
  | list items => items.isEmpty
  | pair _ _ => false
  | set keys => keys.isEmpty
  | map entries => entries.isEmpty

/-! ## Scalars -/

namespace Atom

/-- A sign, and what follows it; a text without any character is no number. -/
def signed (s : WideText) : Except ScalarError (Bool × WideText) :=
  match s with
  | [] => .error .emptyNumber
  | .char '-' :: rest => .ok (true, rest)
  | .char '+' :: rest => .ok (false, rest)
  | _ => .ok (false, s)

def dropBars (s : WideText) : WideText := s.filter (· ≠ .char '_')

/-- Blanks that may stand around a number: all but the four separators below the space. -/
def isMargin (c : Char) : Bool := Text.isBlank c && !(0x1C ≤ c.toNat && c.toNat ≤ 0x1F)

def dropMargins (s : Text) : Text := ((s.dropWhile isMargin).reverse.dropWhile isMargin).reverse

/-- The text of a number without blanks around it, in the digits of ASCII. Halves of pairs
    are in no number, and any other character that is in none will do for them. -/
def numeral (s : WideText) : Text := dropMargins (Text.Decimal.plain (s.map fun c => c.char?.getD '?'))

/-- A sign before a numeral. -/
def splitSign : Text → Bool × Text
  | '-' :: rest => (true, rest)
  | '+' :: rest => (false, rest)
  | s => (false, s)

def digitOk (base : Nat) (c : Char) : Bool := Text.isHexDigit c && Text.digitValue c < base

/-- A whole number between blanks, with a sign or without, in the digits of any script. A
    base other than ten may be announced once more by zero and its letter. -/
def readInt (base : Nat) (s : WideText) : Except ScalarError Int :=
  let (negative, body) := splitSign (numeral s)
  let body :=
    match body with
    | '0' :: x :: rest =>
      if (base = 2 && (x = 'b' || x = 'B')) || (base = 8 && (x = 'o' || x = 'O')) || (base = 16 && (x = 'x' || x = 'X'))
      then rest else body
    | _ => body
  let digits := body.takeWhile (digitOk base)
  if base = 10 && digits.length > Markup.digitLimit then .error (.tooManyDigits digits.length)
  else if body.isEmpty || digits ≠ body then .error (.integer base s)
  else .ok (if negative then -(Text.readNat base digits) else Text.readNat base digits)

/-- Numbers joined by colons, the last one counting once and each before it sixty times the
    next. -/
def readSixties (s : WideText) : Except ScalarError Int := do
  let parts ← (Text.split (.char ':') s).mapM (readInt 10)
  return parts.foldl (fun n d => n * 60 + d) 0

def readInteger (s : WideText) : Except ScalarError Int := do
  let (negative, body) ← signed (dropBars s)
  let n ←
    match body with
    | [.char '0'] => pure 0
    | .char '0' :: .char 'b' :: digits => readInt 2 digits
    | .char '0' :: .char 'x' :: digits => readInt 16 digits
    | .char '0' :: _ => readInt 8 body
    | [] => throw .emptyNumber
    | _ => if body.contains (.char ':') then readSixties body else readInt 10 body
  return if negative then -n else n

/-- Digits with a point and an exponent, all of it but one digit optional. -/
def readDecimal? (negative : Bool) (s : Text) : Option Binary64 :=
  let whole := s.takeWhile Text.isDigit
  let rest := s.dropWhile Text.isDigit
  let (part, rest) :=
    match rest with
    | '.' :: r => (r.takeWhile Text.isDigit, r.dropWhile Text.isDigit)
    | _ => ([], rest)
  let exponent : Option Int :=
    match rest with
    | [] => some 0
    | 'e' :: r =>
      let (down, digits) := splitSign r
      if digits.isEmpty || !digits.all Text.isDigit then none
      else some (if down then -(Text.readNat 10 digits) else Text.readNat 10 digits)
    | _ => none
  if (whole ++ part).isEmpty then none
  else exponent.map fun e => Binary64.ofDecimal negative (Text.readNat 10 (whole ++ part)) (e - part.length)

def infinityNames : List Text := ["inf", "infinity"].map String.toList

/-- A number with a point, in small letters and between blanks. -/
def readReal (s : WideText) : Except ScalarError Binary64 :=
  let (negative, body) := splitSign (numeral s)
  if infinityNames.contains body then .ok (.infinite negative)
  else if body = ['n', 'a', 'n'] then .ok .nan
  else match readDecimal? negative body with
    | some x => .ok x
    | none => .error (.float s)

/-- The sum of numbers, each taken sixty times as often as the one behind it. With very many
    of them the first is taken more often than a number can tell. -/
def sumSixties (parts : List Binary64) : Except ScalarError Binary64 := do
  let (sum, _) ← parts.reverse.foldlM (fun (sum, base) x => do
    if (Binary64.ofNat base).isInfinite then throw .tooLarge
    return (sum.add (x.mulNat base), base * 60)) (Binary64.zero false, 1)
  return sum

def ofNumber (origin : Nat) (x : Binary64) : Atom := if x = .nan then .nan (some origin) else .float x

/-- The number with a point that a node denotes. -/
def readFloat (origin : Nat) (s : WideText) : Except ScalarError Atom := do
  let (negative, body) ← signed (dropBars s).lower
  if body = .ofText ".nan".toList then return .nan none
  let x ←
    if body = .ofText ".inf".toList then pure (.infinite false)
    else if body.contains (.char ':') then sumSixties (← (Text.split (.char ':') body).mapM readReal)
    else readReal body
  return ofNumber origin (if negative then x.negate else x)

def readBool (s : WideText) : Except ScalarError Bool :=
  match s.lower.toText?.bind fun t => Tag.truths.lookup t with
  | some b => .ok b
  | none => .error (.boolean s.lower)

def readTime (s : WideText) : Except ScalarError Atom :=
  match s.toText?.bind (WrittenTime.ofText? 1) with
  | none => .error .time
  | some w =>
    w.check.map fun
      | .inl d => .date d
      | .inr m => .moment m

/-- The bytes that ASCII letters stand for. -/
def readBytes? (s : WideText) : Option Bytes := do
  let t ← s.toText?
  if t.all (·.toNat < 0x80) then Text.Base64.decode t else none

/-- The atom that a node's text denotes under its tag. -/
def ofText (origin : Nat) (tag : Tag) (s : WideText) : Except Error Atom :=
  match tag with
  | .null => .ok .null
  | .bool => ((readBool s).map Atom.bool).mapError .scalar
  | .int => ((readInteger s).map Atom.int).mapError .scalar
  | .float => (readFloat origin s).mapError .scalar
  | .timestamp => (readTime s).mapError .scalar
  | .str => .ok (.text s)
  | .binary =>
    match readBytes? s with
    | some b => .ok (.bytes b)
    | none => .error .construction
  | _ => .error .construction

end Atom

end MarkupJsx.Yaml
